import KeyRenewal.Text.Ranges

/-!
# Blanks

A blank is a character with the Unicode property White_Space. Trimming takes blanks off both ends.
-/

namespace KeyRenewal.Text

/-- The blanks beyond ASCII. -/
def wideBlanks : Ranges := [
  (0x85, 0x85), (0xA0, 0xA0), (0x1680, 0x1680), (0x2000, 0x200A), (0x2028, 0x2029),
  (0x202F, 0x202F), (0x205F, 0x205F), (0x3000, 0x3000)]

def isBlank (c : Char) : Bool :=
  c == ' ' || (decide (9 ≤ c.toNat) && decide (c.toNat ≤ 13)) || wideBlanks.holds c

/-- The text without the blanks at its start. -/
def trimStart (cs : List Char) : List Char := cs.dropWhile isBlank

/-- The text without the blanks at its ends. -/
def trim (cs : List Char) : List Char := (trimStart (trimStart cs).reverse).reverse

example : trim " \u00a0a b\n".toList = "a b".toList := by decide

end KeyRenewal.Text
