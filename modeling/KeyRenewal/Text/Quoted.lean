import KeyRenewal.Text.Hex
import KeyRenewal.Text.Visible

/-!
# Quoted text

A quoted text shows every character of a string: the usual control characters, the quote and the
backslash are escaped by name, and all else that would not show by itself by its code point.
-/

namespace KeyRenewal.Text.Quoted

/-- How one character is written between quotes. -/
def escape (c : Char) : List Char :=
  if c = '\x00' then ['\\', '0']
  else if c = '\t' then ['\\', 't']
  else if c = '\r' then ['\\', 'r']
  else if c = '\n' then ['\\', 'n']
  else if c = '\\' ∨ c = '"' then ['\\', c]
  else if extendsGrapheme c || !isVisible c then
    '\\' :: 'u' :: '\x7b' :: (Hex.ofNat c.toNat).toList ++ ['\x7d']
  else [c]

def encode (text : String) : String :=
  String.ofList ('"' :: text.toList.flatMap escape ++ ['"'])

example : encode "a\"\u00a0é\n" = "\"a\\\"\\u\x7ba0\x7dé\\n\"" := by decide +kernel

end KeyRenewal.Text.Quoted
