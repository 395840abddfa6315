/-!
# Character ranges

A class of characters beyond ASCII is given by inclusive ranges of code points.
-/

namespace KeyRenewal.Text

/-- Inclusive ranges of code points. -/
abbrev Ranges := List (Nat × Nat)

def Ranges.holds (ranges : Ranges) (c : Char) : Bool :=
  ranges.any (fun r => decide (r.1 ≤ c.toNat) && decide (c.toNat ≤ r.2))

end KeyRenewal.Text
