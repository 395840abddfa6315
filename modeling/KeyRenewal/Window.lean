import KeyRenewal.RenewalError

/-!
# Windows and dilution

A new credential must outlive the transaction that registers it: its last round must lie beyond the
current round plus one full transaction lifetime. Its default dilution is one more than the integer
square root of the length of its range.
-/

namespace KeyRenewal

/-- Refuse a horizon that does not clear one transaction lifetime from the current round. -/
def checkWindow (current requested : Round) (maxTxnLife : UInt64) : Except RenewalError Unit :=
  if requested ≤ current.advance maxTxnLife then
    .error (.windowTooShort requested current maxTxnLife)
  else .ok ()

/-- The integer square root of a number of so many bit pairs, found from the leading pair on. -/
def squareRoot : Nat → Nat → Nat
  | 0, _ => 0
  | pairs + 1, n =>
    let root := 2 * squareRoot pairs (n / 4)
    if (root + 1) * (root + 1) ≤ n then root + 1 else root

theorem squareRoot_bounds (pairs n : Nat) (h : n < Nat.pow 4 pairs) :
    squareRoot pairs n * squareRoot pairs n ≤ n ∧
      n < (squareRoot pairs n + 1) * (squareRoot pairs n + 1) := by
  induction pairs generalizing n with
  | zero =>
    have small : n < 1 := h
    rw [Nat.lt_one_iff.1 small]
    decide
  | succ pairs ih =>
    have bound : n < Nat.pow 4 pairs * 4 := h
    have quarter : n / 4 < Nat.pow 4 pairs := Nat.div_lt_of_lt_mul (by omega)
    obtain ⟨low, high⟩ := ih (n / 4) quarter
    simp only [squareRoot]
    generalize squareRoot pairs (n / 4) = r at low high ⊢
    have square : (2 * r) * (2 * r) = 4 * (r * r) := by
      rw [Nat.mul_mul_mul_comm]
    have above : (r + 1) * (r + 1) = r * r + 2 * r + 1 := by
      rw [Nat.add_mul, Nat.mul_add]
      omega
    have step : (2 * r + 1) * (2 * r + 1) = 4 * (r * r) + 4 * r + 1 := by
      rw [Nat.add_mul, Nat.mul_add, square]
      omega
    have far : (2 * r + 2) * (2 * r + 2) = 4 * (r * r) + 8 * r + 4 := by
      rw [Nat.add_mul, Nat.mul_add, square]
      omega
    rw [above] at high
    split
    next fits => exact ⟨fits, by rw [far]; omega⟩
    next exceeds => exact ⟨by rw [square]; omega, by omega⟩

/-- One more than the square root of the number of rounds from the first to the last. -/
def defaultDilution (firstValid lastValid : Round) : UInt64 :=
  UInt64.ofNat (1 + squareRoot 32 (lastValid.since firstValid))

end KeyRenewal
