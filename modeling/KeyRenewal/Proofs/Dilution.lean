import KeyRenewal.Window
import Mathlib.Algebra.Group.Nat.Defs
import Mathlib.Data.Nat.Sqrt

/-!
# The default dilution

The square root is taken digit by digit, in whole numbers only, so that it is the exact one for the
longest range there is. One more than it fits its word with half the bits to spare.
-/

namespace KeyRenewal

theorem squareRoot_eq_sqrt {pairs n : Nat} (few : n < Nat.pow 4 pairs) :
    squareRoot pairs n = n.sqrt := by
  obtain ⟨low, high⟩ := squareRoot_bounds pairs n few
  exact Nat.eq_sqrt.mpr ⟨low, high⟩

variable (first last : Round)

/-- The roots of 64-bit numbers have 32 bits. -/
theorem sqrt_since_lt : (last.since first).sqrt < 2 ^ 32 := by
  have bounded : last.since first < 2 ^ 32 * 2 ^ 32 :=
    Nat.lt_of_le_of_lt (Nat.sub_le _ _) last.number_lt
  exact Nat.sqrt_lt.mpr bounded

theorem toNat_defaultDilution :
    (defaultDilution first last).toNat = (last.since first).sqrt + 1 := by
  have root : squareRoot 32 (last.since first) = (last.since first).sqrt :=
    squareRoot_eq_sqrt (Nat.lt_of_le_of_lt (Nat.sub_le _ _) last.number_lt)
  have small := sqrt_since_lt first last
  rw [defaultDilution, root, Nat.add_comm]
  apply UInt64.toNat_ofNat_of_lt'
  unfold UInt64.size
  omega

theorem defaultDilution_ne_zero : defaultDilution first last ≠ 0 := by
  intro none
  have number := congrArg UInt64.toNat none
  rw [toNat_defaultDilution] at number
  exact absurd number (Nat.succ_ne_zero _)

variable {first last}

/-- A range that leaves no more rounds in between has no greater dilution. -/
theorem defaultDilution_mono {first' last' : Round}
    (wider : last.since first ≤ last'.since first') :
    defaultDilution first last ≤ defaultDilution first' last' := by
  rw [UInt64.le_iff_toNat_le, toNat_defaultDilution, toNat_defaultDilution]
  exact Nat.succ_le_succ (Nat.sqrt_le_sqrt wider)

/-- For any two rounds, also where the last comes before the first, the default dilution is one more
than the exact square root of the rounds between them. It has at most 33 bits, and it never shrinks
when the range grows at either end. -/
theorem default_dilution_exact (first last : Round) :
    let rounds := last.number.toNat - first.number.toNat
    let dilution := (defaultDilution first last).toNat
    (1 ≤ dilution ∧ dilution ≤ 2 ^ 32) ∧ ((dilution - 1) ^ 2 ≤ rounds ∧ rounds < dilution ^ 2) ∧
    (∀ later, last ≤ later → defaultDilution first last ≤ defaultDilution first later) ∧
    ∀ later, first ≤ later → defaultDilution later last ≤ defaultDilution first last := by
  intro rounds dilution
  have rooted : dilution = rounds.sqrt + 1 := toNat_defaultDilution first last
  have small : rounds.sqrt < 2 ^ 32 := sqrt_since_lt first last
  refine ⟨by omega, ?_, fun later after => ?_, fun later after => ?_⟩
  · rw [rooted, Nat.add_sub_cancel]
    exact ⟨Nat.sqrt_le' rounds, Nat.lt_succ_sqrt' rounds⟩
  · exact defaultDilution_mono (Nat.sub_le_sub_right (Round.le_iff.mp after) _)
  · exact defaultDilution_mono (Nat.sub_le_sub_left (Round.le_iff.mp after) _)

/-- Over all the rounds there are, the dilution takes a 33rd bit. -/
theorem default_dilution_exact_of_all_rounds :
    defaultDilution .zero .last = 4294967296 ∧
    (⟨9⟩ ≤ Round.last ∧ defaultDilution .zero ⟨9⟩ ≤ defaultDilution .zero .last) ∧
    (.zero ≤ (⟨9⟩ : Round) ∧ defaultDilution ⟨9⟩ .last ≤ defaultDilution .zero .last) := by
  obtain ⟨-, -, -, narrower⟩ := default_dilution_exact .zero .last
  obtain ⟨-, -, wider, -⟩ := default_dilution_exact .zero ⟨9⟩
  have later : ⟨9⟩ ≤ Round.last := by decide
  have earlier : .zero ≤ (⟨9⟩ : Round) := by decide
  exact ⟨by decide +kernel, ⟨later, wider .last later⟩, earlier, narrower ⟨9⟩ earlier⟩

end KeyRenewal
