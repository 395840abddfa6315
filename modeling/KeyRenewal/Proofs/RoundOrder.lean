import KeyRenewal.Round

/-!
# The order of rounds

Rounds are ordered like the numbers they carry, and moving forward never goes back.
-/

namespace KeyRenewal.Round

variable {a b c : Round}

theorem le_refl (a : Round) : a ≤ a := le_iff.mpr (Nat.le_refl _)

theorem le_of_eq (same : a = b) : a ≤ b := same ▸ le_refl a

theorem le_trans (ab : a ≤ b) (bc : b ≤ c) : a ≤ c := by
  rw [le_iff] at ab bc ⊢
  omega

theorem le_antisymm (ab : a ≤ b) (ba : b ≤ a) : a = b := by
  rw [le_iff] at ab ba
  exact toNat_inj.mp (by omega)

theorem not_le : ¬ a ≤ b ↔ b < a := by
  rw [le_iff, lt_iff]
  omega

theorem not_lt : ¬ a < b ↔ b ≤ a := by
  rw [le_iff, lt_iff]
  omega

theorem le_of_lt (ab : a < b) : a ≤ b := by
  rw [lt_iff] at ab
  rw [le_iff]
  omega

theorem lt_of_le_of_lt (ab : a ≤ b) (bc : b < c) : a < c := by
  rw [le_iff] at ab
  rw [lt_iff] at bc ⊢
  omega

theorem lt_of_lt_of_le (ab : a < b) (bc : b ≤ c) : a < c := by
  rw [le_iff] at bc
  rw [lt_iff] at ab ⊢
  omega

theorem le_advance (a : Round) (n : UInt64) : a ≤ a.advance n := by
  have bounded := a.number_lt
  rw [le_iff, toNat_advance]
  omega

theorem le_max_left (a b : Round) : a ≤ max a b := by
  rw [le_iff, toNat_max]
  omega

theorem max_comm (a b : Round) : max a b = max b a := by
  apply toNat_inj.mp
  rw [toNat_max, toNat_max]
  omega

theorem le_max_right (a b : Round) : b ≤ max a b :=
  le_trans (le_max_left b a) (le_of_eq (max_comm b a))

theorem max_eq_right (ab : a ≤ b) : max a b = b := if_pos ab

instance : Std.LawfulOrderSup Round where
  max_le_iff a b c := by
    rw [le_iff, le_iff, le_iff, toNat_max]
    omega

/-- The greater of two rounds is one of them. -/
instance : Std.MaxEqOr Round where
  max_eq_or a b := by
    show (if a ≤ b then b else a) = a ∨ (if a ≤ b then b else a) = b
    by_cases below : a ≤ b
    · exact Or.inr (if_pos below)
    · exact Or.inl (if_neg below)

theorem next_mono (ab : a ≤ b) : a.next ≤ b.next := by
  rw [le_iff] at ab ⊢
  rw [toNat_next, toNat_next]
  omega

/-- What lies from the following round on lies later, but for the last round. -/
theorem lt_or_last_of_next_le (ab : a.next ≤ b) : a < b ∨ a = last ∧ b = last := by
  have above := b.number_lt
  rw [le_iff, toNat_next] at ab
  have lastNumber : last.number.toNat = UInt64.size - 1 := rfl
  by_cases before : a.number.toNat < UInt64.size - 1
  · refine .inl (lt_iff.mpr ?_)
    omega
  · have bounded := a.number_lt
    exact .inr ⟨toNat_inj.mp (by omega), toNat_inj.mp (by omega)⟩

end KeyRenewal.Round
