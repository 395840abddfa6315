/-!
# Rounds

A round numbers one step of the ledger. Rounds are 64-bit words; moving forward stops at the last
representable round instead of wrapping, and the distance to an earlier round is zero.
-/

namespace KeyRenewal

/-- A ledger round. -/
structure Round where
  number : UInt64
deriving DecidableEq, Inhabited

namespace Round

instance : LE Round := ⟨fun a b => a.number ≤ b.number⟩

instance : LT Round := ⟨fun a b => a.number < b.number⟩

instance (a b : Round) : Decidable (a ≤ b) := inferInstanceAs (Decidable (a.number ≤ b.number))

instance (a b : Round) : Decidable (a < b) := inferInstanceAs (Decidable (a.number < b.number))

instance : Ord Round := ⟨compareOn Round.number⟩

instance : Max Round := ⟨fun a b => if a ≤ b then b else a⟩

instance : ToString Round := ⟨fun r => toString r.number.toNat⟩

/-- The round a chain starts from; as a confirmation round it means "not confirmed". -/
def zero : Round := ⟨0⟩

/-- The last representable round. -/
def last : Round := ⟨0xFFFFFFFFFFFFFFFF⟩

def isZero (r : Round) : Bool := r.number == 0

/-- The round `n` later, or the last one when there is no such round. -/
def advance (r : Round) (n : UInt64) : Round :=
  if r.number.toNat + n.toNat < UInt64.size then ⟨r.number + n⟩ else last

/-- The following round; the last round follows itself. -/
def next (r : Round) : Round := r.advance 1

/-- How many rounds `r` lies after `earlier`, zero if it does not. -/
def since (r earlier : Round) : Nat := r.number.toNat - earlier.number.toNat

theorem le_iff {a b : Round} : a ≤ b ↔ a.number.toNat ≤ b.number.toNat := UInt64.le_iff_toNat_le

theorem lt_iff {a b : Round} : a < b ↔ a.number.toNat < b.number.toNat := UInt64.lt_iff_toNat_lt

theorem toNat_inj {a b : Round} : a.number.toNat = b.number.toNat ↔ a = b := by
  cases a; cases b; simp [UInt64.toNat_inj]

theorem number_lt (r : Round) : r.number.toNat < UInt64.size := r.number.toNat_lt_size

theorem toNat_advance (r : Round) (n : UInt64) :
    (r.advance n).number.toNat = min (r.number.toNat + n.toNat) (UInt64.size - 1) := by
  unfold advance
  split
  next h =>
    rw [UInt64.toNat_add, Nat.mod_eq_of_lt h]
    omega
  next h =>
    show (0xFFFFFFFFFFFFFFFF : UInt64).toNat = _
    rw [show (0xFFFFFFFFFFFFFFFF : UInt64).toNat = UInt64.size - 1 from rfl]
    omega

theorem toNat_next (r : Round) : r.next.number.toNat = min (r.number.toNat + 1) (UInt64.size - 1) :=
  toNat_advance r 1

theorem toNat_max (a b : Round) :
    (max a b).number.toNat = max a.number.toNat b.number.toNat := by
  show (if a ≤ b then b else a).number.toNat = _
  split
  next h => rw [le_iff] at h; omega
  next h => rw [le_iff] at h; omega

example : (Round.last.next, (⟨5⟩ : Round).next) = (Round.last, ⟨6⟩) := by decide

end Round

end KeyRenewal
