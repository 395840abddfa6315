/-!
# Numbers as bytes

A number in a fixed count of bytes, the highest byte first. Reading gives back every number that
fits; of one that does not, the low bytes are written.
-/

namespace KeyRenewal.BigEndian

/-- The low `width` bytes of a number, the highest first. -/
def encode : Nat → Nat → List UInt8
  | 0, _ => []
  | width + 1, n => encode width (n / 256) ++ [UInt8.ofNat n]

/-- The number that bytes stand for. -/
def decode (bytes : List UInt8) : Nat := bytes.foldl (fun n b => 256 * n + b.toNat) 0

@[simp]
theorem length_encode (width n : Nat) : (encode width n).length = width := by
  induction width generalizing n with
  | zero => rfl
  | succ width ih => simp [encode, ih]

theorem decode_append_singleton (bytes : List UInt8) (b : UInt8) :
    decode (bytes ++ [b]) = 256 * decode bytes + b.toNat := by
  simp [decode, List.foldl_append]

theorem decode_encode {width n : Nat} (h : n < Nat.pow 256 width) :
    decode (encode width n) = n := by
  induction width generalizing n with
  | zero =>
    have small : n < 1 := h
    rw [Nat.lt_one_iff.1 small]
    rfl
  | succ width ih =>
    have bound : n < Nat.pow 256 width * 256 := h
    have quotient : n / 256 < Nat.pow 256 width := Nat.div_lt_of_lt_mul (by omega)
    rw [encode, decode_append_singleton, ih quotient, UInt8.toNat_ofNat']
    exact Nat.div_add_mod n 256

end KeyRenewal.BigEndian
