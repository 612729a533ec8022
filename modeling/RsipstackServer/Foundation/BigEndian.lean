import Mathlib.Algebra.Group.Nat.Defs

namespace Foundation

/-- The last `count` bytes of a number, the most significant one first. -/
def bigEndian : Nat → Nat → List UInt8
  | 0, _ => []
  | count + 1, n => bigEndian count (n / 256) ++ [UInt8.ofNat n]

def ofBigEndian (bytes : List UInt8) : Nat := bytes.foldl (fun value byte => 256 * value + byte.toNat) 0

theorem length_bigEndian (count n : Nat) : (bigEndian count n).length = count := by
  induction count generalizing n with
  | zero => rfl
  | succ count ih => rw [bigEndian, List.length_append, ih, List.length_singleton]

theorem ofBigEndian_bigEndian {count n : Nat} (fits : n < 256 ^ count) : ofBigEndian (bigEndian count n) = n := by
  induction count generalizing n with
  | zero =>
    rw [Nat.pow_zero, Nat.lt_one_iff] at fits
    rw [fits]
    rfl
  | succ count ih =>
    rw [Nat.pow_succ] at fits
    have front : List.foldl _ 0 (bigEndian count (n / 256)) = n / 256 := ih (by omega)
    rw [bigEndian, ofBigEndian, List.foldl_append, front, List.foldl_cons, List.foldl_nil, UInt8.toNat_ofNat']
    omega

end Foundation
