import Mathlib.Data.UInt
import Mathlib.Tactic.Common

namespace Foundation

/-- Addition of 16-bit words where `none` is an overflow. -/
def checkedAdd (a b : UInt16) : Option UInt16 :=
  if a.toNat + b.toNat < 2 ^ 16 then some (a + b) else none

/-- Subtraction of 16-bit words where `none` is an underflow. -/
def checkedSub (a b : UInt16) : Option UInt16 :=
  if b.toNat ≤ a.toNat then some (a - b) else none

theorem checkedAdd_eq_some {a b c : UInt16} : checkedAdd a b = some c ↔ c.toNat = a.toNat + b.toNat := by
  have bound := c.toNat_lt
  unfold checkedAdd
  split
  · rename_i fits
    rw [Option.some_inj, ← UInt16.toNat_inj, UInt16.toNat_add, Nat.mod_eq_of_lt fits]
    exact eq_comm
  · simp only [reduceCtorEq, false_iff]
    omega

theorem checkedAdd_eq_none {a b : UInt16} : checkedAdd a b = none ↔ 2 ^ 16 ≤ a.toNat + b.toNat := by
  unfold checkedAdd
  split <;> simp only [reduceCtorEq, false_iff, true_iff] <;> omega

theorem checkedSub_eq_some {a b c : UInt16} : checkedSub a b = some c ↔ c.toNat + b.toNat = a.toNat := by
  have bound := a.toNat_lt
  unfold checkedSub
  split
  · rename_i fits
    rw [Option.some_inj, ← UInt16.toNat_inj, UInt16.toNat_sub_of_le a b (UInt16.le_iff_toNat_le.mpr fits)]
    omega
  · simp only [reduceCtorEq, false_iff]
    omega

theorem word_even_iff (a : UInt16) : a % 2 = 0 ↔ a.toNat % 2 = 0 := by
  rw [← UInt16.toNat_inj, UInt16.toNat_mod]
  rfl

theorem word_ofNat_toNat {n : Nat} (fits : n < 2 ^ 16) : (UInt16.ofNat n).toNat = n := by
  rw [UInt16.toNat_ofNat', Nat.mod_eq_of_lt fits]

end Foundation
