import Mathlib.Algebra.Group.Nat.Defs
import Mathlib.Algebra.GroupWithZero.Nat
import Mathlib.Order.Monotone.Basic
import RsipstackServer.Foundation.Quantizer

namespace Foundation
namespace ALaw

/-- The decision values of the A-law in units of 1/4096 of the overload point.
The lowest two of the eight segments of 16 steps have one step size, and from
there it doubles with each segment. -/
def decision (code : Nat) : Nat := if code < 16 then 2 * code else (16 + code % 16) * 2 ^ (code / 16)

theorem decision_segment (segment step : Nat) (bound : step < 16) :
    decision (16 * (segment + 1) + step) = (16 + step) * 2 ^ (segment + 1) := by
  have quotient : (16 * (segment + 1) + step) / 16 = segment + 1 := by omega
  have remainder : (16 * (segment + 1) + step) % 16 = step := by omega
  rw [decision, if_neg (by omega), quotient, remainder]

theorem decision_next (segment step : Nat) (bound : step < 16) :
    decision (16 * (segment + 1) + step + 1) = (17 + step) * 2 ^ (segment + 1) := by
  by_cases edge : step + 1 < 16
  · rw [Nat.add_assoc, decision_segment segment (step + 1) edge]
    congr 1
    omega
  · obtain rfl : step = 15 := by omega
    have next := decision_segment (segment + 1) 0 (by omega)
    rw [show 16 * (segment + 1) + 15 + 1 = 16 * (segment + 1 + 1) + 0 by omega, next, Nat.pow_succ 2 (segment + 1)]
    omega

theorem decision_low {code : Nat} (low : code ≤ 16) : decision code = 2 * code := by
  unfold decision
  split
  · rfl
  · obtain rfl : code = 16 := by omega
    rfl

theorem decision_strictMono : StrictMono decision := by
  refine strictMono_nat_of_lt_succ fun code => ?_
  by_cases low : code < 16
  · rw [decision_low (by omega), decision_low (by omega)]
    omega
  · obtain ⟨segment, step, bound, rfl⟩ : ∃ segment step, step < 16 ∧ code = 16 * (segment + 1) + step :=
      ⟨code / 16 - 1, code % 16, by omega, by omega⟩
    rw [decision_segment segment step bound, decision_next segment step bound]
    exact Nat.mul_lt_mul_of_pos_right (by omega) (Nat.two_pow_pos _)

/-- Half of an interval is at most a part in 32 of its values, but for the
lowest segment. -/
theorem decision_width (code : Nat) : ∃ width, decision (code + 1) = decision code + 2 * width ∧
    (32 * width ≤ decision code ∨ code < 16 ∧ width = 1) := by
  by_cases low : code < 16
  · exact ⟨1, by rw [decision_low (by omega), decision_low (by omega)]; rfl, .inr ⟨low, rfl⟩⟩
  · obtain ⟨segment, step, bound, rfl⟩ : ∃ segment step, step < 16 ∧ code = 16 * (segment + 1) + step :=
      ⟨code / 16 - 1, code % 16, by omega, by omega⟩
    have least : 16 * 2 ^ segment ≤ (16 + step) * 2 ^ segment := Nat.mul_le_mul_right _ (Nat.le_add_right 16 step)
    refine ⟨2 ^ segment, ?_, .inl ?_⟩
    · rw [decision_segment segment step bound, decision_next segment step bound, Nat.pow_succ, Nat.add_mul,
        Nat.add_mul]
      omega
    · rw [decision_segment segment step bound, Nat.pow_succ, ← Nat.mul_assoc]
      omega

/-- The quantiser of the A-law. Its codes up to 127 are in use. -/
def quantizer : Quantizer := ⟨decision, decision_strictMono, rfl⟩

/-- The number in the last seven bits of a character signal, once the inversion
of its even bits is undone. -/
def code (byte : UInt8) : Nat := (byte ^^^ 0x55).toNat % 128

/-- The first bit of a character signal is 1 for positive values. -/
def positive (byte : UInt8) : Bool := decide (128 ≤ (byte ^^^ 0x55).toNat)

/-- The value that a character signal stands for. -/
def expand (byte : UInt8) : Int :=
  if positive byte then quantizer.level (code byte) else -quantizer.level (code byte)

/-- The byte stands for the interval that a sample of 16 bits falls in, on the
side of its sign. The law does not see the last three bits of a magnitude, and
those from the overload point on belong to the last interval. -/
def Represents (byte : UInt8) (sample : Int) : Prop :=
  (0 < expand byte ↔ 0 ≤ sample) ∧
    ∃ code, quantizer.Holds code (min (sample.natAbs / 8) 4095) ∧ (expand byte).natAbs = quantizer.level code

theorem level_pos (code : Nat) : 0 < quantizer.level code := by
  have first : quantizer.level 0 = 1 := rfl
  have least := quantizer.level_strictMono.monotone (Nat.zero_le code)
  omega

theorem expand_pos_iff {byte : UInt8} : 0 < expand byte ↔ positive byte = true := by
  have level := level_pos (code byte)
  unfold expand
  split <;> rename_i sign
  · exact iff_of_true (by omega) sign
  · exact iff_of_false (by omega) sign

theorem natAbs_expand (byte : UInt8) : (expand byte).natAbs = quantizer.level (code byte) := by
  unfold expand
  split <;> omega

/-- Turning the first bit of a character signal over changes its sign. -/
theorem expand_turned (byte : UInt8) : expand (byte ^^^ 0x80) = -expand byte := by
  have all : ∀ n < 256, code (UInt8.ofNat n ^^^ 0x80) = code (UInt8.ofNat n) ∧
      positive (UInt8.ofNat n ^^^ 0x80) = !positive (UInt8.ofNat n) := by decide +kernel
  obtain ⟨same, turned⟩ := all byte.toNat byte.toNat_lt
  rw [UInt8.ofNat_toNat] at same turned
  unfold expand
  rw [same, turned]
  cases positive byte with
  | true => rfl
  | false => exact (Int.neg_neg _).symm

theorem holds_segment {segment step magnitude : Nat} (bound : step < 16) :
    quantizer.Holds (16 * (segment + 1) + step) magnitude ↔ magnitude / 2 ^ (segment + 1) = 16 + step := by
  have size : 0 < 2 ^ (segment + 1) := Nat.two_pow_pos _
  change decision _ ≤ magnitude ∧ magnitude < decision _ ↔ _
  rw [decision_segment segment step bound, decision_next segment step bound, ← Nat.le_div_iff_mul_le size,
    ← Nat.div_lt_iff_lt_mul size]
  omega

theorem holds_low {code magnitude : Nat} (bound : code < 16) :
    quantizer.Holds code magnitude ↔ magnitude / 2 = code := by
  change decision _ ≤ magnitude ∧ magnitude < decision _ ↔ _
  rw [decision_low (by omega), decision_low (by omega)]
  omega

/-- Number and sign are all of a character signal. -/
theorem eq_of_code_of_positive {a b : UInt8} (same : code a = code b) (sign : positive a = positive b) : a = b := by
  have below := (a ^^^ 0x55).toNat_lt
  have below' := (b ^^^ 0x55).toNat_lt
  have side : 128 ≤ (a ^^^ 0x55).toNat ↔ 128 ≤ (b ^^^ 0x55).toNat := decide_eq_decide.mp sign
  have bits : a ^^^ 0x55 = b ^^^ 0x55 := by
    rw [← UInt8.toNat_inj]
    unfold code at same
    omega
  exact (UInt8.xor_left_inj 0x55).mp bits

/-- No two character signals represent one sample. -/
theorem Represents.unique {a b : UInt8} {sample : Int} (first : Represents a sample) (second : Represents b sample) :
    a = b := by
  obtain ⟨sign, n, holds, level⟩ := first
  obtain ⟨sign', m, holds', level'⟩ := second
  cases holds.unique holds'
  rw [natAbs_expand] at level level'
  refine eq_of_code_of_positive (quantizer.level_strictMono.injective (level.trans level'.symm)) ?_
  rw [Bool.eq_iff_iff, ← expand_pos_iff, ← expand_pos_iff, sign, sign']

/-- A character signal represents the value that it stands for. -/
theorem represents_expand (byte : UInt8) : Represents byte (8 * expand byte) := by
  have last : quantizer.level 127 = 4032 := rfl
  have range : code byte ≤ 127 := Nat.le_of_lt_succ (Nat.mod_lt _ (by decide))
  have bound := quantizer.level_strictMono.monotone range
  have positive := level_pos (code byte)
  have size := natAbs_expand byte
  have clipped : min ((8 * expand byte).natAbs / 8) 4095 = quantizer.level (code byte) := by
    have eight : (8 : Int).natAbs = 8 := rfl
    rw [Int.natAbs_mul, size, eight, Nat.mul_div_cancel_left _ (by decide)]
    exact min_eq_left (by omega)
  refine ⟨by omega, code byte, ?_, size⟩
  rw [clipped]
  exact quantizer.holds_level _

end ALaw
end Foundation
