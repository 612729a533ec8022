import Mathlib.Order.Monotone.Basic

namespace Foundation

/-- A quantiser of magnitudes, by its decision values: the code `n` stands for
the magnitudes from the value `n` up to the next one. -/
structure Quantizer where
  decision : Nat → Nat
  strictMono : StrictMono decision
  zero : decision 0 = 0

namespace Quantizer
variable (q : Quantizer)

def Holds (code magnitude : Nat) : Prop := q.decision code ≤ magnitude ∧ magnitude < q.decision (code + 1)

/-- The middle of an interval, which a decoder puts in its place. -/
def level (code : Nat) : Nat := (q.decision code + q.decision (code + 1)) / 2

theorem increase (code : Nat) : q.decision code < q.decision (code + 1) := q.strictMono (Nat.lt_succ_self code)

variable {q} {code other magnitude : Nat}

theorem Holds.le_of_le {larger : Nat} (holds : q.Holds code magnitude) (holds' : q.Holds other larger)
    (le : magnitude ≤ larger) : code ≤ other := by
  by_contra above
  have next : q.decision (other + 1) ≤ q.decision code := q.strictMono.monotone (by omega)
  obtain ⟨lower, _⟩ := holds
  obtain ⟨_, upper⟩ := holds'
  omega

theorem Holds.unique (holds : q.Holds code magnitude) (holds' : q.Holds other magnitude) : code = other :=
  le_antisymm (holds.le_of_le holds' le_rfl) (holds'.le_of_le holds le_rfl)

variable (q) in
theorem holds_level (code : Nat) : q.Holds code (q.level code) := by
  have increase := q.increase code
  unfold Holds level
  omega

variable (q) in
theorem level_strictMono : StrictMono q.level := by
  refine strictMono_nat_of_lt_succ fun code => ?_
  exact (q.holds_level code).2.trans_le (q.holds_level (code + 1)).1

theorem Holds.level_le {larger : Nat} (holds : q.Holds code magnitude) (holds' : q.Holds other larger)
    (le : magnitude ≤ larger) : q.level code ≤ q.level other :=
  q.level_strictMono.monotone (holds.le_of_le holds' le)

/-- A value that a magnitude was taken from on a coarser scale is at most half
an interval away from the level. -/
theorem Holds.error {scale value width : Nat} (holds : q.Holds code magnitude)
    (even : q.decision (code + 1) = q.decision code + 2 * width) (lower : scale * magnitude ≤ value)
    (upper : value ≤ scale * (magnitude + 1)) :
    scale * q.level code ≤ value + scale * width ∧ value ≤ scale * q.level code + scale * width := by
  obtain ⟨least, below⟩ := holds
  have level : q.level code = q.decision code + width := by
    unfold Quantizer.level
    omega
  have first : scale * q.decision code ≤ scale * magnitude := Nat.mul_le_mul_left scale least
  have last : scale * (magnitude + 1) ≤ scale * (q.decision code + width + width) :=
    Nat.mul_le_mul_left scale (by omega)
  rw [Nat.mul_add scale (_ + width), Nat.mul_add scale (q.decision code)] at last
  rw [level, Nat.mul_add scale (q.decision code)]
  omega

end Quantizer

/-- A magnitude with the sign of a sample. -/
def signed (sample : Int) (magnitude : Nat) : Int := if sample < 0 then -magnitude else magnitude

/-- What is monotone in the magnitude is monotone across the signs. -/
theorem signed_le {sample larger : Int} {magnitude other : Nat} (le : sample ≤ larger)
    (up : sample.natAbs ≤ larger.natAbs → magnitude ≤ other)
    (down : larger.natAbs ≤ sample.natAbs → other ≤ magnitude) :
    signed sample magnitude ≤ signed larger other := by
  unfold signed
  by_cases negative : larger < 0
  · have reversed := down (by omega)
    rw [if_pos negative, if_pos (by omega)]
    omega
  · rw [if_neg negative]
    split
    · omega
    · have same := up (by omega)
      omega

theorem natAbs_signed_sub (sample : Int) (magnitude : Nat) :
    (signed sample magnitude - sample).natAbs = ((magnitude : Int) - sample.natAbs).natAbs := by
  unfold signed
  split <;> omega

end Foundation
