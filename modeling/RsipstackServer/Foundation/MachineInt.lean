import Mathlib.Data.UInt
import Mathlib.Tactic.Common

namespace Foundation

/-- A type of machine integers, whose values are the integers of a range. -/
class MachineInt (α : Type) where
  bits : Nat
  least : Int
  greatest : Int
  value : α → Int
  ofInt : Int → α
  value_ofInt : ∀ i, least ≤ i → i ≤ greatest → value (ofInt i) = i

namespace MachineInt

instance : MachineInt UInt8 where
  bits := 8
  least := 0
  greatest := 255
  value x := x.toNat
  ofInt i := UInt8.ofNat i.toNat
  value_ofInt i lower upper := by
    rw [UInt8.toNat_ofNat']
    omega

instance : MachineInt UInt32 where
  bits := 32
  least := 0
  greatest := 4294967295
  value x := x.toNat
  ofInt i := UInt32.ofNat i.toNat
  value_ofInt i lower upper := by
    rw [UInt32.toNat_ofNat']
    omega

instance : MachineInt Int16 where
  bits := 16
  least := -32768
  greatest := 32767
  value := Int16.toInt
  ofInt := Int16.ofInt
  value_ofInt i lower upper := Int16.toInt_ofInt_of_le lower (by omega)

instance : MachineInt Int32 where
  bits := 32
  least := -2147483648
  greatest := 2147483647
  value := Int32.toInt
  ofInt := Int32.ofInt
  value_ofInt i lower upper := Int32.toInt_ofInt_of_le lower (by omega)

variable {α β : Type} [MachineInt α] [MachineInt β] {γ : Type}

variable (α) in
def Fits (i : Int) : Prop := least α ≤ i ∧ i ≤ greatest α

instance (i : Int) : Decidable (Fits α i) := instDecidableAnd

theorem fits_uint8 {i : Int} : Fits UInt8 i ↔ 0 ≤ i ∧ i ≤ 255 := Iff.rfl

theorem fits_uint32 {i : Int} : Fits UInt32 i ↔ 0 ≤ i ∧ i ≤ 4294967295 := Iff.rfl

theorem fits_int32 {i : Int} : Fits Int32 i ↔ -2147483648 ≤ i ∧ i ≤ 2147483647 := Iff.rfl

/-- An operation whose result is the integer `i`, where `none` is an overflow
or a truncation. -/
def exact (i : Int) : Option α := if Fits α i then some (ofInt i) else none

def cast (x : α) : Option β := exact (value x)

def neg (x : α) : Option α := exact (-value x)

def add (x y : α) : Option α := exact (value x + value y)

def sub (x y : α) : Option α := exact (value x - value y)

/-- The amount of a shift is below the number of bits. -/
def places (α : Type) [MachineInt α] (amount : β) : Option Nat :=
  if 0 ≤ value amount ∧ value amount < bits α then some (value amount).toNat else none

def shl (x : α) (amount : β) : Option α := do exact (value x * 2 ^ (← places α amount))

def shr (x : α) (amount : β) : Option α := do exact (value x / 2 ^ (← places α amount))

/-- An operation whose result fits goes on with this result. -/
theorem exact_bind {i : Int} {next : α → Option γ} {result : Option γ} (fits : Fits α i)
    (later : ∀ x : α, value x = i → next x = result) : (exact i).bind next = result := by
  rw [exact, if_pos fits]
  exact later (ofInt i) (value_ofInt i fits.1 fits.2)

theorem places_eq {amount : β} {k : Nat} (same : value amount = k) (bound : k < bits α) :
    places α amount = some k := by
  unfold places
  rw [same, if_pos ⟨Int.natCast_nonneg k, Int.ofNat_lt.mpr bound⟩, Int.toNat_natCast]

theorem shl_bind {x : α} {amount : β} {n k : Nat} {next : α → Option γ} {result : Option γ} (size : value x = n)
    (same : value amount = k) (bound : k < bits α) (fits : Fits α (n * 2 ^ k : Nat))
    (later : ∀ y : α, value y = (n * 2 ^ k : Nat) → next y = result) : (shl x amount).bind next = result := by
  have power : value x * 2 ^ k = (n * 2 ^ k : Nat) := by
    rw [size, Int.natCast_mul, Int.natCast_pow]
    rfl
  rw [shl, places_eq same bound, Option.bind_eq_bind, Option.bind_some, power]
  exact exact_bind fits later

theorem shr_bind {x : α} {amount : β} {n k : Nat} {next : α → Option γ} {result : Option γ} (size : value x = n)
    (same : value amount = k) (bound : k < bits α) (fits : Fits α (n / 2 ^ k : Nat))
    (later : ∀ y : α, value y = (n / 2 ^ k : Nat) → next y = result) : (shr x amount).bind next = result := by
  have power : value x / 2 ^ k = (n / 2 ^ k : Nat) := by
    rw [size, Int.natCast_ediv, Int.natCast_pow]
    rfl
  rw [shr, places_eq same bound, Option.bind_eq_bind, Option.bind_some, power]
  exact exact_bind fits later

theorem uint8_eq_ofNat {x : UInt8} {n : Nat} (same : value x = n) : x = UInt8.ofNat n := by
  rw [← UInt8.ofNat_toNat (x := x)]
  exact congrArg UInt8.ofNat (Int.ofNat.inj same)

/-- The bits of a value that is not negative are those of a natural number. -/
theorem value_eq_iff {x : Int32} {n : Nat} : value x = n ↔ x.toBitVec.toNat = n ∧ n < 2 ^ 31 := by
  have bound := x.toBitVec.isLt
  change x.toBitVec.toInt = n ↔ _
  rw [BitVec.toInt_eq_toNat_cond]
  split <;> omega

theorem value_and {x y : Int32} {n m : Nat} (same : value x = n) (same' : value y = m) :
    value (x &&& y) = (n &&& m : Nat) := by
  obtain ⟨word, bound⟩ := value_eq_iff.mp same
  have smaller : n &&& m ≤ n := Nat.and_le_left
  rw [value_eq_iff, Int32.toBitVec_and, BitVec.toNat_and, word, (value_eq_iff.mp same').1]
  exact ⟨rfl, by omega⟩

theorem int32_eq_ofInt {x : Int32} {i : Int} (same : value x = i) : x = ofInt i := by
  rw [← same]
  exact (Int32.ofInt_toInt x).symm

theorem int32_lt_iff {x y : Int32} : x < y ↔ value x < value y := Int32.lt_iff_toInt_lt

theorem int32_le_iff {x y : Int32} : x ≤ y ↔ value x ≤ value y := Int32.le_iff_toInt_le

theorem value_max (x y : Int32) : value (max x y) = max (value x) (value y) := by
  change value (if x ≤ y then y else x) = _
  split <;> rename_i order <;> rw [int32_le_iff] at order <;> omega

theorem value_min (x y : Int32) : value (min x y) = min (value x) (value y) := by
  change value (if x ≤ y then x else y) = _
  split <;> rename_i order <;> rw [int32_le_iff] at order <;> omega

end MachineInt

/-- A loop in which no operation overflows. -/
theorem mapM_eq_some {α β : Type} {f : α → Option β} {g : α → β} {xs : List α} (all : ∀ x ∈ xs, f x = some (g x)) :
    xs.mapM f = some (xs.map g) := by
  induction xs with
  | nil => rfl
  | cons x xs ih =>
    have later := ih fun y member => all y (List.mem_cons_of_mem x member)
    rw [List.mapM_cons, all x (List.mem_cons_self ..), later]
    rfl

end Foundation
