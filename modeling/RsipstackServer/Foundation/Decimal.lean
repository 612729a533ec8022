import Mathlib.Data.List.Induction

namespace Foundation

/-- The usual rendering of an unsigned number. -/
def decimal (n : Nat) : List Char := Nat.toDigits 10 n

/-- The value of one or more decimal digits, if it is at most `bound`. -/
def parseDigits (bound : Nat) (text : List Char) : Option Nat :=
  if !text.isEmpty && text.all Char.isDigit && Nat.ofDigitChars 10 text 0 ≤ bound then
    some (Nat.ofDigitChars 10 text 0)
  else none

/-- The same with an optional plus sign in front. -/
def parseUnsigned (bound : Nat) : List Char → Option Nat
  | '+' :: digits => parseDigits bound digits
  | text => parseDigits bound text

theorem decimal_ne_nil (n : Nat) : decimal n ≠ [] := Nat.toDigits_ne_nil

theorem isDigit_of_mem_decimal {n : Nat} {c : Char} (member : c ∈ decimal n) : c.isDigit = true :=
  Nat.isDigit_of_mem_toDigits (by decide) (by decide) member

theorem not_mem_decimal {n : Nat} {c : Char} (other : c.isDigit = false) : c ∉ decimal n := by
  intro member
  rw [isDigit_of_mem_decimal member] at other
  cases other

theorem parseDigits_decimal {bound n : Nat} (fits : n ≤ bound) : parseDigits bound (decimal n) = some n := by
  have digits : (decimal n).all Char.isDigit = true :=
    List.all_eq_true.mpr fun _ member => isDigit_of_mem_decimal member
  have value : Nat.ofDigitChars 10 (decimal n) 0 = n := Nat.ofDigitChars_ten_toDigits
  have some : (decimal n).isEmpty = false := by
    rw [List.isEmpty_eq_false_iff]
    exact decimal_ne_nil n
  simp only [parseDigits, digits, value, some, Bool.not_false, Bool.true_and, decide_eq_true_eq, if_pos fits]

theorem parseUnsigned_decimal {bound n : Nat} (fits : n ≤ bound) : parseUnsigned bound (decimal n) = some n := by
  unfold parseUnsigned
  split
  · rename_i digits same
    have sign : ('+' : Char) ∈ decimal n := by rw [same]; exact List.mem_cons_self
    exact absurd sign (not_mem_decimal (by decide))
  · exact parseDigits_decimal fits

/-- A text of one or more decimal digits, with leading zeros or without, and
its value. -/
inductive WritesDecimal : List Char → Nat → Prop
  | digit {d} : d < 10 → WritesDecimal [Nat.digitChar d] d
  | next {text n d} : WritesDecimal text n → d < 10 → WritesDecimal (text ++ [Nat.digitChar d]) (10 * n + d)

theorem WritesDecimal.ne_nil {text : List Char} {n : Nat} (writes : WritesDecimal text n) : text ≠ [] := by
  cases writes with
  | digit _ => exact List.cons_ne_nil _ _
  | next _ _ => exact List.concat_ne_nil _ _

theorem WritesDecimal.isDigit {text : List Char} {n : Nat} (writes : WritesDecimal text n) :
    text.all Char.isDigit = true := by
  induction writes with
  | digit small => simpa [Nat.isDigit_digitChar] using small
  | next _ small ih =>
    rw [List.all_append, ih]
    simpa [Nat.isDigit_digitChar] using small

theorem WritesDecimal.value {text : List Char} {n : Nat} (writes : WritesDecimal text n) :
    Nat.ofDigitChars 10 text 0 = n := by
  induction writes with
  | digit small =>
    rw [Nat.ofDigitChars_cons_digitChar_of_lt_ten small, Nat.ofDigitChars_nil, Nat.mul_zero, Nat.zero_add]
  | next _ small ih =>
    rw [Nat.ofDigitChars_append, ih, Nat.ofDigitChars_cons_digitChar_of_lt_ten small, Nat.ofDigitChars_nil]

theorem exists_digitChar {c : Char} (digit : c.isDigit = true) : ∃ d, d < 10 ∧ Nat.digitChar d = c := by
  obtain ⟨low, high⟩ := Char.isDigit_iff_toNat.mp digit
  have small : c.toNat - 48 < 10 := by
    have nine : '9'.toNat = 57 := rfl
    omega
  refine ⟨c.toNat - 48, small, Char.toNat_inj.mp ?_⟩
  rw [Nat.toNat_digitChar_of_lt_ten small]
  have zero : '0'.toNat = 48 := rfl
  omega

/-- Every text of digits is the writing of its value. -/
theorem writesDecimal_of_isDigit {text : List Char} (some : text ≠ []) (digits : text.all Char.isDigit = true) :
    WritesDecimal text (Nat.ofDigitChars 10 text 0) := by
  induction text using List.reverseRecOn with
  | nil => exact absurd rfl some
  | append_singleton before c ih =>
    rw [List.all_append, Bool.and_eq_true] at digits
    obtain ⟨d, small, rfl⟩ := exists_digitChar (List.all_eq_true.mp digits.2 c List.mem_cons_self)
    rw [Nat.ofDigitChars_append, Nat.ofDigitChars_cons_digitChar_of_lt_ten small, Nat.ofDigitChars_nil]
    by_cases first : before = []
    · subst first
      rw [Nat.ofDigitChars_nil, Nat.mul_zero, Nat.zero_add]
      exact .digit small
    · exact .next (ih first digits.1) small

theorem parseDigits_eq_some {bound n : Nat} {text : List Char} :
    parseDigits bound text = some n ↔ WritesDecimal text n ∧ n ≤ bound := by
  unfold parseDigits
  constructor
  · intro parsed
    split at parsed
    · rename_i readable
      cases Option.some.inj parsed
      simp only [Bool.and_eq_true, Bool.not_eq_true', List.isEmpty_eq_false_iff, decide_eq_true_eq] at readable
      exact ⟨writesDecimal_of_isDigit readable.1.1 readable.1.2, readable.2⟩
    · cases parsed
  · rintro ⟨writes, fits⟩
    have some : text.isEmpty = false := List.isEmpty_eq_false_iff.mpr writes.ne_nil
    simp only [some, writes.isDigit, writes.value, Bool.not_false, Bool.true_and, decide_eq_true_eq, if_pos fits]

theorem parseUnsigned_eq_some {bound n : Nat} {text : List Char} : parseUnsigned bound text = some n ↔
    ∃ digits, (text = digits ∨ text = '+' :: digits) ∧ WritesDecimal digits n ∧ n ≤ bound := by
  unfold parseUnsigned
  split
  · rename_i digits
    rw [parseDigits_eq_some]
    constructor
    · intro writes
      exact ⟨digits, Or.inr rfl, writes⟩
    · rintro ⟨others, same | same, writes⟩
      · have sign := writes.1.isDigit
        rw [← same, List.all_cons, Bool.and_eq_true] at sign
        exact absurd sign.1 (by decide)
      · cases same
        exact writes
  · rename_i unsigned
    rw [parseDigits_eq_some]
    constructor
    · intro writes
      exact ⟨text, Or.inl rfl, writes⟩
    · rintro ⟨digits, rfl | same, writes⟩
      · exact writes
      · exact absurd same (unsigned digits)

end Foundation
