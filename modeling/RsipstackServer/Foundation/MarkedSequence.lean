namespace Foundation
universe u
variable {α : Type u} {value : Nat → α} {marked : Nat → Prop}

/-- A sequence stands still from `i` to `j` if it does so at every place between. -/
theorem eq_of_still {i j : Nat} (le : i ≤ j) (still : ∀ k, i ≤ k → k < j → value (k + 1) = value k) :
    value j = value i := by
  induction j with
  | zero => rw [Nat.le_zero.mp le]
  | succ j ih =>
    rcases Nat.lt_or_eq_of_le le with before | rfl
    · rw [still j (by omega) (Nat.lt_succ_self j)]
      exact ih (by omega) fun k lower upper => still k lower (by omega)
    · rfl

/-- A sequence that changes only at marked places, apart from those after the
last one, has one value at all marked places exactly if it changes at none that
another one follows. -/
theorem marked_eq_iff (still : ∀ k j, k < j → marked j → ¬ marked k → value (k + 1) = value k) :
    (∀ i j, i < j → marked i → marked j → value j = value i) ↔
      ∀ i j, i < j → marked i → marked j → value (i + 1) = value i := by
  constructor
  · intro same i j before atStart atEnd
    induction j using Nat.strongRecOn with
    | ind j ih =>
      by_cases between : ∃ k, i < k ∧ k < j ∧ marked k
      · obtain ⟨k, after, upper, there⟩ := between
        exact ih k upper after there
      · have quiet : value j = value (i + 1) :=
          eq_of_still before fun k lower upper => still k j upper atEnd fun there => between ⟨k, lower, upper, there⟩
        rw [← quiet]
        exact same i j before atStart atEnd
  · intro unchanged i j before atStart atEnd
    refine eq_of_still (Nat.le_of_lt before) fun k lower upper => ?_
    by_cases there : marked k
    · exact unchanged k j upper there atEnd
    · exact still k j upper atEnd there

end Foundation
