import Mathlib.Data.List.MinMax

namespace Foundation
universe u v
variable {α : Type u} {γ : Type v}

/-- The candidate of least key among those that `classify` finds in a list,
and the first of them where several have that key. -/
def preferred (classify : α → Option γ) (key : γ → Nat) (items : List α) : Option γ :=
  (items.filterMap classify).argmin key

/-- `item` is where the preferred candidate comes from: nothing in front of it
is as good, and nothing behind it is better. -/
structure Leads (classify : α → Option γ) (key : γ → Nat) (before : List α) (item : α) (after : List α) (best : γ) :
    Prop where
  offers : classify item = some best
  ahead : ∀ other ∈ before, ∀ candidate, classify other = some candidate → key best < key candidate
  behind : ∀ other ∈ after, ∀ candidate, classify other = some candidate → key best ≤ key candidate

theorem argmin_eq_some_iff {key : γ → Nat} {candidates : List γ} {best : γ} : candidates.argmin key = some best ↔
    ∃ before after, candidates = before ++ best :: after ∧ (∀ candidate ∈ before, key best < key candidate) ∧
      ∀ candidate ∈ after, key best ≤ key candidate := by
  constructor
  · induction candidates with
    | nil => simp
    | cons head tail ih =>
      rw [List.argmin_cons]
      cases least : tail.argmin key with
      | none =>
        intro same
        cases same
        exact ⟨[], tail, rfl, by simp, by simp [List.argmin_eq_none.mp least]⟩
      | some candidate =>
        simp only
        split
        · rename_i better
          intro same
          cases same
          obtain ⟨before, after, whole, ahead, behind⟩ := ih least
          refine ⟨head :: before, after, by rw [whole, List.cons_append], ?_, behind⟩
          intro other member
          rcases List.mem_cons.mp member with rfl | old
          · exact better
          · exact ahead other old
        · rename_i worse
          intro same
          cases same
          refine ⟨[], tail, rfl, by simp, ?_⟩
          intro other member
          exact (Nat.not_lt.mp worse).trans (List.le_of_mem_argmin member least)
  · rintro ⟨before, after, rfl, ahead, behind⟩
    induction before with
    | nil =>
      rw [List.nil_append, List.argmin_cons]
      cases least : after.argmin key with
      | none => rfl
      | some candidate => exact if_neg (Nat.not_lt.mpr (behind candidate (List.argmin_mem least)))
    | cons head tail ih =>
      rw [List.cons_append, List.argmin_cons,
        ih fun candidate member => ahead candidate (List.mem_cons_of_mem head member)]
      exact if_pos (ahead head List.mem_cons_self)

theorem preferred_eq_some_iff {classify : α → Option γ} {key : γ → Nat} {items : List α} {best : γ} :
    preferred classify key items = some best ↔
      ∃ before item after, items = before ++ item :: after ∧ Leads classify key before item after best := by
  unfold preferred
  rw [argmin_eq_some_iff]
  constructor
  · rintro ⟨first, last, whole, ahead, behind⟩
    obtain ⟨before, rest, same, rfl, tail⟩ := List.filterMap_eq_append_iff.mp whole
    obtain ⟨skipped, item, after, rfl, nothing, offers, rfl⟩ := List.filterMap_eq_cons_iff.mp tail
    refine ⟨before ++ skipped, item, after, by rw [same, List.append_assoc], offers, ?_, ?_⟩
    · intro other member candidate found
      rcases List.mem_append.mp member with old | skip
      · exact ahead candidate (List.mem_filterMap.mpr ⟨other, old, found⟩)
      · rw [nothing other skip] at found
        cases found
    · intro other member candidate found
      exact behind candidate (List.mem_filterMap.mpr ⟨other, member, found⟩)
  · rintro ⟨before, item, after, rfl, leads⟩
    refine ⟨before.filterMap classify, after.filterMap classify, ?_, ?_, ?_⟩
    · rw [List.filterMap_append, List.filterMap_cons_some leads.offers]
    · intro candidate member
      obtain ⟨other, place, found⟩ := List.mem_filterMap.mp member
      exact leads.ahead other place candidate found
    · intro candidate member
      obtain ⟨other, place, found⟩ := List.mem_filterMap.mp member
      exact leads.behind other place candidate found

theorem preferred_eq_none_iff {classify : α → Option γ} {key : γ → Nat} {items : List α} :
    preferred classify key items = none ↔ ∀ item ∈ items, classify item = none := by
  rw [preferred, List.argmin_eq_none, List.filterMap_eq_nil_iff]

/-- Items without a candidate do not matter. -/
theorem preferred_congr {classify : α → Option γ} {key : γ → Nat} {items others : List α}
    (same : items.filter (fun item => (classify item).isSome) = others.filter fun item => (classify item).isSome) :
    preferred classify key items = preferred classify key others := by
  have drops : ∀ list : List α,
    (list.filter fun item => (classify item).isSome).filterMap classify = list.filterMap classify := by
    intro list
    rw [List.filterMap_filter]
    refine List.filterMap_congr ?_
    intro item _
    cases classify item <;> rfl
  rw [preferred, preferred, ← drops items, ← drops others, same]

/-- The key of the preferred candidate does not depend on the order. -/
theorem preferred_perm {classify : α → Option γ} {key : γ → Nat} {items others : List α} (perm : items.Perm others) :
    (preferred classify key items).map key = (preferred classify key others).map key := by
  have candidates := perm.filterMap classify
  unfold preferred
  cases first : (items.filterMap classify).argmin key with
  | none =>
    rw [List.argmin_eq_none] at first
    rw [List.argmin_eq_none.mpr (List.perm_nil.mp (first ▸ candidates).symm)]
  | some best =>
    cases second : (others.filterMap classify).argmin key with
    | none =>
      rw [List.argmin_eq_none.mp second] at candidates
      rw [List.perm_nil.mp candidates] at first
      cases first
    | some other =>
      have lower := List.le_of_mem_argmin (candidates.mem_iff.mpr (List.argmin_mem second)) first
      have upper := List.le_of_mem_argmin (candidates.mem_iff.mp (List.argmin_mem first)) second
      exact congrArg some (Nat.le_antisymm lower upper)

/-- A candidate at some place of a list is outdone: one that is not `bad` has a
smaller key, or the same key and an earlier place. -/
def Outdone (classify : α → Option γ) (key : γ → Nat) (bad : γ → Prop) (before : List α) (candidate : γ)
    (items : List α) : Prop :=
  ∃ item ∈ items, ∃ better, classify item = some better ∧ ¬ bad better ∧
    (key better < key candidate ∨ key better = key candidate ∧ item ∈ before)

/-- The preferred candidate is not `bad` exactly if every bad one is outdone. -/
theorem preferred_not_bad_iff {classify : α → Option γ} {key : γ → Nat} {items : List α} {best : γ} (bad : γ → Prop)
    (chosen : preferred classify key items = some best) :
    ¬ bad best ↔ ∀ before item after, items = before ++ item :: after → ∀ candidate, classify item = some candidate →
      bad candidate → Outdone classify key bad before candidate items := by
  obtain ⟨before, item, after, whole, leads⟩ := preferred_eq_some_iff.mp chosen
  constructor
  · intro good front other back split candidate offers isBad
    refine ⟨item, by simp [whole], best, leads.offers, good, ?_⟩
    rw [whole] at split
    -- The bad candidate stands in front of the best one, behind it, or in its place.
    rcases List.append_eq_append_iff.mp split with ⟨gap, rfl, rest⟩ | ⟨gap, rfl, rest⟩
    · cases gap with
      | nil =>
        cases rest
        rw [leads.offers] at offers
        cases offers
        exact absurd isBad good
      | cons head tail =>
        obtain ⟨rfl, rfl⟩ := List.cons_eq_cons.mp rest
        have least := leads.behind other (by simp) candidate offers
        rcases least.lt_or_eq with less | same
        · exact Or.inl less
        · exact Or.inr ⟨same, by simp⟩
    · cases gap with
      | nil =>
        cases rest
        rw [leads.offers] at offers
        cases offers
        exact absurd isBad good
      | cons head tail =>
        obtain ⟨rfl, rfl⟩ := List.cons_eq_cons.mp rest
        exact Or.inl (leads.ahead other (by simp) candidate offers)
  · intro outdone isBad
    obtain ⟨other, member, better, offers, good, less | ⟨same, early⟩⟩ :=
      outdone before item after whole best leads.offers isBad
    · rw [whole] at member
      rcases List.mem_append.mp member with front | rest
      · exact Nat.lt_asymm less (leads.ahead other front better offers)
      · rcases List.mem_cons.mp rest with rfl | back
        · rw [leads.offers] at offers
          cases offers
          exact Nat.lt_irrefl _ less
        · exact Nat.not_lt.mpr (leads.behind other back better offers) less
    · exact Nat.ne_of_gt (leads.ahead other early better offers) same

end Foundation
