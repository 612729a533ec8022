import Mathlib.Data.List.Infix

namespace Foundation
universe u v
variable {σ : Type u} {α : Type v} {step : σ → α → Option σ}

/-- The state after the actions `acts`. A step answers `none` where its
action is not enabled, and a run through such a step has no final state. -/
def run (step : σ → α → Option σ) (start : σ) (acts : List α) : Option σ :=
  acts.foldlM step start

@[simp] theorem run_nil (start : σ) : run step start [] = some start := rfl

theorem run_cons (start : σ) (act : α) (later : List α) :
    run step start (act :: later) = (step start act).bind (fun s => run step s later) := rfl

theorem run_append (start : σ) (past later : List α) :
    run step start (past ++ later) = (run step start past).bind (fun s => run step s later) := by
  unfold run
  exact List.foldlM_append

@[simp] theorem run_singleton (start : σ) (act : α) : run step start [act] = step start act := by
  simp only [run, List.foldlM_cons, List.foldlM_nil, bind_pure]

theorem run_concat_iff {start last : σ} {past : List α} {act : α} :
    run step start (past ++ [act]) = some last ↔
      ∃ s, run step start past = some s ∧ step s act = some last := by
  rw [run_append, Option.bind_eq_some_iff]
  simp only [run_singleton]

/-- A run that goes through has a final state to speak about. -/
theorem exists_of_run {start : σ} {acts : List α} {P : σ → Prop} (total : (run step start acts).isSome)
    (holds : ∀ s, run step start acts = some s → P s) : ∃ s, run step start acts = some s ∧ P s := by
  obtain ⟨s, reach⟩ := Option.isSome_iff_exists.mp total
  exact ⟨s, reach, holds s reach⟩

/-- The induction rule of a run: what the start has and each enabled step
keeps, every final state has. -/
theorem run_invariant {P : σ → Prop} {start last : σ} {acts : List α} (first : P start)
    (keeps : ∀ s act t, P s → step s act = some t → P t)
    (reach : run step start acts = some last) : P last := by
  induction acts using List.reverseRecOn generalizing last with
  | nil =>
    cases Option.some.inj reach
    exact first
  | append_singleton past act ih =>
    obtain ⟨s, before, taken⟩ := run_concat_iff.mp reach
    exact keeps s act last (ih before) taken

/-- The states a run passes through, its first and its last included. -/
def Visits (step : σ → α → Option σ) (start : σ) (acts : List α) (s : σ) : Prop :=
  ∃ past, past <+: acts ∧ run step start past = some s

/-- The steps a run takes: `act`, out of the state `s`. -/
def Takes (step : σ → α → Option σ) (start : σ) (acts : List α) (s : σ) (act : α) : Prop :=
  ∃ past, past ++ [act] <+: acts ∧ run step start past = some s

theorem Takes.visits {start s : σ} {acts : List α} {act : α} (taken : Takes step start acts s act) :
    Visits step start acts s := by
  obtain ⟨past, inside, reach⟩ := taken
  exact ⟨past, (List.prefix_append past [act]).trans inside, reach⟩

theorem Visits.invariant {P : σ → Prop} {start s : σ} {acts : List α} (visit : Visits step start acts s)
    (first : P start) (keeps : ∀ s act t, P s → step s act = some t → P t) : P s := by
  obtain ⟨_, _, reach⟩ := visit
  exact run_invariant first keeps reach

theorem visits_nil {start s : σ} : Visits step start [] s ↔ s = start := by
  constructor
  · rintro ⟨past, before, reach⟩
    rw [List.prefix_nil.mp before] at reach
    exact (Option.some.inj reach).symm
  · rintro rfl
    exact ⟨[], List.prefix_rfl, rfl⟩

theorem visits_concat {start s last : σ} {past : List α} {act : α}
    (reach : run step start (past ++ [act]) = some last) :
    Visits step start (past ++ [act]) s ↔ Visits step start past s ∨ s = last := by
  constructor
  · rintro ⟨front, before, there⟩
    rcases List.prefix_concat_iff.mp before with whole | inside
    · rw [whole, reach] at there
      exact Or.inr (Option.some.inj there).symm
    · exact Or.inl ⟨front, inside, there⟩
  · rintro (⟨front, before, there⟩ | rfl)
    · exact ⟨front, before.trans (List.prefix_append past [act]), there⟩
    · exact ⟨past ++ [act], List.prefix_rfl, reach⟩

theorem takes_concat {start s before last : σ} {past : List α} {act next : α}
    (reach : run step start past = some before) (_taken : step before act = some last) :
    Takes step start (past ++ [act]) s next ↔
      Takes step start past s next ∨ (s = before ∧ next = act) := by
  constructor
  · rintro ⟨front, inside, there⟩
    rcases List.prefix_concat_iff.mp inside with whole | earlier
    · obtain ⟨same, tail⟩ := List.append_inj' whole rfl
      rw [same, reach] at there
      exact Or.inr ⟨(Option.some.inj there).symm, List.singleton_inj.mp tail⟩
    · exact Or.inl ⟨front, earlier, there⟩
  · rintro (⟨front, inside, there⟩ | ⟨rfl, rfl⟩)
    · exact ⟨front, inside.trans (List.prefix_append past [act]), there⟩
    · exact ⟨past, List.prefix_rfl, reach⟩

/-- Where a property survives a step exactly if the step is a `good` one,
it holds all along a run exactly if every step of the run is good. -/
theorem visits_iff_takes {I P : σ → Prop} {good : σ → α → Prop} {start last : σ} {acts : List α}
    (invariant : I start) (first : P start)
    (keeps : ∀ s act t, I s → step s act = some t → I t)
    (decides : ∀ s act t, I s → P s → step s act = some t → (P t ↔ good s act))
    (reach : run step start acts = some last) :
    (∀ s, Visits step start acts s → P s) ↔ ∀ s act, Takes step start acts s act → good s act := by
  induction acts using List.reverseRecOn generalizing last with
  | nil =>
    constructor
    · rintro _ s act ⟨front, inside, _⟩
      simp at inside
    · rintro _ s visit
      rw [visits_nil.mp visit]
      exact first
  | append_singleton past act ih =>
    obtain ⟨before, earlier, taken⟩ := run_concat_iff.mp reach
    have there : Visits step start past before := ⟨past, List.prefix_rfl, earlier⟩
    have step := decides before act last (there.invariant invariant keeps)
    constructor
    · intro all s next takes
      have front := (ih earlier).mp fun s visit => all s ((visits_concat reach).mpr (Or.inl visit))
      rcases (takes_concat earlier taken).mp takes with old | ⟨rfl, rfl⟩
      · exact front s next old
      · exact (step (all s ((visits_concat reach).mpr (Or.inl there))) taken).mp
          (all last ((visits_concat reach).mpr (Or.inr rfl)))
    · intro all s visit
      have front := (ih earlier).mpr fun s next takes => all s next ((takes_concat earlier taken).mpr (Or.inl takes))
      rcases (visits_concat reach).mp visit with old | rfl
      · exact front s old
      · exact (step (front before there) taken).mpr
          (all before act ((takes_concat earlier taken).mpr (Or.inr ⟨rfl, rfl⟩)))

end Foundation
