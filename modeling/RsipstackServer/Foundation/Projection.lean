import RsipstackServer.Foundation.Run

namespace Foundation
universe u v w x
variable {σ : Type u} {α : Type v} {τ : Type w} {β : Type x} {step : σ → α → Option σ} {component : τ → β → Option τ}

theorem filterMap_single (f : α → Option β) (entry : α) : [entry].filterMap f = (f entry).toList := by
  cases shown : f entry with
  | none => rw [List.filterMap_cons_none shown, List.filterMap_nil, Option.toList_none]
  | some next => rw [List.filterMap_cons_some shown, List.filterMap_nil, Option.toList_some]

/-- A component of a system that some of the actions belong to. It is in view
once it has begun, its own actions are its steps, and no other action touches
it. -/
structure Component (step : σ → α → Option σ) (component : τ → β → Option τ) (view : σ → Option τ)
    (select : α → Option β) (begins : τ → Prop) : Prop where
  moves : ∀ s act t own, step s act = some t → select act = some own →
    ∃ before after, view s = some before ∧ component before own = some after ∧ view t = some after
  keeps : ∀ s act t, step s act = some t → select act = none →
    view t = view s ∨ view s = none ∧ ∃ first, begins first ∧ view t = some first

variable {view : σ → Option τ} {select : α → Option β} {begins : τ → Prop}

/-- A run of the system is, in the view of one component, a run of this
component with its own actions. -/
theorem Component.run {start last : σ} {acts : List α} {shown : τ}
    (part : Component step component view select begins) (unseen : view start = none)
    (reach : run step start acts = some last) (there : view last = some shown) :
    ∃ first, begins first ∧ Foundation.run component first (acts.filterMap select) = some shown := by
  have whole : (view last = none → acts.filterMap select = []) ∧ ∀ shown, view last = some shown →
      ∃ first, begins first ∧ Foundation.run component first (acts.filterMap select) = some shown := by
    clear there
    induction acts using List.reverseRecOn generalizing last with
    | nil =>
      cases Option.some.inj reach
      exact ⟨fun _ => rfl, fun shown there => absurd (unseen.symm.trans there) (Option.some_ne_none shown).symm⟩
    | append_singleton past act ih =>
      obtain ⟨s, before, taken⟩ := run_concat_iff.mp reach
      obtain ⟨idle, seen⟩ := ih before
      rw [List.filterMap_append]
      cases own : select act with
      | none =>
        rw [List.filterMap_cons_none own, List.filterMap_nil, List.append_nil]
        rcases part.keeps s act last taken own with same | ⟨none, first, begun, now⟩
        · rw [same]
          exact ⟨idle, seen⟩
        · rw [now, idle none]
          refine ⟨nofun, fun shown same => ⟨first, begun, ?_⟩⟩
          exact same
      | some act' =>
        obtain ⟨atBefore, after, shows, moved, now⟩ := part.moves s act last act' taken own
        obtain ⟨first, begun, earlier⟩ := seen atBefore shows
        rw [List.filterMap_cons_some own, List.filterMap_nil, now]
        refine ⟨nofun, fun shown same => ⟨first, begun, ?_⟩⟩
        cases Option.some.inj same
        exact run_concat_iff.mpr ⟨atBefore, earlier, moved⟩
  exact whole.2 shown there

/-- Where each step of a system is, in one view of it, a run of a smaller
system, each of its runs is one. -/
theorem run_view {I : σ → Prop} (view : σ → τ) {start last : σ} {acts : List α} (first : I start)
    (keeps : ∀ s act t, I s → step s act = some t → I t)
    (simulates : ∀ s act t, I s → step s act = some t → ∃ own, run component (view s) own = some (view t))
    (reach : run step start acts = some last) : ∃ own, run component (view start) own = some (view last) := by
  induction acts using List.reverseRecOn generalizing last with
  | nil =>
    cases Option.some.inj reach
    exact ⟨[], rfl⟩
  | append_singleton past act ih =>
    obtain ⟨s, before, taken⟩ := run_concat_iff.mp reach
    obtain ⟨earlier, there⟩ := ih before
    obtain ⟨later, here⟩ := simulates s act last (run_invariant first keeps before) taken
    refine ⟨earlier ++ later, ?_⟩
    rw [run_append, there, Option.bind_some]
    exact here

end Foundation
