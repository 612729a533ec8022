import RsipstackServer.Foundation.Run

namespace Foundation
universe u v w
variable {σ : Type u} {α : Type v} {ρ : Type w}

/-- A state together with a record of how it was reached. -/
structure Recorded (σ : Type u) (ρ : Type w) where
  state : σ
  record : ρ

namespace Recorded

/-- Steps of the state, of which `note` writes down what the record keeps: the
state before, the action, and the state after. -/
def step (step : σ → α → Option σ) (note : σ → α → σ → ρ → ρ) (r : Recorded σ ρ) (act : α) : Option (Recorded σ ρ) :=
  (step r.state act).map fun next => ⟨next, note r.state act next r.record⟩

variable {next : σ → α → Option σ} {note : σ → α → σ → ρ → ρ}

theorem step_eq_some_iff {r s : Recorded σ ρ} {act : α} :
    Recorded.step next note r act = some s ↔
      next r.state act = some s.state ∧ s.record = note r.state act s.state r.record := by
  unfold Recorded.step
  rw [Option.map_eq_some_iff]
  constructor
  · rintro ⟨after, taken, rfl⟩
    exact ⟨taken, rfl⟩
  · rintro ⟨taken, kept⟩
    exact ⟨s.state, taken, by rw [← kept]⟩

/-- What is recorded was a run of the states. -/
theorem run_state {r last : Recorded σ ρ} {acts : List α} (reach : run (Recorded.step next note) r acts = some last) :
    run next r.state acts = some last.state := by
  induction acts generalizing r with
  | nil =>
    cases Option.some.inj reach
    rfl
  | cons act later ih =>
    rw [run_cons, Option.bind_eq_some_iff] at reach
    obtain ⟨s, taken, rest⟩ := reach
    rw [run_cons, (step_eq_some_iff.mp taken).1, Option.bind_some]
    exact ih rest

/-- Every run of the states can be recorded. -/
theorem exists_run {start last : σ} {acts : List α} (first : ρ) (reach : run next start acts = some last) :
    ∃ record, run (Recorded.step next note) ⟨start, first⟩ acts = some ⟨last, record⟩ := by
  induction acts generalizing start first with
  | nil =>
    cases Option.some.inj reach
    exact ⟨first, rfl⟩
  | cons act later ih =>
    rw [run_cons, Option.bind_eq_some_iff] at reach
    obtain ⟨s, taken, rest⟩ := reach
    obtain ⟨record, recorded⟩ := ih (note start act s first) rest
    refine ⟨record, ?_⟩
    rw [run_cons, (step_eq_some_iff (s := ⟨s, note start act s first⟩)).mpr ⟨taken, rfl⟩, Option.bind_some]
    exact recorded

/-- Recording neither allows a run nor stops one. -/
theorem run_iff {start last : σ} {acts : List α} (first : ρ) :
    (∃ record, run (Recorded.step next note) ⟨start, first⟩ acts = some ⟨last, record⟩) ↔
      run next start acts = some last := by
  constructor
  · rintro ⟨record, recorded⟩
    exact run_state recorded
  · exact exists_run first

end Recorded
end Foundation
