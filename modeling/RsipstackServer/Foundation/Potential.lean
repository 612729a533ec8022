import RsipstackServer.Foundation.Run
import Mathlib.Algebra.GroupWithZero.Nat
import Mathlib.Algebra.BigOperators.Group.List.Basic

namespace Foundation
universe u v
variable {σ : Type u} {α : Type v} {step : σ → α → Option σ}

/-- Where each of the `own` actions is paid for with one unit of the potential,
and an action adds at most its `gain`, a run takes no more own actions than its
start and its gains pay for. -/
theorem run_potential {I : σ → Prop} {potential : σ → Nat} (own : α → Bool) {gain : α → Nat} {start last : σ}
    {acts : List α} (first : I start) (keeps : ∀ s act t, I s → step s act = some t → I t)
    (pays : ∀ s act t, I s → step s act = some t → potential t + (if own act then 1 else 0) ≤ potential s + gain act)
    (reach : run step start acts = some last) :
    potential last + acts.countP own ≤ potential start + (acts.map gain).sum := by
  induction acts generalizing start with
  | nil =>
    cases Option.some.inj reach
    exact Nat.le_refl _
  | cons act later ih =>
    rw [run_cons, Option.bind_eq_some_iff] at reach
    obtain ⟨s, taken, rest⟩ := reach
    have bound := ih (keeps start act s first taken) rest
    have paid := pays start act s first taken
    rw [List.countP_cons, List.map_cons, List.sum_cons]
    omega

/-- Where each of the `own` actions climbs by one, and no action goes back, a
run climbs as far as it takes own actions. -/
theorem run_climbs {I : σ → Prop} (height : σ → Nat) (own : α → Bool) {start last : σ} {acts : List α}
    (first : I start) (keeps : ∀ s act t, I s → step s act = some t → I t)
    (climbs : ∀ s act t, I s → step s act = some t → height s + (if own act then 1 else 0) ≤ height t)
    (reach : run step start acts = some last) : height start + acts.countP own ≤ height last := by
  induction acts generalizing start with
  | nil =>
    cases Option.some.inj reach
    exact Nat.le_refl _
  | cons act later ih =>
    rw [run_cons, Option.bind_eq_some_iff] at reach
    obtain ⟨s, taken, rest⟩ := reach
    have above := ih (keeps start act s first taken) rest
    have climbed := climbs start act s first taken
    rw [List.countP_cons]
    omega

/-- A gain that is the same for all actions of one kind. -/
theorem sum_map_gain (p : α → Bool) (gain : Nat) (acts : List α) :
    (acts.map fun act => if p act then gain else 0).sum = gain * acts.countP p := by
  induction acts with
  | nil => rfl
  | cons act later ih =>
    rw [List.map_cons, List.sum_cons, List.countP_cons, ih, Nat.mul_add, Nat.add_comm]
    split
    · rw [Nat.mul_one]
    · rfl

/-- Where a state that is not done can always take an own action that spends
some of the potential, own actions lead to a state that is done. -/
theorem exists_run_spending {I : σ → Prop} (done : σ → Prop) {potential : σ → Nat} {own : α → Bool} {start : σ}
    (first : I start)
    (moves : ∀ s, I s → ¬ done s → ∃ act t, own act = true ∧ step s act = some t ∧ I t ∧ potential t < potential s) :
    ∃ acts last, acts.length ≤ potential start ∧ acts.all own = true ∧ run step start acts = some last ∧ I last ∧
      done last := by
  induction left : potential start using Nat.strongRecOn generalizing start with
  | ind left ih =>
    by_cases finished : done start
    · exact ⟨[], start, Nat.zero_le _, rfl, rfl, first, finished⟩
    · obtain ⟨act, next, owned, taken, kept, spent⟩ := moves start first finished
      obtain ⟨acts, last, short, all, reach, held, finished⟩ := ih _ (left ▸ spent) kept rfl
      refine ⟨act :: acts, last, ?_, ?_, ?_, held, finished⟩
      · rw [List.length_cons]
        omega
      · rw [List.all_cons, owned, Bool.true_and]
        exact all
      · rw [run_cons, taken, Option.bind_some]
        exact reach

/-- The same where all own actions spend and every action keeps the invariant. -/
theorem exists_run_done {I : σ → Prop} (done : σ → Prop) {potential : σ → Nat} {own : α → Bool} {start : σ}
    (first : I start) (keeps : ∀ s act t, I s → step s act = some t → I t)
    (spends : ∀ s act t, I s → own act = true → step s act = some t → potential t < potential s)
    (moves : ∀ s, I s → ¬ done s → ∃ act t, own act = true ∧ step s act = some t) :
    ∃ acts last, acts.length ≤ potential start ∧ acts.all own = true ∧ run step start acts = some last ∧
      done last := by
  obtain ⟨acts, last, short, all, reach, _, finished⟩ := exists_run_spending done first fun s held runs => by
    obtain ⟨act, t, owned, taken⟩ := moves s held runs
    exact ⟨act, t, owned, taken, keeps s act t held taken, spends s act t held owned taken⟩
  exact ⟨acts, last, short, all, reach, finished⟩

end Foundation
