import RsipstackServer.Foundation.CasLoop
import RsipstackServer.Foundation.Potential

namespace Foundation
universe u v
variable {ι : Type u} {α : Type v}

def CasAct.caller : CasAct ι → ι
  | .load caller _ => caller
  | .exchange caller _ => caller

def CasAct.age : CasAct ι → Nat
  | .load _ age => age
  | .exchange _ age => age

/-- A cell with the place in its modification order that each caller has seen. -/
structure ViewState (ι : Type u) (α : Type v) where
  cell : CasState ι α
  view : ι → Nat

def ViewState.start (first : α) : ViewState ι α :=
  { cell := .start first, view := fun _ => 0 }

/-- The accesses since the last exchange. -/
def CasPhase.loads : CasPhase α → Nat
  | .loading => 0
  | .exchanging .. | .stuck => 1

/-- How far a caller has come: two accesses for each place of the order that
it has seen, and a load that no exchange has followed yet. -/
def ViewState.pace (s : ViewState ι α) (caller : ι) : Nat :=
  2 * s.view caller + (s.cell.phase caller).loads

/-- What a caller is about to exchange is the value at its view. -/
structure ViewState.Coherent (s : ViewState ι α) : Prop where
  length : s.cell.older.length = s.cell.taken.length
  view : ∀ caller, s.view caller ≤ s.cell.older.length
  loaded : ∀ caller loaded next, s.cell.phase caller = .exchanging loaded next →
    s.cell.seen (s.cell.older.length - s.view caller) = some loaded

theorem ViewState.Coherent.start {first : α} : (ViewState.start first : ViewState ι α).Coherent where
  length := by rfl
  view := by
    intro caller
    exact Nat.zero_le _
  loaded := by
    intro caller loaded next exchanging
    cases exchanging

theorem ViewState.Coherent.pace_le {s : ViewState ι α} (coherent : s.Coherent) (caller : ι) :
    s.pace caller ≤ 2 * s.cell.taken.length + 1 := by
  have view := coherent.view caller
  have length := coherent.length
  have loads : (s.cell.phase caller).loads ≤ 1 := by cases s.cell.phase caller <;> simp [CasPhase.loads]
  unfold pace
  omega

variable [DecidableEq ι]

/-- Coherence of the accesses to one cell: a caller never sees a value older
than one that it has seen, its own exchanges included. -/
def viewStep [DecidableEq α] (update : α → Option α) (s : ViewState ι α) (act : CasAct ι) : Option (ViewState ι α) :=
  if s.view act.caller + act.age ≤ s.cell.older.length then
    (casStep update s.cell act).map fun cell =>
      { cell, view := Function.update s.view act.caller (cell.older.length - act.age) }
  else none

def ViewState.look (s : ViewState ι α) (cell : CasState ι α) (caller : ι) (age : Nat) : ViewState ι α :=
  { cell, view := Function.update s.view caller (cell.older.length - age) }

/-- What one access is: a load, an exchange of the newest value, or an exchange
that fails on another value than the loaded one. -/
inductive Accesses (update : α → Option α) (s : ViewState ι α) : CasAct ι → ViewState ι α → Prop
  | load {caller age value} : s.view caller + age ≤ s.cell.older.length → s.cell.phase caller = .loading →
      s.cell.seen age = some value →
        Accesses update s (.load caller age) (s.look (s.cell.load update caller value) caller age)
  | commit {caller next} : s.view caller ≤ s.cell.older.length →
    s.cell.phase caller = .exchanging s.cell.newest next →
      Accesses update s (.exchange caller 0) (s.look (s.cell.commit caller s.cell.newest next) caller 0)
  | retry {caller age loaded next value} : s.view caller + age ≤ s.cell.older.length →
      s.cell.phase caller = .exchanging loaded next → s.cell.seen age = some value → value ≠ loaded →
      Accesses update s (.exchange caller age) (s.look (s.cell.retry caller) caller age)

theorem accesses_of_step [DecidableEq α] {update : α → Option α} {s t : ViewState ι α} {act : CasAct ι}
    (taken : viewStep update s act = some t) : Accesses update s act t := by
  unfold viewStep at taken
  split at taken
  · rename_i sees
    obtain ⟨cell, moved, same⟩ := Option.map_eq_some_iff.mp taken
    subst same
    cases act with
    | load caller age =>
      simp only [casStep] at moved
      split at moved
      · rename_i value loading atSeen
        cases Option.some.inj moved
        exact .load sees loading atSeen
      · cases moved
    | exchange caller age =>
      simp only [casStep] at moved
      split at moved
      · rename_i loaded next value exchanging atSeen
        split at moved
        · rename_i same
          split at moved
          · rename_i young
            subst same young
            cases Option.some.inj atSeen
            cases Option.some.inj moved
            exact .commit sees exchanging
          · cases moved
        · rename_i changed
          cases Option.some.inj moved
          exact .retry sees exchanging atSeen changed
      · cases moved
  · cases taken

variable {update : α → Option α} {s t : ViewState ι α} {act : CasAct ι}

theorem Accesses.others (access : Accesses update s act t) {other : ι} (apart : other ≠ act.caller) :
    t.view other = s.view other ∧ t.cell.phase other = s.cell.phase other := by
  cases access <;> exact ⟨Function.update_of_ne apart .., Function.update_of_ne apart ..⟩

/-- The order only grows at its end, and what a caller saw stays in its place. -/
theorem Accesses.keeps (access : Accesses update s act t) :
    s.cell.older.length ≤ t.cell.older.length ∧ ∀ place, place ≤ s.cell.older.length →
      t.cell.seen (t.cell.older.length - place) = s.cell.seen (s.cell.older.length - place) := by
  cases access with
  | load | retry => exact ⟨Nat.le_refl _, fun _ _ => rfl⟩
  | commit =>
    refine ⟨Nat.le_succ _, fun place inside => ?_⟩
    have lower : s.cell.older.length + 1 - place = s.cell.older.length - place + 1 := by omega
    simp only [ViewState.look, CasState.commit, List.length_cons, lower, CasState.seen, List.getElem?_cons_succ]

theorem CasState.load_phase_self {s : CasState ι α} {caller : ι} {value : α} :
    ((s.load update caller value).phase caller).loads = 1 := by
  simp only [load, Function.update_self]
  split <;> rfl

theorem CasState.load_exchanging {s : CasState ι α} {caller : ι} {value loaded next : α}
    (exchanging : (s.load update caller value).phase caller = .exchanging loaded next) : loaded = value := by
  simp only [load, Function.update_self] at exchanging
  split at exchanging
  · cases exchanging
    rfl
  · cases exchanging

theorem ViewState.Coherent.step (coherent : s.Coherent) (access : Accesses update s act t) : t.Coherent := by
  obtain ⟨grows, keeps⟩ := access.keeps
  refine ⟨?_, fun caller => ?_, fun caller loaded next exchanging => ?_⟩
  · cases access with
    | load | retry => exact coherent.length
    | commit => simp [look, CasState.commit, coherent.length]
  · by_cases mine : caller = act.caller
    · subst mine
      cases access <;> simp [look, CasAct.caller]
    · rw [(access.others mine).1]
      exact (coherent.view caller).trans grows
  · by_cases mine : caller = act.caller
    · subst mine
      cases access with
      | @load caller age value sees loading atSeen =>
        have place : s.cell.older.length - (s.cell.older.length - age) = age := by omega
        simp only [look, CasAct.caller, Function.update_self, CasState.load, place]
        rw [CasState.load_exchanging exchanging]
        exact atSeen
      | commit | retry => simp [look, CasState.commit, CasState.retry, CasAct.caller] at exchanging
    · rw [(access.others mine).2] at exchanging
      rw [(access.others mine).1, keeps _ (coherent.view caller)]
      exact coherent.loaded caller loaded next exchanging

/-- Each access takes its caller on by one and leaves all others where they
are. An exchange that fails has seen a later value than the loaded one. -/
theorem Accesses.pace (access : Accesses update s act t) (coherent : s.Coherent) (caller : ι) :
    s.pace caller + (if act.caller = caller then 1 else 0) ≤ t.pace caller := by
  by_cases mine : act.caller = caller
  · subst mine
    rw [if_pos rfl]
    cases access with
    | @load caller age value sees loading atSeen =>
      have before : (s.cell.phase caller).loads = 0 := by rw [loading, CasPhase.loads]
      simp only [ViewState.pace, ViewState.look, CasAct.caller, Function.update_self, before,
        CasState.load_phase_self]
      simp only [CasState.load]
      omega
    | @commit caller next sees atNewest =>
      simp only [ViewState.pace, ViewState.look, CasAct.caller, Function.update_self, CasState.commit, atNewest,
        CasPhase.loads, List.length_cons]
      omega
    | @retry caller age loaded next value sees exchanging atSeen changed =>
      have later : s.view caller ≠ s.cell.older.length - age := by
        intro same
        have atView := coherent.loaded caller loaded next exchanging
        have place : s.cell.older.length - s.view caller = age := by omega
        rw [place, atSeen] at atView
        exact changed (Option.some.inj atView)
      simp only [ViewState.pace, ViewState.look, CasAct.caller, Function.update_self, CasState.retry, exchanging,
        CasPhase.loads]
      omega
  · obtain ⟨view, phase⟩ := access.others (Ne.symm mine)
    rw [if_neg mine, ViewState.pace, ViewState.pace, view, phase]
    exact Nat.le_refl _

variable [DecidableEq α] {first : α} {acts : List (CasAct ι)}

theorem viewRun_coherent (reach : run (viewStep update) (.start first) acts = some s) : s.Coherent :=
  run_invariant .start (fun _ _ _ coherent taken => coherent.step (accesses_of_step taken)) reach

/-- Forgetting the views leaves a run of the loop. -/
theorem viewRun_cell {start : ViewState ι α} (reach : run (viewStep update) start acts = some s) :
    run (casStep update) start.cell acts = some s.cell := by
  induction acts using List.reverseRecOn generalizing s with
  | nil =>
    cases Option.some.inj reach
    rfl
  | append_singleton past act ih =>
    obtain ⟨before, there, taken⟩ := run_concat_iff.mp reach
    unfold viewStep at taken
    split at taken
    · obtain ⟨cell, moved, same⟩ := Option.map_eq_some_iff.mp taken
      subst same
      exact run_concat_iff.mpr ⟨before.cell, ih there, moved⟩
    · cases taken

/-- Lock-freedom, one caller's side: its accesses are paid for by the exchanges
that succeeded, no matter whose they are. -/
theorem viewRun_steps (reach : run (viewStep update) (.start first) acts = some s) (caller : ι) :
    acts.countP (fun act => act.caller = caller) ≤ 2 * s.cell.taken.length + 1 := by
  have climbed := run_climbs (fun s : ViewState ι α => s.pace caller) (fun act : CasAct ι => act.caller = caller)
    ViewState.Coherent.start (fun _ _ _ coherent taken => coherent.step (accesses_of_step taken))
    (fun _ _ _ coherent taken => by simpa using (accesses_of_step taken).pace coherent caller) reach
  exact (Nat.le_add_left ..).trans (climbed.trans ((viewRun_coherent reach).pace_le caller))

/-- A list is no longer than what the keys of its entries have shares for. -/
theorem length_le_shares {β : Type v} {key : β → ι} {keys : List ι} {share : Nat} {entries : List β}
    (inside : ∀ entry ∈ entries, key entry ∈ keys) (each : ∀ k, entries.countP (fun entry => key entry = k) ≤ share) :
    entries.length ≤ keys.length * share := by
  induction keys generalizing entries with
  | nil =>
    cases entries with
    | nil => exact Nat.zero_le _
    | cons entry rest => cases inside entry List.mem_cons_self
  | cons k rest ih =>
    have here := each k
    have split := List.length_eq_length_filter_add (fun entry => decide (key entry = k)) (l := entries)
    have others : (entries.filter fun entry => !decide (key entry = k)).length ≤ rest.length * share := by
      refine ih (fun entry member => ?_) fun other => ?_
      · obtain ⟨member, apart⟩ := List.mem_filter.mp member
        have apart : key entry ≠ k := by simpa using apart
        exact (List.mem_cons.mp (inside entry member)).resolve_left apart
      · exact (List.filter_sublist.countP_le).trans (each other)
    rw [List.countP_eq_length_filter] at here
    rw [List.length_cons, Nat.succ_mul]
    omega

/-- Lock-freedom of the loop: among `callers`, whatever the interleaving, so
many accesses cannot happen without an exchange that succeeds. -/
theorem viewRun_length_le (reach : run (viewStep update) (.start first) acts = some s) {callers : List ι}
    (inside : ∀ act ∈ acts, act.caller ∈ callers) : acts.length ≤ callers.length * (2 * s.cell.taken.length + 1) :=
  length_le_shares inside (viewRun_steps reach)

variable (update) in
theorem ViewState.Coherent.exchanges (coherent : s.Coherent) {caller : ι} {next : α}
    (exchanging : s.cell.phase caller = .exchanging s.cell.newest next) :
    ∃ t, viewStep update s (.exchange caller 0) = some t ∧
      t.cell.taken = s.cell.taken ++ [(caller, s.cell.newest)] := by
  have sees := coherent.view caller
  simp [viewStep, CasAct.caller, CasAct.age, sees, casStep, exchanging, CasState.seen, CasState.commit]

theorem ViewState.Coherent.loads (coherent : s.Coherent) {caller : ι} {next : α}
    (loading : s.cell.phase caller = .loading) (computed : update s.cell.newest = some next) :
    ∃ alone t, alone.length ≤ 2 ∧ (∀ act ∈ alone, act.caller = caller) ∧ run (viewStep update) s alone = some t ∧
      t.cell.taken = s.cell.taken ++ [(caller, s.cell.newest)] := by
  have sees := coherent.view caller
  have load : viewStep update s (.load caller 0) =
    some (s.look (s.cell.load update caller s.cell.newest) caller 0) := by
    simp [viewStep, CasAct.caller, CasAct.age, sees, casStep, loading, CasState.seen, look]
  have exchanging : (s.cell.load update caller s.cell.newest).phase caller = .exchanging s.cell.newest next := by
    simp [CasState.load, computed]
  obtain ⟨t, exchange, taken⟩ := (coherent.step (accesses_of_step load)).exchanges update exchanging
  refine ⟨[.load caller 0, .exchange caller 0], t, by simp, by simp [CasAct.caller], ?_, taken⟩
  rw [run_cons, load, Option.bind_some, run_singleton]
  exact exchange

/-- A caller that nobody disturbs is through after three accesses at most: its
pending exchange may fail once. -/
theorem ViewState.Coherent.finishes (coherent : s.Coherent) {caller : ι} {next : α}
    (moving : s.cell.phase caller ≠ .stuck) (computed : update s.cell.newest = some next) :
    ∃ alone t, alone.length ≤ 3 ∧ (∀ act ∈ alone, act.caller = caller) ∧ run (viewStep update) s alone = some t ∧
      t.cell.taken = s.cell.taken ++ [(caller, s.cell.newest)] := by
  cases phase : s.cell.phase caller with
  | loading =>
    obtain ⟨alone, t, short, own, reach, taken⟩ := coherent.loads phase computed
    exact ⟨alone, t, by omega, own, reach, taken⟩
  | stuck => exact absurd phase moving
  | exchanging loaded later =>
    by_cases fresh : s.cell.newest = loaded
    · subst fresh
      obtain ⟨t, exchange, taken⟩ := coherent.exchanges update phase
      exact ⟨[.exchange caller 0], t, by simp, by simp [CasAct.caller], by rw [run_singleton, exchange], taken⟩
    · have retry : viewStep update s (.exchange caller 0) = some (s.look (s.cell.retry caller) caller 0) := by
        simp [viewStep, CasAct.caller, CasAct.age, coherent.view caller, casStep, phase, CasState.seen, fresh, look]
      have loading : (s.cell.retry caller).phase caller = .loading := by simp [CasState.retry]
      obtain ⟨alone, t, short, own, reach, taken⟩ := (coherent.step (accesses_of_step retry)).loads loading computed
      refine ⟨.exchange caller 0 :: alone, t, ?_, ?_, ?_, taken⟩
      · rw [List.length_cons]
        omega
      · intro act member
        rcases List.mem_cons.mp member with first | rest
        · rw [first, CasAct.caller]
        · exact own act rest
      · rw [run_cons, retry, Option.bind_some]
        exact reach

end Foundation
