import RsipstackServer.Foundation.Run
import Mathlib.Data.List.Range
import Mathlib.Logic.Function.Basic

namespace Foundation
universe u v
variable {ι : Type u} {α : Type v}

/-- Where a caller stands in a loop that loads a cell, computes the next
value and stores it by compare-and-exchange. `stuck` is a caller whose
computation has no result. -/
inductive CasPhase (α : Type v)
  | loading
  | exchanging (loaded next : α)
  | stuck
  deriving DecidableEq

/-- One atomic cell and its callers. `older` holds the values the cell had
before `newest`, latest first, and `taken` the exchanges that succeeded with
the value each of them replaced, oldest first. -/
structure CasState (ι : Type u) (α : Type v) where
  newest : α
  older : List α
  phase : ι → CasPhase α
  taken : List (ι × α)

/-- A relaxed access sees some value of the cell's modification order, and
`age` says how far behind the newest it is. -/
inductive CasAct (ι : Type u)
  | load (caller : ι) (age : Nat)
  | exchange (caller : ι) (age : Nat)

def CasState.seen (s : CasState ι α) (age : Nat) : Option α := (s.newest :: s.older)[age]?

def CasState.start (first : α) : CasState ι α :=
  { newest := first, older := [], phase := fun _ => .loading, taken := [] }

/-- The cell has walked along `orbit`, one place for each exchange taken,
and every value a caller can still see or use lies on that orbit. -/
structure CasState.OnOrbit (update : α → Option α) (orbit : Nat → α) (s : CasState ι α) : Prop where
  newest : s.newest = orbit s.taken.length
  older : ∀ value ∈ s.older, ∃ turn, value = orbit turn
  taken : s.taken.map Prod.snd = (List.range s.taken.length).map orbit
  computed : ∀ caller loaded next, s.phase caller = .exchanging loaded next → update loaded = some next
  moving : ∀ caller, s.phase caller ≠ .stuck

theorem CasState.OnOrbit.seen {update : α → Option α} {orbit : Nat → α} {s : CasState ι α} {age : Nat} {value : α}
    (on : s.OnOrbit update orbit) (atSeen : s.seen age = some value) : ∃ turn, value = orbit turn := by
  rcases List.mem_cons.mp (List.mem_of_getElem? atSeen) with newest | older
  · exact ⟨s.taken.length, newest.trans on.newest⟩
  · exact on.older value older

theorem CasState.OnOrbit.start {update : α → Option α} {orbit : Nat → α} :
    (CasState.start (orbit 0) : CasState ι α).OnOrbit update orbit where
  newest := rfl
  older := by simp [CasState.start]
  taken := rfl
  computed := by intro caller loaded next exchanging; cases exchanging
  moving := by intro caller stuck; cases stuck

variable [DecidableEq ι]

def CasState.load (update : α → Option α) (s : CasState ι α) (caller : ι) (value : α) : CasState ι α :=
  { s with phase := Function.update s.phase caller (match update value with
      | some next => .exchanging value next
      | none => .stuck) }

def CasState.commit (s : CasState ι α) (caller : ι) (loaded next : α) : CasState ι α :=
  { newest := next, older := s.newest :: s.older, phase := Function.update s.phase caller .loading,
    taken := s.taken ++ [(caller, loaded)] }

def CasState.retry (s : CasState ι α) (caller : ι) : CasState ι α :=
  { s with phase := Function.update s.phase caller .loading }

/-- An exchange succeeds only on the newest value, as a read-modify-write
does. One that sees a value other than the loaded one fails and retries. -/
def casStep [DecidableEq α] (update : α → Option α) (s : CasState ι α) : CasAct ι → Option (CasState ι α)
  | .load caller age =>
    match s.phase caller, s.seen age with
    | .loading, some value => some (s.load update caller value)
    | _, _ => none
  | .exchange caller age =>
    match s.phase caller, s.seen age with
    | .exchanging loaded next, some value =>
      if value = loaded then
        if age = 0 then some (s.commit caller loaded next) else none
      else some (s.retry caller)
    | _, _ => none

theorem casStep_cases [DecidableEq α] {update : α → Option α} {s t : CasState ι α} {act : CasAct ι}
    (taken : casStep update s act = some t) :
    (∃ caller age value, s.phase caller = .loading ∧ s.seen age = some value ∧ t = s.load update caller value) ∨
    (∃ caller next, s.phase caller = .exchanging s.newest next ∧ t = s.commit caller s.newest next) ∨
    (∃ caller, t = s.retry caller) := by
  cases act with
  | load caller age =>
    simp only [casStep] at taken
    split at taken
    · rename_i value atPhase atSeen
      exact Or.inl ⟨caller, age, value, atPhase, atSeen, (Option.some.inj taken).symm⟩
    · cases taken
  | exchange caller age =>
    simp only [casStep] at taken
    split at taken
    · rename_i loaded next value atPhase atSeen
      split at taken
      · rename_i same
        split at taken
        · rename_i young
          subst same young
          cases Option.some.inj atSeen
          exact Or.inr (Or.inl ⟨caller, next, atPhase, (Option.some.inj taken).symm⟩)
        · cases taken
      · exact Or.inr (Or.inr ⟨caller, (Option.some.inj taken).symm⟩)
    · cases taken

theorem CasState.OnOrbit.load {update : α → Option α} {orbit : Nat → α} {s : CasState ι α} {caller : ι} {turn : Nat}
    (on : s.OnOrbit update orbit) (advances : ∀ turn, update (orbit turn) = some (orbit (turn + 1))) :
    (s.load update caller (orbit turn)).OnOrbit update orbit where
  newest := on.newest
  older := on.older
  taken := on.taken
  computed := by
    intro other loaded next exchanging
    by_cases same : other = caller
    · subst same
      simp only [CasState.load, Function.update_self, advances] at exchanging
      cases exchanging
      exact advances turn
    · simp only [CasState.load, Function.update_of_ne same] at exchanging
      exact on.computed other loaded next exchanging
  moving := by
    intro other
    by_cases same : other = caller
    · subst same
      simp [CasState.load, advances]
    · simp only [CasState.load, Function.update_of_ne same]
      exact on.moving other

theorem CasState.OnOrbit.retry {update : α → Option α} {orbit : Nat → α} {s : CasState ι α}
    (on : s.OnOrbit update orbit) (caller : ι) : (s.retry caller).OnOrbit update orbit where
  newest := on.newest
  older := on.older
  taken := on.taken
  computed := by
    intro other loaded next exchanging
    by_cases same : other = caller
    · subst same
      simp [CasState.retry] at exchanging
    · simp only [CasState.retry, Function.update_of_ne same] at exchanging
      exact on.computed other loaded next exchanging
  moving := by
    intro other
    by_cases same : other = caller
    · subst same
      simp [CasState.retry]
    · simp only [CasState.retry, Function.update_of_ne same]
      exact on.moving other

theorem CasState.OnOrbit.commit {update : α → Option α} {orbit : Nat → α} {s : CasState ι α} {caller : ι} {next : α}
    (on : s.OnOrbit update orbit) (advances : ∀ turn, update (orbit turn) = some (orbit (turn + 1)))
    (exchanging : s.phase caller = .exchanging s.newest next) :
    (s.commit caller s.newest next).OnOrbit update orbit where
  newest := by
    have value := on.computed caller s.newest next exchanging
    rw [on.newest, advances] at value
    simpa [CasState.commit] using (Option.some.inj value).symm
  older := by
    intro value member
    rcases List.mem_cons.mp member with same | old
    · exact ⟨s.taken.length, same.trans on.newest⟩
    · exact on.older value old
  taken := by
    simp only [CasState.commit, List.map_append, List.length_append, List.length_singleton,
      List.range_succ, List.map_singleton, on.taken, on.newest]
  computed := (on.retry caller).computed
  moving := (on.retry caller).moving

/-- Linearizability of the loop: in every interleaving the successful
exchanges, in the order they happen, replace the values of the sequential
iteration of `update`, and no caller ever gets stuck. -/
theorem casRun_onOrbit [DecidableEq α] {update : α → Option α} {orbit : Nat → α} {s : CasState ι α}
    {acts : List (CasAct ι)} (advances : ∀ turn, update (orbit turn) = some (orbit (turn + 1)))
    (reach : run (casStep update) (CasState.start (orbit 0)) acts = some s) : s.OnOrbit update orbit := by
  refine run_invariant .start ?_ reach
  intro before act after on taken
  rcases casStep_cases taken with ⟨caller, age, value, _, atSeen, rfl⟩ | ⟨caller, next, exchanging, rfl⟩ |
    ⟨caller, rfl⟩
  · obtain ⟨turn, rfl⟩ := on.seen atSeen
    exact on.load advances
  · exact on.commit advances exchanging
  · exact on.retry caller

end Foundation
