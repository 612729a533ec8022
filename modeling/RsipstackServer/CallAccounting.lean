import RsipstackServer.CallOutcome

namespace RsipstackServer
open Foundation

namespace HandledCall

def hasReturned (call : HandledCall) : Bool :=
  match call.phase with
  | .returned _ | .answered .returned => true
  | _ => false

def isAccepted (call : HandledCall) : Bool := decide (⟨.accept, true⟩ ∈ call.responses)

/-- Accepted, and not yet returned. -/
def isActive (call : HandledCall) : Bool := call.isAccepted && !call.hasReturned

/-- Past the decision on its outcome. -/
def isDecided (call : HandledCall) : Bool := call.hasReturned || call.isActive

/-- Returned without a count. -/
def isLost (call : HandledCall) : Bool := call.hasReturned && call.outcomes.isEmpty

end HandledCall

/-- The outcome of every call is counted once and told to its peer. -/
structure CallServer.OneOutcome (s : CallServer) : Prop where
  conserved : s.metrics.callsAccepted.total + s.metrics.callsRejected.total = s.calls.countP HandledCall.isDecided
  once : ∀ call ∈ s.calls, call.outcomes.length ≤ 1
  answered : ∀ call ∈ s.calls, call.hasReturned = true → call.responses ≠ []
  acceptFailed : ∀ call ∈ s.calls, call.hasReturned = true → ⟨.accept, false⟩ ∈ call.responses →
    (∃ reason, .rejected reason ∈ call.outcomes) ∧ ∃ code text ok, ⟨.reject code text, ok⟩ ∈ call.responses
  active : s.metrics.callsActive = s.calls.countP HandledCall.isActive

def CallPhase.Undecided : CallPhase → Prop
  | .answered _ | .returned _ => False
  | .invited | .unparsed _ | .parsed _ | .bound _ | .connected _ | .refused _ | .created _ | .rung _ => True

/-- The records of a call in each of its phases. -/
inductive Consistent : HandledCall → Prop
  | undecided {phase} : phase.Undecided → Consistent ⟨phase, [], []⟩
  | answered {place codec} : Consistent ⟨.answered place, [.accepted codec], [⟨.accept, true⟩]⟩
  | rejected {reason code text ok result} :
    Consistent ⟨.returned result, [.rejected reason], [⟨.reject code text, ok⟩]⟩
  | lost {response result} : Consistent ⟨.returned result, [], [⟨response, false⟩]⟩

/-- The operations with which `handle_call` returns without a count: a failed
`accept`, and a failed rejection of an unusable offer. -/
def HandleAct.Loses (phase : CallPhase) (act : HandleAct) : Prop :=
  act = .accept false ∨ act = .reject false ∧ ∃ e, phase = .unparsed e

/-- Everything that one operation of `handle_call` can do. -/
inductive Handles (h : Handling) (act : HandleAct) : Handling → Prop
  | moves {next} : h.call.phase.Undecided → next.Undecided → ¬ act.Loses h.call.phase → Handles h act (h.enter next)
  | rejects {reason code text ok result} : h.call.phase.Undecided → ¬ act.Loses h.call.phase →
      Handles h act (((h.countRejected reason).respond (.reject code text) ok).enter (.returned result))
  | accepts {codec} : h.call.phase.Undecided → ¬ act.Loses h.call.phase →
      Handles h act (((h.respond .accept true).guardNew.countAccepted codec).enter (.answered .accepted))
  | loses {response result} : h.call.phase.Undecided → act.Loses h.call.phase →
      Handles h act ((h.respond response false).enter (.returned result))
  | proceeds {place next} : h.call.phase = .answered place → place.next = some next → next ≠ .returned →
      ¬ act.Loses h.call.phase → Handles h act (h.enter (.answered next))
  | ends {place} : h.call.phase = .answered place → place ≠ .returned → ¬ act.Loses h.call.phase →
      Handles h act (h.enter (.answered .returned)).guardDrop

theorem not_loses {phase : CallPhase} {act : HandleAct} (accept : act ≠ .accept false)
    (reject : act ≠ .reject false) :
    ¬ act.Loses phase := by
  rintro (same | ⟨same, _⟩)
  · exact accept same
  · exact reject same

theorem handles_of_step {h after : Handling} {act : HandleAct} (step : handleStep h act = some after) :
    Handles h act after := by
  unfold handleStep at step
  split at step
  · rename_i phase
    cases Option.some.inj step
    exact .moves (by rw [phase]; trivial) trivial (not_loses nofun nofun)
  · rename_i phase
    cases Option.some.inj step
    exact .moves (by rw [phase]; trivial) trivial (not_loses nofun nofun)
  · rename_i ok e phase
    cases Option.some.inj step
    cases ok with
    | false => exact .loses (by rw [phase]; trivial) (Or.inr ⟨rfl, e, phase⟩)
    | true => exact .rejects (by rw [phase]; trivial) (not_loses nofun nofun)
  · rename_i found offer phase
    cases Option.some.inj step
    exact .moves (by rw [phase]; trivial) (by cases found <;> trivial) (not_loses nofun nofun)
  · rename_i ok offer phase
    cases Option.some.inj step
    exact .moves (by rw [phase]; trivial) (by cases ok <;> trivial) (not_loses nofun nofun)
  · rename_i ok offer phase
    cases Option.some.inj step
    exact .moves (by rw [phase]; trivial) (by cases ok <;> trivial) (not_loses nofun nofun)
  · rename_i ok refusal phase
    cases Option.some.inj step
    refine .rejects (by rw [phase]; trivial) ?_
    rintro (same | ⟨_, e, unparsed⟩)
    · cases same
    · rw [phase] at unparsed
      cases unparsed
  · rename_i phase
    cases Option.some.inj step
    exact .moves (by rw [phase]; trivial) trivial (not_loses nofun nofun)
  · rename_i ok offer phase
    cases Option.some.inj step
    cases ok with
    | false => exact .loses (by rw [phase]; trivial) (Or.inl rfl)
    | true => exact .accepts (by rw [phase]; trivial) (not_loses nofun nofun)
  · rename_i place phase
    obtain ⟨next, place_next, rfl⟩ := Option.map_eq_some_iff.mp step
    by_cases last : next = .returned
    · rw [if_pos last, last]
      refine .ends phase ?_ (not_loses nofun nofun)
      rintro rfl
      cases place_next
    · rw [if_neg last]
      exact .proceeds phase place_next last (not_loses nofun nofun)
  · cases step

theorem Consistent.blank {call : HandledCall} (consistent : Consistent call) (undecided : call.phase.Undecided) :
    call.outcomes = [] ∧ call.responses = [] := by
  cases consistent with
  | undecided => exact ⟨rfl, rfl⟩
  | answered | rejected | lost => exact undecided.elim

theorem HandledCall.not_returned {call : HandledCall} (undecided : call.phase.Undecided) :
    call.hasReturned = false := by
  obtain ⟨phase, outcomes, responses⟩ := call
  cases phase with
  | answered | returned => exact undecided.elim
  | invited | unparsed | parsed | bound | connected | refused | created | rung => rfl

/-- What one operation keeps: the shape of the record, and the balance between
the record and the metrics. -/
structure Balances (h : Handling) (act : HandleAct) (after : Handling) : Prop where
  consistent : Consistent after.call
  counted : after.metrics.callsAccepted.total + after.metrics.callsRejected.total + h.call.outcomes.length =
    h.metrics.callsAccepted.total + h.metrics.callsRejected.total + after.call.outcomes.length
  active : after.metrics.callsActive + (if h.call.isActive then 1 else 0 : Nat) =
    h.metrics.callsActive + (if after.call.isActive then 1 else 0 : Nat)
  lost : after.call.isLost = true ↔ act.Loses h.call.phase

theorem HandledCall.not_lost {call : HandledCall} (undecided : call.phase.Undecided) : call.isLost = false := by
  rw [isLost, call.not_returned undecided, Bool.false_and]

theorem HandledCall.isActive_answered {place : HandleCall} {outcomes : List Outcome} (before : place ≠ .returned) :
    HandledCall.isActive ⟨.answered place, outcomes, [⟨.accept, true⟩]⟩ = true := by
  cases place with
  | returned => contradiction
  | accepted | started | waiting | sayingBye => rfl

theorem HandledCall.isActive_returned {result : Bool} {outcomes : List Outcome} {responses : List Attempt} :
    HandledCall.isActive ⟨.returned result, outcomes, responses⟩ = false := Bool.and_false _

theorem Handles.balances {h after : Handling} {act : HandleAct} (consistent : Consistent h.call)
    (step : Handles h act after) : Balances h act after := by
  obtain ⟨⟨phase, outcomes, responses⟩, metrics⟩ := h
  cases step with
  | @moves next undecided ahead keeps =>
    obtain ⟨rfl, rfl⟩ : outcomes = [] ∧ responses = [] := consistent.blank undecided
    have kept : HandledCall.isLost ⟨next, [], []⟩ = false := HandledCall.not_lost ahead
    exact ⟨.undecided ahead, rfl, rfl, iff_of_false (Bool.eq_false_iff.mp kept) keeps⟩
  | @rejects reason _ _ _ _ undecided keeps =>
    obtain ⟨rfl, rfl⟩ : outcomes = [] ∧ responses = [] := consistent.blank undecided
    refine ⟨.rejected, ?_, ?_, iff_of_false nofun keeps⟩
    · change metrics.callsAccepted.total + (metrics.callsRejected.increment reason).total =
        metrics.callsAccepted.total + metrics.callsRejected.total + 1
      rw [Counter.total_increment]
      rfl
    · simp only [Handling.enter, Handling.respond, HandledCall.isActive_returned]
      rfl
  | @accepts codec undecided keeps =>
    obtain ⟨rfl, rfl⟩ : outcomes = [] ∧ responses = [] := consistent.blank undecided
    refine ⟨.answered, ?_, ?_, iff_of_false nofun keeps⟩
    · change (metrics.callsAccepted.increment codec).total + metrics.callsRejected.total =
        metrics.callsAccepted.total + metrics.callsRejected.total + 1
      rw [Counter.total_increment]
      omega
    · change metrics.callsActive + 1 + 0 = metrics.callsActive + 1
      rw [add_zero]
  | loses undecided loses =>
    obtain ⟨rfl, rfl⟩ : outcomes = [] ∧ responses = [] := consistent.blank undecided
    refine ⟨.lost, rfl, ?_, iff_of_true rfl loses⟩
    simp only [Handling.enter, Handling.respond, HandledCall.isActive_returned]
    rfl
  | @proceeds place next atPlace step more keeps =>
    cases atPlace
    cases consistent with
    | undecided never => exact never.elim
    | answered =>
      have before : place ≠ .returned := by
        rintro rfl
        cases step
      refine ⟨.answered, rfl, ?_, iff_of_false ?_ keeps⟩
      · simp only [Handling.enter, HandledCall.isActive_answered before, HandledCall.isActive_answered more]
      · cases next with
        | returned => contradiction
        | accepted | started | waiting | sayingBye => nofun
  | @ends place atPlace before keeps =>
    cases atPlace
    cases consistent with
    | undecided never => exact never.elim
    | @answered _ codec =>
      have closed : HandledCall.isActive ⟨.answered .returned, [.accepted codec], [⟨.accept, true⟩]⟩ = false := rfl
      refine ⟨.answered, rfl, ?_, iff_of_false nofun keeps⟩
      simp only [Handling.enter, Handling.guardDrop, HandledCall.isActive_answered before, closed]
      change metrics.callsActive - 1 + 1 = metrics.callsActive + 0
      omega

/-- What holds of the server in every state: each record is consistent, and
the metrics agree with the records. -/
structure Accounted (s : CallServer) : Prop where
  consistent : ∀ call ∈ s.calls, Consistent call
  counted : s.metrics.callsAccepted.total + s.metrics.callsRejected.total =
    (s.calls.map fun call => call.outcomes.length).sum
  active : s.metrics.callsActive = s.calls.countP HandledCall.isActive

/-- A step of the server loses a call. -/
def Loses (s : CallServer) (act : ServerAct) : Prop :=
  ∃ i operation call, act = .handle i operation ∧ s.calls[i]? = some call ∧ operation.Loses call.phase

theorem serverStep_handle {s t : CallServer} {i : Nat} {act : HandleAct}
    (step : serverStep s (.handle i act) = some t) :
    ∃ call after, s.calls[i]? = some call ∧ handleStep ⟨call, s.metrics⟩ act = some after ∧
      t = ⟨s.calls.set i after.call, after.metrics⟩ := by
  obtain ⟨call, entry, rest⟩ := Option.bind_eq_some_iff.mp step
  obtain ⟨after, handled, same⟩ := Option.bind_eq_some_iff.mp rest
  exact ⟨call, after, entry, handled, (Option.some.inj same).symm⟩

theorem Accounted.balances {s : CallServer} {i : Nat} {call : HandledCall} {act : HandleAct} {after : Handling}
    (accounted : Accounted s) (entry : s.calls[i]? = some call)
    (handled : handleStep ⟨call, s.metrics⟩ act = some after) :
    Balances ⟨call, s.metrics⟩ act after :=
  (handles_of_step handled).balances (accounted.consistent call (List.mem_of_getElem? entry))

theorem Accounted.step {s t : CallServer} {act : ServerAct} (accounted : Accounted s)
    (step : serverStep s act = some t) :
    Accounted t := by
  cases act with
  | invite =>
    cases Option.some.inj step
    have fresh : HandledCall.isActive ⟨.invited, [], []⟩ = false := rfl
    refine ⟨?_, ?_, ?_⟩
    · rw [List.forall_mem_append, List.forall_mem_singleton]
      exact ⟨accounted.consistent, .undecided trivial⟩
    · rw [List.map_append, List.sum_append, ← accounted.counted]
      rfl
    · rw [List.countP_append, List.countP_singleton, fresh]
      exact accounted.active
  | handle i act =>
    obtain ⟨call, after, entry, handled, rfl⟩ := serverStep_handle step
    have balances := accounted.balances entry handled
    refine ⟨?_, ?_, ?_⟩
    · intro other member
      rcases List.mem_or_eq_of_mem_set member with old | rfl
      · exact accounted.consistent other old
      · exact balances.consistent
    · have sums := sum_map_set (fun call => call.outcomes.length) after.call entry
      have counted := balances.counted
      have before := accounted.counted
      simp only at sums counted ⊢
      omega
    · have counts := countP_set HandledCall.isActive after.call entry
      have active := balances.active
      have before := accounted.active
      simp only at counts active ⊢
      omega

theorem accounted_start : Accounted .start := by
  refine ⟨by simp [CallServer.start], ?_, rfl⟩
  simp only [CallServer.start, Counter.total_zero]
  rfl

/-- Every decided call is counted exactly once or lost. -/
theorem balance {calls : List HandledCall} (consistent : ∀ call ∈ calls, Consistent call) :
    (calls.map fun call => call.outcomes.length).sum + calls.countP HandledCall.isLost =
      calls.countP HandledCall.isDecided := by
  induction calls with
  | nil => rfl
  | cons call later ih =>
    rw [List.forall_mem_cons] at consistent
    have whole := ih consistent.2
    have own : call.outcomes.length + (if call.isLost then 1 else 0) = if call.isDecided then 1 else 0 := by
      cases consistent.1 with
      | @undecided phase undecided =>
        cases phase with
        | answered | returned => exact undecided.elim
        | invited | unparsed | parsed | bound | connected | refused | created | rung => rfl
      | @answered place => cases place <;> rfl
      | rejected | lost => rfl
    rw [List.map_cons, List.sum_cons, List.countP_cons, List.countP_cons]
    omega

/-- The outcomes are accounted for exactly if no call is lost. -/
theorem Accounted.oneOutcome_iff_none_lost {s : CallServer} (accounted : Accounted s) :
    s.OneOutcome ↔ ∀ call ∈ s.calls, ¬ call.isLost = true := by
  rw [← List.countP_eq_zero]
  have balance := balance accounted.consistent
  have counted := accounted.counted
  constructor
  · intro outcome
    have conserved := outcome.conserved
    omega
  · intro none
    refine ⟨by omega, ?_, ?_, ?_, accounted.active⟩
    · intro call member
      cases accounted.consistent call member with
      | undecided | lost => exact Nat.zero_le 1
      | answered | rejected => exact Nat.le_refl 1
    · intro call member returned
      cases accounted.consistent call member with
      | undecided undecided =>
        rw [HandledCall.not_returned undecided] at returned
        cases returned
      | answered | rejected | lost => nofun
    · intro call member returned failed
      cases accounted.consistent call member with
      | undecided undecided =>
        rw [HandledCall.not_returned undecided] at returned
        cases returned
      | answered => cases List.mem_singleton.mp failed
      | rejected => cases List.mem_singleton.mp failed
      | lost => exact absurd rfl (List.countP_eq_zero.mp none _ member)

theorem oneOutcome_step {s t : CallServer} {act : ServerAct} (accounted : Accounted s) (before : s.OneOutcome)
    (step : serverStep s act = some t) : t.OneOutcome ↔ ¬ Loses s act := by
  rw [(accounted.step step).oneOutcome_iff_none_lost]
  rw [accounted.oneOutcome_iff_none_lost] at before
  cases act with
  | invite =>
    cases Option.some.inj step
    have fresh : HandledCall.isLost ⟨.invited, [], []⟩ = false := rfl
    refine iff_of_true ?_ ?_
    · rw [List.forall_mem_append, List.forall_mem_singleton]
      exact ⟨before, Bool.eq_false_iff.mp fresh⟩
    · rintro ⟨_, _, _, same, _⟩
      cases same
  | handle i act =>
    obtain ⟨call, after, entry, handled, rfl⟩ := serverStep_handle step
    have lost := (accounted.balances entry handled).lost
    constructor
    · rintro none ⟨_, _, _, same, place, loses⟩
      cases same
      rw [entry] at place
      cases place
      exact none after.call (List.mem_set (List.getElem?_eq_some_iff.mp entry).1 _) (lost.mpr loses)
    · intro keeps other member
      rcases List.mem_or_eq_of_mem_set member with old | rfl
      · exact before other old
      · exact fun now => keeps ⟨i, act, call, rfl, entry, lost.mp now⟩

/-- Every call of a run has one outcome, counted and told to its peer, exactly
if in the run no `accept` fails and no rejection of an unusable offer fails. -/
theorem oneOutcome_iff {acts : List ServerAct} {last : CallServer} (reach : run serverStep .start acts = some last) :
    (∀ s, Visits serverStep .start acts s → s.OneOutcome) ↔
      ∀ s act, Takes serverStep .start acts s act → ¬ Loses s act := by
  refine visits_iff_takes accounted_start ?_ (fun _ _ _ => Accounted.step) (fun _ _ _ => oneOutcome_step) reach
  rw [accounted_start.oneOutcome_iff_none_lost]
  nofun

def plainOffer : SdpOffer := ⟨.v4 10 0 0 50, 4000, 0, .pcmu⟩

/-- Two calls at once: one is accepted, and the other finds no free port. -/
def twoCalls : List ServerAct :=
  [.invite, .handle 0 (.parse (.ok plainOffer)), .invite, .handle 0 (.allocate true),
    .handle 1 (.parse (.ok plainOffer)), .handle 0 (.connect true), .handle 1 (.allocate false),
    .handle 0 (.create true), .handle 0 (.ringing true), .handle 1 (.reject true), .handle 0 (.accept true)]

theorem oneOutcome_twoCalls : ∃ last, run serverStep .start twoCalls = some last ∧ last.metrics.callsActive = 1 ∧
    ((∀ s, Visits serverStep .start twoCalls s → s.OneOutcome) ↔
      ∀ s act, Takes serverStep .start twoCalls s act → ¬ Loses s act) := by
  refine exists_of_run (by decide +kernel) fun last reach => ⟨?_, oneOutcome_iff reach⟩
  exact (Option.some.inj (congrArg (Option.map fun s => s.metrics.callsActive) reach)).symm

/-- Where `accept` fails, `handle_call` returns without a count and without a
rejection. -/
theorem oneOutcome_fails : ∃ last, run serverStep .start
      [.invite, .handle 0 (.parse (.ok plainOffer)), .handle 0 (.allocate true), .handle 0 (.connect true),
        .handle 0 (.create true), .handle 0 (.ringing true), .handle 0 (.accept false)] = some last ∧
    last.metrics.callsAccepted.total + last.metrics.callsRejected.total = 0 ∧
    last.calls.countP HandledCall.isDecided = 1 ∧ ¬ last.OneOutcome := by
  refine exists_of_run (by decide +kernel) fun last reach => ?_
  have same := Option.some.inj reach
  subst same
  have uncounted : (Counter.zero : Counter CodecKind).total + (Counter.zero : Counter RejectReason).total = 0 := by
    rw [Counter.total_zero, Counter.total_zero]
  refine ⟨uncounted, rfl, ?_⟩
  intro outcome
  cases uncounted.symm.trans outcome.conserved

end RsipstackServer
