import RsipstackServer.SipServerSteps

namespace RsipstackServer
open Foundation

/-- Every transaction that arrived waits in the queue or was taken off it
once, in order. The loop has returned at most because the channel is closed
and empty, and before that it takes the next transaction up, whatever became
of the earlier ones. -/
structure SipServer.RoutesEach (s : SipServer) : Prop where
  once : s.routed.map Routed.transaction ++ s.incoming = s.arrived
  returns : ∀ ok, s.finished = some (.requests ok) → ok = true ∧ s.incoming = [] ∧ s.incomingClosed = true
  goesOn : s.finished = none → ∀ tx rest surroundings, s.incoming = tx :: rest →
    sipStep s (.request surroundings) = some (s.handleTransaction rest (s.receive tx surroundings))

/-- A reply that the request loop makes fails. -/
def ReplyFails (s : SipServer) (act : SipAct) : Prop :=
  ∃ surroundings tx rest, act = .request surroundings ∧ s.finished = none ∧ s.incoming = tx :: rest ∧
    (s.receive tx surroundings).ReplyFails

/-- What holds of the queue in every state. -/
structure Queued (s : SipServer) : Prop where
  once : s.routed.map Routed.transaction ++ s.incoming = s.arrived
  returned : s.finished = some (.requests true) → s.incoming = [] ∧ s.incomingClosed = true

namespace SipServer

theorem processIncomingRequests_cons {s : SipServer} {tx : Transaction} {rest : List Transaction}
    {surroundings : Surroundings} (running : s.finished = none) (queue : s.incoming = tx :: rest) :
    sipStep s (.request surroundings) = some (s.handleTransaction rest (s.receive tx surroundings)) := by
  simp only [sipStep, running, Option.isNone_none, if_true, processIncomingRequests, queue]

theorem Moves.queued {s t : SipServer} {act : SipAct} (step : Moves s act t) (queued : Queued s) : Queued t := by
  cases step with
  | hands | misses | counts | ends | handles | drains | wakes | findsEmpty | findsDialogs | cancels =>
    exact ⟨queued.once, queued.returned⟩
  | closes => exact ⟨queued.once, fun ended => ⟨(queued.returned ended).1, rfl⟩⟩
  | @arrives tx unclosed =>
    refine ⟨?_, ?_⟩
    · rw [← List.append_assoc, queued.once]
    · intro ended
      have closed := (queued.returned ended).2
      rw [unclosed] at closed
      cases closed
  | @routes surroundings tx rest running queue =>
    rw [handleTransaction_eq running]
    refine ⟨?_, ?_⟩
    · rw [← queued.once, queue, List.map_append, List.append_assoc]
      rfl
    · intro ended
      rcases (s.receive tx surroundings).ending_cases with ⟨goes, _⟩ | ⟨stops, _⟩
      · cases goes.symm.trans ended
      · cases stops.symm.trans ended
  | returns running empty closed => exact ⟨queued.once, fun _ => ⟨empty, closed⟩⟩
  | leaves => exact ⟨queued.once, nofun⟩

theorem Moves.stopped {s t : SipServer} {act : SipAct} (step : Moves s act t) (stopped : s.finished ≠ none) :
    t.finished ≠ none := by
  cases step with
  | arrives | closes | hands | misses | counts | ends | handles | drains | wakes | findsEmpty | findsDialogs
  | cancels =>
    exact stopped
  | routes running => exact absurd running stopped
  | returns | leaves => nofun

end SipServer

/-- The loop does its duty exactly as long as it was not left for a reply. -/
theorem Queued.routes_iff {s : SipServer} (queued : Queued s) :
    s.RoutesEach ↔ s.finished ≠ some (.requests false) := by
  constructor
  · intro routes ended
    cases (routes.returns false ended).1
  · intro stays
    refine ⟨queued.once, ?_, fun running _ _ _ queue => SipServer.processIncomingRequests_cons running queue⟩
    intro ok ended
    cases ok with
    | false => exact absurd ended stays
    | true => exact ⟨rfl, queued.returned ended⟩

theorem SipServer.Moves.stays_iff {s t : SipServer} {act : SipAct} (step : Moves s act t)
    (before : s.finished ≠ some (.requests false)) :
    t.finished ≠ some (.requests false) ↔ ¬ ReplyFails s act := by
  have elsewhere (other : ∀ surroundings tx rest, act = .request surroundings → s.incoming ≠ tx :: rest)
      (after : t.finished ≠ some (.requests false)) : t.finished ≠ some (.requests false) ↔ ¬ ReplyFails s act := by
    refine iff_of_true after ?_
    rintro ⟨surroundings, tx, rest, same, _, queue, _⟩
    exact other surroundings tx rest same queue
  cases step with
  | arrives | closes | hands | misses | counts | ends | handles | drains | wakes | findsEmpty | findsDialogs
  | cancels =>
    exact elsewhere (fun _ _ _ same => by cases same) before
  | leaves => exact elsewhere (fun _ _ _ same => by cases same) nofun
  | returns running empty closed =>
    refine elsewhere (fun _ _ _ _ queue => ?_) nofun
    rw [empty] at queue
    cases queue
  | @routes surroundings tx rest running queue =>
    rw [handleTransaction_eq running]
    rcases (s.receive tx surroundings).ending_cases with ⟨goes, sent⟩ | ⟨stops, fails⟩
    · refine iff_of_true ?_ ?_
      · intro ended
        cases goes.symm.trans ended
      · rintro ⟨_, _, _, same, _, there, fails⟩
        cases same
        rw [queue] at there
        cases there
        exact sent fails
    · exact iff_of_false (fun stays => stays stops)
        (fun none => none ⟨surroundings, tx, rest, rfl, running, queue, fails⟩)

theorem queued_start (drainToken : Bool) : Queued (.start drainToken) := ⟨rfl, nofun⟩

/-- Along a run every transaction is routed once and the loop returns only
with its channel, exactly if none of its replies fails. -/
theorem routesEach_iff {drainToken : Bool} {acts : List SipAct} {last : SipServer}
    (reach : run sipStep (.start drainToken) acts = some last) :
    (∀ s, Visits sipStep (.start drainToken) acts s → s.RoutesEach) ↔
      ∀ s act, Takes sipStep (.start drainToken) acts s act → ¬ ReplyFails s act := by
  refine visits_iff_takes (I := Queued) (queued_start drainToken) ?_ ?_ ?_ reach
  · exact (queued_start drainToken).routes_iff.mpr nofun
  · exact fun s act t queued step => (SipServer.moves_of_step step).queued queued
  · intro s act t queued before step
    have moved := SipServer.moves_of_step step
    rw [(moved.queued queued).routes_iff]
    exact moved.stays_iff (queued.routes_iff.mp before)

/-- The loop by itself, on a queue of any length and with any answers of what
surrounds it, takes all transactions off the queue and goes on exactly if none
of its replies fails. -/
theorem takesAll_iff {s : SipServer} {answers : List Surroundings} (running : s.finished = none)
    (each : answers.length = s.incoming.length) :
    (∃ t, run sipStep s (answers.map SipAct.request) = some t ∧ t.finished = none ∧ t.incoming = [] ∧
      t.routed = s.routed ++ List.zipWith s.receive s.incoming answers) ↔
    ∀ routed ∈ List.zipWith s.receive s.incoming answers, ¬ routed.ReplyFails := by
  induction answers generalizing s with
  | nil =>
    have empty : s.incoming = [] := List.length_eq_zero_iff.mp each.symm
    rw [empty]
    refine iff_of_true ⟨s, rfl, running, empty, (List.append_nil _).symm⟩ nofun
  | cons surroundings later ih =>
    obtain ⟨tx, rest, queue⟩ : ∃ tx rest, s.incoming = tx :: rest := List.exists_cons_of_length_eq_add_one each.symm
    rw [queue] at each
    rw [queue, List.zipWith_cons_cons, List.forall_mem_cons, List.map_cons, run_cons,
      SipServer.processIncomingRequests_cons running queue, Option.bind_some, SipServer.handleTransaction_eq running]
    rcases (s.receive tx surroundings).ending_cases with ⟨goes, sent⟩ | ⟨stops, fails⟩
    · rw [goes]
      have next := ih (s := { s with
        incoming := rest
        routed := s.routed ++ [s.receive tx surroundings]
        dialogs := s.dialogs ++ (s.receive tx surroundings).route.dialogs
        metrics.callsDialogNotFound := s.metrics.callsDialogNotFound + (s.receive tx surroundings).route.notFound
        finished := none }) rfl (Nat.succ.inj each)
      simp only [List.append_assoc] at next
      refine next.trans ?_
      exact (and_iff_right sent).symm
    · refine iff_of_false ?_ (fun none => none.1 fails)
      rintro ⟨t, reach, unfinished, _⟩
      have stopped : t.finished ≠ none :=
        run_invariant (P := fun s => s.finished ≠ none) (by rw [stops]; nofun)
          (fun _ _ _ stopped step => (SipServer.moves_of_step step).stopped stopped) reach
      exact stopped unfinished

def registration : Transaction := ⟨.register, .parsed none⟩

def strayBye : Transaction := ⟨.other, .parsed (some [])⟩

/-- Four transactions of different kinds, and then the end of the channel. -/
def fourRequests : List SipAct :=
  [.arrive keepAlive, .arrive strayBye, .request replying, .arrive freshInvite, .arrive registration,
    .request replying, .request replying, .closeIncoming, .request replying, .request replying]

theorem routesEach_fourRequests : ∃ last, run sipStep (.start false) fourRequests = some last ∧
    last.finished = some (.requests true) ∧
    ((∀ s, Visits sipStep (.start false) fourRequests s → s.RoutesEach) ↔
      ∀ s act, Takes sipStep (.start false) fourRequests s act → ¬ ReplyFails s act) := by
  have ended : (run sipStep (.start false) fourRequests).map SipServer.finished = some (some (.requests true)) := by
    decide +kernel
  refine exists_of_run (by decide +kernel) fun last reach => ⟨?_, routesEach_iff reach⟩
  rw [reach] at ended
  exact Option.some.inj ended

/-- The reply to one in-dialog request without a dialog cannot be sent. The
loop returns with its channel open, and leaves an INVITE in the queue. -/
def lostReply : List SipAct := [.arrive strayBye, .arrive freshInvite, .request ⟨false, .created, false⟩]

theorem routesEach_fails : ∃ last, run sipStep (.start false) lostReply = some last ∧
    last.finished = some (.requests false) ∧ last.incoming = [freshInvite] ∧ last.incomingClosed = false ∧
    ¬ last.RoutesEach := by
  have ended : (run sipStep (.start false) lostReply).map (fun s => (s.finished, s.incoming, s.incomingClosed)) =
      some (some (.requests false), [freshInvite], false) := by decide +kernel
  refine exists_of_run (by decide +kernel) fun last reach => ?_
  rw [reach] at ended
  obtain ⟨stopped, rest⟩ := Prod.mk.inj (Option.some.inj ended)
  obtain ⟨queue, unclosed⟩ := Prod.mk.inj rest
  refine ⟨stopped, queue, unclosed, fun routes => ?_⟩
  cases (routes.returns false stopped).1

end RsipstackServer
