import RsipstackServer.SipServerSteps

namespace RsipstackServer
open Foundation

/-- The next step of the drain monitor is its cancel. -/
def SipServer.AboutToCancel (s : SipServer) : Prop := s.monitor = .foundEmpty

/-- The request loop creates a dialog after the check of the drain monitor and
before its cancel. -/
def CreatesInWindow (s : SipServer) (act : SipAct) : Prop :=
  s.AboutToCancel ∧ ∃ surroundings tx rest, act = .request surroundings ∧ s.finished = none ∧
    s.incoming = tx :: rest ∧
    (s.receive tx surroundings).route = .newDialog

/-- The drain monitor cancels the server while the layer holds a dialog. -/
def CancelsOccupied (s : SipServer) (act : SipAct) : Prop := act = .monitor ∧ s.AboutToCancel ∧ ¬ s.LayerEmpty

/-- An OPTIONS request outside of a dialog. -/
def Transaction.IsKeepAlive (tx : Transaction) : Prop := tx.hasToTag = false ∧ tx.method = .options

/-- No keep-alive is answered after one that was left unanswered. -/
def SipServer.StaysSilent (s : SipServer) : Prop :=
  s.routed.Pairwise fun earlier later =>
    earlier.transaction.IsKeepAlive → earlier.route = .unanswered → later.transaction.IsKeepAlive →
      later.route ≠ .reply .ok

/-- No keep-alive is answered that was taken up after `start_drain`, or after
one that was left unanswered. -/
structure SipServer.KeepsSilent (s : SipServer) : Prop where
  drained : ∀ routed ∈ s.routed, routed.transaction.IsKeepAlive → routed.draining = true → routed.route ≠ .reply .ok
  stays : s.StaysSilent

/-- The request loop takes up a keep-alive after `start_drain` and before the
drain monitor has lowered the flag. -/
def AnswersDraining (s : SipServer) (act : SipAct) : Prop :=
  s.drainToken = true ∧ s.respondToOptions = true ∧
    ∃ surroundings tx rest, act = .request surroundings ∧ s.finished = none ∧ s.incoming = tx :: rest ∧ tx.IsKeepAlive

namespace SipServer

/-- Only the step after an empty check cancels. -/
theorem drainMonitor_cancels {s t : SipServer} (step : s.drainMonitor = some t) (before : s.cancelToken = false)
    (after : t.cancelToken = true) : s.AboutToCancel := by
  cases drainMonitor_cases step with
  | wakes | findsEmpty | findsDialogs => exact Bool.noConfusion (before.symm.trans after)
  | cancels found => exact found

theorem layerEmpty_setDialog {s : SipServer} {i : Nat} {dialog after : ServerDialog} (empty : s.LayerEmpty)
    (entry : s.dialogs[i]? = some dialog) (same : after.inLayer = dialog.inLayer ∨ after.inLayer = false) :
    (s.setDialog i after).LayerEmpty := by
  intro other member
  rcases List.mem_or_eq_of_mem_set member with old | rfl
  · exact empty other old
  · rcases same with kept | left
    · exact kept.trans (empty dialog (List.mem_of_getElem? entry))
    · exact left

theorem Moves.cancels_iff {s t : SipServer} {act : SipAct} (step : Moves s act t)
    (before : s.AboutToCancel → s.LayerEmpty) : (t.AboutToCancel → t.LayerEmpty) ↔ ¬ CreatesInWindow s act := by
  have elsewhere (other : ∀ surroundings, act ≠ .request surroundings) (after : t.AboutToCancel → t.LayerEmpty) :
      (t.AboutToCancel → t.LayerEmpty) ↔ ¬ CreatesInWindow s act := by
    refine iff_of_true after ?_
    rintro ⟨_, surroundings, _, _, same, _⟩
    exact other surroundings same
  cases step with
  | arrives | closes | drains | findsDialogs | leaves => exact elsewhere nofun before
  | wakes | cancels => exact elsewhere nofun nofun
  | findsEmpty polling empty => exact elsewhere nofun fun _ => empty
  | hands entry | misses entry | ends entry =>
    exact elsewhere nofun fun about => layerEmpty_setDialog (before about) entry (Or.inl rfl)
  | @handles i dialog call act after entry =>
    exact elsewhere nofun fun about =>
      layerEmpty_setDialog (s := { s with metrics.calls := after.metrics }) (before about) entry (Or.inl rfl)
  | @counts i dialog reason entry =>
    exact elsewhere nofun fun about =>
      layerEmpty_setDialog (s := { s with metrics.callsTerminated := _ }) (before about) entry (Or.inr rfl)
  | returns running empty =>
    refine iff_of_true before ?_
    rintro ⟨_, _, _, _, _, _, queue, _⟩
    rw [empty] at queue
    cases queue
  | @routes surroundings tx rest running queue =>
    rw [handleTransaction_eq running]
    constructor
    · rintro after ⟨about, _, _, _, same, _, there, fresh⟩
      cases same
      rw [queue] at there
      cases there
      have held := after about .created (by rw [fresh]; exact List.mem_append_right _ (List.mem_singleton_self _))
      cases held
    · intro keeps about
      have old : s.LayerEmpty := before about
      cases route : (s.receive tx surroundings).route with
      | newDialog => exact absurd ⟨about, surroundings, tx, rest, rfl, running, queue, route⟩ keeps
      | existingDialog | reply | unanswered =>
        simp only [Route.dialogs, List.append_nil]
        exact old

/-- With a dialog created in the window, the next step of the monitor cancels
the server under it. -/
theorem Moves.occupied {s t : SipServer} {act : SipAct} (step : Moves s act t) (creates : CreatesInWindow s act) :
    CancelsOccupied t .monitor := by
  obtain ⟨about, surroundings, tx, rest, rfl, running, queue, route⟩ := creates
  cases step with
  | returns _ empty => cases queue.symm.trans empty
  | @routes _ other later _ there =>
    cases queue.symm.trans there
    rw [handleTransaction_eq running, route]
    refine ⟨rfl, about, fun empty => ?_⟩
    cases empty .created (List.mem_append_right _ List.mem_cons_self)

end SipServer

/-- The same at the steps: without a dialog created in the window no step
cancels the server while a dialog exists, and with one the next step of the
monitor would. -/
structure CancelsAtStep (drainToken : Bool) (acts : List SipAct) : Prop where
  never : (∀ s act, Takes sipStep (.start drainToken) acts s act → ¬ CreatesInWindow s act) →
    ∀ s act, Takes sipStep (.start drainToken) acts s act → ¬ CancelsOccupied s act
  next : ∀ s act t, Takes sipStep (.start drainToken) acts s act → sipStep s act = some t → CreatesInWindow s act →
    CancelsOccupied t .monitor

/-- In a run every state in which the drain monitor is about to cancel has an
empty dialog layer, exactly if no INVITE creates a dialog between the check
that found the layer empty and the cancel. -/
theorem cancelsEmpty_iff {drainToken : Bool} {acts : List SipAct} {last : SipServer}
    (reach : run sipStep (.start drainToken) acts = some last) :
    ((∀ s, Visits sipStep (.start drainToken) acts s → s.AboutToCancel → s.LayerEmpty) ↔
      ∀ s act, Takes sipStep (.start drainToken) acts s act → ¬ CreatesInWindow s act) ∧
    CancelsAtStep drainToken acts := by
  have both : (∀ s, Visits sipStep (.start drainToken) acts s → s.AboutToCancel → s.LayerEmpty) ↔
      ∀ s act, Takes sipStep (.start drainToken) acts s act → ¬ CreatesInWindow s act :=
    visits_iff_takes (I := fun _ => True) (P := fun s => s.AboutToCancel → s.LayerEmpty) trivial nofun
      (fun _ _ _ _ _ => trivial) (fun _ _ _ _ before step => (SipServer.moves_of_step step).cancels_iff before) reach
  refine ⟨both, fun none s act taken => ?_,
    fun s act t _ step creates => (SipServer.moves_of_step step).occupied creates⟩
  rintro ⟨_, about, occupied⟩
  exact occupied (both.mpr none s taken.visits about)

/-- A call that is over before the drain monitor checks. -/
def drainedCall : List SipAct :=
  [.arrive freshInvite, .request creating, .calling 0, .startDrain, .monitor, .monitor, .dialogEnds 0 .uacBye,
    .terminated 0, .monitor, .monitor]

theorem cancelsEmpty_drainedCall : ∃ last, run sipStep (.start false) drainedCall = some last ∧
    last.cancelToken = true ∧
    ((∀ s, Visits sipStep (.start false) drainedCall s → s.AboutToCancel → s.LayerEmpty) ↔
      ∀ s act, Takes sipStep (.start false) drainedCall s act → ¬ CreatesInWindow s act) ∧
    CancelsAtStep false drainedCall := by
  have cancelled : (run sipStep (.start false) drainedCall).map SipServer.cancelToken = some true := by decide +kernel
  refine exists_of_run (by decide +kernel) fun last reach => ⟨?_, cancelsEmpty_iff reach⟩
  rw [reach] at cancelled
  exact Option.some.inj cancelled

/-- An INVITE is taken up between the check and the cancel. -/
def lateInvite : List SipAct := [.startDrain, .monitor, .monitor, .arrive freshInvite, .request creating]

/-- The drain monitor cancels the server while the layer holds a live dialog. -/
theorem cancelsEmpty_fails : ∃ s t, run sipStep (.start false) lateInvite = some s ∧ s.cancelToken = false ∧
    sipStep s .monitor = some t ∧ t.cancelToken = true ∧ ¬ s.LayerEmpty := by
  have state : (run sipStep (.start false) lateInvite).map
      (fun s => (s.cancelToken, s.monitor, decide s.LayerEmpty)) = some (false, .foundEmpty, false) := by
        decide +kernel
  obtain ⟨s, reach, same⟩ := Option.map_eq_some_iff.mp state
  obtain ⟨uncancelled, rest⟩ := Prod.mk.inj same
  obtain ⟨found, held⟩ := Prod.mk.inj rest
  have cancels : sipStep s .monitor = some { s with cancelToken := true, monitor := .polling } := by
    simp only [sipStep, SipServer.drainMonitor, found]
  exact ⟨s, _, reach, uncancelled, cancels, rfl, of_decide_eq_false held⟩

theorem Routed.route_keepAlive {routed : Routed} (keepAlive : routed.transaction.IsKeepAlive) :
    routed.route = if routed.respondToOptions then .reply .ok else .unanswered := by
  obtain ⟨outside, options⟩ := keepAlive
  rw [route, Transaction.route, outside, if_neg nofun, options]

/-- What holds in every state: a keep-alive is left unanswered only once the
flag is down. -/
def SilentFlag (s : SipServer) : Prop :=
  ∀ routed ∈ s.routed, routed.transaction.IsKeepAlive → routed.route = .unanswered → s.respondToOptions = false

namespace SipServer

theorem Moves.silentFlag {s t : SipServer} {act : SipAct} (step : Moves s act t) (silent : SilentFlag s) :
    SilentFlag t := by
  cases step with
  | arrives | closes | returns | hands | misses | counts | ends | handles | drains | findsEmpty | findsDialogs
    | cancels
  | leaves => exact silent
  | wakes => exact fun _ _ _ _ => rfl
  | @routes surroundings tx rest running queue =>
    rw [handleTransaction_eq running]
    intro routed member keepAlive unanswered
    rcases List.mem_append.mp member with old | new
    · exact silent routed old keepAlive unanswered
    · cases List.mem_singleton.mp new
      rw [Routed.route_keepAlive keepAlive] at unanswered
      cases flag : s.respondToOptions with
      | false => rfl
      | true =>
        rw [show (s.receive tx surroundings).respondToOptions = true from flag] at unanswered
        cases unanswered

theorem Moves.staysSilent {s t : SipServer} {act : SipAct} (step : Moves s act t) (silent : SilentFlag s)
    (before : s.StaysSilent) : t.StaysSilent := by
  cases step with
  | arrives | closes | returns | hands | misses | counts | ends | handles | drains | wakes | findsEmpty | findsDialogs
  | cancels | leaves => exact before
  | @routes surroundings tx rest running queue =>
    rw [handleTransaction_eq running, StaysSilent, List.pairwise_append]
    refine ⟨before, List.pairwise_singleton _ _, ?_⟩
    intro earlier old later new early unanswered keepAlive answered
    cases List.mem_singleton.mp new
    have flag := silent earlier old early unanswered
    rw [Routed.route_keepAlive keepAlive,
      show (s.receive tx surroundings).respondToOptions = false from flag] at answered
    cases answered

theorem Moves.staysSilent_iff {s t : SipServer} {act : SipAct} (step : Moves s act t) (silent : SilentFlag s)
    (before : s.KeepsSilent) : t.KeepsSilent ↔ ¬ AnswersDraining s act := by
  have stays := step.staysSilent silent before.stays
  have elsewhere (other : ∀ surroundings, act ≠ .request surroundings) (after : t.KeepsSilent) :
      t.KeepsSilent ↔ ¬ AnswersDraining s act := by
    refine iff_of_true after ?_
    rintro ⟨_, _, surroundings, _, _, same, _⟩
    exact other surroundings same
  cases step with
  | arrives | closes | hands | misses | counts | ends | handles | drains | wakes | findsEmpty | findsDialogs | cancels
  | leaves => exact elsewhere nofun ⟨before.drained, stays⟩
  | returns running empty =>
    refine iff_of_true ⟨before.drained, stays⟩ ?_
    rintro ⟨_, _, _, _, _, _, _, queue, _⟩
    rw [empty] at queue
    cases queue
  | @routes surroundings tx rest running queue =>
    rw [handleTransaction_eq running] at stays ⊢
    constructor
    · rintro after ⟨drained, answers, _, _, _, same, _, there, keepAlive⟩
      cases same
      rw [queue] at there
      cases there
      have silent := after.drained (s.receive tx surroundings) (List.mem_append_right _ (List.mem_singleton_self _))
        keepAlive drained
      rw [Routed.route_keepAlive keepAlive] at silent
      exact silent (if_pos answers)
    · intro keeps
      refine ⟨?_, stays⟩
      rw [List.forall_mem_append, List.forall_mem_singleton]
      refine ⟨before.drained, fun keepAlive drained answered => ?_⟩
      rw [Routed.route_keepAlive keepAlive] at answered
      cases flag : s.respondToOptions with
      | true => exact keeps ⟨drained, flag, surroundings, tx, rest, rfl, running, queue, keepAlive⟩
      | false =>
        rw [show (s.receive tx surroundings).respondToOptions = false from flag] at answered
        cases answered

end SipServer

/-- Once a keep-alive has gone unanswered, no later one is answered, whatever
the order of the steps. -/
theorem keepAlives_stay_unanswered {drainToken : Bool} {acts : List SipAct} {last : SipServer}
    (reach : run sipStep (.start drainToken) acts = some last) : last.StaysSilent := by
  have first : SilentFlag (.start drainToken) ∧ (SipServer.start drainToken).StaysSilent :=
    ⟨List.forall_mem_nil _, .nil⟩
  have both : SilentFlag last ∧ last.StaysSilent := by
    refine run_invariant (P := fun s => SilentFlag s ∧ s.StaysSilent) first ?_ reach
    rintro s act t ⟨silent, before⟩ step
    have moved := SipServer.moves_of_step step
    exact ⟨moved.silentFlag silent, moved.staysSilent silent before⟩
  exact both.2

/-- No keep-alive of a run is answered after `start_drain`, nor after one that
was left unanswered, exactly if none is taken up between `start_drain` and the
step in which the drain monitor lowers the flag. -/
theorem keepsSilent_iff {drainToken : Bool} {acts : List SipAct} {last : SipServer}
    (reach : run sipStep (.start drainToken) acts = some last) :
    (∀ s, Visits sipStep (.start drainToken) acts s → s.KeepsSilent) ↔
      ∀ s act, Takes sipStep (.start drainToken) acts s act → ¬ AnswersDraining s act := by
  refine visits_iff_takes (I := SilentFlag) (List.forall_mem_nil _) ⟨List.forall_mem_nil _, .nil⟩ ?_ ?_ reach
  · exact fun s act t silent step => (SipServer.moves_of_step step).silentFlag silent
  · exact fun s act t silent before step => (SipServer.moves_of_step step).staysSilent_iff silent before

/-- A keep-alive before the drain, and one after the drain monitor woke. -/
def twoKeepAlives : List SipAct :=
  [.arrive keepAlive, .request replying, .startDrain, .monitor, .arrive keepAlive, .request replying]

theorem keepsSilent_twoKeepAlives : ∃ last, run sipStep (.start false) twoKeepAlives = some last ∧
    last.routed.map Routed.route = [.reply .ok, .unanswered] ∧
    ((∀ s, Visits sipStep (.start false) twoKeepAlives s → s.KeepsSilent) ↔
      ∀ s act, Takes sipStep (.start false) twoKeepAlives s act → ¬ AnswersDraining s act) := by
  have routes : (run sipStep (.start false) twoKeepAlives).map (fun s => s.routed.map Routed.route) =
      some [.reply .ok, .unanswered] := by decide +kernel
  refine exists_of_run (by decide +kernel) fun last reach => ⟨?_, keepsSilent_iff reach⟩
  rw [reach] at routes
  exact Option.some.inj routes

/-- A keep-alive is taken up after `start_drain`, before the drain monitor
runs. -/
def earlyKeepAlive : List SipAct := [.startDrain, .arrive keepAlive, .request replying]

theorem keepsSilent_fails : ∃ last, run sipStep (.start false) earlyKeepAlive = some last ∧
    last.routed = [⟨keepAlive, replying, true, true⟩] ∧ ¬ last.KeepsSilent := by
  have routed : (run sipStep (.start false) earlyKeepAlive).map SipServer.routed =
      some [⟨keepAlive, replying, true, true⟩] := by decide +kernel
  refine exists_of_run (by decide +kernel) fun last reach => ?_
  rw [reach] at routed
  have once := Option.some.inj routed
  refine ⟨once, fun silent => ?_⟩
  exact silent.drained _ (by rw [once]; exact List.mem_singleton_self _) ⟨rfl, rfl⟩ rfl rfl

end RsipstackServer
