import RsipstackServer.SipServer

namespace RsipstackServer
open Foundation

def Route.dialogs : Route → List ServerDialog
  | .newDialog => [.created]
  | .existingDialog | .reply _ | .unanswered => []

def Route.notFound : Route → Nat
  | .reply .callTransactionDoesNotExist => 1
  | .newDialog | .existingDialog | .reply _ | .unanswered => 0

/-- How the loop ends over a transaction. -/
def Routed.ending (routed : Routed) : Option RunEnd :=
  match routed.route with
  | .reply _ => if routed.surroundings.replyOk then none else some (.requests false)
  | .newDialog | .existingDialog | .unanswered => none

theorem Routed.ending_cases (routed : Routed) :
    routed.ending = none ∧ ¬ routed.ReplyFails ∨ routed.ending = some (.requests false) ∧ routed.ReplyFails := by
  unfold ending ReplyFails
  cases routed.route with
  | reply status =>
    cases sent : routed.surroundings.replyOk with
    | true => exact Or.inl ⟨rfl, fun fails => Bool.noConfusion fails.2⟩
    | false => exact Or.inr ⟨rfl, ⟨status, rfl⟩, rfl⟩
  | newDialog | existingDialog | unanswered =>
    refine Or.inl ⟨rfl, ?_⟩
    rintro ⟨⟨_, same⟩, _⟩
    cases same

namespace SipServer

/-- What one turn of the request loop changes. -/
theorem handleTransaction_eq {s : SipServer} {rest : List Transaction} {routed : Routed}
    (running : s.finished = none) :
    s.handleTransaction rest routed =
      { s with
        incoming := rest
        routed := s.routed ++ [routed]
        dialogs := s.dialogs ++ routed.route.dialogs
        metrics.callsDialogNotFound := s.metrics.callsDialogNotFound + routed.route.notFound
        finished := routed.ending } := by
  obtain ⟨incoming, incomingClosed, arrived, past, dialogs, metrics, drainToken, respondToOptions, monitor,
    cancelToken,
    finished⟩ := s
  cases running
  unfold handleTransaction Routed.ending
  cases routed.route with
  | newDialog => rfl
  | existingDialog | unanswered => simp only [enter, Route.dialogs, Route.notFound, List.append_nil, Nat.add_zero]
  | reply status =>
    cases status <;> cases routed.surroundings.replyOk <;>
      simp [enter, finish, Route.dialogs, Route.notFound]

def setDialog (s : SipServer) (i : Nat) (dialog : ServerDialog) : SipServer :=
  { s with dialogs := s.dialogs.set i dialog }

/-- Everything that one step can do. -/
inductive Moves (s : SipServer) : SipAct → SipServer → Prop
  | arrives {tx} : s.incomingClosed = false →
      Moves s (.arrive tx) { s with incoming := s.incoming ++ [tx], arrived := s.arrived ++ [tx] }
  | closes : Moves s .closeIncoming { s with incomingClosed := true }
  | routes {surroundings tx rest} : s.finished = none → s.incoming = tx :: rest →
      Moves s (.request surroundings) (s.handleTransaction rest (s.receive tx surroundings))
  | returns {surroundings} : s.finished = none → s.incoming = [] → s.incomingClosed = true →
      Moves s (.request surroundings) (s.finish (.requests true))
  | hands {i dialog} : s.dialogs[i]? = some dialog → dialog.task = .calling → dialog.inLayer = true →
      Moves s (.calling i) (s.setDialog i (dialog.withCall ⟨.invited, [], []⟩))
  | misses {i dialog} : s.dialogs[i]? = some dialog → dialog.task = .calling → dialog.inLayer = false →
      Moves s (.calling i) (s.setDialog i { dialog with task := .missed })
  | counts {i dialog reason} : s.dialogs[i]? = some dialog → dialog.ending = .terminated reason →
      Moves s (.terminated i)
        ({ s with metrics.callsTerminated := s.metrics.callsTerminated.increment reason.label }.setDialog i
          { dialog with inLayer := false, ending := .processed reason, terminations := dialog.terminations + 1 })
  | ends {i dialog reason} : s.dialogs[i]? = some dialog → dialog.ending = .live →
      Moves s (.dialogEnds i reason) (s.setDialog i { dialog with ending := .terminated reason })
  | handles {i dialog call act after} : s.dialogs[i]? = some dialog → dialog.call? = some call →
      handleStep ⟨call, s.metrics.calls⟩ act = some after →
      Moves s (.handle i act) ({ s with metrics.calls := after.metrics }.setDialog i (dialog.withCall after.call))
  | drains : Moves s .startDrain { s with drainToken := true }
  | wakes : s.monitor = .waiting → s.drainToken = true →
      Moves s .monitor { s with respondToOptions := false, metrics.drainActive := 1, monitor := .polling }
  | findsEmpty : s.monitor = .polling → s.LayerEmpty → Moves s .monitor { s with monitor := .foundEmpty }
  | findsDialogs : s.monitor = .polling → ¬ s.LayerEmpty → Moves s .monitor s
  | cancels : s.monitor = .foundEmpty → Moves s .monitor { s with cancelToken := true, monitor := .polling }
  | leaves : s.finished = none → Moves s .endpointEnds (s.finish .endpoint)

theorem processIncomingRequests_cases {s t : SipServer} {surroundings : Surroundings} (running : s.finished = none)
    (step : s.processIncomingRequests surroundings = some t) : Moves s (.request surroundings) t := by
  unfold processIncomingRequests at step
  split at step
  · rename_i tx rest queue
    cases Option.some.inj step
    exact .routes running queue
  · rename_i empty
    obtain ⟨closed, same⟩ := Option.ite_none_right_eq_some.mp step
    cases Option.some.inj same
    exact .returns running empty closed

theorem takeCalling_cases {s t : SipServer} {i : Nat} (step : s.takeCalling i = some t) : Moves s (.calling i) t := by
  unfold takeCalling at step
  split at step
  · rename_i inLayer ending terminations entry
    cases Option.some.inj step
    cases inLayer with
    | true => exact .hands entry rfl rfl
    | false => exact .misses entry rfl rfl
  · cases step

theorem takeTerminated_cases {s t : SipServer} {i : Nat} (step : s.takeTerminated i = some t) :
    Moves s (.terminated i) t := by
  unfold takeTerminated at step
  split at step
  · rename_i inLayer task reason terminations entry
    cases Option.some.inj step
    exact .counts entry rfl
  · cases step

theorem endDialog_cases {s t : SipServer} {i : Nat} {reason : TerminatedReason}
    (step : s.endDialog i reason = some t) :
    Moves s (.dialogEnds i reason) t := by
  unfold endDialog at step
  split at step
  · rename_i inLayer task terminations entry
    cases Option.some.inj step
    exact .ends entry rfl
  · cases step

theorem handleCall_cases {s t : SipServer} {i : Nat} {act : HandleAct} (step : s.handleCall i act = some t) :
    Moves s (.handle i act) t := by
  obtain ⟨dialog, entry, rest⟩ := Option.bind_eq_some_iff.mp step
  obtain ⟨call, running, rest⟩ := Option.bind_eq_some_iff.mp rest
  obtain ⟨after, handled, same⟩ := Option.bind_eq_some_iff.mp rest
  cases Option.some.inj same
  exact .handles entry running handled

theorem drainMonitor_cases {s t : SipServer} (step : s.drainMonitor = some t) : Moves s .monitor t := by
  unfold drainMonitor at step
  split at step
  · rename_i waiting
    obtain ⟨drained, same⟩ := Option.ite_none_right_eq_some.mp step
    cases Option.some.inj same
    exact .wakes waiting drained
  · rename_i polling
    by_cases empty : s.LayerEmpty
    · rw [if_pos empty] at step
      cases Option.some.inj step
      exact .findsEmpty polling empty
    · rw [if_neg empty] at step
      cases Option.some.inj step
      exact .findsDialogs polling empty
  · rename_i found
    cases Option.some.inj step
    exact .cancels found

theorem moves_of_step {s t : SipServer} {act : SipAct} (step : sipStep s act = some t) : Moves s act t := by
  cases act with
  | arrive tx =>
    obtain ⟨unclosed, same⟩ := Option.ite_none_left_eq_some.mp step
    cases Option.some.inj same
    exact .arrives (Bool.eq_false_iff.mpr unclosed)
  | closeIncoming =>
    cases Option.some.inj step
    exact .closes
  | request surroundings =>
    obtain ⟨running, step⟩ := Option.ite_none_right_eq_some.mp step
    exact processIncomingRequests_cases (Option.isNone_iff_eq_none.mp running) step
  | calling i => exact takeCalling_cases (Option.ite_none_right_eq_some.mp step).2
  | terminated i => exact takeTerminated_cases (Option.ite_none_right_eq_some.mp step).2
  | dialogEnds i reason => exact endDialog_cases step
  | handle i act => exact handleCall_cases step
  | startDrain =>
    cases Option.some.inj step
    exact .drains
  | monitor => exact drainMonitor_cases step
  | endpointEnds =>
    obtain ⟨running, step⟩ := Option.ite_none_right_eq_some.mp step
    cases Option.some.inj step
    exact .leaves (Option.isNone_iff_eq_none.mp running)

/-- What the server has of the calls alone. -/
def callServer (s : SipServer) : CallServer := ⟨s.dialogs.filterMap ServerDialog.call?, s.metrics.calls⟩

/-- The calls of the server move as the calls of a `CallServer` do, which
lists them in the order in which their handling began. -/
inductive CallsMove (before : CallServer) : CallServer → Prop
  | none : CallsMove before before
  | step {act after calls} : serverStep before act = some after → calls.Perm after.calls →
      CallsMove before ⟨calls, after.metrics⟩

theorem CallsMove.of_eq {before after : CallServer} (same : after = before) : CallsMove before after := by
  rw [same]
  exact .none

theorem callServer_setDialog {s : SipServer} {i : Nat} {dialog after : ServerDialog}
    (entry : s.dialogs[i]? = some dialog) (same : after.call? = dialog.call?) :
    (s.setDialog i after).callServer = s.callServer := by
  unfold callServer
  rw [setDialog, filterMap_set_same entry same]

theorem Moves.callsMove {s t : SipServer} {act : SipAct} (step : Moves s act t) :
    CallsMove s.callServer t.callServer := by
  cases step with
  | arrives | closes | returns | drains | wakes | findsEmpty | findsDialogs | cancels | leaves => exact .none
  | @routes surroundings tx rest running queue =>
    have same : (s.handleTransaction rest (s.receive tx surroundings)).callServer = s.callServer := by
      rw [handleTransaction_eq running]
      unfold callServer
      rw [List.filterMap_append]
      cases (s.receive tx surroundings).route with
      | newDialog | existingDialog | reply | unanswered => exact congrArg (CallServer.mk · _) (List.append_nil _)
    exact .of_eq same
  | @hands i dialog entry calling there =>
    have fresh : dialog.call? = none := by rw [ServerDialog.call?, calling]
    have invited : serverStep s.callServer .invite =
        some { s.callServer with calls := s.callServer.calls ++ [⟨.invited, [], []⟩] } := rfl
    exact .step invited (filterMap_set_perm entry fresh rfl)
  | @misses i dialog entry calling gone =>
    exact .of_eq (callServer_setDialog entry (by rw [ServerDialog.call?, ServerDialog.call?, calling]))
  | @counts i dialog reason entry pending => exact .of_eq (callServer_setDialog entry rfl)
  | @ends i dialog reason entry live => exact .of_eq (callServer_setDialog entry rfl)
  | @handles i dialog call act after entry running handled =>
    obtain ⟨j, there, replaced⟩ :=
      filterMap_set entry running (rfl : (dialog.withCall after.call).call? = some after.call)
    have taken : serverStep s.callServer (.handle j act) =
        some ⟨s.callServer.calls.set j after.call, after.metrics⟩ := by
      change (s.callServer.calls[j]?.bind fun call => _) = _
      rw [show s.callServer.calls[j]? = some call from there, Option.bind_some]
      change ((handleStep ⟨call, s.metrics.calls⟩ act).bind fun h => _) = _
      rw [handled]
      rfl
    exact .step taken (List.Perm.of_eq replaced)

end SipServer

def freshInvite : Transaction := ⟨.invite, .parsed none⟩

/-- What surrounds an INVITE for which the dialog layer creates a dialog. -/
def creating : Surroundings := ⟨false, .created, true⟩

def keepAlive : Transaction := ⟨.options, .parsed none⟩

/-- What surrounds a transaction that is replied to. -/
def replying : Surroundings := ⟨false, .failed, true⟩

end RsipstackServer
