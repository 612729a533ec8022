import RsipstackServer.CallAccounting

namespace RsipstackServer
open Foundation

/-- `rsip::StatusCode` as a dialog end carries it. -/
structure CarriedStatus where
  code : UInt16
  phrase : Text
  deriving DecidableEq

inductive TerminatedReason
  | timeout
  | uacCancel
  | uacBye
  | uasBye
  | uacBusy
  | uasBusy
  | uasDecline
  | proxyError (status : CarriedStatus)
  | proxyAuthRequired
  | uacOther (status : CarriedStatus)
  | uasOther (status : CarriedStatus)
  deriving DecidableEq

inductive TerminatedLabel
  | timeout
  | uacCancel
  | uacBye
  | uasBye
  | uacBusy
  | uasBusy
  | uasDecline
  | proxyError
  | proxyAuthRequired
  | uacOther
  | uasOther
  deriving DecidableEq

instance : Fintype TerminatedLabel :=
  ⟨{.timeout, .uacCancel, .uacBye, .uasBye, .uacBusy, .uasBusy, .uasDecline, .proxyError, .proxyAuthRequired,
    .uacOther, .uasOther}, fun label => by cases label <;> decide⟩

/-- `From<&TerminatedReason> for TerminatedLabel`. -/
def TerminatedReason.label : TerminatedReason → TerminatedLabel
  | .timeout => .timeout
  | .uacCancel => .uacCancel
  | .uacBye => .uacBye
  | .uasBye => .uasBye
  | .uacBusy => .uacBusy
  | .uasBusy => .uasBusy
  | .uasDecline => .uasDecline
  | .proxyError _ => .proxyError
  | .proxyAuthRequired => .proxyAuthRequired
  | .uacOther _ => .uacOther
  | .uasOther _ => .uasOther

inductive Method
  | invite
  | options
  | register
  | other
  deriving DecidableEq

/-- What the request loop reads of the To header. -/
inductive ToHeader
  | missing
  | malformed
  | parsed (tag : Option Text)
  deriving DecidableEq

structure Transaction where
  method : Method
  toHeader : ToHeader
  deriving DecidableEq

def Transaction.hasToTag (tx : Transaction) : Bool :=
  match tx.toHeader with
  | .parsed (some _) => true
  | .parsed none | .malformed | .missing => false

inductive ReplyStatus
  | ok
  | callTransactionDoesNotExist
  | serverInternalError
  | methodNotAllowed
  deriving DecidableEq

inductive DialogCreation
  | created
  | existing
  | failed
  deriving DecidableEq

/-- What the dialog layer and the transport answer while one transaction is
handled. -/
structure Surroundings where
  dialogMatches : Bool
  creation : DialogCreation
  replyOk : Bool
  deriving DecidableEq

inductive Route
  | existingDialog
  | newDialog
  | reply (status : ReplyStatus)
  | unanswered
  deriving DecidableEq

/-- The branch that `process_incoming_requests` takes for a transaction. -/
def Transaction.route (tx : Transaction) (respondToOptions : Bool) (surroundings : Surroundings) : Route :=
  if tx.hasToTag then
    if surroundings.dialogMatches then .existingDialog else .reply .callTransactionDoesNotExist
  else
    match tx.method with
    | .invite =>
      match surroundings.creation with
      | .created => .newDialog
      | .existing => .existingDialog
      | .failed => .reply .serverInternalError
    | .options => if respondToOptions then .reply .ok else .unanswered
    | .register => .reply .methodNotAllowed
    | .other => .reply .methodNotAllowed

/-- A transaction that was taken up, with the flag read for it and whether
`start_drain` had returned by then. -/
structure Routed where
  transaction : Transaction
  surroundings : Surroundings
  respondToOptions : Bool
  draining : Bool
  deriving DecidableEq

def Routed.route (routed : Routed) : Route := routed.transaction.route routed.respondToOptions routed.surroundings

/-- A `reply` of the loop that fails. -/
def Routed.ReplyFails (routed : Routed) : Prop :=
  (∃ status, routed.route = .reply status) ∧ routed.surroundings.replyOk = false

/-- The way of the `Calling` event of a dialog: to come, taken up after the
dialog had left the layer, or answered with a run of `handle_call`. -/
inductive CallTask
  | calling
  | missed
  | handled (call : HandledCall)

/-- The way of the `Terminated` event of a dialog. -/
inductive DialogEnd
  | live
  | terminated (reason : TerminatedReason)
  | processed (reason : TerminatedReason)
  deriving DecidableEq

/-- One server dialog. How often it was counted as terminated is only
recorded. -/
structure ServerDialog where
  inLayer : Bool
  task : CallTask
  ending : DialogEnd
  terminations : Nat

namespace ServerDialog

def created : ServerDialog := ⟨true, .calling, .live, 0⟩

def call? (dialog : ServerDialog) : Option HandledCall :=
  match dialog.task with
  | .handled call => some call
  | .calling | .missed => none

def withCall (dialog : ServerDialog) (call : HandledCall) : ServerDialog := { dialog with task := .handled call }

end ServerDialog

structure ServerMetrics where
  calls : CallMetrics
  callsTerminated : Counter TerminatedLabel
  callsDialogNotFound : Nat
  drainActive : Nat

/-- The drain monitor waits for the drain token, then checks the dialog layer
again and again, and cancels the server after a check that found it empty. -/
inductive DrainMonitor
  | waiting
  | polling
  | foundEmpty
  deriving DecidableEq

/-- How the `select!` of `run` was left. -/
inductive RunEnd
  | endpoint
  | requests (ok : Bool)
  deriving DecidableEq

/-- The running server. Which transactions arrived and which were taken up is
only recorded. -/
structure SipServer where
  incoming : List Transaction
  incomingClosed : Bool
  arrived : List Transaction
  routed : List Routed
  dialogs : List ServerDialog
  metrics : ServerMetrics
  drainToken : Bool
  respondToOptions : Bool
  monitor : DrainMonitor
  cancelToken : Bool
  finished : Option RunEnd

namespace SipServer

/-- The server as `run` sets it up. Draining may have been asked for before. -/
def start (drainToken : Bool) : SipServer :=
  ⟨[], false, [], [], [], ⟨⟨.zero, .zero, 0⟩, .zero, 0, 0⟩, drainToken, true, .waiting, false, none⟩

def LayerEmpty (s : SipServer) : Prop := ∀ dialog ∈ s.dialogs, dialog.inLayer = false

instance (s : SipServer) : Decidable s.LayerEmpty := inferInstanceAs (Decidable (∀ dialog ∈ s.dialogs, _))

def finish (s : SipServer) (ending : RunEnd) : SipServer := { s with finished := some ending }

/-- The effect of the branch, up to the reply. -/
def enter (s : SipServer) : Route → SipServer
  | .newDialog => { s with dialogs := s.dialogs ++ [.created] }
  | .reply .callTransactionDoesNotExist =>
    { s with metrics.callsDialogNotFound := s.metrics.callsDialogNotFound + 1 }
  | .existingDialog | .reply _ | .unanswered => s

/-- The transaction `tx` as the loop takes it up. -/
def receive (s : SipServer) (tx : Transaction) (surroundings : Surroundings) : Routed :=
  ⟨tx, surroundings, s.respondToOptions, s.drainToken⟩

/-- One turn of `process_incoming_requests` on `tx`. A reply that fails leaves
the loop through `?`. -/
def handleTransaction (s : SipServer) (rest : List Transaction) (routed : Routed) : SipServer :=
  let s := { s with incoming := rest, routed := s.routed ++ [routed] }.enter routed.route
  match routed.route with
  | .reply _ => if routed.surroundings.replyOk then s else s.finish (.requests false)
  | .existingDialog | .newDialog | .unanswered => s

def processIncomingRequests (s : SipServer) (surroundings : Surroundings) : Option SipServer :=
  match s.incoming with
  | tx :: rest => some (s.handleTransaction rest (s.receive tx surroundings))
  | [] => if s.incomingClosed then some (s.finish (.requests true)) else none

/-- `DialogState::Calling` in `process_dialog_states`. -/
def takeCalling (s : SipServer) (i : Nat) : Option SipServer :=
  match s.dialogs[i]? with
  | some ⟨inLayer, .calling, ending, terminations⟩ =>
    let task := if inLayer then .handled ⟨.invited, [], []⟩ else .missed
    some { s with dialogs := s.dialogs.set i ⟨inLayer, task, ending, terminations⟩ }
  | _ => none

/-- `DialogState::Terminated` in `process_dialog_states`. -/
def takeTerminated (s : SipServer) (i : Nat) : Option SipServer :=
  match s.dialogs[i]? with
  | some ⟨_, task, .terminated reason, terminations⟩ =>
    some { s with
      metrics.callsTerminated := s.metrics.callsTerminated.increment reason.label
      dialogs := s.dialogs.set i ⟨false, task, .processed reason, terminations + 1⟩ }
  | _ => none

/-- The dialog `i` ends, which `rsipstack` tells the server once. -/
def endDialog (s : SipServer) (i : Nat) (reason : TerminatedReason) : Option SipServer :=
  match s.dialogs[i]? with
  | some ⟨inLayer, task, .live, terminations⟩ =>
    some { s with dialogs := s.dialogs.set i ⟨inLayer, task, .terminated reason, terminations⟩ }
  | _ => none

/-- One operation of the `handle_call` of the dialog `i`. -/
def handleCall (s : SipServer) (i : Nat) (act : HandleAct) : Option SipServer := do
  let dialog ← s.dialogs[i]?
  let call ← dialog.call?
  let h ← handleStep ⟨call, s.metrics.calls⟩ act
  pure { s with dialogs := s.dialogs.set i (dialog.withCall h.call), metrics.calls := h.metrics }

/-- One step of the drain monitor. -/
def drainMonitor (s : SipServer) : Option SipServer :=
  match s.monitor with
  | .waiting =>
    if s.drainToken then
      some { s with respondToOptions := false, metrics.drainActive := 1, monitor := .polling }
    else none
  | .polling => some (if s.LayerEmpty then { s with monitor := .foundEmpty } else s)
  | .foundEmpty => some { s with cancelToken := true, monitor := .polling }

end SipServer

/-- The steps of the server and of what surrounds it. -/
inductive SipAct
  | arrive (tx : Transaction)
  | closeIncoming
  | request (surroundings : Surroundings)
  | calling (i : Nat)
  | terminated (i : Nat)
  | dialogEnds (i : Nat) (reason : TerminatedReason)
  | handle (i : Nat) (act : HandleAct)
  | startDrain
  | monitor
  | endpointEnds

/-- The loops take turns in any order as long as `run` has not left its
`select!`. The spawned tasks go on after that. -/
def sipStep (s : SipServer) : SipAct → Option SipServer
  | .arrive tx =>
    if s.incomingClosed then none else some { s with incoming := s.incoming ++ [tx], arrived := s.arrived ++ [tx] }
  | .closeIncoming => some { s with incomingClosed := true }
  | .request surroundings => if s.finished.isNone then s.processIncomingRequests surroundings else none
  | .calling i => if s.finished.isNone then s.takeCalling i else none
  | .terminated i => if s.finished.isNone then s.takeTerminated i else none
  | .dialogEnds i reason => s.endDialog i reason
  | .handle i act => s.handleCall i act
  | .startDrain => some { s with drainToken := true }
  | .monitor => s.drainMonitor
  | .endpointEnds => if s.finished.isNone then some (s.finish .endpoint) else none

end RsipstackServer
