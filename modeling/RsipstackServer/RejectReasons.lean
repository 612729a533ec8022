import RsipstackServer.SipServerSteps
import RsipstackServer.Foundation.Projection

namespace RsipstackServer
open Foundation

def Refusal.response (refusal : Refusal) : FinalResponse := .reject refusal.code (some refusal.text)

namespace RejectReason

/-- The answer to a caller whose call is counted under the reason. -/
def response : RejectReason → FinalResponse
  | .sdpOfferInvalid | .noSupportedCodec => .reject .notAcceptableHere none
  | .rtpPortPoolExhausted => portsExhausted.response
  | .udpConnectFailed => connectFailed.response
  | .codecInitFailed => codecFailed.response

/-- The reasons that `handle_call` counts after its answer, where the others
are counted before it. -/
def afterAnswer : RejectReason → Bool
  | .sdpOfferInvalid | .noSupportedCodec => true
  | .rtpPortPoolExhausted | .udpConnectFailed | .codecInitFailed => false

end RejectReason

namespace HandleAct

/-- The reason that an operation gives for the rejection of its call. -/
def failure : HandleAct → Option RejectReason
  | .parse (.error e) => some e.rejectReason
  | .allocate false => some .rtpPortPoolExhausted
  | .connect false => some .udpConnectFailed
  | .create false => some .codecInitFailed
  | .parse (.ok _) | .allocate true | .connect true | .create true | .ringing _ | .accept _ | .reject _
  | .proceed => none

def offer? : HandleAct → Option SdpOffer
  | .parse (.ok offer) => some offer
  | .parse (.error _) | .allocate _ | .connect _ | .create _ | .ringing _ | .accept _ | .reject _ | .proceed => none

end HandleAct

/-- The operations of the `handle_call` of the dialog `i`. -/
def SipAct.operation? (i : Nat) : SipAct → Option HandleAct
  | .handle j act => if j = i then some act else none
  | .arrive _ | .closeIncoming | .request _ | .calling _ | .terminated _ | .dialogEnds _ _ | .startDrain | .monitor
  | .endpointEnds => none

def operations (i : Nat) (acts : List SipAct) : List HandleAct := acts.filterMap (SipAct.operation? i)

def CallPhase.offer? : CallPhase → Option SdpOffer
  | .parsed offer | .bound offer | .connected offer | .created offer | .rung offer => some offer
  | .invited | .unparsed _ | .refused _ | .answered _ | .returned _ => none

/-- The record of a call agrees with what its own operations have found: the
offers that they read, and the failures that they met. -/
inductive Explained (offers : List SdpOffer) (failures : List RejectReason) : HandledCall → Prop
  | invited : offers = [] → failures = [] → Explained offers failures ⟨.invited, [], []⟩
  | working {phase offer} : phase.offer? = some offer → offers = [offer] → failures = [] →
      Explained offers failures ⟨phase, [], []⟩
  | unparsed {e} : failures = [e.rejectReason] → Explained offers failures ⟨.unparsed e, [], []⟩
  | refused {refusal} : failures = [refusal.reason] → refusal.reason.response = refusal.response →
      refusal.reason.afterAnswer = false → Explained offers failures ⟨.refused refusal, [], []⟩
  | rejected {reason response sent result} : failures = [reason] → reason.response = response →
      (reason.afterAnswer = true → sent = true) →
      Explained offers failures ⟨.returned result, [.rejected reason], [⟨response, sent⟩]⟩
  | unanswered {reason response} : failures = [reason] → reason.response = response → reason.afterAnswer = true →
      Explained offers failures ⟨.returned false, [], [⟨response, false⟩]⟩
  | unaccepted {offer} : offers = [offer] → failures = [] →
      Explained offers failures ⟨.returned true, [], [⟨.accept, false⟩]⟩
  | accepted {place offer} : offers = [offer] → failures = [] →
      Explained offers failures ⟨.answered place, [.accepted offer.codecKind], [⟨.accept, true⟩]⟩

def HandledCall.CountedAs (outcome : Outcome) (call : HandledCall) : Prop := outcome ∈ call.outcomes

instance (outcome : Outcome) (call : HandledCall) : Decidable (call.CountedAs outcome) :=
  inferInstanceAs (Decidable (_ ∈ _))

/-- The call was answered with the response, or at least it was tried. -/
def HandledCall.Tried (response : FinalResponse) (call : HandledCall) : Prop :=
  ∃ attempt ∈ call.responses, attempt.response = response

instance (response : FinalResponse) (call : HandledCall) : Decidable (call.Tried response) :=
  inferInstanceAs (Decidable (∃ attempt ∈ call.responses, _))

def HandledCall.Told (response : FinalResponse) (call : HandledCall) : Prop := ⟨response, true⟩ ∈ call.responses

instance (response : FinalResponse) (call : HandledCall) : Decidable (call.Told response) :=
  inferInstanceAs (Decidable (_ ∈ _))

def CallMetrics.count (metrics : CallMetrics) : Outcome → Nat
  | .rejected reason => metrics.callsRejected reason
  | .accepted codec => metrics.callsAccepted codec

/-- The labelled metrics of the calls say for each label how the callers were
answered, or would have been, and why. -/
structure SipServer.Reconciled (acts : List SipAct) (s : SipServer) : Prop where
  explained : ∀ i dialog call, s.dialogs[i]? = some dialog → dialog.call? = some call →
    Explained ((operations i acts).filterMap HandleAct.offer?) ((operations i acts).filterMap HandleAct.failure) call
  counted : ∀ outcome, s.metrics.calls.count outcome = s.callServer.calls.countP fun call => call.CountedAs outcome
  refusals : ∀ reason : RejectReason, reason.afterAnswer = false →
    s.metrics.calls.callsRejected reason = s.callServer.calls.countP fun call => call.Tried reason.response
  unusable : s.metrics.calls.callsRejected .sdpOfferInvalid + s.metrics.calls.callsRejected .noSupportedCodec =
    s.callServer.calls.countP fun call => call.Told (.reject .notAcceptableHere none)

/-- One operation of a `handle_call` apart from the metrics that it shares. -/
def HandledCall.operate (call : HandledCall) (act : HandleAct) : Option HandledCall :=
  (handleStep ⟨call, ⟨.zero, .zero, 0⟩⟩ act).map Handling.call

theorem handleStep_call {call : HandledCall} {metrics : CallMetrics} {act : HandleAct} {after : Handling}
    (step : handleStep ⟨call, metrics⟩ act = some after) : call.operate act = some after.call := by
  obtain ⟨phase, outcomes, responses⟩ := call
  unfold handleStep at step
  split at step
  case h_3 | h_9 =>
    rename_i ok offer place
    cases place
    cases Option.some.inj step
    cases ok <;> rfl
  case h_10 =>
    rename_i past place
    cases place
    obtain ⟨next, ahead, rfl⟩ := Option.map_eq_some_iff.mp step
    simp only [HandledCall.operate, handleStep, ahead, Option.map_some]
    split <;> rfl
  case h_11 => cases step
  all_goals
    rename_i place
    cases place
    cases Option.some.inj step
    rfl

/-- What a call in the middle of its work has found. -/
theorem Explained.of_offer {offers : List SdpOffer} {failures : List RejectReason} {call : HandledCall}
    {offer : SdpOffer} (explained : Explained offers failures call) (working : call.phase.offer? = some offer) :
    offers = [offer] ∧ failures = [] ∧ call.outcomes = [] ∧ call.responses = [] := by
  cases explained with
  | working same read unfailed =>
    cases same.symm.trans working
    exact ⟨read, unfailed, rfl, rfl⟩
  | invited | unparsed | refused | rejected | unanswered | unaccepted | accepted => cases working

variable {offers : List SdpOffer} {failures : List RejectReason}

theorem Explained.step {call after : HandledCall} {act : HandleAct} (explained : Explained offers failures call)
    (step : call.operate act = some after) :
    Explained (offers ++ act.offer?.toList) (failures ++ act.failure.toList) after := by
  obtain ⟨h, handled, rfl⟩ := Option.map_eq_some_iff.mp step
  obtain ⟨phase, outcomes, responses⟩ := call
  unfold handleStep at handled
  split at handled
  · rename_i offer place
    cases Option.some.inj handled
    cases place
    cases explained with
    | invited unread unfailed =>
      exact .working rfl (by rw [unread]; rfl) (by rw [unfailed]; rfl)
    | working nothing => cases nothing
  · rename_i e place
    cases Option.some.inj handled
    cases place
    cases explained with
    | invited unread unfailed => exact .unparsed (by rw [unfailed]; rfl)
    | working nothing => cases nothing
  · rename_i ok e place
    cases Option.some.inj handled
    cases place
    cases explained with
    | working nothing => cases nothing
    | unparsed failed =>
      have late : e.rejectReason.afterAnswer = true := by cases e <;> rfl
      have answer : e.rejectReason.response = .reject .notAcceptableHere none := by cases e <;> rfl
      cases ok with
      | true => exact .rejected (by rw [failed]; rfl) answer fun _ => rfl
      | false => exact .unanswered (by rw [failed]; rfl) answer late
  · rename_i found offer place
    cases Option.some.inj handled
    cases place
    obtain ⟨read, unfailed, rfl, rfl⟩ := explained.of_offer rfl
    cases found with
    | true => exact .working rfl (by rw [read]; rfl) (by rw [unfailed]; rfl)
    | false => exact .refused (by rw [unfailed]; rfl) rfl rfl
  · rename_i ok offer place
    cases Option.some.inj handled
    cases place
    obtain ⟨read, unfailed, rfl, rfl⟩ := explained.of_offer rfl
    cases ok with
    | true => exact .working rfl (by rw [read]; rfl) (by rw [unfailed]; rfl)
    | false => exact .refused (by rw [unfailed]; rfl) rfl rfl
  · rename_i ok offer place
    cases Option.some.inj handled
    cases place
    obtain ⟨read, unfailed, rfl, rfl⟩ := explained.of_offer rfl
    cases ok with
    | true => exact .working rfl (by rw [read]; rfl) (by rw [unfailed]; rfl)
    | false => exact .refused (by rw [unfailed]; rfl) rfl rfl
  · rename_i ok refusal place
    cases Option.some.inj handled
    cases place
    cases explained with
    | working nothing => cases nothing
    | refused failed answer early =>
      exact .rejected (by rw [failed]; rfl) answer fun late => Bool.noConfusion (early.symm.trans late)
  · rename_i offer place
    cases Option.some.inj handled
    cases place
    obtain ⟨read, unfailed, rfl, rfl⟩ := explained.of_offer rfl
    exact .working rfl (by rw [read]; rfl) (by rw [unfailed]; rfl)
  · rename_i ok offer place
    cases Option.some.inj handled
    cases place
    obtain ⟨read, unfailed, rfl, rfl⟩ := explained.of_offer rfl
    cases ok with
    | true => exact .accepted (by rw [read]; rfl) (by rw [unfailed]; rfl)
    | false => exact .unaccepted (by rw [read]; rfl) (by rw [unfailed]; rfl)
  · rename_i past place
    cases place
    obtain ⟨next, ahead, rfl⟩ := Option.map_eq_some_iff.mp handled
    cases explained with
    | working nothing => cases nothing
    | accepted read unfailed =>
      split
      all_goals exact .accepted (by rw [read]; rfl) (by rw [unfailed]; rfl)
  · cases handled

theorem explained_of_run {call : HandledCall} {acts : List HandleAct}
    (reach : run HandledCall.operate ⟨.invited, [], []⟩ acts = some call) :
    Explained (acts.filterMap HandleAct.offer?) (acts.filterMap HandleAct.failure) call := by
  induction acts using List.reverseRecOn generalizing call with
  | nil =>
    cases Option.some.inj reach
    exact .invited rfl rfl
  | append_singleton past act ih =>
    obtain ⟨before, earlier, taken⟩ := run_concat_iff.mp reach
    have now := (ih earlier).step taken
    rw [List.filterMap_append, List.filterMap_append, filterMap_single, filterMap_single]
    exact now

namespace SipServer

/-- The `handle_call` of the dialog `i`. -/
def call? (s : SipServer) (i : Nat) : Option HandledCall := s.dialogs[i]?.bind ServerDialog.call?

theorem call?_setDialog {s : SipServer} {i : Nat} {dialog : ServerDialog} (after : ServerDialog)
    (entry : s.dialogs[i]? = some dialog) : (s.setDialog i after).call? i = after.call? := by
  have inside := (List.getElem?_eq_some_iff.mp entry).1
  rw [call?, setDialog, List.getElem?_set_self inside, Option.bind_some]

theorem call?_setDialog_other {s : SipServer} {i j : Nat} (after : ServerDialog) (apart : j ≠ i) :
    (s.setDialog j after).call? i = s.call? i := by
  rw [call?, call?, setDialog, List.getElem?_set_ne apart]

theorem call?_setDialog_same {s : SipServer} {i j : Nat} {dialog after : ServerDialog}
    (entry : s.dialogs[j]? = some dialog) (same : after.call? = dialog.call?) :
    (s.setDialog j after).call? i = s.call? i := by
  by_cases here : j = i
  · subst here
    rw [call?_setDialog after entry, call?, entry, Option.bind_some, same]
  · exact call?_setDialog_other after here

theorem call?_append {s t : SipServer} {i : Nat} {fresh : List ServerDialog}
    (dialogs : t.dialogs = s.dialogs ++ fresh) (idle : ∀ dialog ∈ fresh, dialog.call? = none) :
    t.call? i = s.call? i := by
  unfold call?
  rw [dialogs]
  by_cases old : i < s.dialogs.length
  · rw [List.getElem?_append_left old]
  · have gone : s.dialogs[i]? = none := List.getElem?_eq_none (by omega)
    rw [List.getElem?_append_right (by omega), gone, Option.bind_none]
    cases entry : fresh[i - s.dialogs.length]? with
    | none => rfl
    | some dialog => exact idle dialog (List.mem_of_getElem? entry)

/-- Every call of the server goes its own way, however the loops and the other
calls take turns with it. -/
theorem call_component (i : Nat) :
    Component sipStep HandledCall.operate (fun s => s.call? i) (SipAct.operation? i)
      (fun call => call = ⟨.invited, [], []⟩) where
  moves s act t own step selected := by
    cases moves_of_step step with
    | @handles j dialog call act after entry running handled =>
      obtain ⟨rfl, same⟩ := Option.ite_none_right_eq_some.mp selected
      cases Option.some.inj same
      refine ⟨call, after.call, ?_, handleStep_call handled, ?_⟩
      · rw [call?, entry, Option.bind_some, running]
      · exact call?_setDialog (s := { s with metrics.calls := after.metrics }) _ entry
    | arrives | closes | routes | returns | hands | misses | counts | ends | drains | wakes | findsEmpty |
      findsDialogs
    | cancels | leaves => cases selected
  keeps s act t step other := by
    cases moves_of_step step with
    | arrives | closes | returns | drains | wakes | findsEmpty | findsDialogs | cancels | leaves => exact Or.inl rfl
    | @routes surroundings tx rest running queue =>
      rw [handleTransaction_eq running]
      refine Or.inl (call?_append rfl fun dialog member => ?_)
      cases route : (s.receive tx surroundings).route with
      | newDialog =>
        rw [route] at member
        rw [List.mem_singleton.mp member]
        rfl
      | existingDialog | reply | unanswered =>
        rw [route] at member
        cases member
    | @hands j dialog entry calling there =>
      by_cases here : j = i
      · subst here
        refine Or.inr ⟨?_, _, rfl, call?_setDialog _ entry⟩
        rw [call?, entry, Option.bind_some, ServerDialog.call?, calling]
      · exact Or.inl (call?_setDialog_other _ here)
    | @misses j dialog entry calling gone =>
      exact Or.inl (call?_setDialog_same entry (by rw [ServerDialog.call?, ServerDialog.call?, calling]))
    | @counts j dialog reason entry pending =>
      exact Or.inl (call?_setDialog_same (s := { s with metrics.callsTerminated := _ }) entry rfl)
    | @ends j dialog reason entry live => exact Or.inl (call?_setDialog_same entry rfl)
    | @handles j dialog call act after entry running handled =>
      refine Or.inl (call?_setDialog_other _ fun here => ?_)
      rw [SipAct.operation?, if_pos here] at other
      cases other

end SipServer

/-- What one operation does to the labelled counters. -/
theorem Handles.count {h after : Handling} {act : HandleAct} (consistent : Consistent h.call)
    (step : Handles h act after) (outcome : Outcome) :
    after.metrics.count outcome + (if h.call.CountedAs outcome then 1 else 0) =
      h.metrics.count outcome + (if after.call.CountedAs outcome then 1 else 0) := by
  obtain ⟨⟨phase, outcomes, responses⟩, metrics⟩ := h
  cases step with
  | moves | proceeds | ends | loses => rfl
  | @rejects reason code text ok result undecided =>
    obtain ⟨rfl, rfl⟩ : outcomes = [] ∧ responses = [] := consistent.blank undecided
    cases outcome with
    | rejected other =>
      simp [Handling.enter, Handling.respond, Handling.countRejected, HandledCall.CountedAs, CallMetrics.count,
        Counter.increment_apply]
    | accepted =>
      simp [Handling.enter, Handling.respond, Handling.countRejected, HandledCall.CountedAs, CallMetrics.count]
  | @accepts codec undecided =>
    obtain ⟨rfl, rfl⟩ : outcomes = [] ∧ responses = [] := consistent.blank undecided
    cases outcome with
    | rejected =>
      simp [Handling.enter, Handling.respond, Handling.guardNew, Handling.countAccepted, HandledCall.CountedAs,
        CallMetrics.count]
    | accepted other =>
      simp [Handling.enter, Handling.respond, Handling.guardNew, Handling.countAccepted, HandledCall.CountedAs,
        CallMetrics.count, Counter.increment_apply]

/-- The calls are accounted for, label by label. -/
structure Labelled (s : CallServer) : Prop extends Accounted s where
  labels : ∀ outcome, s.metrics.count outcome = s.calls.countP fun call => call.CountedAs outcome

theorem labelled_start : Labelled .start := ⟨accounted_start, fun outcome => by cases outcome <;> rfl⟩

theorem Labelled.step {s t : CallServer} {act : ServerAct} (labelled : Labelled s)
    (step : serverStep s act = some t) :
    Labelled t := by
  refine ⟨labelled.toAccounted.step step, fun outcome => ?_⟩
  cases act with
  | invite =>
    cases Option.some.inj step
    rw [List.countP_append]
    exact labelled.labels outcome
  | handle i act =>
    obtain ⟨call, after, entry, handled, rfl⟩ := serverStep_handle step
    have moved := (handles_of_step handled).count (labelled.consistent call (List.mem_of_getElem? entry)) outcome
    have counts := countP_set (fun call => call.CountedAs outcome) after.call entry
    have before := labelled.labels outcome
    simp only [decide_eq_true_eq] at moved counts ⊢
    omega

theorem Labelled.perm {s : CallServer} {calls : List HandledCall} (labelled : Labelled s)
    (same : calls.Perm s.calls) :
    Labelled ⟨calls, s.metrics⟩ := by
  refine ⟨⟨?_, ?_, ?_⟩, ?_⟩
  · exact fun call member => labelled.consistent call (same.mem_iff.mp member)
  · exact labelled.counted.trans (same.map _).sum_eq.symm
  · exact labelled.active.trans (congrArg Nat.cast (same.countP_eq _).symm)
  · exact fun outcome => (labelled.labels outcome).trans (same.countP_eq _).symm

theorem SipServer.CallsMove.labelled {before after : CallServer} (step : CallsMove before after)
    (labelled : Labelled before) : Labelled after := by
  cases step with
  | none => exact labelled
  | step taken same => exact (labelled.step taken).perm same

/-- The callers can tell these reasons apart. -/
theorem RejectReason.response_eq_iff {reason other : RejectReason} (early : reason.afterAnswer = false) :
    other.response = reason.response ↔ other = reason := by
  cases reason with
  | sdpOfferInvalid | noSupportedCodec => cases early
  | rtpPortPoolExhausted | udpConnectFailed | codecInitFailed => cases other <;> decide

theorem RejectReason.response_ne_accept (reason : RejectReason) : reason.response ≠ .accept := by
  cases reason <;> nofun

/-- A call is counted under such a reason exactly if its caller was answered
with it. -/
theorem Explained.refusal {call : HandledCall} (explained : Explained offers failures call) {reason : RejectReason}
    (early : reason.afterAnswer = false) : call.CountedAs (.rejected reason) ↔ call.Tried reason.response := by
  unfold HandledCall.CountedAs HandledCall.Tried
  cases explained with
  | invited | working | unparsed | refused => simp
  | unaccepted | accepted => simp [reason.response_ne_accept.symm]
  | @unanswered other _ _ answer late =>
    have apart : other ≠ reason := by
      rintro rfl
      exact Bool.noConfusion (early.symm.trans late)
    subst answer
    simp [RejectReason.response_eq_iff early, apart]
  | @rejected other _ _ _ _ answer =>
    subst answer
    simp [RejectReason.response_eq_iff early, eq_comm]

/-- Of the calls with an unusable offer those are counted whose caller was told
so. -/
theorem Explained.unusable {call : HandledCall} (explained : Explained offers failures call) :
    (if call.Told (.reject .notAcceptableHere none) then 1 else 0) =
      (if call.CountedAs (.rejected .sdpOfferInvalid) then 1 else 0) +
        (if call.CountedAs (.rejected .noSupportedCodec) then 1 else 0) := by
  unfold HandledCall.CountedAs HandledCall.Told
  cases explained with
  | invited | working | unparsed | refused | unaccepted | accepted | unanswered => simp
  | @rejected reason _ sent _ _ answer told =>
    subst answer
    cases reason with
    | sdpOfferInvalid | noSupportedCodec =>
      cases told rfl
      simp [RejectReason.response]
    | rtpPortPoolExhausted | udpConnectFailed | codecInitFailed =>
      simp [RejectReason.response, Refusal.response, portsExhausted, connectFailed, codecFailed]

variable {drainToken : Bool} {acts : List SipAct} {s : SipServer}

theorem SipServer.explained_of_run (reach : run sipStep (.start drainToken) acts = some s) {i : Nat}
    {dialog : ServerDialog} {call : HandledCall} (entry : s.dialogs[i]? = some dialog)
    (running : dialog.call? = some call) :
    Explained ((operations i acts).filterMap HandleAct.offer?)
      ((operations i acts).filterMap HandleAct.failure) call := by
  have there : s.call? i = some call := by rw [call?, entry, Option.bind_some, running]
  obtain ⟨first, rfl, own⟩ := (call_component i).run rfl reach there
  exact RsipstackServer.explained_of_run own

theorem SipServer.labelled_of_run (reach : run sipStep (.start drainToken) acts = some s) : Labelled s.callServer :=
  run_invariant (P := fun s => Labelled s.callServer) labelled_start
    (fun _ _ _ before step => (moves_of_step step).callsMove.labelled before) reach

theorem SipServer.mem_calls {call : HandledCall} (member : call ∈ s.callServer.calls) :
    ∃ (i : Nat) (dialog : ServerDialog), s.dialogs[i]? = some dialog ∧ dialog.call? = some call := by
  obtain ⟨dialog, member, running⟩ := List.mem_filterMap.mp member
  obtain ⟨i, entry⟩ := List.mem_iff_getElem?.mp member
  exact ⟨i, dialog, entry, running⟩

/-- In every run of the server the labelled metrics of the calls are reconciled
with how the callers were answered. -/
theorem reconciled_of_run (reach : run sipStep (.start drainToken) acts = some s) : s.Reconciled acts where
  explained i dialog call entry running := SipServer.explained_of_run reach entry running
  counted := (SipServer.labelled_of_run reach).labels
  refusals reason early := by
    rw [show s.metrics.calls.callsRejected reason = s.callServer.calls.countP _ from
      (SipServer.labelled_of_run reach).labels (.rejected reason)]
    refine List.countP_congr fun call member => ?_
    obtain ⟨i, dialog, entry, running⟩ := SipServer.mem_calls member
    simpa using (SipServer.explained_of_run reach entry running).refusal early
  unusable := by
    have labels := (SipServer.labelled_of_run reach).labels
    rw [show s.metrics.calls.callsRejected .sdpOfferInvalid = s.callServer.calls.countP _ from
        labels (.rejected .sdpOfferInvalid),
      show s.metrics.calls.callsRejected .noSupportedCodec = s.callServer.calls.countP _ from
        labels (.rejected .noSupportedCodec)]
    refine (countP_eq_add fun call member => ?_).symm
    obtain ⟨i, dialog, entry, running⟩ := SipServer.mem_calls member
    simpa using (SipServer.explained_of_run reach entry running).unusable

/-- One caller is turned away for want of ports and another for an unusable
offer, which it is told. -/
def twoRefusals : List SipAct :=
  [.arrive freshInvite, .arrive freshInvite, .request creating, .request creating, .calling 0, .calling 1,
    .handle 0 (.parse (.ok plainOffer)), .handle 1 (.parse (.error .noAudioMedia)), .handle 0 (.allocate false),
    .handle 1 (.reject true), .handle 0 (.reject false)]

theorem reconciled_twoRefusals : ∃ last, run sipStep (.start false) twoRefusals = some last ∧
    last.metrics.calls.callsRejected .rtpPortPoolExhausted = 1 ∧
      last.metrics.calls.callsRejected .sdpOfferInvalid = 1 ∧
    last.Reconciled twoRefusals := by
  refine exists_of_run (by decide +kernel) fun last reach => ⟨?_, ?_, reconciled_of_run reach⟩
  all_goals
    rw [← Option.some.inj reach]
    decide +kernel

end RsipstackServer
