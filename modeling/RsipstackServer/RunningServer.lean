import RsipstackServer.CallsApart
import RsipstackServer.DrainCompletes
import RsipstackServer.RejectReasons

namespace RsipstackServer
open Foundation
universe u
variable {κ : Type u}

/-- The whole server: its loops and dialogs with what `handle_call` tells the
peers and the metrics, and the ports and media sessions of the same calls. The
calls go by the places of their dialogs. -/
structure RunningServer (κ : Type u) where
  sip : SipServer
  calls : LiveCalls κ

/-- `signalling` are the steps of the loops and of the peers, `handle` are the
operations of `handle_call` that need no port and no session, and the others
are those that do. -/
inductive RunningAct
  | signalling (act : SipAct)
  | handle (id : CallId) (act : HandleAct)
  | alloc (act : AllocAct)
  | allocated (id : CallId)
  | connect (id : CallId) (ok : Bool)
  | create (id : CallId) (ok : Bool)
  | accept (id : CallId) (ok : Bool) (now : Nat)
  | close (id : CallId)
  | proceed (id : CallId)
  | media (id : CallId) (act : CallAct)

def SipAct.isHandle : SipAct → Bool
  | .handle _ _ => true
  | .arrive _ | .closeIncoming | .request _ | .calling _ | .terminated _ | .dialogEnds _ _ | .startDrain | .monitor
  | .endpointEnds => false

/-- The operations of `handle_call` that touch neither ports nor media. -/
def HandleAct.isLocal : HandleAct → Bool
  | .parse _ | .ringing _ | .reject _ => true
  | .allocate _ | .connect _ | .create _ | .accept _ | .proceed => false

/-- `handle_call` is in `try_allocate_socket_pair`. -/
def SipServer.allocates (s : SipServer) (id : CallId) : Bool :=
  match s.call? id with
  | some ⟨.parsed _, _, _⟩ => true
  | _ => false

/-- The dialog has ended, and with it its token is cancelled. -/
def SipServer.dialogEnded (s : SipServer) (id : CallId) : Bool :=
  match s.dialogs[id]? with
  | some dialog => dialog.ending ≠ .live
  | none => false

/-- The token of the dialog is cancelled. -/
def LiveCalls.cancelDialog (s : LiveCalls κ) (id : CallId) : LiveCalls κ :=
  match s.line id with
  | .media call => s.enter id (.media (call.cancel dialogToken))
  | .allocating | .connected | .created | .closing _ => s

/-- What the calls notice of a signalling step. -/
def LiveCalls.notice (s : LiveCalls κ) : SipAct → LiveCalls κ
  | .dialogEnds id _ => s.cancelDialog id
  | _ => s

def both (sip : Option SipServer) (calls : Option (LiveCalls κ)) : Option (RunningServer κ) :=
  sip.bind fun sip => calls.map fun calls => ⟨sip, calls⟩

/-- A part of `handle_call` that both halves of the state take part in is one
step of each. -/
def runningStep (session : CallId → MediaSession κ) (s : RunningServer κ) : RunningAct → Option (RunningServer κ)
  | .signalling act =>
    if act.isHandle then none else (sipStep s.sip act).map fun sip => ⟨sip, s.calls.notice act⟩
  | .handle id act => if act.isLocal then (sipStep s.sip (.handle id act)).map fun sip => { s with sip } else none
  | .alloc (.advance id chosen) =>
    if s.sip.allocates id then
      (liveStep session s.calls (.alloc (.advance id chosen))).map fun calls => { s with calls }
    else none
  | .alloc (.otherBinds port) =>
    (liveStep session s.calls (.alloc (.otherBinds port))).map fun calls => { s with calls }
  | .allocated id =>
    match s.calls.alloc.phase id with
    | .returned result => (sipStep s.sip (.handle id (.allocate result.isSome))).map fun sip => { s with sip }
    | _ => none
  | .connect id ok => both (sipStep s.sip (.handle id (.connect ok))) (liveStep session s.calls (.connect id ok))
  | .create id ok => both (sipStep s.sip (.handle id (.create ok))) (liveStep session s.calls (.create id ok))
  | .accept id ok now =>
    both (sipStep s.sip (.handle id (.accept ok))) ((liveStep session s.calls (.accept id ok now)).map fun calls =>
      if s.sip.dialogEnded id then calls.cancelDialog id else calls)
  | .close id => (liveStep session s.calls (.close id)).map fun calls => { s with calls }
  | .proceed id => both (sipStep s.sip (.handle id .proceed)) (liveStep session s.calls (.media id .handleCall))
  | .media id act =>
    if act.isHandleCall then none else (liveStep session s.calls (.media id act)).map fun calls => { s with calls }

def RunningServer.start (drainToken : Bool) (range : RtpPortRange) (taken : UInt16 → Bool) : RunningServer κ :=
  ⟨.start drainToken, .start range taken⟩

/-- Where the two halves of a call stand together. -/
def Together (phase : Option CallPhase) (alloc : AllocPhase) (line : CallLine κ) : Prop :=
  match phase with
  | none | some .invited | some (.unparsed _) => alloc = .idle ∧ line = .allocating
  | some (.parsed _) => line = .allocating
  | some (.bound _) => line = .allocating ∧ ∃ sockets, alloc = .returned (some sockets)
  | some (.connected _) => line = .connected
  | some (.created _) | some (.rung _) => line = .created
  | some (.refused _) | some (.returned _) =>
    line = .allocating ∧ (alloc = .idle ∨ alloc = .returned none) ∨ ∃ left, line = .closing left
  | some (.answered place) => ∃ call, line = .media call ∧ call.handleCall = place ∧ call.Placed

/-- What one operation of `handle_call` does to its phase. -/
inductive PhaseMoves : CallPhase → HandleAct → CallPhase → Prop
  | parsed {offer} : PhaseMoves .invited (.parse (.ok offer)) (.parsed offer)
  | unparsed {e} : PhaseMoves .invited (.parse (.error e)) (.unparsed e)
  | declined {e ok} : PhaseMoves (.unparsed e) (.reject ok) (.returned ok)
  | bound {offer} : PhaseMoves (.parsed offer) (.allocate true) (.bound offer)
  | exhausted {offer} : PhaseMoves (.parsed offer) (.allocate false) (.refused portsExhausted)
  | connected {offer} : PhaseMoves (.bound offer) (.connect true) (.connected offer)
  | unconnected {offer} : PhaseMoves (.bound offer) (.connect false) (.refused connectFailed)
  | created {offer} : PhaseMoves (.connected offer) (.create true) (.created offer)
  | uncreated {offer} : PhaseMoves (.connected offer) (.create false) (.refused codecFailed)
  | refused {refusal ok} : PhaseMoves (.refused refusal) (.reject ok) (.returned ok)
  | rung {offer ok} : PhaseMoves (.created offer) (.ringing ok) (.rung offer)
  | answered {offer} : PhaseMoves (.rung offer) (.accept true) (.answered .accepted)
  | unanswered {offer} : PhaseMoves (.rung offer) (.accept false) (.returned true)
  | proceeds {place next} : place.next = some next → PhaseMoves (.answered place) .proceed (.answered next)

theorem HandledCall.phaseMoves {call after : HandledCall} {act : HandleAct} (step : call.operate act = some after) :
    PhaseMoves call.phase act after.phase := by
  obtain ⟨h, handled, rfl⟩ := Option.map_eq_some_iff.mp step
  obtain ⟨phase, outcomes, responses⟩ := call
  unfold handleStep at handled
  split at handled
  case h_1 | h_2 | h_8 =>
    rename_i place
    cases place
    cases Option.some.inj handled
    constructor
  case h_3 =>
    rename_i ok e place
    cases place
    cases Option.some.inj handled
    cases ok <;> constructor
  case h_4 | h_5 | h_6 | h_9 =>
    rename_i ok offer place
    cases place
    cases Option.some.inj handled
    cases ok <;> constructor
  case h_7 =>
    rename_i ok refusal place
    cases place
    cases Option.some.inj handled
    constructor
  case h_10 =>
    rename_i past place
    cases place
    obtain ⟨next, ahead, rfl⟩ := Option.map_eq_some_iff.mp handled
    split <;> exact .proceeds ahead
  case h_11 => cases handled

namespace SipServer
variable {s t : SipServer} {id : CallId}

def phase? (s : SipServer) (id : CallId) : Option CallPhase := (s.call? id).map HandledCall.phase

/-- An operation of one `handle_call` moves it alone. -/
theorem call?_handle {act : HandleAct} (step : sipStep s (.handle id act) = some t) :
    (∃ before after, s.call? id = some before ∧ before.operate act = some after ∧ t.call? id = some after) ∧
      ∀ other, other ≠ id → t.call? other = s.call? other := by
  cases moves_of_step step with
  | @handles _ dialog call _ after entry running handled =>
    refine ⟨⟨call, after.call, ?_, handleStep_call handled, ?_⟩, fun other apart => ?_⟩
    · rw [call?, entry, Option.bind_some, running]
    · exact call?_setDialog (s := { s with metrics.calls := after.metrics }) _ entry
    · exact call?_setDialog_other (s := { s with metrics.calls := after.metrics }) _ apart.symm

theorem phase?_handle {act : HandleAct} (step : sipStep s (.handle id act) = some t) :
    (∃ before after, s.phase? id = some before ∧ PhaseMoves before act after ∧ t.phase? id = some after) ∧
      ∀ other, other ≠ id → t.phase? other = s.phase? other := by
  obtain ⟨⟨before, after, was, moved, now⟩, others⟩ := call?_handle step
  unfold phase?
  rw [was, now]
  exact ⟨⟨before.phase, after.phase, rfl, HandledCall.phaseMoves moved, rfl⟩,
    fun other apart => congrArg _ (others other apart)⟩

theorem phase?_signalling {act : SipAct} (step : sipStep s act = some t) (other : act.isHandle = false)
    (id : CallId) :
    t.phase? id = s.phase? id ∨ s.phase? id = none ∧ t.phase? id = some .invited := by
  have foreign : SipAct.operation? id act = none := by
    cases act with
    | handle => cases other
    | _ => rfl
  unfold phase?
  rcases (call_component id).keeps s act t step foreign with same | ⟨fresh, _, rfl, begun⟩
  · exact Or.inl (congrArg _ same)
  · rw [fresh, show t.call? id = _ from begun]
    exact Or.inr ⟨rfl, rfl⟩

theorem dialogEnded_iff :
    s.dialogEnded id = true ↔ ∃ dialog, s.dialogs[id]? = some dialog ∧ dialog.ending ≠ .live := by
  unfold dialogEnded
  cases s.dialogs[id]? with
  | none => simp
  | some dialog => simp

theorem dialogEnded_setDialog {j : Nat} {dialog after : ServerDialog} (entry : s.dialogs[j]? = some dialog)
    (ended : (s.setDialog j after).dialogEnded id = true) :
    s.dialogEnded id = true ∨ id = j ∧ after.ending ≠ .live := by
  obtain ⟨found, there, gone⟩ := dialogEnded_iff.mp ended
  by_cases here : id = j
  · subst here
    rw [setDialog, List.getElem?_set_self (List.getElem?_eq_some_iff.mp entry).1] at there
    cases Option.some.inj there
    exact Or.inr ⟨rfl, gone⟩
  · rw [setDialog, List.getElem?_set_ne (fun same => here same.symm)] at there
    exact Or.inl (dialogEnded_iff.mpr ⟨found, there, gone⟩)

/-- A dialog is over once it was, or with the step that ends it. -/
theorem Moves.dialogEnded {act : SipAct} (step : Moves s act t) (ended : t.dialogEnded id = true) :
    s.dialogEnded id = true ∨ ∃ reason, act = .dialogEnds id reason := by
  have kept {j : Nat} {dialog after : ServerDialog} (entry : s.dialogs[j]? = some dialog)
      (ended : (s.setDialog j after).dialogEnded id = true) (same : after.ending ≠ .live → dialog.ending ≠ .live) :
      s.dialogEnded id = true := by
    rcases dialogEnded_setDialog entry ended with old | ⟨rfl, gone⟩
    · exact old
    · exact dialogEnded_iff.mpr ⟨dialog, entry, same gone⟩
  cases step with
  | arrives | closes | returns | drains | wakes | findsEmpty | findsDialogs | cancels | leaves => exact Or.inl ended
  | @routes surroundings tx rest running queue =>
    obtain ⟨dialog, there, gone⟩ := dialogEnded_iff.mp ended
    rw [handleTransaction_eq running] at there
    by_cases old : id < s.dialogs.length
    · rw [List.getElem?_append_left old] at there
      exact Or.inl (dialogEnded_iff.mpr ⟨dialog, there, gone⟩)
    · rw [List.getElem?_append_right (Nat.le_of_not_lt old)] at there
      have member := List.mem_of_getElem? there
      cases route : (s.receive tx surroundings).route with
      | newDialog =>
        rw [route] at member
        rw [List.mem_singleton.mp member] at gone
        exact absurd rfl gone
      | existingDialog | reply | unanswered =>
        rw [route] at member
        cases member
  | hands entry | misses entry => exact Or.inl (kept entry ended fun gone => gone)
  | @counts i dialog reason entry pending =>
    exact Or.inl (kept entry ended fun _ => by rw [pending]; exact DialogEnd.noConfusion)
  | @handles i dialog call act after entry =>
    exact Or.inl (kept entry ended fun gone => gone)
  | @ends i dialog reason entry live =>
    rcases dialogEnded_setDialog entry ended with old | ⟨rfl, _⟩
    · exact Or.inl old
    · exact Or.inr ⟨reason, rfl⟩

end SipServer

namespace LiveCalls
variable {session : CallId → MediaSession κ} {s t : LiveCalls κ} {id : CallId}

theorem cancelDialog_alloc : (s.cancelDialog id).alloc = s.alloc := by
  unfold cancelDialog
  split <;> rfl

/-- The cancellation reaches the session of the call, if it has one. -/
theorem cancelDialog_line (s : LiveCalls κ) (id other : CallId) : (s.cancelDialog id).line other = s.line other ∨
    other = id ∧ ∃ call, s.line id = .media call ∧
      (s.cancelDialog id).line id = .media (call.cancel dialogToken) := by
  unfold cancelDialog
  split
  · rename_i call line
    by_cases mine : other = id
    · subst mine
      exact Or.inr ⟨rfl, call, line, enter_line_self ..⟩
    · exact Or.inl (enter_line_of_ne _ _ mine)
  all_goals exact Or.inl rfl

theorem cancelDialog_cancelled {call : CallState κ} (there : (s.cancelDialog id).line id = .media call) :
    call.tokens.isCancelled dialogToken = true := by
  unfold cancelDialog at there
  cases line : s.line id with
  | media before =>
    rw [line] at there
    rw [enter_line_self] at there
    cases there
    exact CancelTree.isCancelled_cancel_self ..
  | allocating | connected | created | closing =>
    rw [line] at there
    cases line.symm.trans there

/-- It is a step that the call could also take by itself. -/
theorem cancelDialog_step (session : CallId → MediaSession κ) (live : LiveInvariant s) :
    s.cancelDialog id = s ∨ liveStep session s (.media id .dialogEnds) = some (s.cancelDialog id) := by
  unfold cancelDialog
  cases line : s.line id with
  | media call =>
    obtain ⟨sockets, returned⟩ := (live.fits id).returned (by rw [line]; nofun)
    have kept : sockets.closedBy call (call.cancel dialogToken) = none := by
      unfold RtpSocketPair.closedBy
      rw [if_neg (fun both => both.2 both.1), if_neg]
      change ¬ (call.mediaEnded && !call.mediaEnded) = true
      cases call.mediaEnded <;> decide
    refine Or.inr ?_
    simp only [liveStep, line, returned, callStep, Option.bind_eq_bind, Option.bind_some, kept, close,
      Option.pure_def]
  | allocating | connected | created | closing => exact Or.inl rfl

theorem live_cancelDialog (live : LiveInvariant s) (session : CallId → MediaSession κ) :
    LiveInvariant (s.cancelDialog id) := by
  rcases cancelDialog_step session live with same | step
  · rw [same]
    exact live
  · exact live.step step

theorem liveStep_media {act : CallAct} (step : liveStep session s (.media id act) = some t) :
    ∃ call after, s.line id = .media call ∧ callStep (session id) call act = some after ∧ t.line id = .media after ∧
      (∀ other, other ≠ id → t.line other = s.line other) ∧ t.alloc.phase = s.alloc.phase := by
  cases lives_of_step step with
  | @plays _ _ sockets call after stage returned moved =>
    refine ⟨call, after, stage, moved, enter_line_self .., fun other apart => ?_, ?_⟩
    · rw [enter_line_of_ne _ _ apart, close_line]
    · rw [enter_alloc, close_phase]
  | setsUp setsUp | fails setsUp => cases setsUp

/-- A stage of the setup, with what it leads to. -/
theorem liveStep_setsUp {act : LiveAct} {next : CallLine κ} {ok : Bool}
    (stage : act = .connect id ok ∧ next = .connected ∨ act = .create id ok ∧ next = .created ∨
      ∃ now, act = .accept id ok now ∧ next = .media (.accepted now)) (step : liveStep session s act = some t) :
    ∃ left, t.line id = (if ok then next else .closing left) ∧ (∀ other, other ≠ id → t.line other = s.line other) ∧
      t.alloc = s.alloc := by
  rcases stage with ⟨rfl, rfl⟩ | ⟨rfl, rfl⟩ | ⟨now, rfl, rfl⟩
  all_goals
    simp only [liveStep] at step
    split at step
    · rename_i sockets stage returned
      cases Option.some.inj step
      refine ⟨[sockets.rtpSocket, sockets.rtcpSocket], ?_, fun other apart => enter_line_of_ne _ _ apart, rfl⟩
      exact enter_line_self ..
    · cases step

end LiveCalls

namespace Together
variable {phase : Option CallPhase} {alloc : AllocPhase} {line : CallLine κ}

theorem media_iff {call : CallState κ} :
    Together phase alloc (.media call) ↔ phase = some (.answered call.handleCall) ∧ call.Placed := by
  cases phase with
  | none => simp [Together]
  | some phase =>
    cases phase with
    | answered place =>
      constructor
      · rintro ⟨_, same, rfl, placed⟩
        cases same
        exact ⟨rfl, placed⟩
      · rintro ⟨same, placed⟩
        cases same
        exact ⟨call, rfl, rfl, placed⟩
    | invited | unparsed | parsed | bound | connected | refused | created | rung | returned => simp [Together]

theorem signalled {after : Option CallPhase} (together : Together phase alloc line)
    (same : after = phase ∨ phase = none ∧ after = some .invited) : Together after alloc line := by
  rcases same with rfl | ⟨rfl, rfl⟩ <;> exact together

theorem handled {before after : CallPhase} {act : HandleAct} (together : Together (some before) alloc line)
    (moves : PhaseMoves before act after) (own : act.isLocal = true) : Together (some after) alloc line := by
  cases moves with
  | parsed => exact together.2
  | unparsed | rung => exact together
  | declined => exact Or.inl ⟨together.2, Or.inl together.1⟩
  | refused => exact together
  | bound | exhausted | connected | unconnected | created | uncreated | answered | unanswered | proceeds => cases own

theorem closing {before : List UInt16} (together : Together phase alloc (.closing before : CallLine κ))
    (left : List UInt16) :
    Together phase alloc (.closing left : CallLine κ) := by
  cases phase with
  | none => cases together.2
  | some phase =>
    cases phase with
    | invited | unparsed => cases together.2
    | parsed | connected | created | rung => cases together
    | bound => cases together.1
    | answered place =>
      obtain ⟨_, same, _⟩ := together
      cases same
    | refused | returned => exact Or.inr ⟨left, rfl⟩

end Together

namespace RunningServer
variable {session : CallId → MediaSession κ} {s t : RunningServer κ}

/-- Where the two halves of each call stand together. -/
def InStep (s : RunningServer κ) : Prop := ∀ id, Together (s.sip.phase? id) (s.calls.alloc.phase id) (s.calls.line id)

/-- What holds of the whole server in every state. -/
structure Invariant (s : RunningServer κ) : Prop where
  counted : Counted s.sip
  drain : DrainInvariant s.sip
  live : LiveInvariant s.calls
  inStep : s.InStep
  cancelled : ∀ id call, s.sip.dialogEnded id = true → s.calls.line id = .media call →
    call.tokens.isCancelled dialogToken = true

/-- The two halves stay together under a cancellation, which only the media
half notices. -/
theorem together_cancelDialog {id other : CallId} {phase : Option CallPhase} {calls : LiveCalls κ}
    (together : Together phase (calls.alloc.phase other) (calls.line other)) :
    Together phase ((calls.cancelDialog id).alloc.phase other) ((calls.cancelDialog id).line other) := by
  rw [LiveCalls.cancelDialog_alloc]
  rcases LiveCalls.cancelDialog_line calls id other with same | ⟨rfl, call, line, after⟩
  · rw [same]
    exact together
  · rw [line] at together
    rw [after]
    obtain ⟨place, placed⟩ := Together.media_iff.mp together
    exact Together.media_iff.mpr ⟨place, placed.receive, placed.send, placed.stopped⟩

/-- A cancelled token stays cancelled, and the cancellation of a dialog cancels
its own. -/
theorem cancelled_cancelDialog {id other : CallId} {call : CallState κ} {calls : LiveCalls κ}
    (there : (calls.cancelDialog id).line other = .media call)
    (before : other ≠ id → ∀ call, calls.line other = .media call → call.tokens.isCancelled dialogToken = true) :
    call.tokens.isCancelled dialogToken = true := by
  by_cases mine : other = id
  · subst mine
    exact LiveCalls.cancelDialog_cancelled there
  · rcases LiveCalls.cancelDialog_line calls id other with same | ⟨same, _⟩
    · rw [same] at there
      exact before mine call there
    · exact absurd same mine

theorem Invariant.signalling {act : SipAct} {sip : SipServer} (before : s.Invariant)
    (session : CallId → MediaSession κ) (step : sipStep s.sip act = some sip) (other : act.isHandle = false) :
    (⟨sip, s.calls.notice act⟩ : RunningServer κ).Invariant := by
  have moved := SipServer.moves_of_step step
  have phases (id : CallId) : Together (sip.phase? id) (s.calls.alloc.phase id) (s.calls.line id) :=
    (before.inStep id).signalled (SipServer.phase?_signalling step other id)
  by_cases ends : ∃ id reason, act = .dialogEnds id reason
  · obtain ⟨id, reason, rfl⟩ := ends
    refine ⟨moved.counted before.counted, moved.drainInvariant before.drain,
      LiveCalls.live_cancelDialog before.live session, fun other => together_cancelDialog (phases other), ?_⟩
    intro other call ended there
    refine cancelled_cancelDialog there fun apart call line => before.cancelled other call ?_ line
    rcases moved.dialogEnded ended with old | ⟨_, same⟩
    · exact old
    · cases same
      exact absurd rfl apart
  · have same : s.calls.notice act = s.calls := by
      unfold LiveCalls.notice
      split
      · exact absurd ⟨_, _, rfl⟩ ends
      · rfl
    rw [same]
    refine ⟨moved.counted before.counted, moved.drainInvariant before.drain, before.live, phases, ?_⟩
    intro other call ended line
    rcases moved.dialogEnded ended with old | ⟨reason, same⟩
    · exact before.cancelled other call old line
    · exact absurd ⟨other, reason, same⟩ ends

/-- An operation of one `handle_call` and what the calls do with it. -/
theorem Invariant.operation {id : CallId} {act : HandleAct} {sip : SipServer} {calls : LiveCalls κ}
    (before : s.Invariant) (step : sipStep s.sip (.handle id act) = some sip) (live : LiveInvariant calls)
    (others : ∀ other, other ≠ id → calls.line other = s.calls.line other ∧
      calls.alloc.phase other = s.calls.alloc.phase other)
    (own : ∀ phase next, s.sip.phase? id = some phase → PhaseMoves phase act next →
      Together (some next) (calls.alloc.phase id) (calls.line id))
    (cancelled : ∀ call,
      s.sip.dialogEnded id = true → calls.line id = .media call → call.tokens.isCancelled dialogToken = true) :
    (⟨sip, calls⟩ : RunningServer κ).Invariant := by
  have moved := SipServer.moves_of_step step
  obtain ⟨⟨phase, next, was, moves, now⟩, rest⟩ := SipServer.phase?_handle step
  refine ⟨moved.counted before.counted, moved.drainInvariant before.drain, live, fun other => ?_,
    fun other call ended line => ?_⟩
  · by_cases mine : other = id
    · subst mine
      rw [show sip.phase? other = some next from now]
      exact own phase next was moves
    · obtain ⟨line, alloc⟩ := others other mine
      rw [show sip.phase? other = _ from rest other mine, line, alloc]
      exact before.inStep other
  · have old : s.sip.dialogEnded other = true := by
      rcases moved.dialogEnded ended with old | ⟨_, same⟩
      · exact old
      · cases same
    by_cases mine : other = id
    · subst mine
      exact cancelled call old line
    · rw [(others other mine).1] at line
      exact before.cancelled other call old line

/-- A step of the calls alone, among them one that moves. -/
theorem Invariant.ofCalls (id : CallId) {calls : LiveCalls κ} (before : s.Invariant) (live : LiveInvariant calls)
    (others : ∀ other, other ≠ id → calls.line other = s.calls.line other ∧
      calls.alloc.phase other = s.calls.alloc.phase other)
    (own : Together (s.sip.phase? id) (calls.alloc.phase id) (calls.line id))
    (cancelled : ∀ call,
      s.sip.dialogEnded id = true → calls.line id = .media call → call.tokens.isCancelled dialogToken = true) :
    ({ s with calls } : RunningServer κ).Invariant := by
  refine ⟨before.counted, before.drain, live, fun other => ?_, fun other call ended line => ?_⟩
  · by_cases mine : other = id
    · subst mine
      exact own
    · obtain ⟨line, alloc⟩ := others other mine
      rw [line, alloc]
      exact before.inStep other
  · by_cases mine : other = id
    · subst mine
      exact cancelled call ended line
    · rw [(others other mine).1] at line
      exact before.cancelled other call ended line

theorem allocates_iff {id : CallId} :
    s.sip.allocates id = true → ∃ offer, s.sip.phase? id = some (.parsed offer) := by
  unfold SipServer.allocates SipServer.phase?
  split
  · rename_i offer outcomes responses call
    intro _
    rw [call]
    exact ⟨offer, rfl⟩
  · nofun

theorem both_eq_some {sip : Option SipServer} {calls : Option (LiveCalls κ)} :
    both sip calls = some t ↔ sip = some t.sip ∧ calls = some t.calls := by
  unfold both
  cases sip with
  | none => simp
  | some sip =>
    cases calls with
    | none => simp
    | some calls =>
      simp only [Option.bind_some, Option.map_some, Option.some.injEq]
      constructor
      · rintro rfl
        exact ⟨rfl, rfl⟩
      · rintro ⟨rfl, rfl⟩
        rfl

/-- The setup of the media half, which comes to the next place of both halves
or closes what it has. -/
theorem Invariant.setsUp {id : CallId} {act : LiveAct} {operation : HandleAct} {next : CallLine κ} {ok : Bool}
    {calls : LiveCalls κ} {sip : SipServer} (before : s.Invariant)
    (stage : act = .connect id ok ∧ next = .connected ∧ operation = .connect ok ∨ act = .create id ok ∧
      next = .created ∧ operation = .create ok)
    (signalled : sipStep s.sip (.handle id operation) = some sip) (step : liveStep session s.calls act = some calls) :
    (⟨sip, calls⟩ : RunningServer κ).Invariant := by
  have kind : act = .connect id ok ∧ next = .connected ∨ act = .create id ok ∧ next = .created ∨
      ∃ now, act = .accept id ok now ∧ next = .media (.accepted now) := by
    rcases stage with ⟨act, next, _⟩ | ⟨act, next, _⟩
    · exact Or.inl ⟨act, next⟩
    · exact Or.inr (Or.inl ⟨act, next⟩)
  obtain ⟨left, line, others, alloc⟩ := LiveCalls.liveStep_setsUp kind step
  have idle (call : CallState κ) : next ≠ .media call := by
    rcases stage with ⟨_, rfl, _⟩ | ⟨_, rfl, _⟩ <;> nofun
  refine before.operation signalled (before.live.step step) (fun other apart => ⟨others other apart, by rw [alloc]⟩)
    (fun phase later was moves => ?_) fun call _ there => ?_
  · rw [line]
    rcases stage with ⟨_, rfl, rfl⟩ | ⟨_, rfl, rfl⟩
    · cases moves with
      | connected => exact rfl
      | unconnected => exact Or.inr ⟨left, rfl⟩
    · cases moves with
      | created => exact rfl
      | uncreated => exact Or.inr ⟨left, rfl⟩
  · rw [line] at there
    cases ok with
    | true => exact absurd there (idle call)
    | false => cases there

theorem Invariant.accepts {id : CallId} {now : Nat} {ok : Bool} {calls : LiveCalls κ} {sip : SipServer}
    (before : s.Invariant) (signalled : sipStep s.sip (.handle id (.accept ok)) = some sip)
    (step : liveStep session s.calls (.accept id ok now) = some calls) :
    (⟨sip, if s.sip.dialogEnded id then calls.cancelDialog id else calls⟩ : RunningServer κ).Invariant := by
  obtain ⟨left, line, others, alloc⟩ := LiveCalls.liveStep_setsUp (Or.inr (Or.inr ⟨now, rfl, rfl⟩)) step
  have live := before.live.step step
  have own (phase : CallPhase) (next : CallPhase) (moves : PhaseMoves phase (.accept ok) next) :
      Together (some next) (calls.alloc.phase id) (calls.line id) := by
    rw [line]
    cases moves with
    | answered => exact Together.media_iff.mpr ⟨rfl, CallState.placed_accepted now⟩
    | unanswered => exact Or.inr ⟨left, rfl⟩
  cases ended : s.sip.dialogEnded id with
  | false =>
    refine before.operation signalled live (fun other apart => ⟨others other apart, by rw [if_neg nofun, alloc]⟩)
      (fun phase next _ moves => own phase next moves) fun call gone => ?_
    cases ended.symm.trans gone
  | true =>
    refine before.operation signalled (LiveCalls.live_cancelDialog live session) (fun other apart => ⟨?_, ?_⟩)
      (fun phase next _ moves => together_cancelDialog (own phase next moves)) fun call _ there => ?_
    · rcases LiveCalls.cancelDialog_line calls id other with same | ⟨mine, _⟩
      · exact same.trans (others other apart)
      · exact absurd mine apart
    · rw [if_pos rfl, LiveCalls.cancelDialog_alloc, alloc]
    · exact LiveCalls.cancelDialog_cancelled there

theorem Invariant.proceeds {id : CallId} {calls : LiveCalls κ} {sip : SipServer} (before : s.Invariant)
    (signalled : sipStep s.sip (.handle id .proceed) = some sip)
    (step : liveStep session s.calls (.media id .handleCall) = some calls) :
    (⟨sip, calls⟩ : RunningServer κ).Invariant := by
  obtain ⟨call, after, line, moved, now, others, alloc⟩ := LiveCalls.liveStep_media step
  have together := before.inStep id
  rw [line] at together
  obtain ⟨place, placed⟩ := Together.media_iff.mp together
  refine before.operation signalled (before.live.step step) (fun other apart => ⟨others other apart, by rw [alloc]⟩)
    (fun phase next was moves => ?_) fun last ended there => ?_
  · cases was.symm.trans place
    cases moves with
    | proceeds ahead =>
      cases ahead.symm.trans (CallState.handleCallStep_next moved)
      rw [now]
      exact Together.media_iff.mpr ⟨rfl, placed.step moved⟩
  · cases now.symm.trans there
    exact callStep_cancelled moved (before.cancelled id call ended line)

theorem Invariant.plays {id : CallId} {act : CallAct} {calls : LiveCalls κ} (before : s.Invariant)
    (other : act.isHandleCall = false) (step : liveStep session s.calls (.media id act) = some calls) :
    ({ s with calls } : RunningServer κ).Invariant := by
  obtain ⟨call, after, line, moved, now, others, alloc⟩ := LiveCalls.liveStep_media step
  have together := before.inStep id
  rw [line] at together
  obtain ⟨place, placed⟩ := Together.media_iff.mp together
  have foreign : act ≠ .handleCall := by
    rintro rfl
    cases other
  refine before.ofCalls id (before.live.step step) (fun other apart => ⟨others other apart, by rw [alloc]⟩) ?_
    fun last ended there => ?_
  · rw [now, place]
    exact Together.media_iff.mpr ⟨by rw [(callStep_keepsPlaces moved foreign).handleCall], placed.step moved⟩
  · cases now.symm.trans there
    exact callStep_cancelled moved (before.cancelled id call ended line)

theorem Invariant.step {act : RunningAct} (before : s.Invariant) (step : runningStep session s act = some t) :
    t.Invariant := by
  cases act with
  | signalling act =>
    obtain ⟨other, step⟩ := Option.ite_none_left_eq_some.mp step
    obtain ⟨sip, signalled, rfl⟩ := Option.map_eq_some_iff.mp step
    exact before.signalling session signalled (Bool.eq_false_iff.mpr other)
  | handle id act =>
    obtain ⟨own, step⟩ := Option.ite_none_right_eq_some.mp step
    obtain ⟨sip, signalled, rfl⟩ := Option.map_eq_some_iff.mp step
    refine before.operation signalled before.live (fun _ _ => ⟨rfl, rfl⟩) (fun phase next was moves => ?_)
      (before.cancelled id)
    have together := before.inStep id
    rw [was] at together
    exact together.handled moves own
  | alloc act =>
    cases act with
    | advance id chosen =>
      obtain ⟨own, step⟩ := Option.ite_none_right_eq_some.mp step
      obtain ⟨calls, moved, rfl⟩ := Option.map_eq_some_iff.mp step
      obtain ⟨offer, phase⟩ := allocates_iff own
      have together := before.inStep id
      rw [phase] at together
      have live := before.live.step moved
      obtain ⟨alloc, advanced, rfl⟩ := Option.map_eq_some_iff.mp moved
      refine before.ofCalls id live (fun other apart => ⟨rfl, (AllocState.advances advanced).others.1 other apart⟩) ?_
        fun call _ there => ?_
      · rw [phase]
        exact together
      · cases there.symm.trans together
    | otherBinds port =>
      obtain ⟨calls, moved, rfl⟩ := Option.map_eq_some_iff.mp step
      have live := before.live.step moved
      cases lives_of_step moved with
      | otherBinds => exact before.ofCalls 0 live (fun _ _ => ⟨rfl, rfl⟩) (before.inStep 0) (before.cancelled 0)
      | setsUp setsUp | fails setsUp => cases setsUp
  | allocated id =>
    simp only [runningStep] at step
    split at step
    · rename_i result returned
      obtain ⟨sip, signalled, rfl⟩ := Option.map_eq_some_iff.mp step
      refine before.operation signalled before.live (fun _ _ => ⟨rfl, rfl⟩) (fun phase next was moves => ?_)
        (before.cancelled id)
      have together := before.inStep id
      rw [was] at together
      cases result with
      | some sockets =>
        cases moves with
        | bound => exact ⟨together, sockets, returned⟩
      | none =>
        cases moves with
        | exhausted => exact Or.inl ⟨together, Or.inr returned⟩
    · cases step
  | connect id ok =>
    obtain ⟨signalled, moved⟩ := both_eq_some.mp step
    exact before.setsUp (Or.inl ⟨rfl, rfl, rfl⟩) signalled moved
  | create id ok =>
    obtain ⟨signalled, moved⟩ := both_eq_some.mp step
    exact before.setsUp (Or.inr ⟨rfl, rfl, rfl⟩) signalled moved
  | accept id ok now =>
    obtain ⟨signalled, moved⟩ := both_eq_some.mp step
    obtain ⟨calls, moved, same⟩ := Option.map_eq_some_iff.mp moved
    have after := before.accepts signalled moved
    rw [same] at after
    exact after
  | close id =>
    obtain ⟨calls, moved, rfl⟩ := Option.map_eq_some_iff.mp step
    have live := before.live.step moved
    cases lives_of_step moved with
    | @closes _ port left stage =>
      refine before.ofCalls id live (fun other apart => ⟨?_, ?_⟩) ?_ fun call _ there => ?_
      · rw [LiveCalls.enter_line_of_ne _ _ apart, LiveCalls.close_line]
      · rw [LiveCalls.enter_alloc, LiveCalls.close_phase]
      · have together := before.inStep id
        rw [stage] at together
        rw [LiveCalls.enter_line_self, LiveCalls.enter_alloc, LiveCalls.close_phase]
        exact together.closing left
      · rw [LiveCalls.enter_line_self] at there
        cases there
    | setsUp setsUp | fails setsUp => cases setsUp
  | proceed id =>
    obtain ⟨signalled, moved⟩ := both_eq_some.mp step
    exact before.proceeds signalled moved
  | media id act =>
    obtain ⟨other, step⟩ := Option.ite_none_left_eq_some.mp step
    obtain ⟨calls, moved, rfl⟩ := Option.map_eq_some_iff.mp step
    exact before.plays (Bool.eq_false_iff.mpr other) moved

/-- The operation of `handle_call` that a step is for the signalling half. -/
def operation? (s : RunningServer κ) : RunningAct → Option (CallId × HandleAct)
  | .handle id act => some (id, act)
  | .allocated id =>
    match s.calls.alloc.phase id with
    | .returned result => some (id, .allocate result.isSome)
    | .idle | .looping _ _ | .bindingRtp _ _ _ | .bindingRtcp _ _ _ _ | .dropping _ _ _ => none
  | .connect id ok => some (id, .connect ok)
  | .create id ok => some (id, .create ok)
  | .accept id ok _ => some (id, .accept ok)
  | .proceed id => some (id, .proceed)
  | .signalling _ | .alloc _ | .close _ | .media _ _ => none

/-- What a step is for the signalling half. -/
inductive SipHalf (s t : RunningServer κ) : RunningAct → Prop
  | loops {act} : act.isHandle = false → sipStep s.sip act = some t.sip → SipHalf s t (.signalling act)
  | operates {act id operation} : s.operation? act = some (id, operation) →
    sipStep s.sip (.handle id operation) = some t.sip →
      SipHalf s t act
  | rests {act} : s.operation? act = none → t.sip = s.sip → SipHalf s t act

theorem sipHalf_of_step {act : RunningAct} (step : runningStep session s act = some t) : SipHalf s t act := by
  cases act with
  | signalling act =>
    obtain ⟨foreign, step⟩ := Option.ite_none_left_eq_some.mp step
    obtain ⟨sip, signalled, rfl⟩ := Option.map_eq_some_iff.mp step
    exact .loops (Bool.eq_false_iff.mpr foreign) signalled
  | handle id act =>
    obtain ⟨_, step⟩ := Option.ite_none_right_eq_some.mp step
    obtain ⟨sip, signalled, rfl⟩ := Option.map_eq_some_iff.mp step
    exact .operates rfl signalled
  | allocated id =>
    simp only [runningStep] at step
    split at step
    · rename_i result returned
      obtain ⟨sip, signalled, rfl⟩ := Option.map_eq_some_iff.mp step
      exact .operates (by rw [operation?, returned]) signalled
    · cases step
  | connect | create | accept | proceed => exact .operates rfl (both_eq_some.mp step).1
  | alloc act =>
    cases act with
    | advance id chosen =>
      obtain ⟨_, step⟩ := Option.ite_none_right_eq_some.mp step
      obtain ⟨calls, moved, rfl⟩ := Option.map_eq_some_iff.mp step
      exact .rests rfl rfl
    | otherBinds port =>
      obtain ⟨calls, moved, rfl⟩ := Option.map_eq_some_iff.mp step
      exact .rests rfl rfl
  | close id =>
    obtain ⟨calls, moved, rfl⟩ := Option.map_eq_some_iff.mp step
    exact .rests rfl rfl
  | media id act =>
    obtain ⟨_, step⟩ := Option.ite_none_left_eq_some.mp step
    obtain ⟨calls, moved, rfl⟩ := Option.map_eq_some_iff.mp step
    exact .rests rfl rfl

/-- Only the steps of `try_allocate_socket_pair` move an allocation. -/
theorem alloc_of_step {act : RunningAct} (step : runningStep session s act = some t) :
    t.calls.alloc.phase = s.calls.alloc.phase ∨ ∃ id chosen offer, act = .alloc (.advance id chosen) ∧
      s.sip.phase? id = some (.parsed offer) ∧ t.sip = s.sip ∧ Advances s.calls.alloc id t.calls.alloc := by
  cases act with
  | signalling act =>
    obtain ⟨_, step⟩ := Option.ite_none_left_eq_some.mp step
    obtain ⟨sip, _, rfl⟩ := Option.map_eq_some_iff.mp step
    cases act with
    | dialogEnds => exact Or.inl (congrArg AllocState.phase LiveCalls.cancelDialog_alloc)
    | _ => exact Or.inl rfl
  | handle id act =>
    obtain ⟨_, step⟩ := Option.ite_none_right_eq_some.mp step
    obtain ⟨sip, _, rfl⟩ := Option.map_eq_some_iff.mp step
    exact Or.inl rfl
  | allocated id =>
    simp only [runningStep] at step
    split at step
    · obtain ⟨sip, _, rfl⟩ := Option.map_eq_some_iff.mp step
      exact Or.inl rfl
    · cases step
  | connect id ok =>
    obtain ⟨_, _, _, alloc⟩ := LiveCalls.liveStep_setsUp (Or.inl ⟨rfl, rfl⟩) (both_eq_some.mp step).2
    exact Or.inl (congrArg AllocState.phase alloc)
  | create id ok =>
    obtain ⟨_, _, _, alloc⟩ := LiveCalls.liveStep_setsUp (Or.inr (Or.inl ⟨rfl, rfl⟩)) (both_eq_some.mp step).2
    exact Or.inl (congrArg AllocState.phase alloc)
  | accept id ok now =>
    obtain ⟨calls, moved, same⟩ := Option.map_eq_some_iff.mp (both_eq_some.mp step).2
    obtain ⟨_, _, _, alloc⟩ := LiveCalls.liveStep_setsUp (Or.inr (Or.inr ⟨now, rfl, rfl⟩)) moved
    rw [← same, ← alloc]
    split
    · exact Or.inl (congrArg AllocState.phase LiveCalls.cancelDialog_alloc)
    · exact Or.inl rfl
  | proceed id =>
    obtain ⟨_, _, _, _, _, _, alloc⟩ := LiveCalls.liveStep_media (both_eq_some.mp step).2
    exact Or.inl alloc
  | media id act =>
    obtain ⟨_, step⟩ := Option.ite_none_left_eq_some.mp step
    obtain ⟨calls, moved, rfl⟩ := Option.map_eq_some_iff.mp step
    obtain ⟨_, _, _, _, _, _, alloc⟩ := LiveCalls.liveStep_media moved
    exact Or.inl alloc
  | close id =>
    obtain ⟨calls, moved, rfl⟩ := Option.map_eq_some_iff.mp step
    cases lives_of_step moved with
    | closes =>
      refine Or.inl ?_
      rw [LiveCalls.enter_alloc, LiveCalls.close_phase]
    | setsUp setsUp | fails setsUp => cases setsUp
  | alloc act =>
    cases act with
    | advance id chosen =>
      obtain ⟨own, step⟩ := Option.ite_none_right_eq_some.mp step
      obtain ⟨calls, moved, rfl⟩ := Option.map_eq_some_iff.mp step
      obtain ⟨alloc, advanced, rfl⟩ := Option.map_eq_some_iff.mp moved
      obtain ⟨offer, phase⟩ := allocates_iff own
      exact Or.inr ⟨id, chosen, offer, rfl, phase, rfl, AllocState.advances advanced⟩
    | otherBinds port =>
      obtain ⟨calls, moved, rfl⟩ := Option.map_eq_some_iff.mp step
      cases lives_of_step moved with
      | otherBinds => exact Or.inl rfl
      | setsUp setsUp | fails setsUp => cases setsUp

theorem invariant_start (drainToken : Bool) (range : RtpPortRange) (taken : UInt16 → Bool) :
    (start drainToken range taken : RunningServer κ).Invariant where
  counted := counted_start drainToken
  drain := .start drainToken
  live := .start range taken
  inStep id := by
    have none : (start drainToken range taken : RunningServer κ).sip.phase? id = none := rfl
    rw [none]
    exact ⟨rfl, rfl⟩
  cancelled id call ended := by
    have live : (start drainToken range taken : RunningServer κ).sip.dialogEnded id = false := rfl
    cases live.symm.trans ended

end RunningServer

end RsipstackServer
