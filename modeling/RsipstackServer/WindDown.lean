import RsipstackServer.PacketStream
import RsipstackServer.ReceiveHistory
import RsipstackServer.Foundation.Potential

namespace RsipstackServer
open Foundation
universe u
variable {κ : Type u} {session : MediaSession κ}

namespace CallAct

def isHandleCall : CallAct → Bool
  | .handleCall => true
  | _ => false

def isReceive : CallAct → Bool
  | .receiveTask => true
  | _ => false

def isSend : CallAct → Bool
  | .sendTask _ => true
  | _ => false

/-- A step of `handle_call` or of one of the media tasks, apart from the steps
of the handler and of what surrounds the call. -/
def isOwn (act : CallAct) : Bool := act.isHandleCall || act.isReceive || act.isSend

def isPut : CallAct → Bool
  | .handlerTask (.put _) => true
  | _ => false

end CallAct

/-- Nothing of the call runs any more. -/
structure CallState.WoundDown (s : CallState κ) : Prop where
  returned : s.handleCall = .returned
  receive : ∃ exit, s.receiveTask = .ended exit
  send : ∃ exit, s.sendTask = .ended exit
  handler : ∀ running, s.handlerTask ≠ .running running

def HandleCall.left : HandleCall → Nat
  | .accepted => 4
  | .started => 3
  | .waiting => 2
  | .sayingBye => 1
  | .returned => 0

/-- The steps that the receive task of a cancelled session still takes. -/
def CallState.receiveLeft (s : CallState κ) : Nat :=
  match s.receiveTask with
  | .unspawned | .spawned => 2
  | .running _ => 1
  | .ended _ => 0

/-- The steps that the send task takes at most for the frames in its queue: it
takes up a frame and waits for the socket, and at last it ends. -/
def CallState.sendLeft (s : CallState κ) : Nat :=
  match s.sendTask with
  | .unspawned | .spawned => 2 + 2 * s.audioOut.queue.length
  | .running (_, none) => 1 + 2 * s.audioOut.queue.length
  | .running (_, some _) => 2 + 2 * s.audioOut.queue.length
  | .ended _ => 0

def CallState.work (s : CallState κ) : Nat := s.handleCall.left + s.receiveLeft + s.sendLeft

/-- Where the tasks are while `handle_call` is at its places. -/
structure CallState.Placed (s : CallState κ) : Prop where
  receive : s.receiveTask = .unspawned ↔ s.handleCall = .accepted
  send : s.sendTask = .unspawned ↔ s.handleCall = .accepted
  stopped : s.handleCall.PastWait → ∀ running, s.handlerTask ≠ .running running

theorem CallState.placed_accepted (now : Nat) : (CallState.accepted now : CallState κ).Placed :=
  ⟨iff_of_true rfl rfl, iff_of_true rfl rfl, fun past => past.elim⟩

/-- What the steps of the other parties leave of the places. -/
structure KeepsPlaces (s t : CallState κ) : Prop where
  handleCall : t.handleCall = s.handleCall
  receive : t.receiveTask = .unspawned ↔ s.receiveTask = .unspawned
  send : t.sendTask = .unspawned ↔ s.sendTask = .unspawned
  handler : ∀ running, t.handlerTask = .running running → ∃ before, s.handlerTask = .running before

theorem KeepsPlaces.of_same {s t : CallState κ} (handleCall : t.handleCall = s.handleCall)
    (receive : t.receiveTask = s.receiveTask) (send : t.sendTask = s.sendTask)
    (handler : t.handlerTask = s.handlerTask) :
    KeepsPlaces s t :=
  ⟨handleCall, by rw [receive], by rw [send], fun running same => ⟨running, handler ▸ same⟩⟩

theorem Receives.keepsPlaces {s t : CallState κ} (step : Receives session s t) : KeepsPlaces s t := by
  have moved {next : CallState κ} {task} (handleCall : next.handleCall = s.handleCall)
    (send : next.sendTask = s.sendTask)
      (handler : next.handlerTask = s.handlerTask) (atTask : s.receiveTask = task) (before : task ≠ .unspawned)
      (after : next.receiveTask ≠ .unspawned) : KeepsPlaces s next :=
    ⟨handleCall, iff_of_false after (atTask ▸ before), by rw [send], fun running same => ⟨running, handler ▸ same⟩⟩
  cases step with
  | start atTask => exact moved rfl rfl rfl atTask nofun nofun
  | cancelled atTask | fails atTask | panics atTask | closes atTask | delivers atTask =>
    exact moved rfl rfl rfl atTask nofun nofun
  | timesOut | skips => exact .of_same rfl rfl rfl rfl

theorem Sends.spawned {h k : SendHistory κ} {act : SendAct} (step : Sends session h (.sendTask act) k) :
    h.state.sendTask ≠ .unspawned ∧ k.state.sendTask ≠ .unspawned := by
  cases step with
  | leaves other => exact absurd rfl (other act)
  | starts atTask | cancelled atTask | closes atTask | skips atTask | panics atTask | hands atTask | sent atTask
  | fails atTask =>
    rw [atTask]
    exact ⟨nofun, nofun⟩

theorem CallState.sendStep_keepsPlaces {s t : CallState κ} {act : SendAct} (step : s.sendStep session act = some t) :
    KeepsPlaces s t := by
  obtain ⟨before, after⟩ := (CallState.sendStep_sends (h := ⟨s, .empty⟩) step).spawned
  obtain ⟨_, _, _, rfl⟩ := CallState.sendStep_frame step
  exact ⟨rfl, Iff.rfl, iff_of_false after before, fun running same => ⟨running, same⟩⟩

theorem CallState.handlerStep_keepsPlaces {s t : CallState κ} {act : HandlerAct} (step : s.handlerStep act = some t) :
    KeepsPlaces s t := by
  have running : ∃ before, s.handlerTask = .running before := by
    unfold CallState.handlerStep at step
    split at step
    · rename_i before atTask
      exact ⟨before, atTask⟩
    all_goals cases step
  obtain ⟨_, _, _, _, _, rfl⟩ := CallState.handlerStep_frame step
  exact ⟨rfl, Iff.rfl, Iff.rfl, fun _ _ => running⟩

theorem callStep_keepsPlaces {s t : CallState κ} {act : CallAct} (step : callStep session s act = some t)
    (other : act ≠ .handleCall) : KeepsPlaces s t := by
  cases act with
  | handleCall => exact absurd rfl other
  | tick | peerSends | socketFails | dialogEnds =>
    cases Option.some.inj step
    exact .of_same rfl rfl rfl rfl
  | receiveTask => exact (CallState.receiveStep_cases step).keepsPlaces
  | sendTask act => exact CallState.sendStep_keepsPlaces step
  | handlerTask act => exact CallState.handlerStep_keepsPlaces step

theorem CallState.abortHandler_stopped (s : CallState κ) (running : Unit) :
    s.abortHandler.handlerTask ≠ .running running := by
  unfold CallState.abortHandler
  split
  · nofun
  all_goals
    rename_i place
    rw [place]
    nofun

theorem CallState.Placed.proceeds {s t : CallState κ} (placed : s.Placed) (step : s.handleCallStep = some t) :
    t.Placed := by
  have handled := CallState.handleCallStep_cases step
  unfold CallState.handleCallStep at step
  split at step
  · cases Option.some.inj step
    exact ⟨iff_of_false nofun nofun, iff_of_false nofun nofun, fun past => past.elim⟩
  · rename_i place
    cases Option.some.inj step
    have spawned : s.handleCall ≠ .accepted := by rw [place]; nofun
    exact ⟨iff_of_false (mt placed.receive.mp spawned) nofun, iff_of_false (mt placed.send.mp spawned) nofun,
      fun past => past.elim⟩
  · rename_i place
    obtain ⟨_, same⟩ := Option.ite_none_right_eq_some.mp step
    cases Option.some.inj same
    have spawned : s.handleCall ≠ .accepted := by rw [place]; nofun
    refine ⟨iff_of_false (mt ?_ spawned) nofun, iff_of_false (mt ?_ spawned) nofun, fun _ => s.abortHandler_stopped⟩
    · rcases s.abortHandler_cases with same | same <;> exact fun unspawned => placed.receive.mp
        (by rwa [same] at unspawned)
    · rcases s.abortHandler_cases with same | same <;> exact fun unspawned => placed.send.mp
        (by rwa [same] at unspawned)
  · rename_i place
    cases Option.some.inj step
    have spawned : s.handleCall ≠ .accepted := by rw [place]; nofun
    exact ⟨iff_of_false (mt placed.receive.mp spawned) nofun, iff_of_false (mt placed.send.mp spawned) nofun,
      fun _ => placed.stopped (by rw [place]; trivial)⟩
  · cases step

theorem CallState.Placed.step {s t : CallState κ} {act : CallAct} (placed : s.Placed)
    (step : callStep session s act = some t) : t.Placed := by
  by_cases own : act = .handleCall
  · subst own
    exact placed.proceeds step
  · have keeps := callStep_keepsPlaces step own
    refine ⟨?_, ?_, fun past running same => ?_⟩
    · rw [keeps.receive, keeps.handleCall, placed.receive]
    · rw [keeps.send, keeps.handleCall, placed.send]
    · obtain ⟨before, there⟩ := keeps.handler running same
      exact placed.stopped (keeps.handleCall ▸ past) before there

theorem CallAct.isReceive_of_ne {act : CallAct} (other : act ≠ .receiveTask) : act.isReceive = false := by
  cases act with
  | receiveTask => exact absurd rfl other
  | _ => rfl

theorem Hears.receiveLeft {h k : ReceiveHistory κ} {act : CallAct} (step : Hears session h act k)
    (placed : h.state.Placed) (cancelled : h.state.tokens.isCancelled sessionToken = true) :
    k.state.receiveLeft + (if act.isReceive then 1 else 0) ≤ h.state.receiveLeft := by
  have live {P : Prop} (alive : h.state.tokens.isCancelled sessionToken = false) : P :=
    Bool.noConfusion (alive.symm.trans cancelled)
  cases step with
  | leaves other leaves =>
    rw [CallAct.isReceive_of_ne other]
    rcases leaves.receiveTask with same | ⟨place, spawned⟩
    · simp only [CallState.receiveLeft, same]
      exact Nat.le_refl _
    · simp only [CallState.receiveLeft, spawned, placed.receive.mpr place]
      exact Nat.le_refl _
  | arrives result other =>
    rw [CallAct.isReceive_of_ne other]
    exact Nat.le_refl _
  | starts atTask | cancelled atTask =>
    simp only [CallState.receiveLeft, CallState.endReceive, CallAct.isReceive, atTask]
    exact Nat.le_refl _
  | timesOut _ alive | fails _ alive | skips _ alive | panics _ alive | closes _ alive | delivers _ alive =>
    exact live alive

theorem Sends.sendLeft {h k : SendHistory κ} {act : CallAct} (step : Sends session h act k)
    (placed : h.state.Placed) :
    k.state.sendLeft + (if act.isSend then 1 else 0) ≤ h.state.sendLeft + (if act.isPut then 2 else 0) := by
  cases step with
  | @leaves act t other leaves =>
    have free : t.sendLeft ≤ h.state.sendLeft := by
      rcases leaves.sendTask with same | ⟨place, spawned⟩
      · simp only [CallState.sendLeft, same, leaves.queue]
        exact Nat.le_refl _
      · simp only [CallState.sendLeft, spawned, placed.send.mpr place, leaves.queue]
        exact Nat.le_refl _
    cases act with
    | sendTask own => exact absurd rfl (other own)
    | _ => exact free.trans (Nat.le_add_right _ _)
  | puts sent =>
    obtain ⟨_, rfl⟩ := Channel.send_eq_some_iff.mp sent
    simp only [CallState.sendLeft, CallAct.isSend, CallAct.isPut, List.length_append, List.length_singleton, if_true,
      Bool.false_eq_true, if_false]
    split <;> omega
  | starts atTask | cancelled atTask | sent atTask | fails atTask =>
    simp only [CallState.sendLeft, CallState.endSend, CallAct.isSend, CallAct.isPut, atTask, if_true,
      Bool.false_eq_true, if_false]
    omega
  | closes atTask queue | skips atTask queue | panics atTask queue | hands atTask queue =>
    simp only [CallState.sendLeft, CallState.endSend, CallAct.isSend, CallAct.isPut, atTask, queue, List.length_cons,
      if_true,
      Bool.false_eq_true, if_false]
    omega

theorem CallState.handleCallStep_left {s t : CallState κ} (step : s.handleCallStep = some t) :
    t.handleCall.left + 1 = s.handleCall.left := by
  cases CallState.handleCallStep_cases step with
  | starts place | runs place | ends place | returns place =>
    rw [place]
    rfl

theorem callStep_left {s t : CallState κ} {act : CallAct} (step : callStep session s act = some t) :
    t.handleCall.left + (if act.isHandleCall then 1 else 0) ≤ s.handleCall.left := by
  cases act with
  | handleCall => exact (CallState.handleCallStep_left step).le
  | _ => exact (congrArg HandleCall.left (callStep_keepsPlaces step nofun).handleCall).le

/-- A cancelled token stays so. -/
theorem callStep_cancelled {s t : CallState κ} {act : CallAct} {token : Token}
    (step : callStep session s act = some t) (cancelled : s.tokens.isCancelled token = true) :
    t.tokens.isCancelled token = true := by
  rcases callStep_cases step with ⟨_, receives⟩ | ⟨_, leaves⟩
  · cases receives with
    | timesOut => exact CancelTree.isCancelled_cancel_of _ cancelled
    | start | cancelled | fails | skips | panics | closes | delivers => exact cancelled
  · exact leaves.tokens token cancelled

/-- Once the dialog token is cancelled, each step of the server's own is one
less to come, and only a frame that the handler puts on `audio_out` adds two. -/
theorem callStep_pays {s t : CallState κ} {act : CallAct} (placed : s.Placed)
    (cancelled : s.tokens.isCancelled dialogToken = true) (step : callStep session s act = some t) :
    t.work + (if act.isOwn then 1 else 0) ≤ s.work + (if act.isPut then 2 else 0) := by
  have handleCall := callStep_left step
  have hears : Hears session ⟨s, .empty⟩ act ⟨t, ReceiveRecord.note s act t .empty⟩ :=
    hears_of_step (Recorded.step_eq_some_iff.mpr ⟨step, rfl⟩)
  have sends : Sends session ⟨s, .empty⟩ act ⟨t, SendRecord.note session s act t .empty⟩ :=
    sends_of_step (Recorded.step_eq_some_iff.mpr ⟨step, rfl⟩)
  have receive : t.receiveLeft + (if act.isReceive then 1 else 0) ≤ s.receiveLeft :=
    hears.receiveLeft placed (CancelTree.isCancelled_of_above dialogToken_above cancelled)
  have send : t.sendLeft + (if act.isSend then 1 else 0) ≤ s.sendLeft + (if act.isPut then 2 else 0) :=
    sends.sendLeft placed
  have owns : (if act.isOwn then 1 else 0) ≤
      (if act.isHandleCall then 1 else 0) + (if act.isReceive then 1 else 0) + (if act.isSend then 1 else 0) := by
    cases act <;> exact Nat.le_refl _
  unfold CallState.work
  omega

/-- A cancelled call that has not wound down has a step of its own to take. -/
theorem CallState.Placed.moves {s : CallState κ} (placed : s.Placed) (session : MediaSession κ)
    (cancelled : s.tokens.isCancelled dialogToken = true) (runs : ¬ s.WoundDown) :
    ∃ act t, act.isOwn = true ∧ callStep session s act = some t := by
  have session_cancelled := CancelTree.isCancelled_of_above dialogToken_above cancelled
  have handles {t : CallState κ} (step : s.handleCallStep = some t) :
      ∃ act t, act.isOwn = true ∧ callStep session s act = some t := ⟨.handleCall, t, rfl, step⟩
  cases place : s.handleCall with
  | accepted => exact handles (by rw [handleCallStep, place])
  | started => exact handles (by rw [handleCallStep, place])
  | waiting =>
    refine handles (t := { s.abortHandler with handleCall := .sayingBye }) ?_
    simp only [handleCallStep, place, cancelled, if_true]
  | sayingBye => exact handles (by rw [handleCallStep, place])
  | returned =>
    have spawned : s.handleCall ≠ .accepted := by rw [place]; nofun
    cases receive : s.receiveTask with
    | unspawned => exact absurd (placed.receive.mp receive) spawned
    | spawned =>
      refine ⟨.receiveTask, { s with receiveTask := .running (session.receiveLoop s.now) }, rfl, ?_⟩
      simp only [callStep, receiveStep, receive]
    | running task =>
      refine ⟨.receiveTask, s.endReceive .cancelled, rfl, ?_⟩
      simp only [callStep, receiveStep, receive, MediaSession.rtpReceiveTask, session_cancelled, if_true]
      rfl
    | ended exit =>
      cases send : s.sendTask with
      | unspawned => exact absurd (placed.send.mp send) spawned
      | spawned =>
        refine ⟨.sendTask (.start 0 0 0), { s with sendTask := .running (session.sendLoop 0 0 0, none) }, rfl, ?_⟩
        simp only [callStep, sendStep, send]
      | running task =>
        obtain ⟨task, packet | packet⟩ := task
        · refine ⟨.sendTask .cancelled, s.endSend .cancelled, rfl, ?_⟩
          simp only [callStep, sendStep, send, session_cancelled, if_true]
        · refine ⟨.sendTask (.sent false), s.endSend .socketError, rfl, ?_⟩
          simp only [callStep, sendStep, send, Bool.false_eq_true, if_false]
      | ended stop =>
        have stopped := placed.stopped (by rw [place]; trivial)
        exact absurd ⟨place, ⟨exit, receive⟩, ⟨stop, send⟩, stopped⟩ runs

/-- Nothing is left to do for a call that has wound down. -/
theorem CallState.WoundDown.still {s : CallState κ} (down : s.WoundDown) {act : CallAct} (owned : act.isOwn = true) :
    callStep session s act = none := by
  obtain ⟨exit, receive⟩ := down.receive
  obtain ⟨stop, send⟩ := down.send
  cases act with
  | handleCall => simp only [callStep, handleCallStep, down.returned]
  | receiveTask => simp only [callStep, receiveStep, receive]
  | sendTask own =>
    cases step : callStep session s (.sendTask own) with
    | none => rfl
    | some t =>
      rcases (CallState.sendStep_frame step).1 with spawned | ⟨task, running⟩
      · cases send.symm.trans spawned
      · cases send.symm.trans running
  | tick | peerSends | socketFails | dialogEnds | handlerTask => cases owned

theorem CallState.work_le (s : CallState κ) : s.work ≤ 8 + 2 * s.audioOut.queue.length := by
  have handleCall : s.handleCall.left ≤ 4 := by cases s.handleCall <;> decide
  have receive : s.receiveLeft ≤ 2 := by
    unfold CallState.receiveLeft
    split <;> omega
  have send : s.sendLeft ≤ 2 + 2 * s.audioOut.queue.length := by
    unfold CallState.sendLeft
    split <;> omega
  unfold CallState.work
  omega

/-- A cancelled call among its places, which all steps keep. -/
structure CallState.Ending (s : CallState κ) : Prop where
  placed : s.Placed
  cancelled : s.tokens.isCancelled dialogToken = true

theorem CallState.Ending.step {s t : CallState κ} {act : CallAct} (ending : s.Ending)
    (step : callStep session s act = some t) : t.Ending :=
  ⟨ending.placed.step step, callStep_cancelled step ending.cancelled⟩

theorem CallState.ending_of_run {now : Nat} {acts : List CallAct} {s : CallState κ}
    (reach : run (callStep session) (.accepted now) acts = some s)
    (cancelled : s.tokens.isCancelled dialogToken = true) :
    s.Ending :=
  ⟨run_invariant (CallState.placed_accepted now) (fun _ _ _ placed step => placed.step step) reach, cancelled⟩

/-- `handle_call` and the media tasks can bring a cancelled call to its end by
themselves. -/
theorem CallState.Ending.finishes {s : CallState κ} (ending : s.Ending) (session : MediaSession κ) :
    ∃ closing last, closing.length ≤ 8 + 2 * s.audioOut.queue.length ∧ closing.all CallAct.isOwn = true ∧
      run (callStep session) s closing = some last ∧ last.WoundDown := by
  have spends (a : CallState κ) (act : CallAct) (b : CallState κ) (before : a.Ending) (owned : act.isOwn = true)
      (step : callStep session a act = some b) : b.work < a.work := by
    have paid := callStep_pays before.placed before.cancelled step
    have silent : act.isPut = false := by cases act <;> first | rfl | cases owned
    rw [owned, silent, if_pos rfl, if_neg Bool.false_ne_true] at paid
    omega
  obtain ⟨closing, last, short, own, reach, down⟩ := exists_run_done CallState.WoundDown ending
    (fun _ _ _ before step => before.step step) spends
      fun a before runs => before.placed.moves session before.cancelled runs
  exact ⟨closing, last, short.trans s.work_le, own, reach, down⟩

/-- What becomes of a cancelled call, from `s` on: the steps of its own are
bounded whatever the peer, the handler and the clock do meanwhile, such steps
alone can finish it, and they come to an end only when it has wound down. -/
structure WindsDown (session : MediaSession κ) (s : CallState κ) (later : List CallAct) (t : CallState κ) : Prop where
  bounded : later.countP CallAct.isOwn ≤ 8 + 2 * (s.audioOut.queue.length + later.countP CallAct.isPut)
  finishes : ∃ closing last, closing.length ≤ 8 + 2 * t.audioOut.queue.length ∧ closing.all CallAct.isOwn = true ∧
    run (callStep session) t closing = some last ∧ last.WoundDown
  stops : (∀ act, act.isOwn = true → callStep session t act = none) ↔ t.WoundDown

/-- A call whose dialog token is cancelled winds down. -/
theorem cancelled_windsDown {now : Nat} {past later : List CallAct} {s t : CallState κ}
    (reach : run (callStep session) (.accepted now) past = some s)
    (cancelled : s.tokens.isCancelled dialogToken = true) (continued : run (callStep session) s later = some t) :
    WindsDown session s later t := by
  have start := CallState.ending_of_run reach cancelled
  have there := run_invariant start (fun _ _ _ before step => before.step step) continued
  refine ⟨?_, there.finishes session, fun stuck => ?_, fun down act owned => down.still owned⟩
  · have paid := run_potential CallAct.isOwn start (fun _ _ _ before step => before.step step)
      (fun _ _ _ before step => callStep_pays before.placed before.cancelled step) continued
    have gains := sum_map_gain CallAct.isPut 2 later
    have bound := s.work_le
    omega
  · by_contra runs
    obtain ⟨act, next, owned, step⟩ := there.placed.moves session there.cancelled runs
    cases step.symm.trans (stuck act owned)

/-- A peer hangs up on a call that has a frame to send. -/
def hangingUp : List CallAct :=
  [.handleCall, .handleCall, .sendTask (.start 7 0 0), .handlerTask (.put ⟨[1]⟩), .dialogEnds]

theorem cancelled_windsDown_hangingUp : ∃ s, run (callStep (talkingSession 0)) (.accepted 0) hangingUp = some s ∧
    ∃ t, run (callStep (talkingSession 0)) s [.sendTask .recv, .handlerTask (.put ⟨[2]⟩), .handleCall] = some t ∧
      t.handleCall = .sayingBye ∧
      WindsDown (talkingSession 0) s [.sendTask .recv, .handlerTask (.put ⟨[2]⟩), .handleCall] t := by
  refine exists_of_run (by decide +kernel) fun s reach => ?_
  have same := Option.some.inj reach
  subst same
  refine exists_of_run (by decide +kernel) fun t continued => ⟨?_, cancelled_windsDown reach rfl continued⟩
  exact (Option.some.inj (congrArg (Option.map CallState.handleCall) continued)).symm

end RsipstackServer
