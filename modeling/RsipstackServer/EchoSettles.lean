import RsipstackServer.EchoRoundTrip
import RsipstackServer.Foundation.Potential

namespace RsipstackServer
open Foundation
universe u
variable {κ : Type u} {session : MediaSession κ}

/-- The handler and the send task run, and both channels are open at both ends
that they use. -/
structure CallState.Up (s : CallState κ) : Prop where
  handler : ∃ task, s.handlerTask = .running task
  listens : s.audioIn.receiverAlive = true
  speaks : s.audioOut.senderAlive = true
  sender : ∃ task hand, s.sendTask = .running (task, hand)
  sends : s.audioOut.receiverAlive = true

/-- The steps of the handler and of the send task. -/
def EchoAct.isOnward : EchoAct → Bool
  | .handler _ | .other (.sendTask _) => true
  | .other _ => false

/-- The steps that the frames on their way still need: a frame is received, sent
back, encoded and written to the socket. -/
def EchoCall.inFlight (e : EchoCall κ) : Nat :=
  4 * e.media.state.audioIn.queue.length + 3 * e.holding.length + 2 * e.media.state.audioOut.queue.length +
    e.media.state.inHand.length

/-- What a step takes on: the call stays up, and what was heard is as it was. -/
structure EchoCall.Onward (e f : EchoCall κ) : Prop where
  up : f.media.state.Up
  heard : f.media.record.1 = e.media.record.1
  receiveTask : f.media.state.receiveTask = e.media.state.receiveTask
  spent : f.inFlight < e.inFlight

theorem mediaHistoryStep_of_step {h : MediaHistory κ} {act : CallAct} {t : CallState κ}
    (step : callStep session h.state act = some t) :
    mediaHistoryStep session h act = some ⟨t, MediaHistory.note session h.state act t h.record⟩ := by
  simp only [mediaHistoryStep, Recorded.step, step, Option.map_some]

theorem EchoCall.step_handler {e : EchoCall κ} {branch : EchoBranch} {act : HandlerAct} {phase : EchoPhase}
    {t : CallState κ} (turn : e.phase.process e.media.state branch = some (act, phase))
    (moved : e.media.state.handlerStep act = some t) :
    e.step session (.handler branch) =
      some ⟨⟨t, MediaHistory.note session e.media.state (.handlerTask act) t e.media.record⟩, phase⟩ := by
  have step : callStep session e.media.state (.handlerTask act) = some t := moved
  simp only [EchoCall.step, turn, Option.bind_some, mediaHistoryStep_of_step step, Option.map_some]

theorem EchoCall.step_sendTask {e : EchoCall κ} {act : SendAct} {t : CallState κ}
    (moved : e.media.state.sendStep session act = some t) :
    e.step session (.other (.sendTask act)) =
      some ⟨⟨t, MediaHistory.note session e.media.state (.sendTask act) t e.media.record⟩, e.phase⟩ := by
  have step : callStep session e.media.state (.sendTask act) = some t := moved
  simp only [EchoCall.step, CallAct.isHandler, Bool.false_eq_true, if_false, mediaHistoryStep_of_step step,
    Option.map_some]

theorem EchoCall.takes_on {e : EchoCall κ} {frame : AudioFrame} {later : List AudioFrame} (up : e.media.state.Up)
    (selecting : e.phase = .selecting) (queue : e.media.state.audioIn.queue = frame :: later) :
    ∃ f, e.step session (.handler .recv) = some f ∧ e.Onward f := by
  have received : e.media.state.audioIn.recv = some (some frame, { e.media.state.audioIn with queue := later }) := by
    simp only [Channel.recv, queue]
  have turn : e.phase.process e.media.state .recv = some (.take, .echoing frame) := by
    simp only [selecting, EchoPhase.process, received]
  have moved := CallState.handlerStep_eq_some_iff.mpr ⟨up.handler, .take up.listens received⟩
  refine ⟨_, step_handler turn moved, ⟨up.handler, up.listens, up.speaks, up.sender, up.sends⟩, rfl, rfl, ?_⟩
  simp only [inFlight, holding, selecting, queue, CallState.inHand, List.length_cons, List.length_nil]
  omega

theorem EchoCall.sends_on {e : EchoCall κ} {frame : AudioFrame} (up : e.media.state.Up)
    (echoing : e.phase = .echoing frame) :
    ∃ f, e.step session (.handler .send) = some f ∧ e.Onward f := by
  have sent : e.media.state.audioOut.send ⟨frame.samples⟩ =
      some { e.media.state.audioOut with queue := e.media.state.audioOut.queue ++ [⟨frame.samples⟩] } :=
    Channel.send_eq_some_iff.mpr ⟨up.sends, rfl⟩
  have turn : e.phase.process e.media.state .send = some (.put ⟨frame.samples⟩, .selecting) := by
    simp only [echoing, EchoPhase.process, sent]
  have put : ActsOn e.media.state (.put ⟨frame.samples⟩) _ := .put up.speaks
  rw [sent, Option.getD_some] at put
  have moved := CallState.handlerStep_eq_some_iff.mpr ⟨up.handler, put⟩
  refine ⟨_, step_handler turn moved, ⟨up.handler, up.listens, up.speaks, up.sender, up.sends⟩, rfl, rfl, ?_⟩
  simp only [inFlight, holding, echoing, CallState.inHand, List.length_append, List.length_cons, List.length_nil]
  omega

/-- Under a payload type that fits the header the send task takes up every
frame. -/
theorem CallState.sendStep_recv {s : CallState κ} {record : SendRecord} {task : SendLoop κ} {frame : AudioFrame}
    {later : List AudioFrame} (conforms : session.crate.Conforms) (fits : session.payloadType ≤ 127)
    (streams : Streams session s.sendTask record) (sender : s.sendTask = .running (task, none))
    (queue : s.audioOut.queue = frame :: later) :
    ∃ task hand, s.sendStep session .recv =
      some { s with audioOut := { s.audioOut with queue := later }, sendTask := .running (task, hand) } := by
  have received : s.audioOut.recv = some (some frame, { s.audioOut with queue := later }) := by
    simp only [Channel.recv, queue]
  by_cases empty : (session.codec.encode task.codec frame.samples).1 = []
  · refine ⟨{ task with codec := (session.codec.encode task.codec frame.samples).2 }, none, ?_⟩
    simp only [CallState.sendStep, sender, received, MediaSession.rtpSendTask_skips empty]
  · rw [sender] at streams
    have type : task.rtpState.payloadType ≤ 127 := streams.payloadType ▸ fits
    obtain ⟨packet, built, _⟩ := conforms.roundTrip type empty
    refine ⟨⟨task.rtpState.next.2, (session.codec.encode task.codec frame.samples).2⟩, some packet, ?_⟩
    simp only [CallState.sendStep, sender, received, MediaSession.rtpSendTask_builds empty, built]

theorem EchoCall.encodes_on {e : EchoCall κ} {task : SendLoop κ} {frame : AudioFrame} {later : List AudioFrame}
    (conforms : session.crate.Conforms) (fits : session.payloadType ≤ 127) (sound : e.Sound session)
    (up : e.media.state.Up) (sender : e.media.state.sendTask = .running (task, none))
    (queue : e.media.state.audioOut.queue = frame :: later) :
    ∃ f, e.step session (.other (.sendTask .recv)) = some f ∧ e.Onward f := by
  have streams : Streams session e.media.state.sendTask e.media.record.2 := sound.outgoing.streams
  obtain ⟨after, hand, moved⟩ := CallState.sendStep_recv conforms fits streams sender queue
  refine ⟨_, step_sendTask moved, ⟨up.handler, up.listens, up.speaks, ⟨_, _, rfl⟩, up.sends⟩, rfl, rfl, ?_⟩
  simp only [inFlight, holding, CallState.inHand, sender, queue, List.length_cons, List.length_nil]
  cases hand <;> simp only [List.length_cons, List.length_nil] <;> omega

theorem EchoCall.writes_on {e : EchoCall κ} {task : SendLoop κ} {packet : List UInt8} (up : e.media.state.Up)
    (sender : e.media.state.sendTask = .running (task, some packet)) :
    ∃ f, e.step session (.other (.sendTask (.sent true))) = some f ∧ e.Onward f := by
  have moved : e.media.state.sendStep session (.sent true) =
      some { e.media.state with sendTask := .running (task, none) } := by
    simp only [CallState.sendStep, sender, if_true]
  refine ⟨_, step_sendTask moved, ⟨up.handler, up.listens, up.speaks, ⟨_, _, rfl⟩, up.sends⟩, rfl, rfl, ?_⟩
  simp only [inFlight, holding, CallState.inHand, sender, List.length_cons, List.length_nil]
  omega

/-- As long as a frame is on its way, the handler or the send task can take it
on. -/
theorem EchoCall.Sound.moves_on {e : EchoCall κ} (conforms : session.crate.Conforms)
    (fits : session.payloadType ≤ 127) (sound : e.Sound session) (up : e.media.state.Up) (some : 0 < e.inFlight) :
    ∃ act f, act.isOnward = true ∧ e.step session act = .some f ∧ e.Onward f := by
  obtain ⟨task, hand, sender⟩ := up.sender
  cases phase : e.phase with
  | echoing frame =>
    obtain ⟨f, step, onward⟩ := sends_on up phase
    exact ⟨_, f, rfl, step, onward⟩
  | selecting =>
    cases queue : e.media.state.audioIn.queue with
    | cons frame later =>
      obtain ⟨f, step, onward⟩ := takes_on up phase queue
      exact ⟨_, f, rfl, step, onward⟩
    | nil =>
      cases hand with
      | some packet =>
        obtain ⟨f, step, onward⟩ := writes_on up sender
        exact ⟨_, f, rfl, step, onward⟩
      | none =>
        cases frames : e.media.state.audioOut.queue with
        | cons frame later =>
          obtain ⟨f, step, onward⟩ := encodes_on conforms fits sound up sender frames
          exact ⟨_, f, rfl, step, onward⟩
        | nil =>
          simp only [inFlight, holding, phase, queue, frames, CallState.inHand, sender, List.length_nil] at some
          omega

/-- Nothing is on its way any more. -/
theorem EchoCall.settled_of_idle {e : EchoCall κ} (up : e.media.state.Up)
    (receiving : ∃ task, e.media.state.receiveTask = .running task) (idle : e.inFlight = 0) : e.Settled := by
  have selecting : e.phase = .selecting := by
    cases phase : e.phase with
    | selecting => rfl
    | echoing frame =>
      simp only [inFlight, holding, phase, List.length_singleton] at idle
      omega
  refine ⟨receiving, up.listens, up.sends, selecting, ?_, ?_⟩
  · rw [← List.length_eq_zero_iff]
    unfold inFlight at idle
    omega
  · rw [← List.length_eq_zero_iff]
    unfold inFlight at idle
    omega

/-- What is kept while the frames on their way are taken on. -/
structure EchoCall.Ongoing (session : MediaSession κ) (e f : EchoCall κ) : Prop where
  sound : f.Sound session
  up : f.media.state.Up
  heard : f.media.record.1 = e.media.record.1
  receiveTask : f.media.state.receiveTask = e.media.state.receiveTask

/-- No frame is left behind: a call that is up can take on what is on its way by
the steps of its handler and its send task alone, and the peer has then been
sent back all that has been heard of it. -/
theorem echoServer_settles {kind : PcmKind} {session : MediaSession Unit} (codec : session.codec = kind.codec)
    (conforms : session.crate.Conforms) (fits : session.payloadType ≤ 127) {now : Nat} {acts : List EchoAct}
    {e : EchoCall Unit} (reach : run (EchoCall.step session) (.accepted now) acts = some e) (up : e.media.state.Up)
    (receiving : ∃ task, e.media.state.receiveTask = .running task) :
    ∃ onward f, onward.length ≤ e.inFlight ∧ onward.all EchoAct.isOnward = true ∧
      run (EchoCall.step session) e onward = some f ∧ f.media.state.Up ∧
      f.media.record.2.returned session =
        (kind.echoed (e.media.record.1.payloads session)).map fun payload => some (session.payloadType, payload) := by
  have moves : ∀ a : EchoCall Unit, e.Ongoing session a → ¬ a.inFlight = 0 →
      ∃ act b, act.isOnward = true ∧ a.step session act = some b ∧ e.Ongoing session b ∧ b.inFlight < a.inFlight := by
    intro a ongoing runs
    obtain ⟨act, b, own, step, onward⟩ := ongoing.sound.moves_on conforms fits ongoing.up (Nat.pos_of_ne_zero runs)
    exact ⟨act, b, own, step, ⟨ongoing.sound.step conforms step, onward.up, onward.heard.trans ongoing.heard,
      onward.receiveTask.trans ongoing.receiveTask⟩, onward.spent⟩
  have start : e.Ongoing session e := ⟨EchoCall.sound_of_run conforms reach, up, rfl, rfl⟩
  obtain ⟨onward, f, short, own, continued, ongoing, idle⟩ :=
    exists_run_spending (fun f => f.inFlight = 0) start moves
  have settled : f.Settled := EchoCall.settled_of_idle ongoing.up (ongoing.receiveTask ▸ receiving) idle
  have returned := (ongoing.sound.returns codec conforms).complete fits settled
  rw [ongoing.heard] at returned
  exact ⟨onward, f, short, own, continued, ongoing.up, returned⟩

/-- Three packets are on their way at once: one is with the handler, one with the
send task and one between them. -/
def spokenThrice : List EchoAct :=
  [.other .handleCall, .other .handleCall, .other .receiveTask, .other (.sendTask (.start 7 1 2)),
    .other (.peerSends (fixedHeader 0 9 4 5 ++ [1, 2])), .other .receiveTask,
    .other (.peerSends (fixedHeader 0 9 5 165 ++ [3, 4])), .other .receiveTask,
    .other (.peerSends (fixedHeader 0 9 6 325 ++ [5, 6, 7])), .other .receiveTask, .handler .recv,
    .handler .send, .other (.sendTask .recv), .handler .recv, .handler .send, .handler .recv]

theorem echoServer_settles_spokenThrice :
    ∃ e, run (EchoCall.step (pcmSession .l16)) (.accepted 0) spokenThrice = some e ∧
    e.media.record.2.handed.length = 1 ∧ ∃ onward f, onward.length ≤ e.inFlight ∧ onward.all EchoAct.isOnward = true ∧
      run (EchoCall.step (pcmSession .l16)) e onward = some f ∧ f.media.state.Up ∧
      f.media.record.2.returned (pcmSession .l16) =
        (PcmKind.l16.echoed (e.media.record.1.payloads (pcmSession .l16))).map
        fun payload => some (0, payload) := by
  have there : (run (EchoCall.step (pcmSession .l16)) (.accepted 0) spokenThrice).map (fun e =>
      (e.media.record.2.handed.length, e.media.state.audioIn.receiverAlive, e.media.state.audioOut.senderAlive,
        e.media.state.audioOut.receiverAlive)) = some (1, true, true, true) := by decide +kernel
  refine exists_of_run (by decide +kernel) fun e reach => ?_
  have same := Option.some.inj reach
  rw [reach] at there
  obtain ⟨handed, listens, speaks, sends⟩ : _ ∧ _ ∧ _ ∧ _ := by simpa using there
  subst same
  exact ⟨handed, echoServer_settles rfl fixedHeaderRtpRs_conforms (by decide) reach
    ⟨⟨(), rfl⟩, listens, speaks, ⟨_, _, rfl⟩, sends⟩ ⟨_, rfl⟩⟩

end RsipstackServer
