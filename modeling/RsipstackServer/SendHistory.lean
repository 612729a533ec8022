import RsipstackServer.CallSteps
import RsipstackServer.Foundation.Recorder

namespace RsipstackServer
open Foundation
universe u
variable {κ : Type u}

namespace Codec

/-- The encodings of the frames that are not empty, in order. -/
def encodings (codec : Codec κ) : κ → List AudioFrame → List (List UInt8)
  | _, [] => []
  | state, frame :: later =>
    let (payload, next) := codec.encode state frame.samples
    if payload.isEmpty then codec.encodings next later else payload :: codec.encodings next later

/-- The encoder after the frames. -/
def encoded (codec : Codec κ) : κ → List AudioFrame → κ
  | state, [] => state
  | state, frame :: later => codec.encoded (codec.encode state frame.samples).2 later

theorem encoded_append (codec : Codec κ) (state : κ) (frames later : List AudioFrame) :
    codec.encoded state (frames ++ later) = codec.encoded (codec.encoded state frames) later := by
  induction frames generalizing state with
  | nil => rfl
  | cons frame frames ih => exact ih _

theorem encodings_append (codec : Codec κ) (state : κ) (frames later : List AudioFrame) :
    codec.encodings state (frames ++ later) =
      codec.encodings state frames ++ codec.encodings (codec.encoded state frames) later := by
  induction frames generalizing state with
  | nil => rfl
  | cons frame frames ih =>
    simp only [List.cons_append, encodings, encoded, ih]
    split <;> rfl

theorem ne_nil_of_mem_encodings {codec : Codec κ} {state : κ} {frames : List AudioFrame} {payload : List UInt8}
    (member : payload ∈ codec.encodings state frames) : payload ≠ [] := by
  induction frames generalizing state with
  | nil => cases member
  | cons frame frames ih =>
    simp only [encodings] at member
    by_cases skipped : (codec.encode state frame.samples).1.isEmpty = true
    · rw [if_pos skipped] at member
      exact ih member
    · rw [if_neg skipped] at member
      rcases List.mem_cons.mp member with rfl | later
      · exact fun empty => skipped (List.isEmpty_iff.mpr empty)
      · exact ih later

end Codec

/-- What is written down of the outgoing side of a call: the frames put on
`audio_out`, those the send task took, the packets it handed to the socket,
how the socket answered, and the state its headers began with. -/
structure SendRecord where
  offered : List AudioFrame
  taken : List AudioFrame
  handed : List (List UInt8)
  results : List Bool
  first : Option RtpSendState

/-- The packet that the send task waits to be sent. -/
def CallState.inHand (s : CallState κ) : List (List UInt8) :=
  match s.sendTask with
  | .running (_, some packet) => [packet]
  | .unspawned | .spawned | .running (_, none) | .ended _ => []

namespace SendRecord

def empty : SendRecord := ⟨[], [], [], [], none⟩

def note (session : MediaSession κ) (s : CallState κ) (act : CallAct) (t : CallState κ) (r : SendRecord) :
    SendRecord :=
  match act with
  | .handlerTask (.put _) => { r with offered := r.offered ++ t.audioOut.queue.drop s.audioOut.queue.length }
  | .sendTask (.start ssrc sequence timestamp) =>
    { r with first := some (session.sendLoop ssrc sequence timestamp).rtpState }
  | .sendTask .recv => { r with taken := r.taken ++ s.audioOut.queue.take 1, handed := r.handed ++ t.inHand }
  | .sendTask (.sent ok) => { r with results := r.results ++ [ok] }
  | _ => r

end SendRecord

/-- A call with the record of its outgoing side. -/
abbrev SendHistory (κ : Type u) := Recorded (CallState κ) SendRecord

def SendHistory.accepted (now : Nat) : SendHistory κ := ⟨.accepted now, .empty⟩

def sendHistoryStep (session : MediaSession κ) : SendHistory κ → CallAct → Option (SendHistory κ) :=
  Recorded.step (callStep session) (SendRecord.note session)

/-- The recorded runs are the runs of the call. -/
theorem sendHistory_run_iff {session : MediaSession κ} {now : Nat} {acts : List CallAct} {last : CallState κ} :
    (∃ record, run (sendHistoryStep session) (.accepted now) acts = some ⟨last, record⟩) ↔
      run (callStep session) (.accepted now) acts = some last :=
  Recorded.run_iff SendRecord.empty

/-- What a step of another party leaves of the outgoing side. -/
structure LeavesSend (s t : CallState κ) : Prop where
  queue : t.audioOut.queue = s.audioOut.queue
  receiver : t.audioOut.receiverAlive = s.audioOut.receiverAlive
  sendTask : t.sendTask = s.sendTask ∨ s.handleCall = .accepted ∧ t.sendTask = .spawned
  place : t.handleCall = .accepted → s.handleCall = .accepted ∧ t.sendTask = s.sendTask

theorem LeavesSend.of_same {s t : CallState κ} (audioOut : t.audioOut = s.audioOut)
    (sendTask : t.sendTask = s.sendTask) (place : t.handleCall = s.handleCall) : LeavesSend s t :=
  ⟨by rw [audioOut], by rw [audioOut], Or.inl sendTask, fun fresh => ⟨place ▸ fresh, sendTask⟩⟩

/-- Everything that one step can do to the outgoing side of a call and to its
record. -/
inductive Sends (session : MediaSession κ) (h : SendHistory κ) : CallAct → SendHistory κ → Prop
  | leaves {act t} : (∀ own, act ≠ .sendTask own) → LeavesSend h.state t → Sends session h act ⟨t, h.record⟩
  | puts {frame audioOut} : h.state.audioOut.send frame = some audioOut →
      Sends session h (.handlerTask (.put frame))
        ⟨{ h.state with audioOut }, { h.record with offered := h.record.offered ++ [frame] }⟩
  | starts {ssrc sequence timestamp} : h.state.sendTask = .spawned →
      Sends session h (.sendTask (.start ssrc sequence timestamp))
        ⟨{ h.state with sendTask := .running (session.sendLoop ssrc sequence timestamp, none) },
          { h.record with first := some (session.sendLoop ssrc sequence timestamp).rtpState }⟩
  | cancelled {task} : h.state.sendTask = .running (task, none) →
      Sends session h (.sendTask .cancelled) ⟨h.state.endSend .cancelled, h.record⟩
  | closes {task} : h.state.sendTask = .running (task, none) → h.state.audioOut.queue = [] →
      Sends session h (.sendTask .recv) ⟨h.state.endSend .channelClosed, h.record⟩
  | skips {task frame later} : h.state.sendTask = .running (task, none) → h.state.audioOut.queue = frame :: later →
      (session.codec.encode task.codec frame.samples).1 = [] →
      Sends session h (.sendTask .recv)
        ⟨{ h.state with
            audioOut := { h.state.audioOut with queue := later }
            sendTask := .running ({ task with codec := (session.codec.encode task.codec frame.samples).2 }, none) },
          { h.record with taken := h.record.taken ++ [frame] }⟩
  | panics {task frame later} : h.state.sendTask = .running (task, none) → h.state.audioOut.queue = frame :: later →
      (session.codec.encode task.codec frame.samples).1 ≠ [] →
      buildRtpPacket session.crate (session.codec.encode task.codec frame.samples).1 task.rtpState = none →
      Sends session h (.sendTask .recv)
        ⟨({ h.state with audioOut := { h.state.audioOut with queue := later } }).endSend .panicked,
          { h.record with taken := h.record.taken ++ [frame] }⟩
  | hands {task frame later packet} : h.state.sendTask = .running (task, none) →
      h.state.audioOut.queue = frame :: later → (session.codec.encode task.codec frame.samples).1 ≠ [] →
      buildRtpPacket session.crate (session.codec.encode task.codec frame.samples).1 task.rtpState = some packet →
      Sends session h (.sendTask .recv)
        ⟨{ h.state with
            audioOut := { h.state.audioOut with queue := later }
            sendTask := .running
              (⟨task.rtpState.next.2, (session.codec.encode task.codec frame.samples).2⟩, some packet) },
          { h.record with taken := h.record.taken ++ [frame], handed := h.record.handed ++ [packet] }⟩
  | sent {task packet} : h.state.sendTask = .running (task, some packet) →
      Sends session h (.sendTask (.sent true))
        ⟨{ h.state with sendTask := .running (task, none) }, { h.record with results := h.record.results ++ [true] }⟩
  | fails {task packet} : h.state.sendTask = .running (task, some packet) →
      Sends session h (.sendTask (.sent false))
        ⟨h.state.endSend .socketError, { h.record with results := h.record.results ++ [false] }⟩

theorem Proceeds.leavesSend {s t : CallState κ} (step : Proceeds s t) : LeavesSend s t := by
  cases step with
  | starts place => exact ⟨rfl, rfl, Or.inr ⟨place, rfl⟩, nofun⟩
  | runs | returns => exact ⟨rfl, rfl, Or.inl rfl, nofun⟩
  | ends _ _ handler => rcases handler with rfl | rfl <;> exact ⟨rfl, rfl, Or.inl rfl, nofun⟩

theorem CallState.receiveStep_leavesSend {session : MediaSession κ} {s t : CallState κ}
    (step : s.receiveStep session = some t) : LeavesSend s t := by
  cases CallState.receiveStep_cases step <;> exact .of_same rfl rfl rfl

section
variable {session : MediaSession κ} {task : SendLoop κ} {frame : AudioFrame}

theorem MediaSession.rtpSendTask_skips (empty : (session.codec.encode task.codec frame.samples).1 = []) :
    session.rtpSendTask task (some frame) =
      .skips { task with codec := (session.codec.encode task.codec frame.samples).2 } := by
  simp only [rtpSendTask, empty, List.isEmpty_nil, if_true]

theorem MediaSession.rtpSendTask_builds (some : (session.codec.encode task.codec frame.samples).1 ≠ []) :
    session.rtpSendTask task (.some frame) =
      match buildRtpPacket session.crate (session.codec.encode task.codec frame.samples).1 task.rtpState with
      | none => .exits .panicked
      | .some packet => .sends ⟨task.rtpState.next.2, (session.codec.encode task.codec frame.samples).2⟩ packet := by
  have payload : (session.codec.encode task.codec frame.samples).1.isEmpty = false :=
    List.isEmpty_eq_false_iff.mpr some
  simp only [rtpSendTask, payload, Bool.false_eq_true, if_false]
  rfl

end

theorem CallState.sendStep_sends {session : MediaSession κ} {h : SendHistory κ} {t : CallState κ} {act : SendAct}
    (step : h.state.sendStep session act = some t) :
    Sends session h (.sendTask act) ⟨t, SendRecord.note session h.state (.sendTask act) t h.record⟩ := by
  unfold CallState.sendStep at step
  split at step
  · rename_i unstarted
    cases Option.some.inj step
    exact .starts unstarted
  · rename_i task unsent
    obtain ⟨_, same⟩ := Option.ite_none_right_eq_some.mp step
    cases Option.some.inj same
    exact .cancelled unsent
  · rename_i task unsent
    cases received : h.state.audioOut.recv with
    | none =>
      rw [received] at step
      cases step
    | some taken =>
      obtain ⟨value, audioOut⟩ := taken
      rw [received] at step
      rcases Channel.recv_cases received with ⟨frame, later, queue, rfl, rfl⟩ | ⟨queue, rfl, rfl⟩
      · have taken : h.state.audioOut.queue.take 1 = [frame] := by rw [queue, List.take_succ_cons, List.take_zero]
        by_cases empty : (session.codec.encode task.codec frame.samples).1 = []
        · simp only [MediaSession.rtpSendTask_skips empty] at step
          cases Option.some.inj step
          have skips : Sends session h _ _ := Sends.skips unsent queue empty
          simpa only [SendRecord.note, taken, CallState.inHand, List.append_nil] using skips
        · simp only [MediaSession.rtpSendTask_builds empty] at step
          cases built : buildRtpPacket session.crate
            (session.codec.encode task.codec frame.samples).1 task.rtpState with
          | none =>
            rw [built] at step
            cases Option.some.inj step
            have panics : Sends session h _ _ := Sends.panics unsent queue empty built
            simpa only [SendRecord.note, taken, CallState.inHand, CallState.endSend, List.append_nil] using panics
          | some packet =>
            rw [built] at step
            cases Option.some.inj step
            have hands : Sends session h _ _ := Sends.hands unsent queue empty built
            simpa only [SendRecord.note, taken, CallState.inHand] using hands
      · cases Option.some.inj step
        have closes : Sends session h _ _ := Sends.closes unsent queue
        simpa only [SendRecord.note, queue, List.take_nil, CallState.inHand, CallState.endSend,
          List.append_nil] using closes
  · rename_i ok task packet inHand
    cases Option.some.inj step
    cases ok with
    | true => exact .sent inHand
    | false => exact .fails inHand
  · cases step

theorem CallState.handlerStep_sends {session : MediaSession κ} {h : SendHistory κ} {t : CallState κ}
    {act : HandlerAct} (step : h.state.handlerStep act = some t) :
    Sends session h (.handlerTask act) ⟨t, SendRecord.note session h.state (.handlerTask act) t h.record⟩ := by
  unfold CallState.handlerStep at step
  split at step
  · cases act with
    | take =>
      obtain ⟨_, received⟩ := Option.ite_none_right_eq_some.mp step
      obtain ⟨_, _, same⟩ := Option.map_eq_some_iff.mp received
      cases same
      exact .leaves nofun (.of_same rfl rfl rfl)
    | put frame =>
      obtain ⟨_, same⟩ := Option.ite_none_right_eq_some.mp step
      cases Option.some.inj same
      cases sent : h.state.audioOut.send frame with
      | none =>
        have leaves : LeavesSend h.state h.state := .of_same rfl rfl rfl
        have lost : Sends session h (.handlerTask (.put frame)) ⟨h.state, h.record⟩ := .leaves nofun leaves
        simpa only [SendRecord.note, sent, Option.getD_none, List.drop_length, List.append_nil] using lost
      | some audioOut =>
        have puts : Sends session h _ _ := Sends.puts sent
        simpa only [SendRecord.note, sent, Option.getD_some, Channel.drop_sent sent] using puts
    | dropIn | dropOut | cancelDialog | finish =>
      cases Option.some.inj step
      exact .leaves nofun ⟨rfl, rfl, Or.inl rfl, fun fresh => ⟨fresh, rfl⟩⟩
  all_goals cases step

theorem sends_of_step {session : MediaSession κ} {h k : SendHistory κ} {act : CallAct}
    (step : sendHistoryStep session h act = some k) : Sends session h act k := by
  obtain ⟨taken, kept⟩ := Recorded.step_eq_some_iff.mp step
  obtain ⟨t, record⟩ := k
  obtain rfl : record = SendRecord.note session h.state act t h.record := kept
  cases act with
  | tick | peerSends | socketFails | dialogEnds =>
    cases Option.some.inj taken
    exact .leaves nofun (.of_same rfl rfl rfl)
  | handleCall => exact .leaves nofun ((CallState.handleCallStep_cases taken).leavesSend)
  | receiveTask => exact .leaves nofun (CallState.receiveStep_leavesSend taken)
  | sendTask act => exact CallState.sendStep_sends taken
  | handlerTask act => exact CallState.handlerStep_sends taken

end RsipstackServer
