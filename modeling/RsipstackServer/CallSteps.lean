import RsipstackServer.AcceptedCall

namespace RsipstackServer
open Foundation
universe u
variable {κ : Type u}

theorem dialogToken_above : dialogToken <+: sessionToken := List.nil_prefix

/-- What a step of the receive task can do, guards included. -/
inductive Receives (session : MediaSession κ) (s : CallState κ) : CallState κ → Prop
  | start : s.receiveTask = .spawned →
    Receives session s { s with receiveTask := .running (session.receiveLoop s.now) }
  | cancelled {task} : s.receiveTask = .running task → s.tokens.isCancelled sessionToken = true →
      Receives session s (s.endReceive .cancelled)
  | timesOut {task} : s.receiveTask = .running task → s.tokens.isCancelled sessionToken = false →
      task.deadline.elapsed s.now = true → Receives session s { s.cancel sessionToken with timedOut := true }
  | fails {task later} : s.receiveTask = .running task → s.tokens.isCancelled sessionToken = false →
      task.deadline.elapsed s.now = false → s.socket = .error () :: later →
      Receives session s ({ s with socket := later }.endReceive .socketError)
  | skips {task data later} : s.receiveTask = .running task → s.tokens.isCancelled sessionToken = false →
      task.deadline.elapsed s.now = false → s.socket = .ok data :: later →
      parseRtpPacket session.crate (data.take 2048) = none → Receives session s { s with socket := later }
  | panics {task data later raw} : s.receiveTask = .running task → s.tokens.isCancelled sessionToken = false →
      task.deadline.elapsed s.now = false → s.socket = .ok data :: later →
      parseRtpPacket session.crate (data.take 2048) = some raw → task.deadline.reset session.maxInstant s.now = none →
      Receives session s ({ s with socket := later }.endReceive .panicked)
  | closes {task data later raw deadline} : s.receiveTask = .running task →
    s.tokens.isCancelled sessionToken = false →
      task.deadline.elapsed s.now = false → s.socket = .ok data :: later →
      parseRtpPacket session.crate (data.take 2048) = some raw →
      task.deadline.reset session.maxInstant s.now = some deadline → s.audioIn.receiverAlive = false →
      Receives session s ({ s with socket := later }.endReceive .channelClosed)
  | delivers {task data later raw deadline audioIn} : s.receiveTask = .running task →
      s.tokens.isCancelled sessionToken = false → task.deadline.elapsed s.now = false → s.socket = .ok data :: later →
      parseRtpPacket session.crate (data.take 2048) = some raw →
      task.deadline.reset session.maxInstant s.now = some deadline →
      s.audioIn.send ⟨(session.codec.decode task.codec raw.payload).1⟩ = some audioIn →
      Receives session s { s with
        socket := later, audioIn,
        receiveTask := .running ⟨deadline, (session.codec.decode task.codec raw.payload).2⟩ }

theorem CallState.receiveStep_cases {session : MediaSession κ} {s t : CallState κ}
    (step : s.receiveStep session = some t) : Receives session s t := by
  unfold CallState.receiveStep at step
  split at step
  · rename_i atTask
    cases Option.some.inj step
    exact .start atTask
  · rename_i task atTask
    cases token : s.tokens.isCancelled sessionToken with
    | true =>
      simp only [MediaSession.rtpReceiveTask, token, if_true] at step
      cases Option.some.inj step
      exact .cancelled atTask token
    | false =>
      cases deadline : task.deadline.elapsed s.now with
      | true =>
        simp only [MediaSession.rtpReceiveTask, token, deadline, Bool.false_eq_true, if_false, if_true] at step
        cases Option.some.inj step
        exact .timesOut atTask token deadline
      | false =>
        simp only [MediaSession.rtpReceiveTask, token, deadline, Bool.false_eq_true, if_false] at step
        cases queue : s.socket with
        | nil =>
          rw [queue] at step
          cases step
        | cons result later =>
          rw [queue] at step
          cases result with
          | error fault =>
            cases Option.some.inj step
            exact .fails atTask token deadline queue
          | ok data =>
            cases parsed : parseRtpPacket session.crate (data.take 2048) with
            | none =>
              simp only [MediaSession.received, parsed] at step
              cases Option.some.inj step
              exact .skips atTask token deadline queue parsed
            | some raw =>
              cases renewed : task.deadline.reset session.maxInstant s.now with
              | none =>
                simp only [MediaSession.received, parsed, renewed] at step
                cases Option.some.inj step
                exact .panics atTask token deadline queue parsed renewed
              | some fires =>
                cases accepted : s.audioIn.send ⟨(session.codec.decode task.codec raw.payload).1⟩ with
                | none =>
                  simp only [MediaSession.received, parsed, renewed, accepted] at step
                  cases Option.some.inj step
                  exact .closes atTask token deadline queue parsed renewed (Channel.send_eq_none.mp accepted)
                | some audioIn =>
                  simp only [MediaSession.received, parsed, renewed, accepted] at step
                  cases Option.some.inj step
                  exact .delivers atTask token deadline queue parsed renewed accepted
  · cases step
  · cases step

/-- What a step of `handle_call` can do, guards included. -/
inductive Proceeds (s : CallState κ) : CallState κ → Prop
  | starts : s.handleCall = .accepted →
      Proceeds s { s with receiveTask := .spawned, sendTask := .spawned, handleCall := .started }
  | runs : s.handleCall = .started → Proceeds s { s with handlerTask := .running (), handleCall := .waiting }
  | ends {stopped} : s.handleCall = .waiting → s.tokens.isCancelled dialogToken = true →
      (stopped = s ∨ stopped = s.endHandler .aborted) → Proceeds s { stopped with handleCall := .sayingBye }
  | returns : s.handleCall = .sayingBye → Proceeds s { s with handleCall := .returned }

theorem CallState.abortHandler_cases (s : CallState κ) :
    s.abortHandler = s ∨ s.abortHandler = s.endHandler .aborted := by
  unfold CallState.abortHandler
  split
  · exact Or.inr rfl
  all_goals exact Or.inl rfl

theorem CallState.handleCallStep_cases {s t : CallState κ} (step : s.handleCallStep = some t) : Proceeds s t := by
  unfold CallState.handleCallStep at step
  split at step
  · rename_i place
    cases Option.some.inj step
    exact .starts place
  · rename_i place
    cases Option.some.inj step
    exact .runs place
  · rename_i place
    obtain ⟨token, same⟩ := Option.ite_none_right_eq_some.mp step
    cases Option.some.inj same
    exact .ends place token s.abortHandler_cases
  · rename_i place
    cases Option.some.inj step
    exact .returns place
  · cases step

/-- What a step of the send task leaves alone. -/
theorem CallState.sendStep_frame {session : MediaSession κ} {s t : CallState κ} {act : SendAct}
    (step : s.sendStep session act = some t) :
    (s.sendTask = .spawned ∨ ∃ task, s.sendTask = .running task) ∧
      ∃ audioOut sendTask, t = { s with audioOut, sendTask } := by
  unfold CallState.sendStep at step
  split at step
  · rename_i unstarted
    cases Option.some.inj step
    exact ⟨Or.inl unstarted, _, _, rfl⟩
  · rename_i running
    obtain ⟨_, same⟩ := Option.ite_none_right_eq_some.mp step
    cases Option.some.inj same
    exact ⟨Or.inr ⟨_, running⟩, _, _, rfl⟩
  · rename_i running
    split at step
    · cases step
    · split at step <;> (cases Option.some.inj step; exact ⟨Or.inr ⟨_, running⟩, _, _, rfl⟩)
  · rename_i running
    cases Option.some.inj step
    split <;> exact ⟨Or.inr ⟨_, running⟩, _, _, rfl⟩
  · cases step

/-- What a step of the handler leaves alone. -/
theorem CallState.handlerStep_frame {s t : CallState κ} {act : HandlerAct} (step : s.handlerStep act = some t) :
    ∃ tokens audioIn audioOut handlerTask, (tokens = s.tokens ∨ tokens = s.tokens.cancel dialogToken) ∧
      t = { s with tokens, audioIn, audioOut, handlerTask } := by
  unfold CallState.handlerStep at step
  split at step
  · cases act with
    | take =>
      obtain ⟨_, received⟩ := Option.ite_none_right_eq_some.mp step
      obtain ⟨_, _, same⟩ := Option.map_eq_some_iff.mp received
      exact ⟨_, _, _, _, Or.inl rfl, same.symm⟩
    | put frame =>
      obtain ⟨_, same⟩ := Option.ite_none_right_eq_some.mp step
      exact ⟨_, _, _, _, Or.inl rfl, (Option.some.inj same).symm⟩
    | cancelDialog => exact ⟨_, _, _, _, Or.inr rfl, (Option.some.inj step).symm⟩
    | dropIn | dropOut | finish => exact ⟨_, _, _, _, Or.inl rfl, (Option.some.inj step).symm⟩
  all_goals cases step

/-- What every step of another party leaves of the watch over the media. -/
structure LeavesWatch (s t : CallState κ) : Prop where
  tokens : ∀ token, s.tokens.isCancelled token = true → t.tokens.isCancelled token = true
  timedOut : t.timedOut = s.timedOut
  receiveTask : t.receiveTask = s.receiveTask ∨ t.receiveTask = .spawned

theorem LeavesWatch.of_same {s t : CallState κ} (tokens : t.tokens = s.tokens) (timedOut : t.timedOut = s.timedOut)
    (receiveTask : t.receiveTask = s.receiveTask) : LeavesWatch s t :=
  ⟨fun _ cancelled => tokens ▸ cancelled, timedOut, Or.inl receiveTask⟩

theorem LeavesWatch.cancel (s : CallState κ) (token : Token) : LeavesWatch s (s.cancel token) :=
  ⟨fun _ cancelled => CancelTree.isCancelled_cancel_of token cancelled, rfl, Or.inl rfl⟩

theorem Proceeds.leavesWatch {s t : CallState κ} (step : Proceeds s t) : LeavesWatch s t := by
  cases step with
  | starts => exact ⟨fun _ cancelled => cancelled, rfl, Or.inr rfl⟩
  | runs | returns => exact .of_same rfl rfl rfl
  | ends _ _ handler => rcases handler with rfl | rfl <;> exact .of_same rfl rfl rfl

theorem CallState.sendStep_leavesWatch {session : MediaSession κ} {s t : CallState κ} {act : SendAct}
    (step : s.sendStep session act = some t) : LeavesWatch s t := by
  obtain ⟨_, _, _, rfl⟩ := CallState.sendStep_frame step
  exact .of_same rfl rfl rfl

theorem CallState.handlerStep_leavesWatch {s t : CallState κ} {act : HandlerAct} (step : s.handlerStep act = some t) :
    LeavesWatch s t := by
  obtain ⟨_, _, _, _, rfl | rfl, rfl⟩ := CallState.handlerStep_frame step
  · exact .of_same rfl rfl rfl
  · exact ⟨(LeavesWatch.cancel s dialogToken).tokens, rfl, Or.inl rfl⟩

theorem callStep_cases {session : MediaSession κ} {s t : CallState κ} {act : CallAct}
    (step : callStep session s act = some t) :
    act = .receiveTask ∧ Receives session s t ∨ act ≠ .receiveTask ∧ LeavesWatch s t := by
  cases act with
  | receiveTask => exact Or.inl ⟨rfl, CallState.receiveStep_cases step⟩
  | tick | peerSends | socketFails =>
    cases Option.some.inj step
    exact Or.inr ⟨nofun, .of_same rfl rfl rfl⟩
  | dialogEnds =>
    cases Option.some.inj step
    exact Or.inr ⟨nofun, .cancel s dialogToken⟩
  | handleCall => exact Or.inr ⟨nofun, (CallState.handleCallStep_cases step).leavesWatch⟩
  | sendTask act => exact Or.inr ⟨nofun, CallState.sendStep_leavesWatch step⟩
  | handlerTask act => exact Or.inr ⟨nofun, CallState.handlerStep_leavesWatch step⟩

end RsipstackServer
