import RsipstackServer.CallSteps

namespace RsipstackServer
open Foundation
universe u
variable {κ : Type u} {session : MediaSession κ}

/-- `handle_call` gets past its wait by its own steps, with nothing more from
the peer, the handler or the clock. -/
def CallState.AbleToPass (session : MediaSession κ) (s : CallState κ) : Prop :=
  ∃ acts t, (∀ act ∈ acts, act = CallAct.handleCall) ∧ run (callStep session) s acts = some t ∧ t.handleCall.PastWait

/-- A media timeout has reached the token that `handle_call` waits on. -/
def CallState.TimeoutEndsCall (session : MediaSession κ) (s : CallState κ) : Prop :=
  s.timedOut = true → s.tokens.isCancelled dialogToken = true ∧ (s.handleCall.PastWait ∨ s.AbleToPass session)

/-- The next iteration of the receive loop takes the branch of the deadline. -/
def CallState.DeadlineFires (s : CallState κ) : Prop :=
  ∃ task, s.receiveTask = .running task ∧ s.tokens.isCancelled sessionToken = false ∧
    task.deadline.elapsed s.now = true

theorem CallState.AbleToPass.here {s : CallState κ} (past : s.handleCall.PastWait) : s.AbleToPass session :=
  ⟨[], s, by simp, rfl, past⟩

theorem CallState.AbleToPass.step {s t : CallState κ} (step : s.handleCallStep = some t)
    (later : t.AbleToPass session) :
    s.AbleToPass session := by
  obtain ⟨acts, last, own, reach, past⟩ := later
  refine ⟨.handleCall :: acts, last, ?_, ?_, past⟩
  · intro act member
    rcases List.mem_cons.mp member with same | old
    · exact same
    · exact own act old
  · rw [run_cons]
    change (s.handleCallStep).bind _ = _
    rw [step, Option.bind_some, reach]

theorem CallState.ableToPass_of_cancelled {s : CallState κ} (cancelled : s.tokens.isCancelled dialogToken = true) :
    s.AbleToPass session := by
  have waits : ∀ t : CallState κ, t.tokens.isCancelled dialogToken = true → t.handleCall = .waiting →
      t.AbleToPass session := by
    intro t ended atWait
    refine .step (t := { t.abortHandler with handleCall := .sayingBye }) ?_ (.here trivial)
    simp only [handleCallStep, atWait, ended, if_true]
  have starts : ∀ t : CallState κ, t.tokens.isCancelled dialogToken = true → t.handleCall = .started →
      t.AbleToPass session := by
    intro t ended atStart
    refine .step (t := { t with handlerTask := .running (), handleCall := .waiting }) ?_ (waits _ ended rfl)
    simp only [handleCallStep, atStart]
  cases place : s.handleCall with
  | accepted =>
    refine .step (t := { s with receiveTask := .spawned, sendTask := .spawned, handleCall := .started }) ?_
      (starts _ cancelled rfl)
    simp only [handleCallStep, place]
  | started => exact starts s cancelled place
  | waiting => exact waits s cancelled place
  | sayingBye | returned => exact .here (by rw [place]; trivial)

theorem CallState.timeoutEndsCall_of_cancelled {s : CallState κ}
    (cancelled : s.timedOut = true → s.tokens.isCancelled dialogToken = true) : s.TimeoutEndsCall session :=
  fun expired => ⟨cancelled expired, Or.inr (ableToPass_of_cancelled (cancelled expired))⟩

/-- A session token that is live has a live dialog token above it. -/
theorem dialog_live_of_session {tokens : CancelTree} (live : tokens.isCancelled sessionToken = false) :
    tokens.isCancelled dialogToken = false := by
  by_contra cancelled
  rw [Bool.not_eq_false] at cancelled
  rw [CancelTree.isCancelled_of_above dialogToken_above cancelled] at live
  cases live

/-- The cancel of the receive task stops at the token of the session. -/
theorem dialog_live_after_timeout {tokens : CancelTree} (live : tokens.isCancelled sessionToken = false) :
    (tokens.cancel sessionToken).isCancelled dialogToken = false :=
  (CancelTree.isCancelled_cancel_below tokens dialogToken 0 []).trans (dialog_live_of_session live)

theorem Receives.timeout {s t : CallState κ} (step : Receives session s t) :
    (s.DeadlineFires ∧ t = { s.cancel sessionToken with timedOut := true }) ∨
      (¬ s.DeadlineFires ∧ t.tokens = s.tokens ∧ t.timedOut = s.timedOut) := by
  cases step with
  | timesOut atTask live fires => exact Or.inl ⟨⟨_, atTask, live, fires⟩, rfl⟩
  | start atTask =>
    refine Or.inr ⟨?_, rfl, rfl⟩
    rintro ⟨task, running, _, _⟩
    rw [atTask] at running
    cases running
  | cancelled _ token =>
    refine Or.inr ⟨?_, rfl, rfl⟩
    rintro ⟨task, _, live, _⟩
    rw [token] at live
    cases live
  | fails atTask _ runs | skips atTask _ runs | panics atTask _ runs | closes atTask _ runs
  | delivers atTask _ runs =>
    refine Or.inr ⟨?_, rfl, rfl⟩
    rintro ⟨task, running, _, fires⟩
    rw [atTask] at running
    cases running
    rw [runs] at fires
    cases fires

theorem timeoutEndsCall_step {s t : CallState κ} {act : CallAct} (before : s.TimeoutEndsCall session)
    (step : callStep session s act = some t) :
    t.TimeoutEndsCall session ↔ ¬ (act = .receiveTask ∧ s.DeadlineFires) := by
  rcases callStep_cases step with ⟨own, receives⟩ | ⟨other, leaves⟩
  · rcases receives.timeout with ⟨fires, rfl⟩ | ⟨quiet, tokens, timedOut⟩
    · refine iff_of_false ?_ (fun no => no ⟨own, fires⟩)
      intro ends
      obtain ⟨_, _, live, _⟩ := fires
      have dead := dialog_live_after_timeout live
      rw [show (s.tokens.cancel sessionToken).isCancelled dialogToken = true from (ends rfl).1] at dead
      cases dead
    · refine iff_of_true (CallState.timeoutEndsCall_of_cancelled ?_) fun fires => quiet fires.2
      rw [tokens, timedOut]
      exact fun expired => (before expired).1
  · refine iff_of_true (CallState.timeoutEndsCall_of_cancelled ?_) fun fires => other fires.1
    rw [leaves.timedOut]
    exact fun expired => leaves.tokens dialogToken (before expired).1

/-- A media timeout reaches the call all along a run exactly if no iteration
of the receive loop in it meets an expired deadline. -/
theorem timeoutEndsCall_iff {now : Nat} {acts : List CallAct} {last : CallState κ}
    (reach : run (callStep session) (CallState.accepted now) acts = some last) :
    (∀ s, Visits (callStep session) (CallState.accepted now) acts s → s.TimeoutEndsCall session) ↔
      ∀ s act, Takes (callStep session) (CallState.accepted now) acts s act →
        ¬ (act = .receiveTask ∧ s.DeadlineFires) := by
  refine visits_iff_takes (I := fun _ => True) trivial ?_ (fun _ _ _ _ _ => trivial) ?_ reach
  · intro expired
    cases expired
  · intro s act t _ before step
    exact timeoutEndsCall_step before step

/-- A session whose peer sends nothing that parses as RTP. -/
def silentSession (mediaReceiveTimeout : Nat) : MediaSession Unit :=
  { crate := ⟨fun _ => none, fun _ _ _ _ _ => none⟩, codec := ⟨fun _ _ => ([], ()), fun _ _ => ([], ()), fun _ => 160⟩
    recvCodec := (), sendCodec := (), payloadType := 0, mediaReceiveTimeout, maxInstant := UInt64.size }

/-- The peer hangs up just before the deadline of 30 expires. -/
def hangup : List CallAct :=
  [.handleCall, .handleCall, .receiveTask, .tick 29, .dialogEnds, .receiveTask, .handleCall, .handleCall]

theorem timeoutEndsCall_hangup :
    ∃ last, run (callStep (silentSession 30)) (CallState.accepted 0) hangup = some last ∧
      last.handleCall = .returned ∧
      ((∀ s, Visits (callStep (silentSession 30)) (CallState.accepted 0) hangup s →
        s.TimeoutEndsCall (silentSession 30)) ↔
        ∀ s act, Takes (callStep (silentSession 30)) (CallState.accepted 0) hangup s act →
          ¬ (act = .receiveTask ∧ s.DeadlineFires)) := by
  refine exists_of_run ?_ fun last reach => ⟨?_, timeoutEndsCall_iff reach⟩
  · rfl
  · exact (Option.some.inj (congrArg (Option.map CallState.handleCall) reach)).symm

/-- The deadline of a silent call expires, the receive task cancels its token
and ends, and `handle_call` goes on waiting. -/
theorem timeoutEndsCall_fails :
    ∃ last, run (callStep (silentSession 30)) (CallState.accepted 0)
        [.handleCall, .handleCall, .receiveTask, .tick 30, .receiveTask, .receiveTask] = some last ∧
      last.timedOut = true ∧ last.handleCall = .waiting ∧ last.tokens.isCancelled dialogToken = false ∧
      last.handleCallStep.isNone ∧ ¬ last.TimeoutEndsCall (silentSession 30) := by
  refine exists_of_run rfl fun last reach => ?_
  have same := Option.some.inj reach
  subst same
  exact ⟨rfl, rfl, rfl, rfl, fun ends => Bool.noConfusion (ends rfl).1⟩

end RsipstackServer
