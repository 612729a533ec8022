import RsipstackServer.MediaTimeout

namespace RsipstackServer
open Foundation
universe u
variable {κ : Type u} {session : MediaSession κ}

/-- Where the receive task has ended, the session is cancelled, so nobody
needs to watch its media any more. -/
def CallState.Watched (s : CallState κ) : Prop :=
  ∀ exit, s.receiveTask = .ended exit → s.tokens.isCancelled sessionToken = true

/-- The running receive loop renews its deadline by the configured timeout. -/
def CallState.KeepsTimeout (session : MediaSession κ) (s : CallState κ) : Prop :=
  ∀ task, s.receiveTask = .running task → task.deadline.duration = session.mediaReceiveTimeout

/-- The results of `socket.recv` on which the loop breaks: an error, or a
valid packet while the handler has dropped its end of the channel or while
the renewed deadline is beyond the greatest instant. -/
def CallState.BreaksOn (session : MediaSession κ) (s : CallState κ) : Except Unit (List UInt8) → Prop
  | .error _ => True
  | .ok data => (parseRtpPacket session.crate (data.take 2048)).isSome ∧
      (s.audioIn.receiverAlive = false ∨ session.maxInstant < s.now + session.mediaReceiveTimeout)

/-- The next iteration of the receive loop leaves a live session unwatched. -/
def CallState.LosesWatch (session : MediaSession κ) (s : CallState κ) : Prop :=
  s.tokens.isCancelled sessionToken = false ∧
    (∃ task, s.receiveTask = .running task ∧ task.deadline.elapsed s.now = false) ∧
    ∃ result later, s.socket = result :: later ∧ s.BreaksOn session result

theorem Receives.keepsTimeout {s t : CallState κ} (keeps : s.KeepsTimeout session) (step : Receives session s t) :
    t.KeepsTimeout session := by
  intro later running
  cases step with
  | start =>
    cases running
    rfl
  | delivers atTask _ _ _ _ renewed =>
    cases running
    exact (Deadline.reset_duration renewed).trans (keeps _ atTask)
  | timesOut | skips => exact keeps later running
  | cancelled | fails | panics | closes => cases running

theorem LeavesWatch.keepsTimeout {s t : CallState κ} (keeps : s.KeepsTimeout session) (leaves : LeavesWatch s t) :
    t.KeepsTimeout session := by
  intro task running
  rcases leaves.receiveTask with same | spawned
  · exact keeps task (same.symm.trans running)
  · rw [spawned] at running
    cases running

theorem KeepsTimeout.step {s t : CallState κ} {act : CallAct} (keeps : s.KeepsTimeout session)
    (step : callStep session s act = some t) : t.KeepsTimeout session := by
  rcases callStep_cases step with ⟨_, receives⟩ | ⟨_, leaves⟩
  · exact receives.keepsTimeout keeps
  · exact leaves.keepsTimeout keeps

theorem not_losesWatch_of_waiting {s : CallState κ} (spawned : s.receiveTask = .spawned) :
    ¬ s.LosesWatch session := by
  rintro ⟨_, ⟨task, running, _⟩, _⟩
  rw [spawned] at running
  cases running

theorem not_losesWatch_of_cancelled {s : CallState κ} (cancelled : s.tokens.isCancelled sessionToken = true) :
    ¬ s.LosesWatch session := by
  rintro ⟨live, _⟩
  rw [cancelled] at live
  cases live

theorem losesWatch_iff {s : CallState κ} {task : ReceiveLoop κ} {result : Except Unit (List UInt8)}
    {later : List (Except Unit (List UInt8))} (running : s.receiveTask = .running task)
    (live : s.tokens.isCancelled sessionToken = false) (waits : task.deadline.elapsed s.now = false)
    (queue : s.socket = result :: later) : s.LosesWatch session ↔ s.BreaksOn session result := by
  constructor
  · rintro ⟨_, _, next, rest, same, breaks⟩
    rw [queue] at same
    cases same
    exact breaks
  · intro breaks
    exact ⟨live, ⟨task, running, waits⟩, result, later, queue, breaks⟩

theorem Receives.keepsWatch_iff {s t : CallState κ} (keeps : s.KeepsTimeout session) (before : s.Watched)
    (step : Receives session s t) : t.Watched ↔ ¬ s.LosesWatch session := by
  have unwatched : ∀ {last : CallState κ} {exit}, last.receiveTask = .ended exit →
      last.tokens.isCancelled sessionToken = false → ¬ last.Watched := by
    intro last exit ended live watched
    rw [watched exit ended] at live
    cases live
  cases step with
  | start atTask => exact iff_of_true nofun (not_losesWatch_of_waiting atTask)
  | cancelled _ token => exact iff_of_true (fun _ _ => token) (not_losesWatch_of_cancelled token)
  | timesOut atTask live fires =>
    refine iff_of_true (fun _ _ => CancelTree.isCancelled_cancel_self s.tokens sessionToken) ?_
    rintro ⟨_, ⟨task, running, waits⟩, _⟩
    rw [atTask] at running
    cases running
    rw [fires] at waits
    cases waits
  | fails atTask live waits queue =>
    exact iff_of_false (unwatched rfl live) fun kept => kept ((losesWatch_iff atTask live waits queue).mpr trivial)
  | skips atTask live waits queue parsed =>
    refine iff_of_true ?_ ?_
    · intro exit ended
      exact before exit ended
    · rw [losesWatch_iff atTask live waits queue, CallState.BreaksOn, parsed]
      exact fun breaks => Bool.noConfusion breaks.1
  | panics atTask live waits queue parsed panic =>
    refine iff_of_false (unwatched rfl live) fun kept => kept
      ((losesWatch_iff atTask live waits queue).mpr ⟨?_, Or.inr ?_⟩)
    · rw [parsed]
      rfl
    · rw [← keeps _ atTask]
      exact Deadline.reset_eq_none.mp panic
  | closes atTask live waits queue parsed _ gone =>
    refine iff_of_false (unwatched rfl live) fun kept => kept
      ((losesWatch_iff atTask live waits queue).mpr ⟨?_, Or.inl gone⟩)
    rw [parsed]
    rfl
  | delivers atTask live waits queue parsed renewed accepted =>
    refine iff_of_true nofun ?_
    rw [losesWatch_iff atTask live waits queue]
    rintro ⟨_, gone | beyond⟩
    · rw [Channel.send_eq_none.mpr gone] at accepted
      cases accepted
    · rw [← keeps _ atTask, ← Deadline.reset_eq_none, renewed] at beyond
      cases beyond

theorem watched_step {s t : CallState κ} {act : CallAct} (keeps : s.KeepsTimeout session) (before : s.Watched)
    (step : callStep session s act = some t) : t.Watched ↔ ¬ (act = .receiveTask ∧ s.LosesWatch session) := by
  rcases callStep_cases step with ⟨own, receives⟩ | ⟨other, leaves⟩
  · rw [receives.keepsWatch_iff keeps before]
    simp only [own, true_and]
  · refine iff_of_true ?_ fun loses => other loses.1
    intro exit ended
    rcases leaves.receiveTask with same | spawned
    · exact leaves.tokens sessionToken (before exit (same.symm.trans ended))
    · rw [spawned] at ended
      cases ended

/-- The media of a live session stays watched all along a run exactly if no
iteration of the receive loop in it breaks on what the socket gives it. -/
theorem watched_iff {now : Nat} {acts : List CallAct} {last : CallState κ}
    (reach : run (callStep session) (CallState.accepted now) acts = some last) :
    (∀ s, Visits (callStep session) (CallState.accepted now) acts s → s.Watched) ↔
      ∀ s act, Takes (callStep session) (CallState.accepted now) acts s act →
        ¬ (act = .receiveTask ∧ s.LosesWatch session) := by
  refine visits_iff_takes (I := CallState.KeepsTimeout session) nofun nofun ?_ ?_ reach
  · intro s act t keeps step
    exact KeepsTimeout.step keeps step
  · intro s act t keeps before step
    exact watched_step keeps before step

theorem watched_hangup :
    ∃ last, run (callStep (silentSession 30)) (CallState.accepted 0) hangup = some last ∧
      ((∀ s, Visits (callStep (silentSession 30)) (CallState.accepted 0) hangup s → s.Watched) ↔
        ∀ s act, Takes (callStep (silentSession 30)) (CallState.accepted 0) hangup s act →
          ¬ (act = .receiveTask ∧ s.LosesWatch (silentSession 30))) := by
  refine exists_of_run ?_ fun last reach => watched_iff reach
  rfl

/-- One error of the socket ends the receive task of a live session. -/
theorem watched_fails :
    ∃ last, run (callStep (silentSession 30)) (CallState.accepted 0)
        [.handleCall, .handleCall, .receiveTask, .socketFails, .receiveTask] = some last ∧
      last.receiveTask = .ended .socketError ∧ last.tokens.isCancelled sessionToken = false ∧ ¬ last.Watched := by
  refine exists_of_run rfl fun last reach => ?_
  have same := Option.some.inj reach
  subst same
  exact ⟨rfl, rfl, fun watched => Bool.noConfusion (watched .socketError rfl)⟩

end RsipstackServer
