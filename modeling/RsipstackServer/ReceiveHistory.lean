import RsipstackServer.CallSteps
import RsipstackServer.Foundation.Recorder

namespace RsipstackServer
open Foundation
universe u
variable {κ : Type u}

/-- A datagram of the peer or an error, at the time at which the socket got it. -/
structure Arrival where
  time : Nat
  result : Except Unit (List UInt8)

/-- What the receive task took off the socket, when, and whether the handler
still had its end of `audio_in`. -/
structure Reading where
  time : Nat
  listening : Bool
  result : Except Unit (List UInt8)

/-- A cancel of the session for its deadline, with all that had arrived. -/
structure Timeout where
  time : Nat
  arrivals : List Arrival

/-- What is written down of the incoming side of a call. -/
structure ReceiveRecord where
  arrivals : List Arrival
  readings : List Reading
  delivered : List AudioFrame
  timeouts : List Timeout
  started : Option Nat

namespace ReceiveRecord

def empty : ReceiveRecord := ⟨[], [], [], [], none⟩

def arrive (r : ReceiveRecord) (arrival : Arrival) : ReceiveRecord := { r with arrivals := r.arrivals ++ [arrival] }

/-- One iteration of the receive loop, out of `s` into `t`. -/
def iterate (s t : CallState κ) (r : ReceiveRecord) : ReceiveRecord :=
  { r with
    readings := r.readings ++
      (s.socket.take (s.socket.length - t.socket.length)).map fun result => ⟨s.now, s.audioIn.receiverAlive, result⟩
    delivered := r.delivered ++ t.audioIn.queue.drop s.audioIn.queue.length
    timeouts :=
      if t.tokens.isCancelled sessionToken && !s.tokens.isCancelled sessionToken then
        r.timeouts ++ [⟨s.now, r.arrivals⟩]
      else r.timeouts }

def note (s : CallState κ) (act : CallAct) (t : CallState κ) (r : ReceiveRecord) : ReceiveRecord :=
  match act with
  | .peerSends datagram => r.arrive ⟨s.now, .ok datagram⟩
  | .socketFails => r.arrive ⟨s.now, .error ()⟩
  | .receiveTask =>
    match s.receiveTask with
    | .spawned => { r with started := some s.now }
    | _ => r.iterate s t
  | _ => r

end ReceiveRecord

/-- A call with the record of its incoming side. -/
abbrev ReceiveHistory (κ : Type u) := Recorded (CallState κ) ReceiveRecord

def ReceiveHistory.accepted (now : Nat) : ReceiveHistory κ := ⟨.accepted now, .empty⟩

def receiveHistoryStep (session : MediaSession κ) : ReceiveHistory κ → CallAct → Option (ReceiveHistory κ) :=
  Recorded.step (callStep session) ReceiveRecord.note

/-- The recorded runs are the runs of the call. -/
theorem receiveHistory_run_iff {session : MediaSession κ} {now : Nat} {acts : List CallAct} {last : CallState κ} :
    (∃ record, run (receiveHistoryStep session) (.accepted now) acts = some ⟨last, record⟩) ↔
      run (callStep session) (.accepted now) acts = some last :=
  Recorded.run_iff ReceiveRecord.empty

def ReceiveHistory.read (h : ReceiveHistory κ) (result : Except Unit (List UInt8)) : ReceiveRecord :=
  { h.record with readings := h.record.readings ++ [⟨h.state.now, h.state.audioIn.receiverAlive, result⟩] }

/-- What a step of another party leaves of the incoming side. -/
structure LeavesReceive (s t : CallState κ) : Prop where
  socket : t.socket = s.socket
  clock : s.now ≤ t.now
  receiveTask : t.receiveTask = s.receiveTask ∨ s.handleCall = .accepted ∧ t.receiveTask = .spawned
  place : t.handleCall = .accepted → s.handleCall = .accepted ∧ t.receiveTask = s.receiveTask

/-- Everything that one step can do to the incoming side of a call and to its
record. -/
inductive Hears (session : MediaSession κ) (h : ReceiveHistory κ) : CallAct → ReceiveHistory κ → Prop
  | leaves {act t} : act ≠ .receiveTask → LeavesReceive h.state t → Hears session h act ⟨t, h.record⟩
  | arrives {act} (result) : act ≠ .receiveTask →
      Hears session h act ⟨{ h.state with socket := h.state.socket ++ [result] },
        h.record.arrive ⟨h.state.now, result⟩⟩
  | starts : h.state.receiveTask = .spawned →
      Hears session h .receiveTask
        ⟨{ h.state with receiveTask := .running (session.receiveLoop h.state.now) },
          { h.record with started := some h.state.now }⟩
  | cancelled {task} : h.state.receiveTask = .running task → h.state.tokens.isCancelled sessionToken = true →
      Hears session h .receiveTask ⟨h.state.endReceive .cancelled, h.record⟩
  | timesOut {task} : h.state.receiveTask = .running task → h.state.tokens.isCancelled sessionToken = false →
      task.deadline.elapsed h.state.now = true →
      Hears session h .receiveTask
        ⟨{ h.state.cancel sessionToken with timedOut := true },
          { h.record with timeouts := h.record.timeouts ++ [⟨h.state.now, h.record.arrivals⟩] }⟩
  | fails {task later} : h.state.receiveTask = .running task → h.state.tokens.isCancelled sessionToken = false →
      task.deadline.elapsed h.state.now = false → h.state.socket = .error () :: later →
      Hears session h .receiveTask ⟨({ h.state with socket := later }).endReceive .socketError, h.read (.error ())⟩
  | skips {task data later} : h.state.receiveTask = .running task → h.state.tokens.isCancelled sessionToken = false →
      task.deadline.elapsed h.state.now = false → h.state.socket = .ok data :: later →
      parseRtpPacket session.crate (data.take 2048) = none →
      Hears session h .receiveTask ⟨{ h.state with socket := later }, h.read (.ok data)⟩
  | panics {task data later raw} : h.state.receiveTask = .running task →
      h.state.tokens.isCancelled sessionToken = false → task.deadline.elapsed h.state.now = false →
      h.state.socket = .ok data :: later → parseRtpPacket session.crate (data.take 2048) = some raw →
      task.deadline.reset session.maxInstant h.state.now = none →
      Hears session h .receiveTask ⟨({ h.state with socket := later }).endReceive .panicked, h.read (.ok data)⟩
  | closes {task data later raw deadline} : h.state.receiveTask = .running task →
      h.state.tokens.isCancelled sessionToken = false → task.deadline.elapsed h.state.now = false →
      h.state.socket = .ok data :: later → parseRtpPacket session.crate (data.take 2048) = some raw →
      task.deadline.reset session.maxInstant h.state.now = some deadline → h.state.audioIn.receiverAlive = false →
      Hears session h .receiveTask ⟨({ h.state with socket := later }).endReceive .channelClosed, h.read (.ok data)⟩
  | delivers {task data later raw deadline audioIn} : h.state.receiveTask = .running task →
      h.state.tokens.isCancelled sessionToken = false → task.deadline.elapsed h.state.now = false →
      h.state.socket = .ok data :: later → parseRtpPacket session.crate (data.take 2048) = some raw →
      task.deadline.reset session.maxInstant h.state.now = some deadline →
      h.state.audioIn.send ⟨(session.codec.decode task.codec raw.payload).1⟩ = some audioIn →
      Hears session h .receiveTask
        ⟨{ h.state with
            socket := later
            audioIn := audioIn
            receiveTask := .running ⟨deadline, (session.codec.decode task.codec raw.payload).2⟩ },
          { h.read (.ok data) with
            delivered := h.record.delivered ++ [⟨(session.codec.decode task.codec raw.payload).1⟩] }⟩

/-- What is written down of an iteration that reads one result. -/
theorem ReceiveRecord.iterate_read {s t : CallState κ} {r : ReceiveRecord} {result : Except Unit (List UInt8)}
    {later : List (Except Unit (List UInt8))} (queue : s.socket = result :: later) (rest : t.socket = later)
    (tokens : t.tokens = s.tokens) :
    r.iterate s t = { r with
      readings := r.readings ++ [⟨s.now, s.audioIn.receiverAlive, result⟩]
      delivered := r.delivered ++ t.audioIn.queue.drop s.audioIn.queue.length } := by
  have one : (result :: later).length - later.length = 1 := by
    rw [List.length_cons]
    omega
  unfold iterate
  rw [tokens, queue, rest, one, Bool.and_not_self]
  rfl

/-- What is written down of an iteration that reads nothing. -/
theorem ReceiveRecord.iterate_quiet {s t : CallState κ} {r : ReceiveRecord} (socket : t.socket = s.socket)
    (queue : t.audioIn.queue = s.audioIn.queue) :
    r.iterate s t = { r with
      timeouts :=
        if t.tokens.isCancelled sessionToken && !s.tokens.isCancelled sessionToken then
          r.timeouts ++ [⟨s.now, r.arrivals⟩]
        else r.timeouts } := by
  unfold iterate
  rw [socket, queue, Nat.sub_self, List.drop_length, List.take_zero, List.map_nil, List.append_nil, List.append_nil]

theorem LeavesReceive.of_same {s t : CallState κ} (socket : t.socket = s.socket) (clock : s.now ≤ t.now)
    (receiveTask : t.receiveTask = s.receiveTask) (place : t.handleCall = s.handleCall) : LeavesReceive s t :=
  ⟨socket, clock, Or.inl receiveTask, fun fresh => ⟨place ▸ fresh, receiveTask⟩⟩

theorem Proceeds.leavesReceive {s t : CallState κ} (step : Proceeds s t) : LeavesReceive s t := by
  cases step with
  | starts place => exact ⟨rfl, Nat.le_refl _, Or.inr ⟨place, rfl⟩, nofun⟩
  | runs | returns => exact ⟨rfl, Nat.le_refl _, Or.inl rfl, nofun⟩
  | ends _ _ handler => rcases handler with rfl | rfl <;> exact ⟨rfl, Nat.le_refl _, Or.inl rfl, nofun⟩

theorem CallState.sendStep_leavesReceive {session : MediaSession κ} {s t : CallState κ} {act : SendAct}
    (step : s.sendStep session act = some t) : LeavesReceive s t := by
  obtain ⟨_, _, _, rfl⟩ := CallState.sendStep_frame step
  exact .of_same rfl (Nat.le_refl _) rfl rfl

theorem CallState.handlerStep_leavesReceive {s t : CallState κ} {act : HandlerAct}
    (step : s.handlerStep act = some t) :
    LeavesReceive s t := by
  obtain ⟨_, _, _, _, _, rfl⟩ := CallState.handlerStep_frame step
  exact .of_same rfl (Nat.le_refl _) rfl rfl

theorem ReceiveRecord.note_running {s t : CallState κ} {r : ReceiveRecord} {task : ReceiveLoop κ}
    (running : s.receiveTask = .running task) : note s .receiveTask t r = r.iterate s t := by
  simp only [note, running]

/-- A step that takes one result off the socket and delivers nothing. -/
theorem Hears.of_read {session : MediaSession κ} {h : ReceiveHistory κ} {t : CallState κ} {task : ReceiveLoop κ}
    {result : Except Unit (List UInt8)} (running : h.state.receiveTask = .running task)
    (queue : h.state.socket = result :: t.socket) (tokens : t.tokens = h.state.tokens)
    (frames : t.audioIn.queue = h.state.audioIn.queue) (step : Hears session h .receiveTask ⟨t, h.read result⟩) :
    Hears session h .receiveTask ⟨t, ReceiveRecord.note h.state .receiveTask t h.record⟩ := by
  rw [ReceiveRecord.note_running running, ReceiveRecord.iterate_read queue rfl tokens, frames, List.drop_length,
    List.append_nil]
  exact step

theorem Receives.hears {session : MediaSession κ} {h : ReceiveHistory κ} {t : CallState κ}
    (step : Receives session h.state t) :
    Hears session h .receiveTask ⟨t, ReceiveRecord.note h.state .receiveTask t h.record⟩ := by
  cases step with
  | start spawned =>
    simp only [ReceiveRecord.note, spawned]
    exact .starts spawned
  | cancelled running token =>
    rw [ReceiveRecord.note_running running, ReceiveRecord.iterate_quiet]
    · simp only [CallState.endReceive, token, Bool.not_true, Bool.and_false, Bool.false_eq_true, if_false]
      exact .cancelled running token
    · rfl
    · rfl
  | @timesOut task running live fires =>
    have cancelled : (h.state.tokens.cancel sessionToken).isCancelled sessionToken = true :=
      CancelTree.isCancelled_cancel_self h.state.tokens sessionToken
    rw [ReceiveRecord.note_running running, ReceiveRecord.iterate_quiet]
    · simp only [CallState.cancel, cancelled, live, Bool.not_false, Bool.and_self, if_true]
      exact .timesOut running live fires
    · rfl
    · rfl
  | fails running live waits queue => exact .of_read running queue rfl rfl (.fails running live waits queue)
  | skips running live waits queue parsed =>
    exact .of_read running queue rfl rfl (.skips running live waits queue parsed)
  | panics running live waits queue parsed panic =>
    exact .of_read running queue rfl rfl (.panics running live waits queue parsed panic)
  | closes running live waits queue parsed renewed gone =>
    exact .of_read running queue rfl rfl (.closes running live waits queue parsed renewed gone)
  | delivers running live waits queue parsed renewed accepted =>
    rw [ReceiveRecord.note_running running, ReceiveRecord.iterate_read queue, Channel.drop_sent accepted]
    · exact .delivers running live waits queue parsed renewed accepted
    · rfl
    · rfl

theorem hears_of_step {session : MediaSession κ} {h k : ReceiveHistory κ} {act : CallAct}
    (step : receiveHistoryStep session h act = some k) : Hears session h act k := by
  obtain ⟨taken, kept⟩ := Recorded.step_eq_some_iff.mp step
  obtain ⟨t, record⟩ := k
  obtain rfl : record = ReceiveRecord.note h.state act t h.record := kept
  cases act with
  | tick elapsed =>
    cases Option.some.inj taken
    exact .leaves nofun (.of_same rfl (Nat.le_add_right _ _) rfl rfl)
  | peerSends datagram =>
    cases Option.some.inj taken
    exact .arrives (.ok datagram) nofun
  | socketFails =>
    cases Option.some.inj taken
    exact .arrives (.error ()) nofun
  | dialogEnds =>
    cases Option.some.inj taken
    exact .leaves nofun (.of_same rfl (Nat.le_refl _) rfl rfl)
  | handleCall => exact .leaves nofun ((CallState.handleCallStep_cases taken).leavesReceive)
  | receiveTask => exact (CallState.receiveStep_cases taken).hears
  | sendTask act => exact .leaves nofun (CallState.sendStep_leavesReceive taken)
  | handlerTask act => exact .leaves nofun (CallState.handlerStep_leavesReceive taken)

/-- What holds of the incoming side of a call in every state. -/
structure Incoming (h : ReceiveHistory κ) : Prop where
  fresh : h.state.handleCall = .accepted → h.state.receiveTask = .unspawned
  idle : h.state.receiveTask = .unspawned ∨ h.state.receiveTask = .spawned →
    h.record.readings = [] ∧ h.record.delivered = []
  started : ∀ task, h.state.receiveTask = .running task → ∃ start, h.record.started = some start
  queue : h.record.readings.map Reading.result ++ h.state.socket = h.record.arrivals.map Arrival.result
  clock : ∀ arrival ∈ h.record.arrivals, arrival.time ≤ h.state.now

/-- One more result is read off the socket. -/
theorem Incoming.read {h : ReceiveHistory κ} {result : Except Unit (List UInt8)}
    {later : List (Except Unit (List UInt8))} (incoming : Incoming h) (queue : h.state.socket = result :: later) :
    (h.read result).readings.map Reading.result ++ later = (h.read result).arrivals.map Arrival.result := by
  change (h.record.readings ++ [_]).map Reading.result ++ later = h.record.arrivals.map Arrival.result
  rw [← incoming.queue, queue, List.map_append, List.append_assoc]
  rfl

theorem Hears.incoming {session : MediaSession κ} {h k : ReceiveHistory κ} {act : CallAct}
    (step : Hears session h act k) (incoming : Incoming h) : Incoming k := by
  have ended {exit} {t : CallState κ} {record : ReceiveRecord} (place : t.handleCall = h.state.handleCall) {task}
      (running : h.state.receiveTask = .running task) (now : t.receiveTask = .ended exit)
      (queue : record.readings.map Reading.result ++ t.socket = record.arrivals.map Arrival.result)
      (clock : ∀ arrival ∈ record.arrivals, arrival.time ≤ t.now) : Incoming ⟨t, record⟩ := by
    refine ⟨fun fresh => ?_, fun idle => ?_, fun task running => ?_, queue, clock⟩
    · cases running.symm.trans (incoming.fresh (place ▸ fresh))
    · rw [now] at idle
      rcases idle with same | same <;> cases same
    · cases now.symm.trans running
  cases step with
  | leaves other leaves =>
    refine ⟨fun place => ?_, fun idle => ?_, fun task running => ?_, ?_, ?_⟩
    · obtain ⟨before, same⟩ := leaves.place place
      exact same.trans (incoming.fresh before)
    · rcases leaves.receiveTask with same | ⟨place, _⟩
      · exact incoming.idle (same ▸ idle)
      · exact incoming.idle (Or.inl (incoming.fresh place))
    · rcases leaves.receiveTask with same | ⟨_, spawned⟩
      · exact incoming.started task (same ▸ running)
      · cases spawned.symm.trans running
    · rw [leaves.socket]
      exact incoming.queue
    · exact fun arrival member => (incoming.clock arrival member).trans leaves.clock
  | arrives result =>
    refine ⟨incoming.fresh, incoming.idle, incoming.started, ?_, ?_⟩
    · simp only [ReceiveRecord.arrive, List.map_append, ← incoming.queue, List.append_assoc, List.map_singleton]
    · simp only [ReceiveRecord.arrive, List.forall_mem_append, List.forall_mem_singleton]
      exact ⟨incoming.clock, Nat.le_refl _⟩
  | starts spawned =>
    refine ⟨fun place => ?_, nofun, fun _ _ => ⟨_, rfl⟩, incoming.queue, incoming.clock⟩
    cases spawned.symm.trans (incoming.fresh place)
  | cancelled running => exact ended rfl running rfl incoming.queue incoming.clock
  | timesOut running => exact ⟨incoming.fresh, incoming.idle, incoming.started, incoming.queue, incoming.clock⟩
  | fails running live waits queue => exact ended rfl running rfl (incoming.read queue) incoming.clock
  | skips running live waits queue =>
    refine ⟨incoming.fresh, fun idle => ?_, incoming.started, incoming.read queue, incoming.clock⟩
    change h.state.receiveTask = .unspawned ∨ h.state.receiveTask = .spawned at idle
    rw [running] at idle
    rcases idle with same | same <;> cases same
  | panics running live waits queue => exact ended rfl running rfl (incoming.read queue) incoming.clock
  | closes running live waits queue => exact ended rfl running rfl (incoming.read queue) incoming.clock
  | delivers running live waits queue =>
    refine ⟨fun place => ?_, nofun, fun _ _ => incoming.started _ running, incoming.read queue, incoming.clock⟩
    cases running.symm.trans (incoming.fresh place)

theorem incoming_accepted (now : Nat) : Incoming (.accepted now : ReceiveHistory κ) :=
  ⟨fun _ => rfl, fun _ => ⟨rfl, rfl⟩, nofun, rfl, List.forall_mem_nil _⟩

end RsipstackServer
