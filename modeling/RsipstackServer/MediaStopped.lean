import RsipstackServer.NegotiatedMedia
import RsipstackServer.MediaTimeout

namespace RsipstackServer
open Foundation
universe u
variable {κ : Type u} {session : MediaSession κ}

/-- The times at which the receive task read packets. -/
def ReceiveRecord.packetTimes (session : MediaSession κ) (record : ReceiveRecord) : List Nat :=
  record.readings.filterMap fun reading => (session.packet? reading.result).map fun _ => reading.time

/-- What has arrived, and was not read yet. -/
def ReceiveRecord.waiting (record : ReceiveRecord) : List Arrival := record.arrivals.drop record.readings.length

/-- The session is cancelled for its deadline only when nothing that parses has
arrived within the timeout, and it is cancelled by the first iteration after
the timeout, which only what parses delays. -/
structure ReceiveHistory.TimesOutSoundly (session : MediaSession κ) (h : ReceiveHistory κ) : Prop where
  silent : ∀ timeout ∈ h.record.timeouts, ∀ arrival ∈ timeout.arrivals, (session.packet? arrival.result).isSome →
    arrival.time + session.mediaReceiveTimeout ≤ timeout.time
  punctual : ∀ task start, h.state.receiveTask = .running task → h.record.started = some start →
    task.deadline = session.deadlineAfter start (h.record.packetTimes session)
  expires : h.state.DeadlineFires → ∃ k, receiveHistoryStep session h .receiveTask = some k ∧
    k.state.tokens.isCancelled sessionToken = true ∧
    k.record.timeouts = h.record.timeouts ++ [⟨h.state.now, h.record.arrivals⟩]

/-- An iteration of the receive loop takes the branch of the deadline while a
packet waits on the socket that arrived less than the timeout ago. -/
def OverlooksPacket (session : MediaSession κ) (h : ReceiveHistory κ) (act : CallAct) : Prop :=
  act = .receiveTask ∧ h.state.DeadlineFires ∧ ∃ arrival ∈ h.record.waiting, (session.packet? arrival.result).isSome ∧
    h.state.now < arrival.time + session.mediaReceiveTimeout

/-- What the running receive loop knows of the packets it has read. -/
structure Attends (session : MediaSession κ) (h : ReceiveHistory κ) (task : ReceiveLoop κ) : Prop where
  punctual : ∀ start, h.record.started = some start →
    task.deadline = session.deadlineAfter start (h.record.packetTimes session)
  covers : ∀ arrival ∈ h.record.arrivals.take h.record.readings.length, (session.packet? arrival.result).isSome →
    ∀ fires, task.deadline.sleep = some fires → arrival.time + session.mediaReceiveTimeout ≤ fires

/-- What holds of the watch over the media in every state. -/
structure Watches (session : MediaSession κ) (h : ReceiveHistory κ) : Prop extends Incoming h where
  attends : ∀ task, h.state.receiveTask = .running task → Attends session h task

theorem Incoming.waiting {h : ReceiveHistory κ} (incoming : Incoming h) :
    h.record.waiting.map Arrival.result = h.state.socket := by
  rw [ReceiveRecord.waiting, List.map_drop, ← incoming.queue, ← List.length_map Reading.result, List.drop_left]

theorem Incoming.readings_le {h : ReceiveHistory κ} (incoming : Incoming h) :
    h.record.readings.length ≤ h.record.arrivals.length := by
  have lengths := congrArg List.length incoming.queue
  rw [List.length_append, List.length_map, List.length_map] at lengths
  omega

/-- The next reading is of the first arrival that waits. -/
theorem Incoming.next {h : ReceiveHistory κ} {result : Except Unit (List UInt8)}
    {later : List (Except Unit (List UInt8))} (incoming : Incoming h) (queue : h.state.socket = result :: later) :
    ∃ arrival, arrival.result = result ∧ h.record.arrivals.take (h.record.readings.length + 1) =
      h.record.arrivals.take h.record.readings.length ++ [arrival] := by
  have waiting := incoming.waiting
  rw [queue] at waiting
  obtain ⟨arrival, rest, first, same, _⟩ := List.map_eq_cons_iff.mp waiting
  refine ⟨arrival, same, ?_⟩
  rw [List.take_add, show h.record.arrivals.drop h.record.readings.length = arrival :: rest from first]
  rfl

theorem packetTimes_read (h : ReceiveHistory κ) (result : Except Unit (List UInt8)) :
    (h.read result).packetTimes session =
      h.record.packetTimes session ++ ((session.packet? result).map fun _ => h.state.now).toList := by
  change (h.record.readings ++ [_]).filterMap _ = _
  rw [List.filterMap_append]
  rfl

/-- An iteration that reads nothing that parses leaves what is known. -/
theorem Attends.read {h : ReceiveHistory κ} {task : ReceiveLoop κ} {result : Except Unit (List UInt8)}
    {later : List (Except Unit (List UInt8))} (attends : Attends session h task) (incoming : Incoming h)
    (queue : h.state.socket = result :: later) (unparsed : session.packet? result = none) (t : CallState κ) :
    Attends session ⟨t, h.read result⟩ task := by
  refine ⟨?_, ?_⟩
  · intro start begun
    rw [packetTimes_read, unparsed, Option.map_none, Option.toList_none, List.append_nil]
    exact attends.punctual start begun
  · obtain ⟨arrival, same, taken⟩ := incoming.next queue
    intro other member packet
    rw [show (h.read result).readings.length = h.record.readings.length + 1 from List.length_append,
      show (h.read result).arrivals = h.record.arrivals from rfl, taken] at member
    rcases List.mem_append.mp member with old | new
    · exact attends.covers other old packet
    · cases List.mem_singleton.mp new
      rw [same, unparsed] at packet
      cases packet

/-- A renewed deadline covers all that has arrived. -/
theorem Attends.renew {h : ReceiveHistory κ} {task : ReceiveLoop κ} {data : List UInt8} {raw : RawRtpPacket}
    {deadline : Deadline} {start : Nat} (attends : Attends session h task) (incoming : Incoming h)
    (begun : h.record.started = some start) (parsed : session.packet? (.ok data) = some raw)
    (renewed : task.deadline.reset session.maxInstant h.state.now = some deadline) (codec : κ) (t : CallState κ)
    (delivered : List AudioFrame) :
    Attends session ⟨t, { h.read (.ok data) with delivered }⟩ ⟨deadline, codec⟩ := by
  rw [attends.punctual start begun] at renewed
  obtain rfl := MediaSession.reset_deadlineAfter renewed
  refine ⟨?_, ?_⟩
  · intro again same
    cases begun.symm.trans same
    have times : (h.read (.ok data)).packetTimes session = _ := packetTimes_read h (.ok data)
    rw [parsed, Option.map_some, Option.toList_some] at times
    change _ = session.deadlineAfter start ((h.read (.ok data)).packetTimes session)
    rw [times]
  · intro arrival member packet fires same
    have early : arrival.time ≤ h.state.now := incoming.clock arrival (List.mem_of_mem_take member)
    unfold MediaSession.deadlineAfter at same
    rw [List.getLast?_concat] at same
    cases same
    omega

theorem Hears.watches {h k : ReceiveHistory κ} {act : CallAct} (step : Hears session h act k)
    (watches : Watches session h) :
    Watches session k := by
  have incoming := watches.toIncoming
  refine ⟨step.incoming incoming, fun task running => ?_⟩
  cases step with
  | leaves other leaves =>
    rcases leaves.receiveTask with same | ⟨_, spawned⟩
    · have attends := watches.attends task (same.symm.trans running)
      exact ⟨attends.punctual, attends.covers⟩
    · cases spawned.symm.trans running
  | arrives result =>
    have attends := watches.attends task running
    refine ⟨attends.punctual, ?_⟩
    simp only [ReceiveRecord.arrive, List.take_append_of_le_length incoming.readings_le]
    exact attends.covers
  | starts spawned =>
    have readings := (incoming.idle (Or.inr spawned)).1
    cases running
    refine ⟨?_, ?_⟩
    · intro start begun
      cases begun
      change _ = session.deadlineAfter h.state.now (h.record.packetTimes session)
      rw [ReceiveRecord.packetTimes, readings]
      rfl
    · simp only [readings, List.length_nil, List.take_zero]
      exact fun _ member => absurd member List.not_mem_nil
  | timesOut =>
    have attends := watches.attends task running
    exact ⟨attends.punctual, attends.covers⟩
  | skips atTask live waits queue parsed =>
    exact (watches.attends task running).read incoming queue parsed _
  | cancelled | fails | panics | closes => cases running
  | @delivers loop data later raw deadline audioIn atTask live waits queue parsed renewed accepted =>
    obtain ⟨start, begun⟩ := incoming.started loop atTask
    cases running
    exact (watches.attends loop atTask).renew incoming begun parsed renewed _ _ _

theorem watches_accepted (now : Nat) : Watches session (.accepted now) := ⟨incoming_accepted now, nofun⟩

theorem DeadlineFires.step {s : CallState κ} (fires : s.DeadlineFires) :
    callStep session s .receiveTask = some { s.cancel sessionToken with timedOut := true } := by
  obtain ⟨now, tokens, socket, audioIn, audioOut, receiveTask, sendTask, handlerTask, place, timedOut⟩ := s
  obtain ⟨task, running, live, elapsed⟩ := fires
  cases running
  have iteration : session.rtpReceiveTask now (tokens.isCancelled sessionToken) audioIn socket task =
      some (.timesOut, socket) := by
    simp only [MediaSession.rtpReceiveTask, show tokens.isCancelled sessionToken = false from live,
      show task.deadline.elapsed now = true from elapsed, Bool.false_eq_true, if_false, if_true]
  simp only [callStep, CallState.receiveStep, iteration]

/-- The iteration that finds the deadline expired cancels the session, whatever
waits on the socket. -/
theorem DeadlineFires.expires {h : ReceiveHistory κ} (fires : h.state.DeadlineFires) :
    ∃ k, receiveHistoryStep session h .receiveTask = some k ∧ k.state.tokens.isCancelled sessionToken = true ∧
      k.record.timeouts = h.record.timeouts ++ [⟨h.state.now, h.record.arrivals⟩] := by
  have cancelled : (h.state.tokens.cancel sessionToken).isCancelled sessionToken = true :=
    CancelTree.isCancelled_cancel_self h.state.tokens sessionToken
  have step : callStep session h.state .receiveTask = _ := DeadlineFires.step fires
  obtain ⟨task, running, live, _⟩ := fires
  refine ⟨⟨{ h.state.cancel sessionToken with timedOut := true }, ReceiveRecord.note h.state .receiveTask _ h.record⟩,
    Recorded.step_eq_some_iff.mpr ⟨step, rfl⟩, cancelled, ?_⟩
  rw [ReceiveRecord.note_running running, ReceiveRecord.iterate_quiet]
  · simp only [CallState.cancel, cancelled, live, Bool.not_false, Bool.and_self, if_true]
  · rfl
  · rfl

/-- A packet that had arrived by a timeout had arrived the whole timeout before
it. -/
def ReceiveRecord.Silent (session : MediaSession κ) (record : ReceiveRecord) : Prop :=
  ∀ timeout ∈ record.timeouts, ∀ arrival ∈ timeout.arrivals, (session.packet? arrival.result).isSome →
    arrival.time + session.mediaReceiveTimeout ≤ timeout.time

theorem Watches.soundly_iff {h : ReceiveHistory κ} (watches : Watches session h) :
    h.TimesOutSoundly session ↔ h.record.Silent session := by
  constructor
  · exact fun sound => sound.silent
  · exact fun silent =>
      ⟨silent, fun task start running => (watches.attends task running).punctual start, DeadlineFires.expires⟩

/-- A deadline that has expired has expired for all packets that were read. -/
theorem Attends.expired {h : ReceiveHistory κ} {task : ReceiveLoop κ} {arrival : Arrival}
    (attends : Attends session h task) (elapsed : task.deadline.elapsed h.state.now = true)
    (member : arrival ∈ h.record.arrivals.take h.record.readings.length)
    (packet : (session.packet? arrival.result).isSome) :
    arrival.time + session.mediaReceiveTimeout ≤ h.state.now := by
  unfold Deadline.elapsed at elapsed
  split at elapsed
  · rename_i fires sleep
    exact (attends.covers arrival member packet fires sleep).trans (of_decide_eq_true elapsed)
  · cases elapsed

theorem Hears.silent_iff {h k : ReceiveHistory κ} {act : CallAct} (watches : Watches session h)
    (step : Hears session h act k) (before : h.record.Silent session) :
    k.record.Silent session ↔ ¬ OverlooksPacket session h act := by
  have quiet {task} (running : h.state.receiveTask = .running task)
    (waits : task.deadline.elapsed h.state.now = false) :
      ¬ OverlooksPacket session h act := by
    rintro ⟨_, ⟨loop, same, _, elapsed⟩, _⟩
    cases running.symm.trans same
    exact Bool.noConfusion (waits.symm.trans elapsed)
  cases step with
  | leaves other | arrives _ other => exact iff_of_true before fun overlooks => other overlooks.1
  | starts spawned =>
    refine iff_of_true before ?_
    rintro ⟨_, ⟨_, running, _⟩, _⟩
    cases spawned.symm.trans running
  | cancelled running token =>
    refine iff_of_true before ?_
    rintro ⟨_, ⟨_, _, live, _⟩, _⟩
    exact Bool.noConfusion (token.symm.trans live)
  | fails running _ waits | skips running _ waits | panics running _ waits | closes running _ waits
  | delivers running _ waits => exact iff_of_true before (quiet running waits)
  | @timesOut task running live elapsed =>
    rw [ReceiveRecord.Silent, List.forall_mem_append, List.forall_mem_singleton]
    constructor
    · rintro ⟨_, now⟩ ⟨_, _, arrival, member, packet, late⟩
      exact Nat.not_lt.mpr (now arrival (List.mem_of_mem_drop member) packet) late
    · intro attentive
      refine ⟨before, fun arrival member packet => ?_⟩
      rw [← List.take_append_drop h.record.readings.length h.record.arrivals] at member
      rcases List.mem_append.mp member with read | waiting
      · exact (watches.attends task running).expired elapsed read packet
      · by_contra late
        exact attentive ⟨rfl, ⟨task, running, live, elapsed⟩, arrival, waiting, packet, Nat.not_le.mp late⟩

/-- Along a run calls are timed out only for media that stopped, exactly if no
iteration of the receive loop overlooks a packet on the socket. -/
theorem timesOutSoundly_iff {now : Nat} {acts : List CallAct} {last : ReceiveHistory κ}
    (reach : run (receiveHistoryStep session) (.accepted now) acts = some last) :
    (∀ h, Visits (receiveHistoryStep session) (.accepted now) acts h → h.TimesOutSoundly session) ↔
      ∀ h act, Takes (receiveHistoryStep session) (.accepted now) acts h act → ¬ OverlooksPacket session h act := by
  refine visits_iff_takes (I := Watches session) (watches_accepted now) ?_ ?_ ?_ reach
  · exact (watches_accepted now).soundly_iff.mpr (List.forall_mem_nil _)
  · exact fun h act k watches step => (hears_of_step step).watches watches
  · intro h act k watches before step
    have moved := hears_of_step step
    rw [(moved.watches watches).soundly_iff]
    exact moved.silent_iff watches (watches.soundly_iff.mp before)

/-- A packet, then nothing until the deadline that it renewed has expired. -/
def stoppedMedia : List CallAct :=
  [.handleCall, .handleCall, .receiveTask, .tick 20, .peerSends (rtpPacket 0 [1]), .receiveTask, .tick 20,
    .peerSends [1, 2, 3], .receiveTask, .tick 10, .receiveTask]

theorem timesOutSoundly_stoppedMedia :
    ∃ last, run (receiveHistoryStep hearingSession) (.accepted 0) stoppedMedia = some last ∧
    last.record.timeouts.map Timeout.time = [50] ∧
    ((∀ h, Visits (receiveHistoryStep hearingSession) (.accepted 0) stoppedMedia h →
      h.TimesOutSoundly hearingSession) ↔
      ∀ h act, Takes (receiveHistoryStep hearingSession) (.accepted 0) stoppedMedia h act →
        ¬ OverlooksPacket hearingSession h act) := by
  have timeouts : (run (receiveHistoryStep hearingSession) (.accepted 0) stoppedMedia).map
      (fun h => h.record.timeouts.map Timeout.time) = some [50] := by decide +kernel
  refine exists_of_run (by decide +kernel) fun last reach => ⟨?_, timesOutSoundly_iff reach⟩
  rw [reach] at timeouts
  exact Option.some.inj timeouts

/-- The loop runs again at 31. A packet has waited for it since 29, but the
deadline of 30 is polled before the socket. -/
def lateLoop : List CallAct :=
  [.handleCall, .handleCall, .receiveTask, .tick 29, .peerSends (rtpPacket 0 [1]), .tick 2, .receiveTask]

theorem timesOutSoundly_fails : ∃ last, run (receiveHistoryStep hearingSession) (.accepted 0) lateLoop = some last ∧
    last.record.timeouts = [⟨31, [⟨29, .ok (rtpPacket 0 [1])⟩]⟩] ∧ ¬ last.TimesOutSoundly hearingSession := by
  have packet : (hearingSession.packet? (.ok (rtpPacket 0 [1]))).isSome := by decide +kernel
  refine exists_of_run (by decide +kernel) fun last reach => ?_
  have same := Option.some.inj reach
  subst same
  refine ⟨rfl, fun sound => ?_⟩
  have early : 29 + 30 ≤ 31 := sound.silent _ (List.mem_singleton_self _) _ (List.mem_singleton_self _) packet
  omega

end RsipstackServer
