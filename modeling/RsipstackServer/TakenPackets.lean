import RsipstackServer.ReceiveHistory
import RsipstackServer.PacketRoundTrip

namespace RsipstackServer
open Foundation
universe u
variable {κ : Type u} {session : MediaSession κ}

namespace MediaSession

def packet? (session : MediaSession κ) : Except Unit (List UInt8) → Option RawRtpPacket
  | .ok data => parseRtpPacket session.crate (data.take 2048)
  | .error _ => none

/-- The packet in a result that is read while the handler listens. -/
def heard? (session : MediaSession κ) (reading : Reading) : Option (Nat × RawRtpPacket) :=
  if reading.listening then (session.packet? reading.result).map fun raw => (reading.time, raw) else none

end MediaSession

/-- The packets that the receive task has read for the handler, whatever their
type. -/
def ReceiveRecord.heard (session : MediaSession κ) (record : ReceiveRecord) : List (Nat × RawRtpPacket) :=
  record.readings.filterMap session.heard?

/-- The receive loop is about to take in the packet `raw` for a handler that
listens. -/
def ReceiveHistory.TakesIn (session : MediaSession κ) (h : ReceiveHistory κ) (task : ReceiveLoop κ)
    (raw : RawRtpPacket) : Prop :=
  h.state.receiveTask = .running task ∧ h.state.tokens.isCancelled sessionToken = false ∧
    task.deadline.elapsed h.state.now = false ∧ h.state.audioIn.receiverAlive = true ∧
    ∃ result later, h.state.socket = result :: later ∧ session.packet? result = some raw

/-- There is one packet that an iteration can take in. -/
theorem ReceiveHistory.TakesIn.unique {h : ReceiveHistory κ} {task loop : ReceiveLoop κ} {raw other : RawRtpPacket}
    (takes : h.TakesIn session task raw) (takes' : h.TakesIn session loop other) : task = loop ∧ raw = other := by
  obtain ⟨running, _, _, _, _, _, queue, packet⟩ := takes
  obtain ⟨running', _, _, _, _, _, queue', packet'⟩ := takes'
  cases running.symm.trans running'
  cases queue.symm.trans queue'
  cases packet.symm.trans packet'
  exact ⟨rfl, rfl⟩

theorem ReceiveHistory.heard_read (h : ReceiveHistory κ) (session : MediaSession κ)
    (result : Except Unit (List UInt8)) :
    (h.read result).heard session =
      h.record.heard session ++ (session.heard? ⟨h.state.now, h.state.audioIn.receiverAlive, result⟩).toList := by
  change (h.record.readings ++ [_]).filterMap session.heard? = _
  rw [List.filterMap_append]
  rfl

/-- A result without a packet leaves what was heard as it is. -/
theorem ReceiveHistory.heard_read_none {h : ReceiveHistory κ} {result : Except Unit (List UInt8)}
    (unparsed : session.packet? result = none) : (h.read result).heard session = h.record.heard session := by
  rw [h.heard_read, MediaSession.heard?, unparsed, Option.map_none, ite_self]
  exact List.append_nil _

theorem ReceiveHistory.heard_read_deaf {h : ReceiveHistory κ} {result : Except Unit (List UInt8)}
    (deaf : h.state.audioIn.receiverAlive = false) : (h.read result).heard session = h.record.heard session := by
  rw [h.heard_read, MediaSession.heard?, deaf, if_neg Bool.false_ne_true]
  exact List.append_nil _

theorem ReceiveHistory.heard_read_packet {h : ReceiveHistory κ} {result : Except Unit (List UInt8)}
    {raw : RawRtpPacket} (parsed : session.packet? result = some raw) (hears : h.state.audioIn.receiverAlive = true) :
    (h.read result).heard session = h.record.heard session ++ [(h.state.now, raw)] := by
  rw [h.heard_read, MediaSession.heard?, parsed, hears]
  rfl

/-- What a step does with a packet: it takes in none, it takes in one that its
deadline does not survive, or it takes in one and delivers its frame. -/
inductive Taking (session : MediaSession κ) (h k : ReceiveHistory κ) : CallAct → Prop
  | quiet {act} : (act = .receiveTask → ∀ task raw, ¬ h.TakesIn session task raw) →
      k.record.heard session = h.record.heard session → k.record.delivered = h.record.delivered →
      (∀ task, k.state.receiveTask = .running task →
        h.state.receiveTask = .running task ∧ k.record.started = h.record.started ∨
          h.state.receiveTask = .spawned ∧ k.record.started = some h.state.now ∧
            task = session.receiveLoop h.state.now) →
      Taking session h k act
  | overflows {task raw} : h.TakesIn session task raw → task.deadline.reset session.maxInstant h.state.now = none →
      k.record.heard session = h.record.heard session ++ [(h.state.now, raw)] →
      k.record.delivered = h.record.delivered → (∀ task, k.state.receiveTask ≠ .running task) →
      Taking session h k .receiveTask
  | decodes {task raw deadline} : h.TakesIn session task raw →
      task.deadline.reset session.maxInstant h.state.now = some deadline →
      k.record.heard session = h.record.heard session ++ [(h.state.now, raw)] →
      k.record.delivered = h.record.delivered ++ [⟨(session.codec.decode task.codec raw.payload).1⟩] →
      k.state.receiveTask = .running ⟨deadline, (session.codec.decode task.codec raw.payload).2⟩ →
      k.record.started = h.record.started → Taking session h k .receiveTask

theorem Hears.taking {h k : ReceiveHistory κ} {act : CallAct} (step : Hears session h act k) :
    Taking session h k act := by
  cases step with
  | leaves other leaves =>
    refine .quiet (fun same => absurd same other) rfl rfl fun task running => Or.inl ⟨?_, rfl⟩
    rcases leaves.receiveTask with same | ⟨_, spawned⟩
    · exact same.symm.trans running
    · cases spawned.symm.trans running
  | arrives result other =>
    exact .quiet (fun same => absurd same other) rfl rfl fun _ running => Or.inl ⟨running, rfl⟩
  | starts spawned =>
    refine .quiet (fun _ _ _ takes => ?_) rfl rfl fun task running => Or.inr ⟨spawned, rfl, ?_⟩
    · cases spawned.symm.trans takes.1
    · cases running
      rfl
  | cancelled running token =>
    refine .quiet (fun _ _ _ takes => ?_) rfl rfl fun _ same => by cases same
    exact Bool.noConfusion (token.symm.trans takes.2.1)
  | timesOut running live fires =>
    refine .quiet (fun _ _ _ takes => ?_) rfl rfl fun _ same => Or.inl ⟨same, rfl⟩
    cases running.symm.trans takes.1
    exact Bool.noConfusion (fires.symm.trans takes.2.2.1)
  | fails running live waits queue =>
    refine .quiet (fun _ _ _ takes => ?_) (h.heard_read_none rfl) rfl fun _ same => by cases same
    obtain ⟨_, _, _, _, _, _, there, packet⟩ := takes
    cases queue.symm.trans there
    cases packet
  | @skips task data later running live waits queue parsed =>
    have unread : session.packet? (.ok data) = none := parsed
    refine .quiet (fun _ _ _ takes => ?_) (h.heard_read_none unread) rfl fun _ same => Or.inl ⟨same, rfl⟩
    obtain ⟨_, _, _, _, _, _, there, packet⟩ := takes
    cases queue.symm.trans there
    cases packet.symm.trans parsed
  | closes running live waits queue parsed renewed gone =>
    refine .quiet (fun _ _ _ takes => ?_) (h.heard_read_deaf gone) rfl fun _ same => by cases same
    exact Bool.noConfusion (gone.symm.trans takes.2.2.2.1)
  | @panics task data later raw running live waits queue parsed panic =>
    have packet : session.packet? (.ok data) = some raw := parsed
    cases alive : h.state.audioIn.receiverAlive with
    | false =>
      refine .quiet (fun _ _ _ takes => ?_) (h.heard_read_deaf alive) rfl fun _ same => by cases same
      exact Bool.noConfusion (alive.symm.trans takes.2.2.2.1)
    | true =>
      exact .overflows ⟨running, live, waits, alive, _, later, queue, packet⟩ panic
        (h.heard_read_packet packet alive) rfl
        fun _ same => by cases same
  | @delivers task data later raw deadline audioIn running live waits queue parsed renewed accepted =>
    have packet : session.packet? (.ok data) = some raw := parsed
    have alive : h.state.audioIn.receiverAlive = true := (Channel.send_eq_some_iff.mp accepted).1
    exact .decodes ⟨running, live, waits, alive, _, later, queue, packet⟩ renewed
      (h.heard_read_packet packet alive) rfl rfl
      rfl

end RsipstackServer
