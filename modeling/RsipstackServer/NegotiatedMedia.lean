import RsipstackServer.TakenPackets

namespace RsipstackServer
open Foundation
universe u
variable {κ : Type u} {session : MediaSession κ}

namespace Codec

/-- The decodings of the payloads, in order. -/
def decodings (codec : Codec κ) : κ → List (List UInt8) → List AudioFrame
  | _, [] => []
  | state, payload :: later =>
    ⟨(codec.decode state payload).1⟩ :: codec.decodings (codec.decode state payload).2 later

/-- The decoder after the payloads. -/
def decoded (codec : Codec κ) : κ → List (List UInt8) → κ
  | state, [] => state
  | state, payload :: later => codec.decoded (codec.decode state payload).2 later

theorem decodings_concat (codec : Codec κ) (state : κ) (payloads : List (List UInt8)) (payload : List UInt8) :
    codec.decodings state (payloads ++ [payload]) =
      codec.decodings state payloads ++ [⟨(codec.decode (codec.decoded state payloads) payload).1⟩] := by
  induction payloads generalizing state with
  | nil => rfl
  | cons first payloads ih => exact congrArg (_ :: ·) (ih _)

theorem decoded_concat (codec : Codec κ) (state : κ) (payloads : List (List UInt8)) (payload : List UInt8) :
    codec.decoded state (payloads ++ [payload]) = (codec.decode (codec.decoded state payloads) payload).2 := by
  induction payloads generalizing state with
  | nil => rfl
  | cons first payloads ih => exact ih _

theorem length_decodings (codec : Codec κ) (state : κ) (payloads : List (List UInt8)) :
    (codec.decodings state payloads).length = payloads.length := by
  induction payloads generalizing state with
  | nil => rfl
  | cons payload payloads ih => exact congrArg (· + 1) (ih _)

end Codec

namespace MediaSession

/-- The deadline of a loop that began at `start` and was renewed at `times`. -/
def deadlineAfter (session : MediaSession κ) (start : Nat) (times : List Nat) : Deadline :=
  match times.getLast? with
  | none => .new session.maxInstant start session.mediaReceiveTimeout
  | some time => ⟨some (time + session.mediaReceiveTimeout), session.mediaReceiveTimeout⟩

theorem deadlineAfter_duration (start : Nat) (times : List Nat) :
    (session.deadlineAfter start times).duration = session.mediaReceiveTimeout := by
  unfold deadlineAfter
  split <;> rfl

/-- A renewal puts the deadline where the last of the times has it. -/
theorem reset_deadlineAfter {start now : Nat} {times : List Nat} {renewed : Deadline}
    (reset : (session.deadlineAfter start times).reset session.maxInstant now = some renewed) :
    renewed = session.deadlineAfter start (times ++ [now]) := by
  obtain ⟨fires, added, rfl⟩ := Option.map_eq_some_iff.mp reset
  rw [deadlineAfter_duration] at added
  obtain ⟨_, same⟩ := Option.ite_none_right_eq_some.mp added
  cases Option.some.inj same
  rw [deadlineAfter_duration]
  unfold deadlineAfter
  rw [List.getLast?_concat]

/-- The payload of a result that carries the negotiated payload type, read while
the handler listens. -/
def media? (session : MediaSession κ) (reading : Reading) : Option (Nat × List UInt8) :=
  match session.packet? reading.result with
  | none => none
  | some raw =>
    if reading.listening && raw.payloadType == session.payloadType then some (reading.time, raw.payload) else none

end MediaSession

/-- What the receive task has read of the negotiated media. -/
def ReceiveRecord.media (session : MediaSession κ) (record : ReceiveRecord) : List (Nat × List UInt8) :=
  record.readings.filterMap session.media?

namespace ReceiveHistory

/-- Only the negotiated media reaches the handler, and the decoder and the
deadline of the receive loop. -/
structure MediaOnly (session : MediaSession κ) (h : ReceiveHistory κ) : Prop where
  order : h.record.readings.map Reading.result <+: h.record.arrivals.map Arrival.result
  frames : h.record.delivered = session.codec.decodings session.recvCodec ((h.record.media session).map Prod.snd)
  decoder : ∀ task, h.state.receiveTask = .running task →
    task.codec = session.codec.decoded session.recvCodec ((h.record.media session).map Prod.snd)
  deadline : ∀ task start, h.state.receiveTask = .running task → h.record.started = some start →
    task.deadline = session.deadlineAfter start ((h.record.media session).map Prod.fst)

/-- The receive loop is about to read the packet `raw`. -/
def Reads (session : MediaSession κ) (h : ReceiveHistory κ) (task : ReceiveLoop κ) (raw : RawRtpPacket) : Prop :=
  h.state.receiveTask = .running task ∧ h.state.tokens.isCancelled sessionToken = false ∧
    task.deadline.elapsed h.state.now = false ∧
    ∃ result later, h.state.socket = result :: later ∧ session.packet? result = some raw

end ReceiveHistory

namespace ReceiveHistory

theorem Reads.unique {h : ReceiveHistory κ} {task loop : ReceiveLoop κ} {raw other : RawRtpPacket}
    (reads : h.Reads session task raw) (reads' : h.Reads session loop other) : task = loop ∧ raw = other := by
  obtain ⟨running, _, _, _, _, queue, packet⟩ := reads
  obtain ⟨running', _, _, _, _, queue', packet'⟩ := reads'
  cases running.symm.trans running'
  cases queue.symm.trans queue'
  cases packet.symm.trans packet'
  exact ⟨rfl, rfl⟩

end ReceiveHistory

/-- There is one frame for each payload. -/
theorem ReceiveHistory.MediaOnly.length {h : ReceiveHistory κ} (only : h.MediaOnly session) :
    h.record.delivered.length = (h.record.media session).length := by
  rw [only.frames, Codec.length_decodings, List.length_map]

/-- A session whose codec decodes each byte as one sample. -/
def hearingSession : MediaSession Unit :=
  { crate := fixedHeaderRtpRs,
    codec := ⟨fun _ payload => (payload.map fun byte => byte.toUInt16.toInt16, ()), fun _ _ => ([], ()), fun _ => 160⟩
    recvCodec := (), sendCodec := (), payloadType := 0, mediaReceiveTimeout := 30, maxInstant := UInt64.size }

def rtpPacket (payloadType : UInt8) (payload : List UInt8) : List UInt8 := fixedHeader payloadType 7 1 160 ++ payload

end RsipstackServer
