import RsipstackServer.Codec
import RsipstackServer.Deadline
import RsipstackServer.RtpPacket
import RsipstackServer.Foundation.Channel

namespace RsipstackServer
open Foundation
universe u

/-- What `MediaSession::start` hands to its two tasks, with the crate and the
greatest instant they run with. -/
structure MediaSession (κ : Type u) where
  crate : RtpRs
  codec : Codec κ
  recvCodec : κ
  sendCodec : κ
  payloadType : UInt8
  mediaReceiveTimeout : Nat
  maxInstant : Nat

inductive TaskExit
  | cancelled
  | channelClosed
  | socketError
  | panicked
  deriving DecidableEq, Repr

structure ReceiveLoop (κ : Type u) where
  deadline : Deadline
  codec : κ

/-- What one iteration of the receive loop does. `timesOut` is the branch of
the deadline, which cancels the token of the session and goes on. -/
inductive ReceiveStep (κ : Type u)
  | exits (exit : TaskExit)
  | timesOut
  | skips
  | delivers (task : ReceiveLoop κ) (audioTx : Channel AudioFrame)

structure SendLoop (κ : Type u) where
  rtpState : RtpSendState
  codec : κ

/-- What one iteration of the send loop does with a frame, up to the moment
it hands a packet to the socket. -/
inductive SendStep (κ : Type u)
  | exits (exit : TaskExit)
  | skips (task : SendLoop κ)
  | sends (task : SendLoop κ) (packet : List UInt8)

namespace MediaSession
variable {κ : Type u}

def receiveLoop (session : MediaSession κ) (now : Nat) : ReceiveLoop κ :=
  ⟨Deadline.new session.maxInstant now session.mediaReceiveTimeout, session.recvCodec⟩

/-- The third branch of the receive loop, for a result of `socket.recv`. The
buffer cuts a datagram off after 2048 bytes. -/
def received (session : MediaSession κ) (now : Nat) (audioTx : Channel AudioFrame) (task : ReceiveLoop κ) :
    Except Unit (List UInt8) → ReceiveStep κ
  | .error _ => .exits .socketError
  | .ok data =>
    match parseRtpPacket session.crate (data.take 2048) with
    | none => .skips
    | some raw =>
      match task.deadline.reset session.maxInstant now with
      | none => .exits .panicked
      | some deadline =>
        match audioTx.send ⟨(session.codec.decode task.codec raw.payload).1⟩ with
        | none => .exits .channelClosed
        | some audioTx => .delivers ⟨deadline, (session.codec.decode task.codec raw.payload).2⟩ audioTx

/-- One iteration of the receive loop: its select tries the token, then the
deadline, then the socket. A `none` is an iteration that has to wait. -/
def rtpReceiveTask (session : MediaSession κ) (now : Nat) (cancelled : Bool) (audioTx : Channel AudioFrame)
    (socket : List (Except Unit (List UInt8))) (task : ReceiveLoop κ) :
    Option (ReceiveStep κ × List (Except Unit (List UInt8))) :=
  if cancelled then some (.exits .cancelled, socket)
  else if task.deadline.elapsed now then some (.timesOut, socket)
  else match socket with
    | [] => none
    | result :: later => some (session.received now audioTx task result, later)

def sendLoop (session : MediaSession κ) (ssrc : UInt32) (sequence : UInt16) (timestamp : UInt32) : SendLoop κ :=
  ⟨.new ssrc sequence timestamp session.payloadType (session.codec.rtpTimestampIncrement session.sendCodec),
    session.sendCodec⟩

/-- The branch of the send loop that has received from the channel. -/
def rtpSendTask (session : MediaSession κ) (task : SendLoop κ) : Option AudioFrame → SendStep κ
  | none => .exits .channelClosed
  | some frame =>
    let (payload, codec) := session.codec.encode task.codec frame.samples
    if payload.isEmpty then .skips { task with codec }
    else
      let (rtp, rtpState) := task.rtpState.next
      match buildRtpPacket session.crate payload rtp with
      | none => .exits .panicked
      | some packet => .sends ⟨rtpState, codec⟩ packet

end MediaSession
end RsipstackServer
