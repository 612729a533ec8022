namespace RsipstackServer

structure AudioFrame where
  samples : List Int16
  deriving DecidableEq

structure RtpSendState where
  ssrc : UInt32
  sequence : UInt16
  timestamp : UInt32
  payloadType : UInt8
  timestampIncrement : UInt32
  deriving DecidableEq, Repr

namespace RtpSendState

/-- The three numbers in front are drawn at random. -/
def new (ssrc : UInt32) (sequence : UInt16) (timestamp : UInt32) (payloadType : UInt8) (timestampIncrement : UInt32) :
    RtpSendState := ⟨ssrc, sequence, timestamp, payloadType, timestampIncrement⟩

/-- The state for the next packet, and the state after it. -/
def next (state : RtpSendState) : RtpSendState × RtpSendState :=
  (state, { state with sequence := state.sequence + 1, timestamp := state.timestamp + state.timestampIncrement })

/-- The state after `n` packets. -/
def advanced (state : RtpSendState) : Nat → RtpSendState
  | 0 => state
  | n + 1 => (state.advanced n).next.2

end RtpSendState

structure RawRtpPacket where
  payload : List UInt8
  timestamp : UInt32
  sequence : UInt16
  ssrc : UInt32
  payloadType : UInt8
  deriving DecidableEq, Repr

/-- What `RtpReader` lets one read of a packet it has accepted. -/
structure RtpReader where
  payload : List UInt8
  timestamp : UInt32
  sequenceNumber : UInt16
  ssrc : UInt32
  payloadType : UInt8
  deriving DecidableEq, Repr

/-- The two operations of the crate `rtp-rs` that the server calls. A `none`
is their error. -/
structure RtpRs where
  read : List UInt8 → Option RtpReader
  build : (payloadType : UInt8) → (ssrc : UInt32) → (sequence : UInt16) → (timestamp : UInt32) →
    (payload : List UInt8) →
    Option (List UInt8)

def parseRtpPacket (crate : RtpRs) (data : List UInt8) : Option RawRtpPacket := do
  let rtp ← crate.read data
  pure {
    payload := rtp.payload
    timestamp := rtp.timestamp
    sequence := rtp.sequenceNumber
    ssrc := rtp.ssrc
    payloadType := rtp.payloadType }

/-- A `none` is the panic of the `expect` on the builder. -/
def buildRtpPacket (crate : RtpRs) (payload : List UInt8) (state : RtpSendState) : Option (List UInt8) :=
  crate.build state.payloadType state.ssrc state.sequence state.timestamp payload

end RsipstackServer
