import RsipstackServer.FixedFrames
import RsipstackServer.AnswerRoundTrip

namespace RsipstackServer
open Foundation

/-- The crate `opus`. Whether an encoder or a decoder can be set up may change
from one call to the next. `encode` and `decode` write into the buffer that they
are given, and tell how much of it they have filled. -/
structure OpusCrate where
  Encoder : Type
  Decoder : Type
  newEncoder : Nat → Except Text Encoder
  newDecoder : Nat → Except Text Decoder
  encode : Encoder → List Int16 → List UInt8 → Except Text Nat × List UInt8 × Encoder
  decode : Decoder → List UInt8 → List Int16 → Except Text Nat × List Int16 × Decoder

/-- G.722 of the crate `audio-codec`. -/
structure G722Crate where
  Encoder : Type
  Decoder : Type
  newEncoder : Encoder
  newDecoder : Decoder
  encode : Encoder → List Int16 → List UInt8 × Encoder
  decode : Decoder → List UInt8 → List Int16 × Decoder

structure CodecCrates where
  opus : OpusCrate
  g722 : G722Crate

def opusCodec (crate : OpusCrate) : Codec (crate.Encoder × crate.Decoder) where
  decode state payload :=
    match crate.decode state.2 payload (List.replicate samplesPerFrame 0) with
    | (.ok samples, output, decoder) => (output.take samples, state.1, decoder)
    | (.error _, _, decoder) => (List.replicate samplesPerFrame 0, state.1, decoder)
  encode state samples :=
    match crate.encode state.1 samples (List.replicate 4000 0) with
    | (.ok len, output, encoder) => (output.take len, encoder, state.2)
    | (.error _, _, encoder) => ([], encoder, state.2)
  rtpTimestampIncrement _ := 960

/-- `OpusCodec::new` at the call `n`. -/
def OpusCrate.newCodec (crate : OpusCrate) (n : Nat) : Except Text (crate.Encoder × crate.Decoder) :=
  (crate.newEncoder n).bind fun encoder => (crate.newDecoder n).map fun decoder => (encoder, decoder)

def g722Codec (crate : G722Crate) : Codec (crate.Encoder × crate.Decoder) where
  decode state payload :=
    let (samples, decoder) := crate.decode state.2 payload
    (samples, state.1, decoder)
  encode state samples :=
    let (payload, encoder) := crate.encode state.1 (if samples.length % 2 = 0 then samples else samples ++ [0])
    (payload, encoder, state.2)
  -- 20 ms of the clock of 8 kHz that G.722 has by convention.
  rtpTimestampIncrement _ := 160

structure CodecInitError where
  kind : CodecKind
  reason : Text

def CodecInitError.display (error : CodecInitError) : Text :=
  "failed to initialize ".toList ++ error.kind.name ++ " codec: ".toList ++ error.reason

namespace CodecKind

/-- What an instance of the codec keeps from one frame to the next. -/
abbrev State (crates : CodecCrates) : CodecKind → Type
  | l16 | pcmu | pcma => Unit
  | opus => crates.opus.Encoder × crates.opus.Decoder
  | g722 => crates.g722.Encoder × crates.g722.Decoder

def codec (crates : CodecCrates) : (kind : CodecKind) → Codec (kind.State crates)
  | l16 => l16Codec
  | opus => opusCodec crates.opus
  | g722 => g722Codec crates.g722
  | pcmu => pcmuCodec
  | pcma => pcmaCodec

/-- A new instance, at the call `n`. -/
def create (crates : CodecCrates) (n : Nat) : (kind : CodecKind) → Except CodecInitError (kind.State crates)
  | l16 | pcmu | pcma => .ok ()
  | opus => (crates.opus.newCodec n).mapError fun reason => ⟨opus, reason⟩
  | g722 => .ok (crates.g722.newEncoder, crates.g722.newDecoder)

end CodecKind

/-- `MediaSession::new`, whose two instances come from one call after the
other. -/
def MediaSession.new (rtpRs : RtpRs) (maxInstant : Nat) (crates : CodecCrates) (n : Nat) (offer : SdpOffer)
    (mediaReceiveTimeout : Nat) : Except CodecInitError (MediaSession (offer.codecKind.State crates)) :=
  (offer.codecKind.create crates n).bind fun recvCodec =>
    (offer.codecKind.create crates (n + 1)).map fun sendCodec =>
      { crate := rtpRs, codec := offer.codecKind.codec crates, recvCodec := recvCodec, sendCodec := sendCodec
        payloadType := offer.payloadType, mediaReceiveTimeout := mediaReceiveTimeout, maxInstant := maxInstant }

/-- A `Box<dyn Codec>`: the state of any codec, which says whose it is. -/
abbrev AnyCodec (crates : CodecCrates) : Type := (kind : CodecKind) × kind.State crates

def boxedCodec (crates : CodecCrates) : Codec (AnyCodec crates) where
  decode state payload :=
    let (samples, next) := (state.1.codec crates).decode state.2 payload
    (samples, ⟨state.1, next⟩)
  encode state samples :=
    let (payload, next) := (state.1.codec crates).encode state.2 samples
    (payload, ⟨state.1, next⟩)
  rtpTimestampIncrement state := (state.1.codec crates).rtpTimestampIncrement state.2

/-- The session with its codecs boxed. -/
def MediaSession.boxed {crates : CodecCrates} {kind : CodecKind} (session : MediaSession (kind.State crates)) :
    MediaSession (AnyCodec crates) where
  crate := session.crate
  codec := boxedCodec crates
  recvCodec := ⟨kind, session.recvCodec⟩
  sendCodec := ⟨kind, session.sendCodec⟩
  payloadType := session.payloadType
  mediaReceiveTimeout := session.mediaReceiveTimeout
  maxInstant := session.maxInstant

theorem MediaSession.new_eq_ok {rtpRs : RtpRs} {maxInstant : Nat} {crates : CodecCrates} {n : Nat} {offer : SdpOffer}
    {mediaReceiveTimeout : Nat} {session : MediaSession (offer.codecKind.State crates)}
    (created : MediaSession.new rtpRs maxInstant crates n offer mediaReceiveTimeout = .ok session) :
    session.crate = rtpRs ∧ session.codec = offer.codecKind.codec crates ∧
      session.payloadType = offer.payloadType := by
  unfold MediaSession.new at created
  cases receiving : offer.codecKind.create crates n with
  | error error =>
    rw [receiving] at created
    cases created
  | ok recvCodec =>
    rw [receiving] at created
    cases sending : offer.codecKind.create crates (n + 1) with
    | error error =>
      rw [sending] at created
      cases created
    | ok sendCodec =>
      rw [sending] at created
      cases created
      exact ⟨rfl, rfl, rfl⟩

namespace CodecKind

/-- The ticks of the announced clock in one announced interval. -/
def ticksPerInterval (kind : CodecKind) : Nat := kind.clockRate.toNat * expectedSendInterval / 1000

theorem ticksPerInterval_exact (kind : CodecKind) : 1000 ∣ kind.clockRate.toNat * expectedSendInterval := by
  cases kind <;> decide

/-- The timestamps advance by the announced interval on the announced clock,
whichever the codec. -/
theorem increment_eq (crates : CodecCrates) (kind : CodecKind) (state : kind.State crates) :
    (kind.codec crates).rtpTimestampIncrement state = UInt32.ofNat kind.ticksPerInterval := by
  cases kind with
  | l16 =>
    change (320 : UInt32) = UInt32.ofNat (ticksPerInterval .l16)
    decide
  | opus =>
    change (960 : UInt32) = UInt32.ofNat (ticksPerInterval .opus)
    decide
  | g722 =>
    change (160 : UInt32) = UInt32.ofNat (ticksPerInterval .g722)
    decide
  | pcmu =>
    change (160 : UInt32) = UInt32.ofNat (ticksPerInterval .pcmu)
    decide
  | pcma =>
    change (160 : UInt32) = UInt32.ofNat (ticksPerInterval .pcma)
    decide

end CodecKind

end RsipstackServer
