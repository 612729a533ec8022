import RsipstackServer.MediaClock
import RsipstackServer.PcmaCompatible

namespace RsipstackServer

/-- The samples of a payload. -/
def PcmKind.decode (kind : PcmKind) (payload : List UInt8) : List Int16 := (kind.codec.decode () payload).1

/-- The payload of samples. -/
def PcmKind.encode (kind : PcmKind) (samples : List Int16) : List UInt8 := (kind.codec.encode () samples).1

/-- The byte that stands for the value of another: the μ-law has a negative
zero, which is written as the positive one. -/
def canonicalUlaw (byte : UInt8) : UInt8 := if byte = 0x7f then 0xff else byte

theorem encodeUlawSample_all : ∀ n < 256,
    encodeUlawSample (decodeUlawSample (UInt8.ofNat n)) = canonicalUlaw (UInt8.ofNat n) ∧
      decodeUlawSample (canonicalUlaw (UInt8.ofNat n)) = decodeUlawSample (UInt8.ofNat n) := by decide +kernel

theorem encodeUlawSample_decodeUlawSample (byte : UInt8) :
    encodeUlawSample (decodeUlawSample byte) = canonicalUlaw byte := by
  have all := (encodeUlawSample_all byte.toNat byte.toNat_lt).1
  rwa [UInt8.ofNat_toNat] at all

theorem decodeUlawSample_canonicalUlaw (byte : UInt8) :
    decodeUlawSample (canonicalUlaw byte) = decodeUlawSample byte := by
  have all := (encodeUlawSample_all byte.toNat byte.toNat_lt).2
  rwa [UInt8.ofNat_toNat] at all

theorem PcmKind.decode_pcmu (payload : List UInt8) :
    PcmKind.pcmu.decode (payload.map canonicalUlaw) = PcmKind.pcmu.decode payload := by
  change (payload.map canonicalUlaw).flatMap _ = payload.flatMap _
  rw [List.flatMap_map]
  simp only [decodeUlawSample_canonicalUlaw]

/-- Audio of the wire comes back from the internal samples: byte by byte from
PCMA and PCMU, which has two zeros, in whole samples from L16. -/
theorem wire_roundTrip :
    (∀ payload, PcmKind.pcma.encode (PcmKind.pcma.decode payload) = payload) ∧
      (∀ payload, PcmKind.pcmu.encode (PcmKind.pcmu.decode payload) = payload.map canonicalUlaw) ∧
      (∀ payload, PcmKind.l16.encode (PcmKind.l16.decode payload) =
        if payload.length % 2 = 1 then payload.dropLast else payload) ∧
      (∀ (kind : PcmKind) payload, kind.decode (kind.encode (kind.decode payload)) = kind.decode payload) ∧
      ∀ samples, PcmKind.l16.decode (PcmKind.l16.encode samples) = samples := by
  have ulaw : ∀ payload, PcmKind.pcmu.encode (PcmKind.pcmu.decode payload) = payload.map canonicalUlaw := by
    intro payload
    have whole := downsampled_upsampled encodeUlawSample decodeUlawSample payload
    simp only [encodeUlawSample_decodeUlawSample] at whole
    exact whole
  refine ⟨pcmaCodec_encode_decode, ulaw, encode_decodeL16, fun kind payload => ?_, decode_encodeL16⟩
  cases kind with
  | pcmu => rw [ulaw, PcmKind.decode_pcmu]
  | pcma => exact congrArg PcmKind.pcma.decode (pcmaCodec_encode_decode payload)
  | l16 => exact decode_encodeL16 (PcmKind.l16.decode payload)

end RsipstackServer
