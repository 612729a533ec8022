import RsipstackServer.AnswerRoundTrip

namespace RsipstackServer
open Foundation

/-- The rtpmap attribute that a line of a description carries, if any. -/
def rtpmapOfLine : Text → Option Rtpmap
  | 'a' :: '=' :: value => if "rtpmap:".toList.isPrefixOf value then readRtpmap (value.drop 7) else none
  | _ => none

/-- The rtpmap lines of a text. -/
def writtenRtpmaps (text : Text) : Option (List Rtpmap) := (sdpLines text).map (List.filterMap rtpmapOfLine)

/-- The number of channels, which is one where the line names none. -/
def Rtpmap.channels (rtpmap : Rtpmap) : UInt32 := rtpmap.encodingParams.getD 1

def CodecKind.channels (kind : CodecKind) : UInt32 := kind.encodingParams.getD 1

structure SameParameters (offered answered : Rtpmap) : Prop where
  encoding : eqIgnoreAsciiCase offered.encodingName answered.encodingName = true
  rate : offered.clockRate = answered.clockRate
  channels : offered.channels = answered.channels

def DynamicType (pt : UInt8) : Prop := pt ≠ 0 ∧ pt ≠ 8 ∧ pt ≠ 9

/-- The rtpmap line of a dynamic format has another rate or another number of
channels than the codec it names. -/
def Mismatched (attributes : List Attribute) (pt : UInt8) (kind : CodecKind) : Prop :=
  DynamicType pt ∧ ∃ rtpmap, FirstRtpmap attributes pt rtpmap ∧
    ¬ (rtpmap.clockRate = kind.clockRate ∧ rtpmap.channels = kind.channels)

/-- Where the peer describes the selected dynamic payload type, the answer has
one rtpmap line, for this payload type and with the parameters of the peer. -/
def AnsweredAlike (attributes : List Attribute) (offer : SdpOffer) : Prop :=
  ∀ rtpmap, DynamicType offer.payloadType → FirstRtpmap attributes offer.payloadType rtpmap →
    ∀ address rtpPort sessionId, ∃ answered,
      writtenRtpmaps (generateSdpAnswer address rtpPort sessionId ⟨offer.payloadType, offer.codecKind⟩) =
        some [answered] ∧
        answered.payloadType = offer.payloadType.toUInt32 ∧ SameParameters rtpmap answered

/-- Offer and answer agree, and the codec implements what both say. -/
structure AnswerAgrees (attributes : List Attribute) (offer : SdpOffer) : Prop where
  answered : AnsweredAlike attributes offer
  implemented : ¬ Mismatched attributes offer.payloadType offer.codecKind

theorem rtpmapOfLine_codecLines (codec : OfferedCodec) :
    (codecLines codec).filterMap rtpmapOfLine = [answeredRtpmap codec] := by
  have own : rtpmapOfLine
    ('a' :: '=' :: ("rtpmap:".toList ++ (decimal codec.payloadType.toNat ++ ' ' :: codec.kind.encoding))) =
      some (answeredRtpmap codec) := by
    rw [rtpmapOfLine, if_pos (List.isPrefixOf_iff_prefix.mpr (List.prefix_append ..))]
    exact readRtpmap_answer codec
  have others : (codecLines codec).tail.filterMap rtpmapOfLine = [] := by
    cases codec with
    | mk payloadType kind => cases kind <;> rfl
  have whole : (codecLines codec).filterMap rtpmapOfLine = _ := List.filterMap_cons_some own
  rw [whole]
  exact congrArg _ others

/-- The answer has exactly one rtpmap line. -/
theorem writtenRtpmaps_answer (address : IpAddr) (rtpPort : UInt16) (sessionId : UInt64) (codec : OfferedCodec) :
    writtenRtpmaps (generateSdpAnswer address rtpPort sessionId codec) = some [answeredRtpmap codec] := by
  have ptime : rtpmapOfLine ('a' :: '=' :: ("ptime:".toList ++ decimal expectedSendInterval)) = none := by
    decide +kernel
  have sendrecv : rtpmapOfLine ('a' :: '=' :: "sendrecv".toList) = none := by decide +kernel
  rw [writtenRtpmaps, sdpLines_generateSdpAnswer, Option.map_some, answerLines, List.filterMap_append,
    List.filterMap_append,
    rtpmapOfLine_codecLines, List.filterMap_cons_none ptime, List.filterMap_cons_none sendrecv]
  rfl

/-- The answer is like the offer exactly if the codec implements the offer. -/
theorem answeredAlike_iff {features : Features} {attributes : List Attribute} {offer : SdpOffer}
    (supported : SupportedAs features attributes offer.payloadType offer.codecKind) :
    AnsweredAlike attributes offer ↔ ¬ Mismatched attributes offer.payloadType offer.codecKind := by
  constructor
  · rintro alike ⟨dynamic, rtpmap, first, differs⟩
    obtain ⟨answered, written, _, same⟩ := alike rtpmap dynamic first (.v4 0 0 0 0) 0 0
    rw [writtenRtpmaps_answer] at written
    cases written
    exact differs ⟨same.rate, same.channels⟩
  · intro fitting rtpmap dynamic first address rtpPort sessionId
    refine ⟨_, writtenRtpmaps_answer address rtpPort sessionId _, rfl, ?_⟩
    obtain ⟨rate, channels⟩ := not_not.mp fun differs => fitting ⟨dynamic, rtpmap, first, differs⟩
    obtain ⟨named, found, names, _⟩ := (fromName_codecName_dynamic dynamic).mp (fromName_codecName.mpr supported)
    cases found.unique first
    exact ⟨names.2, rate, channels⟩

/-- The answer agrees with an accepted offer exactly if, among the formats that
the offer lists, every mismatched one is outdone by one that is not. -/
theorem answerAgrees_iff {features : Features} {sdpRs : SdpRs} {sdpBody : Text} {sdp : SessionDescription}
    {audioMedia : MediaDescription} {offer : SdpOffer} (parsed : sdpRs sdpBody = .ok sdp)
    (audio : sdp.audioMedia = some audioMedia) (accepted : parseSdpOffer features sdpRs sdpBody = .ok offer) :
    AnswerAgrees audioMedia.attributes offer ↔
      FormatsOutdone features audioMedia (Mismatched audioMedia.attributes) := by
  rw [parseSdpOffer_of_parsed features parsed] at accepted
  have chosen := selected_of_offer audio accepted
  obtain ⟨⟨_, _, _, supported, _⟩, _⟩ := selectPreferred_eq_some.mp chosen
  rw [← selected_not_bad_iff _ chosen]
  exact ⟨AnswerAgrees.implemented, fun fitting => ⟨(answeredAlike_iff supported).mpr fitting, fitting⟩⟩

/-- The answer to an offer of Opus as it must be offered. -/
theorem answerAgrees_opus :
    AnswerAgrees [.rtpmap ⟨96, "opus".toList, 48000, some 2⟩] ⟨.v4 10 0 0 50, 4000, 96, .opus⟩ ↔
    FormatsOutdone ⟨true, false⟩ (offeredAudio "96".toList [.rtpmap ⟨96, "opus".toList, 48000, some 2⟩])
      (Mismatched [.rtpmap ⟨96, "opus".toList, 48000, some 2⟩]) := by
  have parsed : strictSdpRs (offerText "96".toList "a=rtpmap:96 opus/48000/2\r\n".toList) =
      .ok (offeredDescription "96".toList [.rtpmap ⟨96, "opus".toList, 48000, some 2⟩]) := by decide +kernel
  have accepted : parseSdpOffer ⟨true, false⟩ strictSdpRs
    (offerText "96".toList "a=rtpmap:96 opus/48000/2\r\n".toList) =
      .ok ⟨.v4 10 0 0 50, 4000, 96, .opus⟩ := (parseSdpOffer_of_parsed _ parsed).trans (by decide +kernel)
  exact answerAgrees_iff parsed rfl accepted

/-- An offer of PCMU at 16000 is accepted, and answered with PCMU at 8000. -/
theorem not_answerAgrees_pcmu : ∃ sdp audioMedia offer, strictSdpRs
      (offerText "96".toList "a=rtpmap:96 PCMU/16000\r\n".toList) = .ok sdp ∧ sdp.audioMedia = some audioMedia ∧
    parseSdpOffer ⟨true, false⟩ strictSdpRs (offerText "96".toList "a=rtpmap:96 PCMU/16000\r\n".toList) = .ok offer ∧
    ¬ AnswerAgrees audioMedia.attributes offer := by
  have parsed : strictSdpRs (offerText "96".toList "a=rtpmap:96 PCMU/16000\r\n".toList) =
      .ok (offeredDescription "96".toList [.rtpmap ⟨96, "PCMU".toList, 16000, none⟩]) := by decide +kernel
  refine ⟨_, _, ⟨.v4 10 0 0 50, 4000, 96, .pcmu⟩, parsed, rfl,
    (parseSdpOffer_of_parsed _ parsed).trans (by decide +kernel), ?_⟩
  intro agrees
  obtain ⟨answered, written, _, same⟩ :=
    agrees.answered ⟨96, "PCMU".toList, 16000, none⟩ ⟨by decide, by decide, by decide⟩
    ⟨[], [], rfl, rfl, by simp⟩ (.v4 192 168 0 10) 10000 77
  rw [writtenRtpmaps_answer] at written
  cases written
  exact absurd same.rate (by decide)

end RsipstackServer
