import RsipstackServer.AnswerRoundTrip

namespace RsipstackServer
open Foundation

/-- The addresses in the state of the server. -/
structure ServerState where
  localIpAddr : IpAddr
  externalIp : Option IpAddr

def ServerState.mediaIp (state : ServerState) : IpAddr := state.externalIp.getD state.localIpAddr

/-- What `handle_call` answers to an offer that it has accepted. -/
def sdpAnswer (state : ServerState) (rtpPort : UInt16) (sessionId : UInt64) (offer : SdpOffer) : Text :=
  generateSdpAnswer state.mediaIp rtpPort sessionId ⟨offer.payloadType, offer.codecKind⟩

/-- The address type that names the family of an address. -/
def IpAddr.addressType : IpAddr → Text
  | v4 .. => "IP4".toList
  | v6 .. => "IP6".toList

/-- The values of the lines of one type. -/
def valuesOf (type : Char) (lines : List Text) : List Text :=
  lines.filterMap fun
    | kind :: '=' :: value => if kind = type then some value else none
    | _ => none

/-- The last two fields of a line, which are address type and address. -/
def writtenAddress (value : Text) : Option (Text × Text) :=
  match (value.splitOn ' ').reverse with
  | address :: addressType :: _ => some (addressType, address)
  | _ => none

/-- The position of the first audio stream. -/
def firstAudio (offered : List MediaDescription) : Nat :=
  offered.findIdx fun description => description.media.media = .audio

/-- There is an answer to each stream that is offered, in order. The first audio
stream is accepted, with the port it is received on, and all others are
refused. -/
structure StreamsFit (offered : List MediaDescription) (rtpPort : UInt16) (answered : List Media) : Prop where
  length : answered.length = offered.length
  alike : ∀ (i : Nat) (stream : MediaDescription) (media : Media), offered[i]? = some stream →
    answered[i]? = some media →
    media.media = stream.media.media ∧ media.proto = stream.media.proto
  accepted : ∀ media : Media, answered[firstAudio offered]? = some media → media.port = rtpPort ∧ media.port ≠ 0
  refused : ∀ (i : Nat) (media : Media), answered[i]? = some media → i ≠ firstAudio offered → media.port = 0

/-- The lines of an answer fit the streams of an offer, and every address stands
under its own type. -/
structure AnswerFits (offered : List MediaDescription) (rtpPort : UInt16) (lines : List Text) : Prop where
  streams : ∃ answered, (valuesOf 'm' lines).mapM readMediaLine = some answered ∧ StreamsFit offered rtpPort answered
  addresses : ∀ value ∈ valuesOf 'o' lines ++ valuesOf 'c' lines,
    ∃ address : IpAddr, writtenAddress value = some (address.addressType, address.display)

theorem valuesOf_answerLines (address : IpAddr) (rtpPort : UInt16) (sessionId : UInt64) (codec : OfferedCodec) :
    valuesOf 'm' (answerLines address rtpPort sessionId codec) =
        ["audio ".toList ++ decimal rtpPort.toNat ++ " RTP/AVP ".toList ++ decimal codec.payloadType.toNat] ∧
      valuesOf 'o' (answerLines address rtpPort sessionId codec) =
        ["- ".toList ++ decimal sessionId.toNat ++ " 1 IN IP4 ".toList ++ address.display] ∧
      valuesOf 'c' (answerLines address rtpPort sessionId codec) = ["IN IP4 ".toList ++ address.display] := by
  cases codec with
  | mk payloadType kind => cases kind <;> exact ⟨rfl, rfl, rfl⟩

theorem writtenAddress_origin (sessionId : Nat) (address : IpAddr) :
    writtenAddress ("- ".toList ++ decimal sessionId ++ " 1 IN IP4 ".toList ++ address.display) =
      some ("IP4".toList, address.display) := by
  have fields : ("- ".toList ++ decimal sessionId ++ " 1 IN IP4 ".toList ++ address.display).splitOn ' ' =
      ["-".toList, decimal sessionId, "1".toList, "IN".toList, "IP4".toList, address.display] :=
    splitOn_fields (by simp) (by simp) (by simp [not_mem_decimal, display_clean])
  rw [writtenAddress, fields]
  rfl

theorem writtenAddress_connection (address : IpAddr) :
    writtenAddress ("IN IP4 ".toList ++ address.display) = some ("IP4".toList, address.display) := by
  have fields : ("IN IP4 ".toList ++ address.display).splitOn ' ' = ["IN".toList, "IP4".toList, address.display] :=
    splitOn_fields (by simp) (by simp) (by simp [display_clean])
  rw [writtenAddress, fields]
  rfl

/-- An address under the type of IPv4 has to be one. -/
theorem addresses_iff (address : IpAddr) (rtpPort : UInt16) (sessionId : UInt64) (codec : OfferedCodec) :
    (∀ value ∈ valuesOf 'o' (answerLines address rtpPort sessionId codec) ++
        valuesOf 'c' (answerLines address rtpPort sessionId codec),
      ∃ other : IpAddr, writtenAddress value = some (other.addressType, other.display)) ↔
      ∃ a b c d, address = .v4 a b c d := by
  obtain ⟨_, origin, connection⟩ := valuesOf_answerLines address rtpPort sessionId codec
  simp only [origin, connection, List.cons_append, List.nil_append, List.forall_mem_cons, List.not_mem_nil,
    false_implies,
    implies_true, and_true, writtenAddress_origin, writtenAddress_connection, and_self]
  constructor
  · rintro ⟨other, same⟩
    obtain ⟨type, display⟩ := Prod.mk.inj (Option.some.inj same)
    cases other with
    | v6 =>
      have types : "IP4".toList ≠ "IP6".toList := by decide
      exact absurd type types
    | v4 a b c d =>
      cases address with
      | v4 a b c d => exact ⟨a, b, c, d, rfl⟩
      | v6 => exact absurd display IpAddr.display_v6_ne_v4
  · rintro ⟨a, b, c, d, rfl⟩
    exact ⟨.v4 a b c d, rfl⟩

theorem media_of_find? {offered : List MediaDescription} {audio : MediaDescription}
    (first : offered.find? (fun description => description.media.media = .audio) = some audio) :
    audio.media.media = .audio :=
  of_decide_eq_true (List.find?_some
    (p := fun description : MediaDescription => description.media.media = .audio) first)

theorem firstAudio_singleton {audio : MediaDescription} (kind : audio.media.media = .audio) :
    firstAudio [audio] = 0 := by
  rw [firstAudio, List.findIdx_singleton, if_pos (decide_eq_true kind)]

/-- The one stream of the answer fits an offer with nothing but this stream. -/
theorem streamsFit_single_iff {offered : List MediaDescription} {audio : MediaDescription} {rtpPort : UInt16}
    {formats : Text} (first : offered.find? (fun description => description.media.media = .audio) = some audio) :
    StreamsFit offered rtpPort [⟨.audio, rtpPort, "RTP/AVP".toList, formats⟩] ↔
      offered = [audio] ∧ audio.media.proto = "RTP/AVP".toList ∧ rtpPort ≠ 0 := by
  constructor
  · intro fit
    obtain ⟨only, rfl⟩ := List.length_eq_one_iff.mp fit.length.symm
    have same := List.mem_singleton.mp (List.mem_of_find?_eq_some first)
    subst same
    have here := firstAudio_singleton (media_of_find? first)
    obtain ⟨_, proto⟩ := fit.alike 0 audio _ rfl rfl
    exact ⟨rfl, proto.symm, (fit.accepted _ (by rw [here]; rfl)).2⟩
  · rintro ⟨rfl, proto, port⟩
    have kind := media_of_find? first
    have here := firstAudio_singleton kind
    refine ⟨rfl, fun i stream media offered answered => ?_, fun media answered => ?_,
      fun i media answered other => ?_⟩
    · rw [List.getElem?_singleton, Option.ite_none_right_eq_some] at offered answered
      obtain ⟨_, rfl⟩ := offered.imp_right Option.some.inj
      obtain ⟨_, rfl⟩ := answered.imp_right Option.some.inj
      exact ⟨kind.symm, proto.symm⟩
    · rw [here] at answered
      cases answered
      exact ⟨rfl, port⟩
    · rw [here] at other
      rw [List.getElem?_singleton, if_neg other] at answered
      cases answered

theorem answerFits_of_offerOf_iff {features : Features} {sdp : SessionDescription} {offer : SdpOffer}
    (accepted : offerOf features sdp = .ok offer) (state : ServerState) (rtpPort : UInt16) (sessionId : UInt64) :
    (∃ lines, sdpLines (sdpAnswer state rtpPort sessionId offer) = some lines ∧
        AnswerFits sdp.mediaDescriptions rtpPort lines) ↔
      (∃ audio, sdp.mediaDescriptions = [audio] ∧ audio.media.proto = "RTP/AVP".toList) ∧
        (∃ a b c d, state.mediaIp = .v4 a b c d) ∧ rtpPort ≠ 0 := by
  obtain ⟨audio, _, first, _⟩ := offerOf_eq_ok.mp accepted
  obtain ⟨media, _, _⟩ := valuesOf_answerLines state.mediaIp rtpPort sessionId ⟨offer.payloadType, offer.codecKind⟩
  have read : (valuesOf 'm' (answerLines state.mediaIp rtpPort sessionId ⟨offer.payloadType, offer.codecKind⟩)).mapM
      readMediaLine = some [⟨.audio, rtpPort, "RTP/AVP".toList, decimal offer.payloadType.toNat⟩] := by
    rw [media, List.mapM_cons, readMediaLine_answer]
    rfl
  rw [sdpAnswer, sdpLines_generateSdpAnswer,
    ← addresses_iff state.mediaIp rtpPort sessionId ⟨offer.payloadType, offer.codecKind⟩]
  constructor
  · rintro ⟨lines, written, ⟨answered, same, fit⟩, addresses⟩
    cases Option.some.inj written
    cases read.symm.trans same
    obtain ⟨single, proto, port⟩ := (streamsFit_single_iff first).mp fit
    exact ⟨⟨audio, single, proto⟩, addresses, port⟩
  · rintro ⟨⟨only, single, proto⟩, addresses, port⟩
    refine ⟨_, rfl, ⟨_, read, (streamsFit_single_iff first).mpr ?_⟩, addresses⟩
    have member := List.mem_of_find?_eq_some first
    rw [single, List.mem_singleton] at member
    subst member
    exact ⟨single, proto, port⟩

/-- The answer fits an accepted offer exactly if the offer has one stream, of
the transport that the answer names, and the server an address of IPv4. -/
theorem answerFits_iff {features : Features} {sdpRs : SdpRs} {sdpBody : Text} {sdp : SessionDescription}
    {offer : SdpOffer} (parsed : sdpRs sdpBody = .ok sdp)
    (accepted : parseSdpOffer features sdpRs sdpBody = .ok offer) (state : ServerState) (rtpPort : UInt16)
    (sessionId : UInt64) :
    (∃ lines, sdpLines (sdpAnswer state rtpPort sessionId offer) = some lines ∧
        AnswerFits sdp.mediaDescriptions rtpPort lines) ↔
      (∃ audio, sdp.mediaDescriptions = [audio] ∧ audio.media.proto = "RTP/AVP".toList) ∧
        (∃ a b c d, state.mediaIp = .v4 a b c d) ∧ rtpPort ≠ 0 := by
  rw [parseSdpOffer_of_parsed features parsed] at accepted
  exact answerFits_of_offerOf_iff accepted state rtpPort sessionId

/-- The offer of PCMU and nothing else. -/
theorem strictSdpRs_pcmu :
    strictSdpRs (offerText "0".toList []) = .ok (offeredDescription "0".toList []) := by decide +kernel

theorem offerOf_pcmu :
    offerOf ⟨true, false⟩ (offeredDescription "0".toList []) = .ok ⟨.v4 10 0 0 50, 4000, 0, .pcmu⟩ := by
  decide +kernel

theorem answerFits_pcmu : ∃ lines,
    sdpLines (sdpAnswer ⟨.v4 192 168 0 10, none⟩ 10000 77 ⟨.v4 10 0 0 50, 4000, 0, .pcmu⟩) = some lines ∧
      AnswerFits [offeredAudio "0".toList []] 10000 lines := by
  have accepted : parseSdpOffer ⟨true, false⟩ strictSdpRs (offerText "0".toList []) =
    .ok ⟨.v4 10 0 0 50, 4000, 0, .pcmu⟩ :=
    (parseSdpOffer_of_parsed _ strictSdpRs_pcmu).trans offerOf_pcmu
  refine (answerFits_iff strictSdpRs_pcmu accepted ⟨.v4 192 168 0 10, none⟩ 10000 77).mpr
    ⟨⟨_, rfl, rfl⟩, ⟨_, _, _, _, rfl⟩, ?_⟩
  decide

/-- Of an offer of audio and video only the audio is answered, and an address of
IPv6 stands under the type of IPv4. -/
theorem answerFits_fails :
    (∃ sdp, strictSdpRs (offerText "0".toList "m=video 5000 RTP/AVP 97\r\n".toList) = .ok sdp ∧
      parseSdpOffer ⟨true, false⟩ strictSdpRs (offerText "0".toList "m=video 5000 RTP/AVP 97\r\n".toList) =
        .ok ⟨.v4 10 0 0 50, 4000, 0, .pcmu⟩ ∧
      ∀ lines, sdpLines (sdpAnswer ⟨.v4 192 168 0 10, none⟩ 10000 77 ⟨.v4 10 0 0 50, 4000, 0, .pcmu⟩) = some lines →
        ¬ AnswerFits sdp.mediaDescriptions 10000 lines) ∧
    ∃ sdp, strictSdpRs (offerText "0".toList []) = .ok sdp ∧
      parseSdpOffer ⟨true, false⟩ strictSdpRs (offerText "0".toList []) = .ok ⟨.v4 10 0 0 50, 4000, 0, .pcmu⟩ ∧
      ∀ lines, sdpLines (sdpAnswer ⟨.v6 [0x2001, 0xdb8, 0, 0, 0, 0, 0, 1] rfl, none⟩ 10000 77
          ⟨.v4 10 0 0 50, 4000, 0, .pcmu⟩) = some lines →
        ¬ AnswerFits sdp.mediaDescriptions 10000 lines := by
  have parsed : strictSdpRs (offerText "0".toList "m=video 5000 RTP/AVP 97\r\n".toList) =
      .ok ⟨some ⟨.v4 10 0 0 50⟩, [offeredAudio "0".toList [],
        ⟨⟨.other "video".toList, 5000, "RTP/AVP".toList, "97".toList⟩, [], []⟩]⟩ := by decide +kernel
  have both : offerOf ⟨true, false⟩ ⟨some ⟨.v4 10 0 0 50⟩, [offeredAudio "0".toList [],
      ⟨⟨.other "video".toList, 5000, "RTP/AVP".toList, "97".toList⟩, [], []⟩]⟩ =
      .ok ⟨.v4 10 0 0 50, 4000, 0, .pcmu⟩ := by decide +kernel
  refine ⟨⟨_, parsed, (parseSdpOffer_of_parsed _ parsed).trans both, fun lines written fits => ?_⟩,
    ⟨_, strictSdpRs_pcmu, (parseSdpOffer_of_parsed _ strictSdpRs_pcmu).trans offerOf_pcmu,
      fun lines written fits => ?_⟩⟩
  · obtain ⟨⟨_, one, _⟩, _⟩ := (answerFits_of_offerOf_iff both _ _ _).mp ⟨lines, written, fits⟩
    cases one
  · obtain ⟨_, ⟨_, _, _, _, v4⟩, _⟩ := (answerFits_of_offerOf_iff offerOf_pcmu _ _ _).mp ⟨lines, written, fits⟩
    cases v4

end RsipstackServer
