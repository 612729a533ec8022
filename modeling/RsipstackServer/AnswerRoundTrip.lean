import RsipstackServer.AnswerLines
import RsipstackServer.CodecNegotiation

namespace RsipstackServer
open Foundation

theorem splitOn_fields {sep : Char} {text : Text} {fields : List Text} (same : text = [sep].intercalate fields)
    (some : fields ≠ []) (clean : ∀ field ∈ fields, sep ∉ field) : text.splitOn sep = fields := by
  rw [same, List.splitOn_intercalate sep clean some]

theorem readOctet_decimal (n : UInt8) : readOctet (decimal n.toNat) = some n := by
  have fits : n.toNat ≤ 255 := Nat.le_of_lt_succ n.toNat_lt
  simp only [readOctet, parseDigits_decimal fits, Option.bind_eq_bind, Option.bind_some, if_true, UInt8.ofNat_toNat]

theorem readIp4_v4Text (a b c d : UInt8) : readIp4 (IpAddr.v4Text a b c d) = some (.v4 a b c d) := by
  have fields : (IpAddr.v4Text a b c d).splitOn '.' =
      [decimal a.toNat, decimal b.toNat, decimal c.toNat, decimal d.toNat] :=
    splitOn_fields (by simp [IpAddr.v4Text]) (by simp) (by simp [not_mem_decimal])
  simp only [readIp4, fields, readOctet_decimal, Option.bind_eq_bind, Option.bind_some, Option.pure_def]

theorem display_clean (address : IpAddr) : ' ' ∉ address.display :=
  fun member => absurd (address.plain_display ' ' member) (by decide)

theorem v4Text_clean (a b c d : UInt8) : ' ' ∉ IpAddr.v4Text a b c d := display_clean (.v4 a b c d)

theorem isNumber_decimal {bound n : Nat} (fits : n ≤ bound) : isNumber bound (decimal n) = true := by
  rw [isNumber, parseDigits_decimal fits]
  rfl

theorem readOrigin_answer (sessionId : UInt64) (a b c d : UInt8) :
    readOrigin ("- ".toList ++ decimal sessionId.toNat ++ " 1 IN IP4 ".toList ++ IpAddr.v4Text a b c d) =
      some () := by
  have fields : ("- ".toList ++ decimal sessionId.toNat ++ " 1 IN IP4 ".toList ++ IpAddr.v4Text a b c d).splitOn ' ' =
      ["-".toList, decimal sessionId.toNat, "1".toList, "IN".toList, "IP4".toList, IpAddr.v4Text a b c d] :=
    splitOn_fields (by simp) (by simp) (by simp [not_mem_decimal, v4Text_clean])
  have session : isNumber 18446744073709551615 (decimal sessionId.toNat) = true :=
    isNumber_decimal (Nat.le_of_lt_succ sessionId.toNat_lt)
  have version : isNumber 18446744073709551615 "1".toList = true := by decide +kernel
  simp only [readOrigin, fields, readIp4_v4Text, session, version, Option.bind_eq_bind, Option.bind_some]
  rfl

theorem readConnection_answer (a b c d : UInt8) :
    readConnection ("IN IP4 ".toList ++ IpAddr.v4Text a b c d) = some ⟨.v4 a b c d⟩ := by
  have fields : ("IN IP4 ".toList ++ IpAddr.v4Text a b c d).splitOn ' ' =
      ["IN".toList, "IP4".toList, IpAddr.v4Text a b c d] :=
    splitOn_fields (by simp) (by simp) (by simp [v4Text_clean])
  simp only [readConnection, fields, readIp4_v4Text, and_self, if_true, Option.map_some]

theorem readMediaLine_answer (rtpPort : UInt16) (payloadType : UInt8) :
    readMediaLine ("audio ".toList ++ decimal rtpPort.toNat ++ " RTP/AVP ".toList ++ decimal payloadType.toNat) =
      some ⟨.audio, rtpPort, "RTP/AVP".toList, decimal payloadType.toNat⟩ := by
  have fields :
    ("audio ".toList ++ decimal rtpPort.toNat ++ " RTP/AVP ".toList ++ decimal payloadType.toNat).splitOn ' ' =
      ["audio".toList, decimal rtpPort.toNat, "RTP/AVP".toList, decimal payloadType.toNat] :=
    splitOn_fields (by simp) (by simp) (by simp [not_mem_decimal])
  have port : parseDigits 65535 (decimal rtpPort.toNat) = some rtpPort.toNat :=
    parseDigits_decimal (Nat.le_of_lt_succ rtpPort.toNat_lt)
  have format : (decimal payloadType.toNat).isEmpty = false := List.isEmpty_eq_false_iff.mpr (decimal_ne_nil _)
  simp only [readMediaLine, fields, port, format, Option.bind_eq_bind, Option.bind_some, List.any_cons, List.any_nil,
    UInt16.ofNat_toNat, List.intercalate_singleton]
  rfl

theorem isTokenChar_digit {c : Char} (digit : c.isDigit = true) : isTokenChar c = true := by
  simp only [Char.isDigit, Bool.and_eq_true, decide_eq_true_eq, ge_iff_le] at digit
  simp only [isTokenChar, Bool.or_eq_true, Bool.and_eq_true, decide_eq_true_eq]
  exact Or.inl (Or.inl (Or.inr digit))

theorem standard_answer (rtpPort : UInt16) (payloadType : UInt8) :
    Media.standard ⟨.audio, rtpPort, "RTP/AVP".toList, decimal payloadType.toNat⟩ = true := by
  have proto : decide ("RTP/AVP".toList ∈ ["udp".toList, "RTP/AVP".toList, "RTP/SAVP".toList]) = true := by
    decide +kernel
  have format : (decimal payloadType.toNat).all (fun c => c == ' ' || isTokenChar c) = true := by
    refine List.all_eq_true.mpr fun c member => ?_
    rw [isTokenChar_digit (isDigit_of_mem_decimal member), Bool.or_true]
  rw [Media.standard, Bool.and_eq_true, Bool.and_eq_true]
  exact ⟨⟨rfl, proto⟩, format⟩

/-- The rtpmap line of the answer. -/
def answeredRtpmap (codec : OfferedCodec) : Rtpmap :=
  ⟨codec.payloadType.toUInt32, codec.kind.name, codec.kind.clockRate, codec.kind.encodingParams⟩

theorem readRtpmap_answer (codec : OfferedCodec) :
    readRtpmap (decimal codec.payloadType.toNat ++ ' ' :: codec.kind.encoding) = some (answeredRtpmap codec) := by
  have clean : ' ' ∉ codec.kind.encoding := by cases codec.kind <;> decide
  have fields : (decimal codec.payloadType.toNat ++ ' ' :: codec.kind.encoding).splitOn ' ' =
      [decimal codec.payloadType.toNat, codec.kind.encoding] :=
    splitOn_fields (by simp) (by simp) (by simp [not_mem_decimal, clean])
  have payloadType : parseDigits 4294967295 (decimal codec.payloadType.toNat) = some codec.payloadType.toNat :=
    parseDigits_decimal (by have := codec.payloadType.toNat_lt; omega)
  have word : UInt32.ofNat codec.payloadType.toNat = codec.payloadType.toUInt32 := by simp
  simp only [readRtpmap, fields, payloadType, Option.bind_eq_bind, Option.bind_some, word, answeredRtpmap]
  generalize codec.payloadType.toUInt32 = number
  cases codec.kind <;> rfl

def codecAttributes (codec : OfferedCodec) : List Attribute :=
  .rtpmap (answeredRtpmap codec) ::
    match codec.kind with
    | .opus => [.other ("fmtp:".toList ++ decimal codec.payloadType.toNat ++ " minptime=10;useinbandfec=1".toList)]
    | _ => []

/-- What the answer says, as a description. -/
def answeredDescription (address : IpAddr) (rtpPort : UInt16) (codec : OfferedCodec) : SessionDescription :=
  { connection := some ⟨address⟩
    mediaDescriptions := [{
      media := ⟨.audio, rtpPort, "RTP/AVP".toList, decimal codec.payloadType.toNat⟩
      connections := []
      attributes := codecAttributes codec ++
        [.other ("ptime:".toList ++ decimal expectedSendInterval), .other "sendrecv".toList] }] }

theorem readMedia_attribute {value : Text} {later : List Text} {first : Attribute} {attributes : List Attribute}
    {descriptions : List MediaDescription} (read : readAttribute value = some first)
    (rest : readMedia later = some ([], attributes, descriptions)) :
    readMedia (('a' :: '=' :: value) :: later) = some ([], first :: attributes, descriptions) := by
  simp only [readMedia, rest, read, Option.bind_eq_bind, Option.bind_some, List.isEmpty_nil, if_true, Option.pure_def]

theorem readAttribute_rtpmap (codec : OfferedCodec) :
    readAttribute ("rtpmap:".toList ++ (decimal codec.payloadType.toNat ++ ' ' :: codec.kind.encoding)) =
      some (.rtpmap (answeredRtpmap codec)) := by
  have standard : (answeredRtpmap codec).standard = true := by
    cases codec with
    | mk payloadType kind => cases kind <;> exact rfl
  have read := congrArg (Option.filter Rtpmap.standard) (readRtpmap_answer codec)
  rw [Option.filter_some_pos standard] at read
  rw [readAttribute, if_pos (List.isPrefixOf_iff_prefix.mpr (List.prefix_append ..))]
  exact congrArg (Option.map Attribute.rtpmap) read

theorem readAttribute_fmtp (payloadType : UInt8) :
    readAttribute ("fmtp:".toList ++ decimal payloadType.toNat ++ " minptime=10;useinbandfec=1".toList) =
      some (.other ("fmtp:".toList ++ decimal payloadType.toNat ++ " minptime=10;useinbandfec=1".toList)) := by
  have fields : (decimal payloadType.toNat ++ " minptime=10;useinbandfec=1".toList).splitOn ' ' =
      [decimal payloadType.toNat, "minptime=10;useinbandfec=1".toList] :=
    splitOn_fields (by simp) (by simp) (by simp [not_mem_decimal])
  have number : isNumber 255 (decimal payloadType.toNat) = true :=
    isNumber_decimal (Nat.le_of_lt_succ payloadType.toNat_lt)
  have params : isPrintable "minptime=10;useinbandfec=1".toList = true := by decide +kernel
  have own : isFmtp (decimal payloadType.toNat ++ " minptime=10;useinbandfec=1".toList) = true := by
    simp only [isFmtp, fields, number, List.intercalate_singleton, params, Bool.and_self]
  rw [readAttribute, if_neg, if_pos]
  · exact if_pos own
  · rfl
  · intro prefixed
    cases prefixed

theorem readMedia_codecLines {codec : OfferedCodec} {later : List Text} {attributes : List Attribute}
    {descriptions : List MediaDescription} (rest : readMedia later = some ([], attributes, descriptions)) :
    readMedia (codecLines codec ++ later) = some ([], codecAttributes codec ++ attributes, descriptions) := by
  have tail : readMedia ((codecLines codec).tail ++ later) =
    some ([], (codecAttributes codec).tail ++ attributes, descriptions) := by
    cases codec with
    | mk payloadType kind =>
      cases kind with
      | opus => exact readMedia_attribute (readAttribute_fmtp payloadType) rest
      | l16 | g722 | pcmu | pcma => exact rest
  exact readMedia_attribute (readAttribute_rtpmap codec) tail

/-- The answer is a well-formed description, and says what it should. -/
theorem readSdp_answer (a b c d : UInt8) (rtpPort : UInt16) (sessionId : UInt64) (codec : OfferedCodec) :
    readSdp (generateSdpAnswer (.v4 a b c d) rtpPort sessionId codec) =
      some (answeredDescription (.v4 a b c d) rtpPort codec) := by
  have origin := readOrigin_answer sessionId a b c d
  have connection := readConnection_answer a b c d
  have timing : readTiming "0 0".toList = some () := by decide +kernel
  have media := congrArg (Option.filter Media.standard) (readMediaLine_answer rtpPort codec.payloadType)
  rw [Option.filter_some_pos (standard_answer rtpPort codec.payloadType)] at media
  have name : isPrintable "rsipstack-server".toList = true := by decide +kernel
  have last : readMedia ['a' :: '=' :: "sendrecv".toList] = some ([], [.other "sendrecv".toList], []) :=
    readMedia_attribute (by decide +kernel) rfl
  have ptime : readAttribute ("ptime:".toList ++ decimal expectedSendInterval) =
      some (.other ("ptime:".toList ++ decimal expectedSendInterval)) := by decide +kernel
  have attributes : readMedia (codecLines codec ++ _) = _ := readMedia_codecLines (readMedia_attribute ptime last)
  have body : readMedia (('m' :: '=' :: ("audio ".toList ++ decimal rtpPort.toNat ++ " RTP/AVP ".toList ++
        decimal codec.payloadType.toNat)) :: (codecLines codec ++
          ['a' :: '=' :: ("ptime:".toList ++ decimal expectedSendInterval), 'a' :: '=' :: "sendrecv".toList])) =
      some ([], [], (answeredDescription (.v4 a b c d) rtpPort codec).mediaDescriptions) := by
    simp only [readMedia, attributes, media, Option.bind_eq_bind, Option.bind_some, Option.pure_def,
      answeredDescription]
  have session : ∀ later,
    readMedia later = some ([], [], (answeredDescription (.v4 a b c d) rtpPort codec).mediaDescriptions) →
      readSession (('c' :: '=' :: ("IN IP4 ".toList ++ IpAddr.v4Text a b c d)) ::
        ('t' :: '=' :: "0 0".toList) :: later) =
        some (answeredDescription (.v4 a b c d) rtpPort codec) := by
    intro later read
    simp only [readSession, connection, timing, read, Option.bind_eq_bind, Option.bind_some, Option.pure_def,
      List.isEmpty_nil,
      if_true]
    rfl
  have display : (IpAddr.v4 a b c d).display = IpAddr.v4Text a b c d := rfl
  unfold readSdp
  rw [sdpLines_generateSdpAnswer]
  unfold answerLines
  simp only [display, List.cons_append, List.nil_append, Option.bind_eq_bind, Option.bind_some, origin, name,
    and_self,
    if_true, session _ body]

/-- Where a codec that some offer can select may stand. -/
theorem SupportedAs.answered {features : Features} {attributes : List Attribute} {pt : UInt8} {kind : CodecKind}
    (supported : SupportedAs features attributes pt kind) (more : List Attribute) :
    SupportedAs features (codecAttributes ⟨pt, kind⟩ ++ more) pt kind := by
  cases supported with
  | pcmu => exact .pcmu
  | pcma => exact .pcma
  | g722 enabled => exact .g722 enabled
  | dynamic others first named rate =>
    have own : FirstRtpmap (codecAttributes ⟨pt, kind⟩ ++ more) pt (answeredRtpmap ⟨pt, kind⟩) :=
      ⟨[], (codecAttributes ⟨pt, kind⟩).tail ++ more, rfl, rfl, by simp⟩
    refine .dynamic others own ⟨named.1, eqIgnoreAsciiCase_iff.mpr rfl⟩ ?_
    rintro rfl
    rfl

theorem isWhitespace_digit {c : Char} (digit : c.isDigit = true) : isWhitespace c = false := by
  simp only [Char.isDigit, Bool.and_eq_true, decide_eq_true_eq, ge_iff_le, UInt32.le_iff_toNat_le] at digit
  have lower : '0'.val.toNat = 48 := rfl
  have upper : '9'.val.toNat = 57 := rfl
  rw [Bool.eq_false_iff]
  intro blank
  simp only [isWhitespace, Bool.or_eq_true, Bool.and_eq_true, beq_iff_eq, decide_eq_true_eq, ← UInt32.toNat_inj,
    UInt32.le_iff_toNat_le, UInt32.reduceToNat] at blank
  omega

theorem splitWhitespace_decimal (n : Nat) : splitWhitespace (decimal n) = [decimal n] := by
  have some : (decimal n).isEmpty = false := List.isEmpty_eq_false_iff.mpr (decimal_ne_nil n)
  rw [splitWhitespace, List.splitOnP_eq_singleton fun c member => isWhitespace_digit (isDigit_of_mem_decimal member),
    List.filter_singleton, some]
  rfl

theorem parsePayloadType_decimal (payloadType : UInt8) :
    parsePayloadType (decimal payloadType.toNat) = some payloadType := by
  rw [parsePayloadType, parseUnsigned_decimal (Nat.le_of_lt_succ payloadType.toNat_lt), Option.map_some,
    UInt8.ofNat_toNat]

/-- An answer to an accepted offer, read as an offer itself, names the same
address, port, payload type and codec. -/
theorem answer_roundTrip {features : Features} {sdpRs : SdpRs} (reads : ReadsWellFormed sdpRs) {sdpBody : Text}
    {offer : SdpOffer} (accepted : parseSdpOffer features sdpRs sdpBody = .ok offer) (a b c d : UInt8)
    (rtpPort : UInt16) (sessionId : UInt64) :
    parseSdpOffer features sdpRs
        (generateSdpAnswer (.v4 a b c d) rtpPort sessionId ⟨offer.payloadType, offer.codecKind⟩) =
      .ok ⟨.v4 a b c d, rtpPort, offer.payloadType, offer.codecKind⟩ := by
  obtain ⟨sdp, _, built⟩ := parseSdpOffer_eq_ok.mp accepted
  obtain ⟨audioMedia, _, _, _, _, _, ⟨before, after, _, supported, _⟩, _⟩ := offerOf_eq_ok.mp built
  let answer := answeredDescription (.v4 a b c d) rtpPort ⟨offer.payloadType, offer.codecKind⟩
  refine parseSdpOffer_eq_ok.mpr ⟨answer, reads _ _ (readSdp_answer a b c d rtpPort sessionId _), ?_⟩
  have again := supported.answered [.other ("ptime:".toList ++ decimal expectedSendInterval),
    .other "sendrecv".toList]
  have formats : ((splitWhitespace (decimal offer.payloadType.toNat)).filterMap parsePayloadType) =
    [offer.payloadType] := by
    rw [splitWhitespace_decimal, List.filterMap_cons_some (parsePayloadType_decimal offer.payloadType),
      List.filterMap_nil]
  refine offerOf_eq_ok.mpr ⟨_, ⟨.v4 a b c d⟩, rfl, rfl, rfl, rfl, ⟨[], [], formats, again, by simp⟩, ?_⟩
  intro pt member kind found
  have same : pt = offer.payloadType := by
    rw [MediaDescription.payloadTypes] at member
    rw [formats] at member
    exact List.mem_singleton.mp member
  subst same
  rw [again.unique found]

/-- The answer to an offer of Opus under the payload type 96. -/
theorem answer_roundTrip_opus : parseSdpOffer ⟨true, false⟩ strictSdpRs
      (generateSdpAnswer (.v4 192 168 0 10) 10000 77 ⟨96, .opus⟩) = .ok ⟨.v4 192 168 0 10, 10000, 96, .opus⟩ := by
  have accepted : parseSdpOffer ⟨true, false⟩ strictSdpRs
      (offerText "96 0".toList "a=rtpmap:96 opus/48000/2\r\na=rtpmap:0 PCMU/8000\r\n".toList) =
        .ok ⟨.v4 10 0 0 50, 4000, 96, .opus⟩ := by decide +kernel
  exact answer_roundTrip strictSdpRs_reads accepted 192 168 0 10 10000 77

end RsipstackServer
