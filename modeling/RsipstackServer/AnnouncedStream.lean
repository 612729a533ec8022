import RsipstackServer.CodecCreation
import RsipstackServer.CallAccounting

namespace RsipstackServer
open Foundation
universe u
variable {κ : Type u}

/-- What a reader of an answer finds out about the media of the call: the
payload type, the clock rate and the name of the codec in the mapping, and the
length of a packet in milliseconds. -/
structure Announces (answer : SessionDescription) (rtpmap : Rtpmap) (interval : Nat) : Prop where
  described : ∃ media, answer.mediaDescriptions = [media] ∧ media.media.media = .audio ∧
    media.media.fmt = decimal rtpmap.payloadType.toNat ∧ .rtpmap rtpmap ∈ media.attributes ∧
    .other ("ptime:".toList ++ decimal interval) ∈ media.attributes
  whole : 1000 ∣ rtpmap.clockRate.toNat * interval

/-- The distance in the packets of the stream at the places `i` and `j`. -/
structure Distant (first later : RawRtpPacket) (packets ticks : Nat) : Prop where
  timestamp : later.timestamp - first.timestamp = UInt32.ofNat (packets * ticks)
  sequence : later.sequence - first.sequence = UInt16.ofNat packets
  ssrc : later.ssrc = first.ssrc

/-- The packets handed to the socket are those that a reader of the answer
expects. -/
structure SendRecord.KeepsTo (session : MediaSession κ) (record : SendRecord) (rtpmap : Rtpmap) (interval : Nat) :
    Prop where
  typed : ∀ packet ∈ record.handed, ∃ raw, parseRtpPacket session.crate packet = some raw ∧
    raw.payloadType.toUInt32 = rtpmap.payloadType
  encoded : ∀ (i : Nat) (packet : List UInt8), record.handed[i]? = some packet →
    ∃ raw, parseRtpPacket session.crate packet = some raw ∧
    (session.codec.encodings session.sendCodec record.taken)[i]? = some raw.payload
  spaced : ∀ (i j : Nat) (p q : List UInt8), i ≤ j → record.handed[i]? = some p → record.handed[j]? = some q →
    ∃ first later, parseRtpPacket session.crate p = some first ∧ parseRtpPacket session.crate q = some later ∧
      Distant first later (j - i) (rtpmap.clockRate.toNat * interval / 1000)

theorem announces_answer (a b c d : UInt8) (rtpPort : UInt16) (codec : OfferedCodec) :
    Announces (answeredDescription (.v4 a b c d) rtpPort codec) (answeredRtpmap codec) expectedSendInterval := by
  refine ⟨⟨_, rfl, rfl, ?_, ?_, ?_⟩, codec.kind.ticksPerInterval_exact⟩
  · simp only [answeredRtpmap, UInt8.toNat_toUInt32]
  · exact List.mem_append_left _ List.mem_cons_self
  · exact List.mem_append_right _ List.mem_cons_self

variable {session : MediaSession κ} {sendTask : Task (SendLoop κ × Option (List UInt8)) TaskExit}
  {record : SendRecord}

/-- Two packets of one stream are as far apart as the packets between them say. -/
theorem Streams.distant (conforms : session.crate.Conforms) (streams : Streams session sendTask record)
    {ticks i j : Nat} (increment : session.codec.rtpTimestampIncrement session.sendCodec = UInt32.ofNat ticks)
    {p q : List UInt8} (order : i ≤ j) (earlier : record.handed[i]? = some p) (after : record.handed[j]? = some q) :
    ∃ first later, parseRtpPacket session.crate p = some first ∧ parseRtpPacket session.crate q = some later ∧
      Distant first later (j - i) ticks := by
  obtain ⟨start, _, begun, _, first⟩ := streams.parsed conforms earlier
  obtain ⟨start', _, begun', _, later⟩ := streams.parsed conforms after
  cases begun.symm.trans begun'
  obtain ⟨n, rfl⟩ := Nat.exists_eq_add_of_le order
  have between : i + n - i = n := by omega
  refine ⟨_, _, first, later, ?_, ?_, rfl⟩
  · simp only [increment, between, UInt32.ofNat_add, UInt32.ofNat_mul]
    grind
  · simp only [between, UInt16.ofNat_add]
    grind

theorem Streams.keepsTo (conforms : session.crate.Conforms) (streams : Streams session sendTask record)
    {rtpmap : Rtpmap} {interval : Nat} (payloadType : session.payloadType.toUInt32 = rtpmap.payloadType)
    (increment : session.codec.rtpTimestampIncrement session.sendCodec =
      UInt32.ofNat (rtpmap.clockRate.toNat * interval / 1000)) :
    record.KeepsTo session rtpmap interval where
  typed packet member := by
    obtain ⟨i, there⟩ := List.mem_iff_getElem?.mp member
    obtain ⟨_, _, _, _, parsed⟩ := streams.parsed conforms there
    exact ⟨_, parsed, payloadType⟩
  encoded i packet there := by
    obtain ⟨_, _, _, owed, parsed⟩ := streams.parsed conforms there
    exact ⟨_, parsed, owed⟩
  spaced i j p q order earlier after := streams.distant conforms increment order earlier after

/-- The stream of a call keeps to its answer: the answer reads back as one audio
description that names the codec of the call, and whatever the steps of the
call, its packets have the payload type and the spacing that the answer
announces, and carry what the codec makes of the frames. -/
theorem announced_stream {features : Features} {rtpRs : RtpRs} {maxInstant timeout n now : Nat} {crates : CodecCrates}
    {offer : SdpOffer} {session : MediaSession (offer.codecKind.State crates)} {acts : List CallAct}
    {last : SendHistory (offer.codecKind.State crates)} (conforms : rtpRs.Conforms)
    (enabled : offer.codecKind.enabled features = true)
    (created : MediaSession.new rtpRs maxInstant crates n offer timeout = .ok session)
    (reach : run (sendHistoryStep session) (.accepted now) acts = some last) (a b c d : UInt8) (rtpPort : UInt16)
    (sessionId : UInt64) :
    ∃ answer rtpmap interval,
      readSdp (generateSdpAnswer (.v4 a b c d) rtpPort sessionId ⟨offer.payloadType, offer.codecKind⟩) = some answer ∧
      Announces answer rtpmap interval ∧ CodecKind.fromName features rtpmap.encodingName = some offer.codecKind ∧
      last.record.KeepsTo session rtpmap interval := by
  obtain ⟨rfl, codec, payloadType⟩ := MediaSession.new_eq_ok created
  have streams := (outgoing_of_run reach).streams
  refine ⟨_, _, _, readSdp_answer a b c d rtpPort sessionId _, announces_answer a b c d rtpPort _,
    fromName_name enabled, ?_⟩
  refine streams.keepsTo conforms (by rw [payloadType]; rfl) ?_
  rw [codec]
  exact offer.codecKind.increment_eq crates session.sendCodec

/-- Crates of which PCMU makes no use. -/
def idleCrates : CodecCrates where
  opus := ⟨Unit, Unit, fun _ => .error "out of memory".toList, fun _ => .error "out of memory".toList,
    fun _ _ output => (.ok 0, output, ()), fun _ _ output => (.ok 0, output, ())⟩
  g722 := ⟨Unit, Unit, (), (), fun _ samples => (List.replicate (samples.length / 2) 0xff, ()),
    fun _ payload => (List.replicate (2 * payload.length) 0, ())⟩

theorem announced_stream_threeFrames : ∃ session last,
    MediaSession.new fixedHeaderRtpRs 1000 idleCrates 0 plainOffer 30 = .ok session ∧
    run (sendHistoryStep session) (.accepted 0) threeFrames = some last ∧ last.record.handed.length = 2 ∧
    ∃ answer rtpmap interval, readSdp (generateSdpAnswer (.v4 192 168 0 10) 10000 77 ⟨0, .pcmu⟩) = some answer ∧
      Announces answer rtpmap interval ∧ CodecKind.fromName ⟨false, false⟩ rtpmap.encodingName = some .pcmu ∧
      last.record.KeepsTo session rtpmap interval := by
  have created : ∃ session, MediaSession.new fixedHeaderRtpRs 1000 idleCrates 0 plainOffer 30 = .ok session ∧
      session = (⟨fixedHeaderRtpRs, pcmuCodec, (), (), 0, 30, 1000⟩ : MediaSession Unit) := ⟨_, rfl, rfl⟩
  obtain ⟨session, created, same⟩ := created
  have talks : (run (sendHistoryStep session) (.accepted 0) threeFrames).map (fun h => h.record.handed.length) =
    some 2 := by
    rw [same]
    decide +kernel
  obtain ⟨last, reach, handed⟩ := Option.map_eq_some_iff.mp talks
  exact ⟨session, last, created, reach, handed,
    announced_stream fixedHeaderRtpRs_conforms rfl created reach 192 168 0 10 10000 77⟩

end RsipstackServer
