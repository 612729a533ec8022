import RsipstackServer.CodecNegotiation
import RsipstackServer.SdpReader
import RsipstackServer.RtpPacket
import RsipstackServer.Foundation.BigEndian

namespace RsipstackServer
open Foundation

/-- The fixed header of an RTP packet of version 2 without padding, extension,
contributing sources or marker. -/
def fixedHeader (payloadType : UInt8) (ssrc : UInt32) (sequence : UInt16) (timestamp : UInt32) : List UInt8 :=
  0x80 :: payloadType :: (bigEndian 2 sequence.toNat ++ (bigEndian 4 timestamp.toNat ++ bigEndian 4 ssrc.toNat))

/-- What is assumed of `rtp-rs`: it writes and reads the fixed header, and
refuses a payload type that does not fit into it. -/
structure RtpRs.Conforms (crate : RtpRs) : Prop where
  refuses : ∀ payloadType ssrc sequence timestamp payload, 127 < payloadType →
    crate.build payloadType ssrc sequence timestamp payload = none
  writes : ∀ payloadType ssrc sequence timestamp payload, payloadType ≤ 127 → payload ≠ [] →
    crate.build payloadType ssrc sequence timestamp payload =
      some (fixedHeader payloadType ssrc sequence timestamp ++ payload)
  reads : ∀ (second : UInt8) (sequence timestamp ssrc payload : List UInt8), sequence.length = 2 →
    timestamp.length = 4 →
    ssrc.length = 4 → payload ≠ [] →
    crate.read (0x80 :: second :: (sequence ++ (timestamp ++ ssrc)) ++ payload) = some {
      payload := payload
      timestamp := UInt32.ofNat (ofBigEndian timestamp)
      sequenceNumber := UInt16.ofNat (ofBigEndian sequence)
      ssrc := UInt32.ofNat (ofBigEndian ssrc)
      payloadType := second &&& 0x7f }

/-- A crate that knows packets with the fixed header and no others. -/
def fixedHeaderRtpRs : RtpRs where
  read
    | version :: second :: s₁ :: s₀ :: t₃ :: t₂ :: t₁ :: t₀ :: c₃ :: c₂ :: c₁ :: c₀ :: payload =>
      if version = 0x80 then some {
        payload := payload
        timestamp := UInt32.ofNat (ofBigEndian [t₃, t₂, t₁, t₀])
        sequenceNumber := UInt16.ofNat (ofBigEndian [s₁, s₀])
        ssrc := UInt32.ofNat (ofBigEndian [c₃, c₂, c₁, c₀])
        payloadType := second &&& 0x7f }
      else none
    | _ => none
  build payloadType ssrc sequence timestamp payload :=
    if 127 < payloadType then none else some (fixedHeader payloadType ssrc sequence timestamp ++ payload)

theorem fixedHeaderRtpRs_conforms : fixedHeaderRtpRs.Conforms where
  refuses := by
    intro payloadType ssrc sequence timestamp payload large
    exact if_pos large
  writes := by
    intro payloadType ssrc sequence timestamp payload fits _
    exact if_neg (UInt8.not_lt.mpr fits)
  reads := by
    intro second sequence timestamp ssrc payload two four fourth _
    obtain ⟨s₁, s₀, rfl⟩ := List.length_eq_two.mp two
    match timestamp, four, ssrc, fourth with
    | [t₃, t₂, t₁, t₀], _, [c₃, c₂, c₁, c₀], _ => rfl

/-- A payload type that fits the header, and with which every packet of a
session is built and read back as it was sent. -/
def Sendable (crate : RtpRs) (payloadType : UInt8) : Prop :=
  payloadType ≤ 127 ∧ ∀ ssrc sequence timestamp increment n payload, payload ≠ [] →
    let state := (RtpSendState.new ssrc sequence timestamp payloadType increment).advanced n
    ∃ packet, buildRtpPacket crate payload state = some packet ∧
      parseRtpPacket crate packet = some ⟨payload, state.timestamp, state.sequence, ssrc, payloadType⟩

theorem seven_bits {payloadType : UInt8} (fits : payloadType ≤ 127) : payloadType &&& 0x7f = payloadType := by
  rw [UInt8.le_iff_toNat_le] at fits
  have masked := Nat.and_two_pow_sub_one_eq_mod payloadType.toNat 7
  rw [← UInt8.toNat_inj, UInt8.toNat_and]
  refine masked.trans (Nat.mod_eq_of_lt ?_)
  exact Nat.lt_succ_of_le fits

theorem RtpSendState.advanced_header (state : RtpSendState) (n : Nat) :
    (state.advanced n).payloadType = state.payloadType ∧ (state.advanced n).ssrc = state.ssrc := by
  induction n with
  | zero => exact ⟨rfl, rfl⟩
  | succ n ih => exact ih

/-- Below the limit of the builder every packet goes out and comes back. -/
theorem RtpRs.Conforms.roundTrip {crate : RtpRs} (conforms : crate.Conforms) {state : RtpSendState}
    {payload : List UInt8} (fits : state.payloadType ≤ 127) (some : payload ≠ []) :
    ∃ packet, buildRtpPacket crate payload state = .some packet ∧
      parseRtpPacket crate packet =
        .some ⟨payload, state.timestamp, state.sequence, state.ssrc, state.payloadType⟩ := by
  refine ⟨_, conforms.writes _ _ _ _ _ fits some, ?_⟩
  have sequence : ofBigEndian (bigEndian 2 state.sequence.toNat) = _ := ofBigEndian_bigEndian state.sequence.toNat_lt
  have timestamp : ofBigEndian (bigEndian 4 state.timestamp.toNat) = _ :=
    ofBigEndian_bigEndian state.timestamp.toNat_lt
  have ssrc : ofBigEndian (bigEndian 4 state.ssrc.toNat) = _ := ofBigEndian_bigEndian state.ssrc.toNat_lt
  have read : crate.read (fixedHeader state.payloadType state.ssrc state.sequence state.timestamp ++ payload) = _ :=
    conforms.reads state.payloadType _ _ _ payload (length_bigEndian ..) (length_bigEndian ..)
      (length_bigEndian ..) some
  simp only [parseRtpPacket, read, sequence, timestamp, ssrc, seven_bits fits, UInt16.ofNat_toNat, UInt32.ofNat_toNat,
    Option.bind_eq_bind, Option.bind_some, Option.pure_def]

theorem sendable_of_le {crate : RtpRs} (conforms : crate.Conforms) {payloadType : UInt8} (fits : payloadType ≤ 127) :
    Sendable crate payloadType := by
  refine ⟨fits, ?_⟩
  intro ssrc sequence timestamp increment n payload some
  obtain ⟨same, source⟩ := (RtpSendState.new ssrc sequence timestamp payloadType increment).advanced_header n
  obtain ⟨packet, built, back⟩ := conforms.roundTrip (same.symm ▸ fits :
    ((RtpSendState.new ssrc sequence timestamp payloadType increment).advanced n).payloadType ≤ 127) some
  rw [same, source] at back
  exact ⟨packet, built, back⟩

/-- The payload type of an accepted offer can be sent exactly if, among the
formats that the offer lists, every supported one above 127 is outdone by a
supported one that is not. -/
theorem sendable_iff {features : Features} {sdpRs : SdpRs} {crate : RtpRs} (conforms : crate.Conforms)
    {sdpBody : Text} {sdp : SessionDescription} {audioMedia : MediaDescription} {offer : SdpOffer}
    (parsed : sdpRs sdpBody = .ok sdp) (audio : sdp.audioMedia = some audioMedia)
    (accepted : parseSdpOffer features sdpRs sdpBody = .ok offer) :
    Sendable crate offer.payloadType ↔ FormatsOutdone features audioMedia fun pt _ => 127 < pt := by
  rw [parseSdpOffer_of_parsed features parsed] at accepted
  rw [← selected_not_bad_iff (fun pt _ => 127 < pt) (selected_of_offer audio accepted), UInt8.not_lt]
  exact ⟨fun sendable => sendable.1, sendable_of_le conforms⟩

/-- PCMU is sent under the payload type 0, although the peer also lists it
under the payload type 200. -/
theorem sendable_pcmu : Sendable fixedHeaderRtpRs 0 ↔
    FormatsOutdone ⟨true, false⟩ (offeredAudio "0 200".toList [.rtpmap ⟨200, "PCMU".toList, 8000, none⟩])
      fun pt _ => 127 < pt := by
  have parsed : strictSdpRs (offerText "0 200".toList "a=rtpmap:200 PCMU/8000\r\n".toList) =
      .ok (offeredDescription "0 200".toList [.rtpmap ⟨200, "PCMU".toList, 8000, none⟩]) := by decide +kernel
  have accepted : parseSdpOffer ⟨true, false⟩ strictSdpRs
    (offerText "0 200".toList "a=rtpmap:200 PCMU/8000\r\n".toList) =
      .ok ⟨.v4 10 0 0 50, 4000, 0, .pcmu⟩ := (parseSdpOffer_of_parsed _ parsed).trans (by decide +kernel)
  exact sendable_iff fixedHeaderRtpRs_conforms parsed rfl accepted

/-- An offer of L16 under the payload type 200 is accepted, and the first
packet of the call cannot be built. -/
theorem not_sendable_l16 : ∃ offer, parseSdpOffer ⟨true, false⟩ strictSdpRs
      (offerText "200".toList "a=rtpmap:200 L16/16000\r\n".toList) = .ok offer ∧
    buildRtpPacket fixedHeaderRtpRs [0] (RtpSendState.new 1 2 3 offer.payloadType 320) = none ∧
    ¬ Sendable fixedHeaderRtpRs offer.payloadType := by
  refine ⟨⟨.v4 10 0 0 50, 4000, 200, .l16⟩, by decide +kernel, rfl, ?_⟩
  rintro ⟨fits, _⟩
  exact absurd fits (by decide)

end RsipstackServer
