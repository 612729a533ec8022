import Mathlib.Algebra.Group.Nat.Defs
import Mathlib.Algebra.GroupWithZero.Nat
import RsipstackServer.PacketStream
import RsipstackServer.PcmaCodec
import RsipstackServer.PcmuCodec
import RsipstackServer.L16Codec
import RsipstackServer.Foundation.MarkedSequence

namespace RsipstackServer
open Foundation
universe u
variable {κ : Type u}

/-- The codecs that are built in with every set of features. -/
inductive PcmKind
  | pcmu
  | pcma
  | l16
  deriving DecidableEq, Repr

namespace PcmKind

def codec : PcmKind → Codec Unit
  | pcmu => pcmuCodec
  | pcma => pcmaCodec
  | l16 => l16Codec

/-- The samples in a payload, which is the ticks of the RTP clock that they
span: PCMU and PCMA have a byte for each sample at 8 kHz, L16 has two for each
at 16 kHz. -/
def ticks : PcmKind → List UInt8 → Nat
  | pcmu, payload => payload.length
  | pcma, payload => payload.length
  | l16, payload => payload.length / 2

theorem ticks_nil (kind : PcmKind) : kind.ticks [] = 0 := by cases kind <;> rfl

end PcmKind

namespace SendRecord
variable (session : MediaSession κ) (record : SendRecord)

/-- The encoding of the frame `i`. -/
def encoding (i : Nat) : List UInt8 :=
  match record.taken[i]? with
  | none => []
  | some frame =>
    (session.codec.encode (session.codec.encoded session.sendCodec (record.taken.take i)) frame.samples).1

/-- The packets that the frames before the frame `i` are owed. -/
def owedBefore (i : Nat) : Nat := (session.codec.encodings session.sendCodec (record.taken.take i)).length

/-- The packet that was sent for the frame `i`. -/
def packet (i : Nat) : Option (List UInt8) :=
  if record.encoding session i = [] then none else record.handed[record.owedBefore session i]?

/-- The ticks of the RTP clock that the frames from `i` up to `j` span. -/
def ticksBetween (ticks : List UInt8 → Nat) (i j : Nat) : Nat :=
  ((List.range' i (j - i)).map fun k => ticks (record.encoding session k)).sum

/-- The packets of two frames that are both sent have timestamps that differ by
`distance`. -/
def Spaced (distance : Nat → Nat → UInt32) : Prop :=
  ∀ i j p q, i < j → record.packet session i = some p → record.packet session j = some q →
    ∃ earlier later, parseRtpPacket session.crate p = some earlier ∧ parseRtpPacket session.crate q = some later ∧
      later.timestamp - earlier.timestamp = distance i j

variable {session record}

theorem encodings_take_succ (i : Nat) :
    session.codec.encodings session.sendCodec (record.taken.take (i + 1)) =
      session.codec.encodings session.sendCodec (record.taken.take i) ++
        (if record.encoding session i = [] then [] else [record.encoding session i]) := by
  rw [List.take_add_one, Codec.encodings_append]
  congr 1
  cases there : record.taken[i]? with
  | none => simp only [encoding, there, Option.toList_none, Codec.encodings, if_true]
  | some frame =>
    simp only [encoding, there]
    split
    · rename_i empty
      exact Codec.encodings_empty empty
    · rename_i some
      exact Codec.encodings_some some

theorem owedBefore_succ (i : Nat) :
    record.owedBefore session (i + 1) =
      record.owedBefore session i + if record.encoding session i = [] then 0 else 1 := by
  rw [owedBefore, encodings_take_succ, List.length_append]
  split <;> rfl

theorem owedBefore_mono {i j : Nat} (le : i ≤ j) : record.owedBefore session i ≤ record.owedBefore session j := by
  induction j with
  | zero => rw [Nat.le_zero.mp le]
  | succ j ih =>
    rcases Nat.lt_or_eq_of_le le with before | rfl
    · rw [owedBefore_succ]
      exact (ih (by omega)).trans (Nat.le_add_right _ _)
    · rfl

theorem packet_eq_some_iff {i : Nat} {p : List UInt8} :
    record.packet session i = some p ↔
      record.encoding session i ≠ [] ∧ record.handed[record.owedBefore session i]? = some p := by
  unfold packet
  split
  · rename_i empty
    exact ⟨nofun, fun both => absurd empty both.1⟩
  · rename_i some
    exact ⟨fun there => ⟨some, there⟩, fun both => both.2⟩

/-- A frame before one that is sent is sent too, unless its encoding is empty. -/
theorem packet_isSome {i j : Nat} (before : i < j) (sent : (record.packet session j).isSome)
    (some : record.encoding session i ≠ []) : (record.packet session i).isSome := by
  obtain ⟨q, there⟩ := Option.isSome_iff_exists.mp sent
  obtain ⟨bound, _⟩ := List.getElem?_eq_some_iff.mp (packet_eq_some_iff.mp there).2
  have le : record.owedBefore session i ≤ record.owedBefore session j := owedBefore_mono before.le
  refine Option.isSome_iff_exists.mpr ⟨record.handed[record.owedBefore session i], ?_⟩
  exact packet_eq_some_iff.mpr ⟨some, List.getElem?_eq_getElem (by omega)⟩

theorem ticksBetween_succ (ticks : List UInt8 → Nat) {i j : Nat} (le : i ≤ j) :
    record.ticksBetween session ticks i (j + 1) =
      record.ticksBetween session ticks i j + ticks (record.encoding session j) := by
  rw [ticksBetween, Nat.succ_sub le, List.range'_concat, List.map_append, List.sum_append]
  simp only [ticksBetween, List.map_cons, List.map_nil, List.sum_cons, List.sum_nil, Nat.one_mul, Nat.add_zero,
    Nat.add_sub_of_le le]

theorem ticksBetween_add (ticks : List UInt8 → Nat) {i j : Nat} (le : i ≤ j) :
    record.ticksBetween session ticks 0 j =
      record.ticksBetween session ticks 0 i + record.ticksBetween session ticks i j := by
  induction j with
  | zero =>
    rw [Nat.le_zero.mp le]
    rfl
  | succ j ih =>
    rcases Nat.lt_or_eq_of_le le with before | rfl
    · rw [ticksBetween_succ ticks (Nat.zero_le j), ticksBetween_succ ticks (by omega : i ≤ j), ih (by omega),
        Nat.add_assoc]
    · rw [ticksBetween, ticksBetween, Nat.sub_self]
      rfl

end SendRecord

section
variable {session : MediaSession κ} {sendTask : Task (SendLoop κ × Option (List UInt8)) TaskExit}
  {record : SendRecord}
open SendRecord

theorem Streams.timestamp {i : Nat} {p : List UInt8} (conforms : session.crate.Conforms)
    (streams : Streams session sendTask record) (sent : record.packet session i = some p) :
    ∃ first raw, record.first = some first ∧ parseRtpPacket session.crate p = some raw ∧ raw.timestamp =
      first.timestamp + UInt32.ofNat (record.owedBefore session i) *
        session.codec.rtpTimestampIncrement session.sendCodec := by
  obtain ⟨first, _, begun, _, parsed⟩ := streams.parsed conforms (packet_eq_some_iff.mp sent).2
  exact ⟨first, _, begun, parsed, rfl⟩

/-- Two timestamps always differ by the increment for every packet from the one
to the other. -/
theorem Streams.spaced_iff_eq (conforms : session.crate.Conforms) (streams : Streams session sendTask record)
    {distance : Nat → Nat → UInt32} :
    record.Spaced session distance ↔
      ∀ i j, i < j → (record.packet session i).isSome → (record.packet session j).isSome →
        distance i j = UInt32.ofNat (record.owedBefore session j - record.owedBefore session i) *
          session.codec.rtpTimestampIncrement session.sendCodec := by
  have differ : ∀ i j p q, i < j → record.packet session i = some p → record.packet session j = some q →
      ∃ earlier later, parseRtpPacket session.crate p = some earlier ∧ parseRtpPacket session.crate q = some later ∧
        later.timestamp - earlier.timestamp =
          UInt32.ofNat (record.owedBefore session j - record.owedBefore session i) *
            session.codec.rtpTimestampIncrement session.sendCodec := by
    intro i j p q before sent sent'
    obtain ⟨first, earlier, begun, parsed, timestamp⟩ := streams.timestamp conforms sent
    obtain ⟨_, later, begun', parsed', timestamp'⟩ := streams.timestamp conforms sent'
    cases begun.symm.trans begun'
    refine ⟨earlier, later, parsed, parsed', ?_⟩
    obtain ⟨n, more⟩ := Nat.exists_eq_add_of_le (owedBefore_mono before.le : record.owedBefore session i ≤ _)
    rw [timestamp, timestamp', more, Nat.add_sub_cancel_left, UInt32.ofNat_add]
    grind
  constructor
  · intro spaced i j before sent sent'
    obtain ⟨p, atStart⟩ := Option.isSome_iff_exists.mp sent
    obtain ⟨q, atEnd⟩ := Option.isSome_iff_exists.mp sent'
    obtain ⟨earlier, later, parsed, parsed', difference⟩ := spaced i j p q before atStart atEnd
    obtain ⟨_, _, again, again', owed⟩ := differ i j p q before atStart atEnd
    cases parsed.symm.trans again
    cases parsed'.symm.trans again'
    exact difference.symm.trans owed
  · intro same i j p q before sent sent'
    rw [same i j before (Option.isSome_iff_exists.mpr ⟨p, sent⟩) (Option.isSome_iff_exists.mpr ⟨q, sent'⟩)]
    exact differ i j p q before sent sent'

theorem Streams.spaced_iff (conforms : session.crate.Conforms) (streams : Streams session sendTask record)
    {ticks : List UInt8 → Nat} (nil : ticks [] = 0) :
    (record.Spaced session fun i j => UInt32.ofNat (record.ticksBetween session ticks i j)) ↔
      ∀ i j, i < j → (record.packet session i).isSome → (record.packet session j).isSome →
        UInt32.ofNat (ticks (record.encoding session i)) = session.codec.rtpTimestampIncrement session.sendCodec := by
  -- how far the clock of the timestamps is behind that of the audio at the frame `k`
  let drift k := UInt32.ofNat (record.ticksBetween session ticks 0 k) -
    UInt32.ofNat (record.owedBefore session k) * session.codec.rtpTimestampIncrement session.sendCodec
  have still : ∀ k j, k < j → (record.packet session j).isSome → ¬ (record.packet session k).isSome →
      drift (k + 1) = drift k := by
    intro k j before sent unsent
    have empty : record.encoding session k = [] := by
      by_contra some
      exact unsent (packet_isSome before sent some)
    simp only [drift, ticksBetween_succ ticks (Nat.zero_le k), owedBefore_succ, empty, nil, if_true, Nat.add_zero]
  have between : ∀ i j, i < j → (UInt32.ofNat (record.ticksBetween session ticks i j) =
      UInt32.ofNat (record.owedBefore session j - record.owedBefore session i) *
        session.codec.rtpTimestampIncrement session.sendCodec ↔ drift j = drift i) := by
    intro i j before
    obtain ⟨n, more⟩ := Nat.exists_eq_add_of_le (owedBefore_mono before.le : record.owedBefore session i ≤ _)
    simp only [drift, ticksBetween_add ticks before.le, more, Nat.add_sub_cancel_left, UInt32.ofNat_add]
    grind
  have next : ∀ i, (record.packet session i).isSome →
      (UInt32.ofNat (ticks (record.encoding session i)) = session.codec.rtpTimestampIncrement session.sendCodec ↔
        drift (i + 1) = drift i) := by
    intro i sent
    obtain ⟨p, there⟩ := Option.isSome_iff_exists.mp sent
    simp only [drift, ticksBetween_succ ticks (Nat.zero_le i), owedBefore_succ,
      if_neg (packet_eq_some_iff.mp there).1,
      UInt32.ofNat_add, UInt32.ofNat_one]
    grind
  rw [streams.spaced_iff_eq conforms]
  have marked := marked_eq_iff still
  constructor
  · intro same i j before sent sent'
    exact (next i sent).mpr
      (marked.mp (fun i j before sent sent' => (between i j before).mp (same i j before sent sent'))
      i j before sent sent')
  · intro same i j before sent sent'
    exact (between i j before).mpr
      (marked.mpr (fun i j before sent sent' => (next i sent).mp (same i j before sent sent'))
      i j before sent sent')

end

theorem outgoing_of_run {session : MediaSession κ} {now : Nat} {acts : List CallAct} {last : SendHistory κ}
    (reach : run (sendHistoryStep session) (.accepted now) acts = some last) : Outgoing session last :=
  run_invariant (outgoing_accepted session now)
    (fun _ _ _ outgoing step => (sends_of_step step).outgoing outgoing) reach

/-- Along every run the timestamps count the packets: from the packet of one
frame to that of another they grow by the increment of the codec for every
frame between that is sent. That is the time the audio takes exactly if every
sent frame that another one follows spans the increment. -/
theorem timestamps_follow_iff {kind : PcmKind} {session : MediaSession Unit} (conforms : session.crate.Conforms)
    (codec : session.codec = kind.codec) {now : Nat} {acts : List CallAct} {last : SendHistory Unit}
    (reach : run (sendHistoryStep session) (.accepted now) acts = some last) :
    (last.record.Spaced session fun i j =>
      UInt32.ofNat (last.record.owedBefore session j - last.record.owedBefore session i) *
        kind.codec.rtpTimestampIncrement ()) ∧
    ((last.record.Spaced session fun i j => UInt32.ofNat (last.record.ticksBetween session kind.ticks i j)) ↔
      ∀ i j, i < j → (last.record.packet session i).isSome → (last.record.packet session j).isSome →
        UInt32.ofNat (kind.ticks (last.record.encoding session i)) = kind.codec.rtpTimestampIncrement ()) := by
  have streams := (outgoing_of_run reach).streams
  rw [← codec]
  exact ⟨(streams.spaced_iff_eq conforms).mpr fun _ _ _ _ _ => rfl, streams.spaced_iff conforms kind.ticks_nil⟩

/-- A session of a codec that is always built in. -/
def pcmSession (kind : PcmKind) : MediaSession Unit :=
  { crate := fixedHeaderRtpRs, codec := kind.codec, recvCodec := (), sendCodec := (), payloadType := 0
    mediaReceiveTimeout := 30, maxInstant := UInt64.size }

/-- The handler puts two frames of silence on `audio_out`, with an empty one
between them. -/
def silentFrames (samples : Nat) : List CallAct :=
  [.handleCall, .handleCall, .sendTask (.start 7 0xffff 0xffffffff), .handlerTask (.put ⟨List.replicate samples 0⟩),
    .handlerTask (.put ⟨[]⟩), .handlerTask (.put ⟨List.replicate samples 0⟩), .sendTask .recv, .sendTask (.sent true),
    .sendTask .recv, .sendTask .recv]

theorem timestamps_follow_silentFrames : ∃ last,
    run (sendHistoryStep (pcmSession .pcmu)) (.accepted 0) (silentFrames 320) = some last ∧
      (last.record.Spaced (pcmSession .pcmu) fun i j =>
        UInt32.ofNat
          (last.record.owedBefore (pcmSession .pcmu) j - last.record.owedBefore (pcmSession .pcmu) i) * 160) ∧
      ((last.record.Spaced (pcmSession .pcmu) fun i j =>
          UInt32.ofNat (last.record.ticksBetween (pcmSession .pcmu) PcmKind.pcmu.ticks i j)) ↔
        ∀ i j, i < j → (last.record.packet (pcmSession .pcmu) i).isSome →
          (last.record.packet (pcmSession .pcmu) j).isSome →
          UInt32.ofNat (PcmKind.pcmu.ticks (last.record.encoding (pcmSession .pcmu) i)) = 160) := by
  have codec : (pcmSession .pcmu).codec = PcmKind.pcmu.codec := rfl
  exact exists_of_run (by decide +kernel) fun _ reach => timestamps_follow_iff fixedHeaderRtpRs_conforms codec reach

/-- A frame of 10 ms spans 80 ticks of the clock of PCMU, and the timestamp of
the packet after it is 160 ahead. -/
theorem timestamps_follow_fails : ∃ last,
    run (sendHistoryStep (pcmSession .pcmu)) (.accepted 0) (silentFrames 160) = some last ∧
      last.record.handed.map (fun packet => (parseRtpPacket fixedHeaderRtpRs packet).map fun raw => raw.timestamp) =
        [some 0xffffffff, some 159] ∧
      last.record.ticksBetween (pcmSession .pcmu) PcmKind.pcmu.ticks 0 2 = 80 ∧
      ¬ last.record.Spaced (pcmSession .pcmu) fun i j =>
        UInt32.ofNat (last.record.ticksBetween (pcmSession .pcmu) PcmKind.pcmu.ticks i j) := by
  have timestamps : (run (sendHistoryStep (pcmSession .pcmu)) (.accepted 0) (silentFrames 160)).map (fun h =>
      h.record.handed.map fun packet => (parseRtpPacket fixedHeaderRtpRs packet).map fun raw => raw.timestamp) =
      some [some 0xffffffff, some 159] := by decide +kernel
  have spanned : (run (sendHistoryStep (pcmSession .pcmu)) (.accepted 0) (silentFrames 160)).map (fun h =>
      (h.record.ticksBetween (pcmSession .pcmu) PcmKind.pcmu.ticks 0 2,
        PcmKind.pcmu.ticks (h.record.encoding (pcmSession .pcmu) 0))) = some (80, 80) := by decide +kernel
  have sent : (run (sendHistoryStep (pcmSession .pcmu)) (.accepted 0) (silentFrames 160)).map (fun h =>
      ((h.record.packet (pcmSession .pcmu) 0).isSome, (h.record.packet (pcmSession .pcmu) 2).isSome)) =
      some (true, true) := by decide +kernel
  refine exists_of_run (by decide +kernel) fun last reach => ?_
  rw [reach] at timestamps spanned sent
  obtain ⟨between, first⟩ := Prod.mk.inj (Option.some.inj spanned)
  obtain ⟨atStart, atEnd⟩ := Prod.mk.inj (Option.some.inj sent)
  refine ⟨Option.some.inj timestamps, between, fun spaced => ?_⟩
  have increment := ((outgoing_of_run reach).streams.spaced_iff fixedHeaderRtpRs_conforms rfl).mp spaced 0 2
    Nat.two_pos atStart atEnd
  rw [first] at increment
  exact absurd increment (by decide)

/-- A frame of 320 samples, which is 20 ms, spans the increment of every codec. -/
theorem PcmKind.ticks_encode (kind : PcmKind) {samples : List Int16} (frame : samples.length = 320) :
    UInt32.ofNat (kind.ticks (kind.codec.encode () samples).1) = kind.codec.rtpTimestampIncrement () := by
  cases kind with
  | pcmu =>
    change UInt32.ofNat (downsampled _ samples).length = 160
    rw [length_downsampled, frame]
    rfl
  | pcma =>
    change UInt32.ofNat (downsampled _ samples).length = 160
    rw [length_downsampled, frame]
    rfl
  | l16 =>
    change UInt32.ofNat ((samples.flatMap toBeBytes).length / 2) = 320
    rw [length_encodeL16, frame]
    rfl

/-- With frames of 20 ms the timestamps follow the clock of the audio. -/
theorem timestamps_follow_of_frames {kind : PcmKind} {session : MediaSession Unit} (conforms : session.crate.Conforms)
    (codec : session.codec = kind.codec) {now : Nat} {acts : List CallAct} {last : SendHistory Unit}
    (reach : run (sendHistoryStep session) (.accepted now) acts = some last)
    (frames : ∀ frame ∈ last.record.taken, frame.samples.length = 320) :
    last.record.Spaced session fun i j => UInt32.ofNat (last.record.ticksBetween session kind.ticks i j) := by
  refine ((outgoing_of_run reach).streams.spaced_iff conforms kind.ticks_nil).mpr fun i j _ sent _ => ?_
  obtain ⟨p, there⟩ := Option.isSome_iff_exists.mp sent
  have some := (SendRecord.packet_eq_some_iff.mp there).1
  unfold SendRecord.encoding at some ⊢
  split
  · rename_i none
    rw [none] at some
    exact absurd rfl some
  · rename_i frame taken
    rw [codec]
    exact kind.ticks_encode (frames frame (List.mem_of_getElem? taken))

end RsipstackServer
