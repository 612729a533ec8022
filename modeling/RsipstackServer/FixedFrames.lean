import RsipstackServer.Foundation.Framing
import RsipstackServer.MediaClock
import RsipstackServer.NegotiatedMedia

namespace RsipstackServer
open Foundation
universe u
variable {κ : Type u} {session : MediaSession κ}

def samplesPerFrame : Nat := 320

/-- The payloads of the packets that the receive task has read for the
handler, whatever their type. -/
def ReceiveRecord.payloads (session : MediaSession κ) (record : ReceiveRecord) : List (List UInt8) :=
  (record.heard session).map fun heard => heard.2.payload

/-- The samples of all packets that the receive task has read, one after the
other. -/
def ReceiveRecord.samples (session : MediaSession κ) (record : ReceiveRecord) : List Int16 :=
  ((session.codec.decodings session.recvCodec (record.payloads session)).map AudioFrame.samples).flatten

/-- The handler got the audio of the packets, in the order in which they
arrived, in frames of one size. -/
structure ReceiveHistory.FixedFrames (session : MediaSession κ) (h : ReceiveHistory κ) : Prop where
  order : h.record.readings.map Reading.result <+: h.record.arrivals.map Arrival.result
  framed : Framed samplesPerFrame (h.record.delivered.map AudioFrame.samples) (h.record.samples session)

/-- An iteration of the receive loop takes in a packet whose samples are not one
frame, or one with which its deadline overflows though its samples are a frame
or more. -/
def Misframes (session : MediaSession κ) (size : κ → List UInt8 → Nat) (h : ReceiveHistory κ) (act : CallAct) :
    Prop :=
  act = .receiveTask ∧ ∃ task raw, h.TakesIn session task raw ∧
    (task.deadline.reset session.maxInstant h.state.now ≠ none ∧ size task.codec raw.payload ≠ samplesPerFrame ∨
      task.deadline.reset session.maxInstant h.state.now = none ∧ samplesPerFrame ≤ size task.codec raw.payload)

/-- As long as the receive loop runs, every packet has become a frame. -/
structure Decoding (session : MediaSession κ) (h : ReceiveHistory κ) : Prop where
  incoming : Incoming h
  frames : ∀ task, h.state.receiveTask = .running task →
    h.record.delivered = session.codec.decodings session.recvCodec (h.record.payloads session)
  decoder : ∀ task, h.state.receiveTask = .running task →
    task.codec = session.codec.decoded session.recvCodec (h.record.payloads session)

theorem ReceiveRecord.payloads_of_same {r s : ReceiveRecord} (heard : s.heard session = r.heard session) :
    s.payloads session = r.payloads session := by
  rw [payloads, heard]
  rfl

theorem ReceiveRecord.payloads_of_concat {r s : ReceiveRecord} {now : Nat} {raw : RawRtpPacket}
    (heard : s.heard session = r.heard session ++ [(now, raw)]) :
    s.payloads session = r.payloads session ++ [raw.payload] := by
  rw [payloads, heard, List.map_append]
  rfl

theorem decoding_accepted (now : Nat) : Decoding session (.accepted now) := by
  refine ⟨incoming_accepted now, fun task running => ?_, fun task running => ?_⟩
  all_goals cases running

theorem Hears.decoding {h k : ReceiveHistory κ} {act : CallAct} (step : Hears session h act k)
    (before : Decoding session h) : Decoding session k := by
  have incoming := step.incoming before.incoming
  cases step.taking with
  | quiet _ heard delivered runs =>
    refine ⟨incoming, fun task running => ?_, fun task running => ?_⟩
    all_goals
      rw [ReceiveRecord.payloads_of_same heard]
      rcases runs task running with ⟨same, _⟩ | ⟨spawned, _, fresh⟩
    · exact delivered.trans (before.frames task same)
    · obtain ⟨readings, none⟩ := before.incoming.idle (Or.inr spawned)
      rw [delivered, none, ReceiveRecord.payloads, ReceiveRecord.heard, readings]
      rfl
    · exact before.decoder task same
    · obtain ⟨readings, _⟩ := before.incoming.idle (Or.inr spawned)
      rw [fresh, ReceiveRecord.payloads, ReceiveRecord.heard, readings]
      rfl
  | overflows _ _ _ _ ended =>
    refine ⟨incoming, fun task running => ?_, fun task running => ?_⟩
    all_goals exact absurd running (ended task)
  | @decodes task raw deadline takes renewed heard delivered running _ =>
    have payloads := ReceiveRecord.payloads_of_concat heard
    have codec := before.decoder task takes.1
    refine ⟨incoming, fun _ _ => ?_, fun loop same => ?_⟩
    · rw [delivered, payloads, Codec.decodings_concat, ← before.frames task takes.1, codec]
    · cases running.symm.trans same
      rw [payloads, Codec.decoded_concat, codec]

theorem ReceiveHistory.TakesIn.misframes_iff {h : ReceiveHistory κ} {task : ReceiveLoop κ} {raw : RawRtpPacket}
    {size : κ → List UInt8 → Nat} (takes : h.TakesIn session task raw) : Misframes session size h .receiveTask ↔
      (task.deadline.reset session.maxInstant h.state.now ≠ none ∧ size task.codec raw.payload ≠ samplesPerFrame ∨
        task.deadline.reset session.maxInstant h.state.now = none ∧
          samplesPerFrame ≤ size task.codec raw.payload) := by
  constructor
  · rintro ⟨_, loop, other, takes', wrong⟩
    obtain ⟨rfl, rfl⟩ := takes.unique takes'
    exact wrong
  · exact fun wrong => ⟨rfl, task, raw, takes, wrong⟩

/-- The number of samples that a payload is decoded to. -/
def Codec.size (codec : Codec κ) (state : κ) (payload : List UInt8) : Nat := (codec.decode state payload).1.length

theorem samples_concat {record : ReceiveRecord} {payloads : List (List UInt8)} {payload : List UInt8}
    {task : ReceiveLoop κ} (read : record.payloads session = payloads ++ [payload])
    (decoder : task.codec = session.codec.decoded session.recvCodec payloads) :
    record.samples session = ((session.codec.decodings session.recvCodec payloads).map AudioFrame.samples).flatten ++
      (session.codec.decode task.codec payload).1 := by
  rw [ReceiveRecord.samples, read, Codec.decodings_concat, List.map_append, List.flatten_append, decoder]
  exact congrArg _ (List.append_nil _)

theorem Hears.framed_iff {h k : ReceiveHistory κ} {act : CallAct} (step : Hears session h act k)
    (decoding : Decoding session h) (before : h.FixedFrames session) :
    k.FixedFrames session ↔ ¬ Misframes session session.codec.size h act := by
  have order : k.record.readings.map Reading.result <+: k.record.arrivals.map Arrival.result :=
    ⟨_, (step.decoding decoding).incoming.queue⟩
  have full := before.framed.full
  cases step.taking with
  | quiet none heard delivered _ =>
    refine iff_of_true ⟨order, ?_⟩ fun wrong => ?_
    · rw [delivered, ReceiveRecord.samples, ReceiveRecord.payloads_of_same heard]
      exact before.framed
    · obtain ⟨same, task, raw, takes, _⟩ := wrong
      exact none same task raw takes
  | @overflows task raw takes panic heard delivered _ =>
    have samples := samples_concat (ReceiveRecord.payloads_of_concat heard) (decoding.decoder task takes.1)
    rw [← decoding.frames task takes.1] at samples
    rw [takes.misframes_iff, panic]
    constructor
    · rintro framed (⟨survives, _⟩ | ⟨_, large⟩)
      · exact survives rfl
      · have short := framed.framed
        rw [delivered, samples, Framed.append_iff full] at short
        exact Nat.not_lt.mpr large short
    · intro right
      refine ⟨order, ?_⟩
      rw [delivered, samples, Framed.append_iff full]
      exact Nat.lt_of_not_le fun large => right (Or.inr ⟨rfl, large⟩)
  | @decodes task raw deadline takes renewed heard delivered _ _ =>
    have samples := samples_concat (ReceiveRecord.payloads_of_concat heard) (decoding.decoder task takes.1)
    rw [← decoding.frames task takes.1] at samples
    have whole : k.record.samples session = (k.record.delivered.map AudioFrame.samples).flatten := by
      rw [samples, delivered, List.map_append, List.flatten_append]
      exact congrArg _ (List.append_nil _).symm
    have framed : k.FixedFrames session ↔ session.codec.size task.codec raw.payload = samplesPerFrame := by
      rw [Codec.size, ← Framed.concat_iff (by decide : 0 < samplesPerFrame) full]
      constructor
      · intro framed
        have stream := framed.framed
        rwa [whole, delivered, List.map_append] at stream
      · intro stream
        refine ⟨order, ?_⟩
        rwa [whole, delivered, List.map_append]
    rw [framed, takes.misframes_iff, renewed]
    constructor
    · rintro fills (⟨_, other⟩ | ⟨overflows, _⟩)
      · exact other fills
      · cases overflows
    · exact fun right => by_contra fun other => right (Or.inl ⟨Option.some_ne_none _, other⟩)

/-- Along a run the handler gets frames of one size, exactly if no iteration of
the receive loop takes in a packet whose samples are not one frame. -/
theorem fixedFrames_iff_size {now : Nat} {acts : List CallAct} {last : ReceiveHistory κ}
    (reach : run (receiveHistoryStep session) (.accepted now) acts = some last) :
    (∀ h, Visits (receiveHistoryStep session) (.accepted now) acts h → h.FixedFrames session) ↔
      ∀ h act, Takes (receiveHistoryStep session) (.accepted now) acts h act →
        ¬ Misframes session session.codec.size h act := by
  have first : ReceiveHistory.FixedFrames session (.accepted now) :=
    ⟨List.prefix_rfl, (Framed.flatten_iff (by decide : 0 < samplesPerFrame)).mpr (List.forall_mem_nil _)⟩
  refine visits_iff_takes (I := Decoding session) (decoding_accepted now) first ?_ ?_ reach
  · exact fun h act k decoding step => (hears_of_step step).decoding decoding
  · exact fun h act k decoding before step => (hears_of_step step).framed_iff decoding before

/-- The samples that a payload of this length is decoded to: PCMU and PCMA make
two of a byte, L16 one of two bytes. -/
def PcmKind.decodedLength : PcmKind → Nat → Nat
  | pcmu, length => 2 * length
  | pcma, length => 2 * length
  | l16, length => length / 2

theorem PcmKind.size_codec (kind : PcmKind) (state : Unit) (payload : List UInt8) :
    kind.codec.size state payload = kind.decodedLength payload.length := by
  cases kind with
  | pcmu => exact length_upsampled decodeUlawSample payload
  | pcma => exact length_upsampled decodeAlawSample payload
  | l16 => exact length_decodeL16 payload

/-- The same of the three codecs, where the length of a payload tells whether it
is one frame. -/
theorem fixedFrames_iff {kind : PcmKind} {session : MediaSession Unit} (codec : session.codec = kind.codec)
    {now : Nat} {acts : List CallAct} {last : ReceiveHistory Unit}
    (reach : run (receiveHistoryStep session) (.accepted now) acts = some last) :
    (∀ h, Visits (receiveHistoryStep session) (.accepted now) acts h → h.FixedFrames session) ↔
      ∀ h act, Takes (receiveHistoryStep session) (.accepted now) acts h act →
        ¬ Misframes session (fun _ payload => kind.decodedLength payload.length) h act := by
  have size : session.codec.size = fun _ payload => kind.decodedLength payload.length := by
    rw [codec]
    exact funext fun state => funext fun payload => kind.size_codec state payload
  rw [fixedFrames_iff_size reach, size]

/-- The peer sends packets of these many bytes of audio, which the receive task
reads one after the other. -/
def peerAudio (lengths : List Nat) : List CallAct :=
  [.handleCall, .handleCall, .receiveTask] ++
    lengths.flatMap fun length => [.peerSends (rtpPacket 0 (List.replicate length 0xff)), .receiveTask]

theorem fixedFrames_peerAudio :
    ∃ last, run (receiveHistoryStep (pcmSession .pcmu)) (.accepted 0) (peerAudio [160, 160]) = some last ∧
    last.record.delivered.map (fun frame => frame.samples.length) = [320, 320] ∧
    ((∀ h, Visits (receiveHistoryStep (pcmSession .pcmu)) (.accepted 0) (peerAudio [160, 160]) h →
        h.FixedFrames (pcmSession .pcmu)) ↔
      ∀ h act, Takes (receiveHistoryStep (pcmSession .pcmu)) (.accepted 0) (peerAudio [160, 160]) h act →
        ¬ Misframes (pcmSession .pcmu) (fun _ payload => PcmKind.pcmu.decodedLength payload.length) h act) := by
  have lengths : (run (receiveHistoryStep (pcmSession .pcmu)) (.accepted 0) (peerAudio [160, 160])).map
      (fun h => h.record.delivered.map fun frame => frame.samples.length) = some [320, 320] := by decide +kernel
  have codec : (pcmSession .pcmu).codec = PcmKind.pcmu.codec := rfl
  refine exists_of_run (by decide +kernel) fun last reach => ⟨?_, fixedFrames_iff codec reach⟩
  rw [reach] at lengths
  exact Option.some.inj lengths

/-- A packet of 10 ms reaches the handler as a frame of 160 samples, and one of
30 ms as a frame of 480. -/
theorem fixedFrames_fails :
    ∃ last, run (receiveHistoryStep (pcmSession .pcmu)) (.accepted 0) (peerAudio [80, 240]) = some last ∧
    last.record.delivered.map (fun frame => frame.samples.length) = [160, 480] ∧
      ¬ last.FixedFrames (pcmSession .pcmu) := by
  have lengths : (run (receiveHistoryStep (pcmSession .pcmu)) (.accepted 0) (peerAudio [80, 240])).map
      (fun h => h.record.delivered.map fun frame => frame.samples.length) = some [160, 480] := by decide +kernel
  refine exists_of_run (by decide +kernel) fun last reach => ?_
  rw [reach] at lengths
  have frames : last.record.delivered.map (fun frame => frame.samples.length) = [160, 480] := Option.some.inj lengths
  refine ⟨frames, fun fixed => ?_⟩
  have full : ∀ n ∈ last.record.delivered.map (fun frame => frame.samples.length), n = samplesPerFrame := by
    intro n member
    obtain ⟨frame, there, rfl⟩ := List.mem_map.mp member
    exact fixed.framed.full _ (List.mem_map_of_mem there)
  rw [frames] at full
  exact absurd (full 160 (List.mem_cons_self ..)) (by decide)

end RsipstackServer
