import RsipstackServer.SendHistory
import RsipstackServer.PacketRoundTrip

namespace RsipstackServer
open Foundation
universe u
variable {κ : Type u}

theorem RtpSendState.advanced_numbers (state : RtpSendState) (n : Nat) :
    (state.advanced n).sequence = state.sequence + UInt16.ofNat n ∧
      (state.advanced n).timestamp = state.timestamp + UInt32.ofNat n * state.timestampIncrement ∧
      (state.advanced n).timestampIncrement = state.timestampIncrement := by
  induction n with
  | zero =>
    refine ⟨(UInt16.add_zero _).symm, ?_, rfl⟩
    rw [show UInt32.ofNat 0 = 0 from rfl, UInt32.zero_mul, UInt32.add_zero]
    rfl
  | succ n ih =>
    obtain ⟨sequence, timestamp, increment⟩ := ih
    refine ⟨?_, ?_, increment⟩
    · change (state.advanced n).sequence + 1 = _
      rw [sequence, UInt16.ofNat_add, UInt16.add_assoc]
      rfl
    · change (state.advanced n).timestamp + (state.advanced n).timestampIncrement = _
      rw [timestamp, increment, UInt32.ofNat_add, UInt32.add_mul, UInt32.add_assoc, UInt32.ofNat_one, UInt32.one_mul]

/-- The payloads that the send task owes for the frames it took. -/
def SendRecord.payloads (session : MediaSession κ) (record : SendRecord) : List (List UInt8) :=
  session.codec.encodings session.sendCodec record.taken

/-- The frames are taken in order, the packets are one for each encoding that
is not empty, each with its header, and none follows a failed send. -/
structure SendRecord.GapFree (session : MediaSession κ) (record : SendRecord) : Prop where
  inOrder : record.taken <+: record.offered
  onePerEncoding : record.handed.length = (record.payloads session).length
  carries : ∀ i payload, (record.payloads session)[i]? = some payload →
    ∃ first packet, record.first = some first ∧ record.handed[i]? = some packet ∧
      parseRtpPacket session.crate packet = some {
        payload := payload
        timestamp := first.timestamp + UInt32.ofNat i * session.codec.rtpTimestampIncrement session.sendCodec
        sequence := first.sequence + UInt16.ofNat i
        ssrc := first.ssrc
        payloadType := session.payloadType }
  failure : ∀ i, record.results[i]? = some false → record.handed.length = i + 1

/-- The send task takes up a frame whose encoding is not empty, under a payload
type above the limit of the packet builder. -/
def BuilderRefuses (session : MediaSession κ) (h : SendHistory κ) (act : CallAct) : Prop :=
  127 < session.payloadType ∧ act = .sendTask .recv ∧ ∃ task frame later, h.state.sendTask = .running (task, none) ∧
    h.state.audioOut.queue = frame :: later ∧ (session.codec.encode task.codec frame.samples).1 ≠ []

/-- What the queue of `audio_out` keeps. -/
structure FrameQueue (h : SendHistory κ) : Prop where
  alive : h.state.audioOut.receiverAlive = true → h.record.offered = h.record.taken ++ h.state.audioOut.queue
  dead : h.state.audioOut.receiverAlive = false → h.state.audioOut.queue = []
  order : h.record.taken <+: h.record.offered

/-- What a running send task has done, with the packet it holds. -/
structure SendLoop.Ready (session : MediaSession κ) (record : SendRecord) (task : SendLoop κ)
    (hand : Option (List UInt8)) : Prop where
  header : ∃ first, record.first = some first ∧ task.rtpState = first.advanced record.handed.length
  codec : task.codec = session.codec.encoded session.sendCodec record.taken
  even : record.handed.length = (record.payloads session).length
  answered : record.results.length + hand.toList.length = record.handed.length
  succeeded : false ∉ record.results

/-- What holds of the outgoing side in every state. -/
structure Streams (session : MediaSession κ) (sendTask : Task (SendLoop κ × Option (List UInt8)) TaskExit)
    (record : SendRecord) : Prop where
  idle : sendTask = .unspawned ∨ sendTask = .spawned → record.taken = [] ∧ record.handed = [] ∧ record.results = []
  running : ∀ task hand, sendTask = .running (task, hand) → task.Ready session record hand
  first : ∀ first, record.first = some first → first.payloadType = session.payloadType ∧
    first.timestampIncrement = session.codec.rtpTimestampIncrement session.sendCodec
  built : ∀ i packet, record.handed[i]? = some packet → ∃ first payload, record.first = some first ∧
    (record.payloads session)[i]? = some payload ∧
      buildRtpPacket session.crate payload (first.advanced i) = some packet
  failure : ∀ i, record.results[i]? = some false → record.handed.length = i + 1

theorem FrameQueue.listens {h : SendHistory κ} {frame : AudioFrame} {later : List AudioFrame} (frames : FrameQueue h)
    (queue : h.state.audioOut.queue = frame :: later) : h.state.audioOut.receiverAlive = true := by
  rw [← Bool.not_eq_false]
  intro dead
  cases queue.symm.trans (frames.dead dead)

theorem FrameQueue.takes {h : SendHistory κ} {frame : AudioFrame} {later : List AudioFrame} (frames : FrameQueue h)
    (queue : h.state.audioOut.queue = frame :: later) : h.record.offered = h.record.taken ++ [frame] ++ later := by
  rw [frames.alive (frames.listens queue), queue, List.append_assoc, List.singleton_append]

theorem Sends.frameQueue {session : MediaSession κ} {h k : SendHistory κ} {act : CallAct}
    (step : Sends session h act k) (frames : FrameQueue h) : FrameQueue k := by
  cases step with
  | leaves other leaves =>
    refine ⟨fun alive => ?_, fun dead => ?_, frames.order⟩
    · rw [leaves.queue]
      exact frames.alive (leaves.receiver ▸ alive)
    · rw [leaves.queue]
      exact frames.dead (leaves.receiver ▸ dead)
  | puts sent =>
    obtain ⟨alive, rfl⟩ := Channel.send_eq_some_iff.mp sent
    refine ⟨fun _ => ?_, fun dead => Bool.noConfusion (alive.symm.trans dead), ?_⟩
    · simp only [frames.alive alive, List.append_assoc]
    · exact frames.order.trans (List.prefix_append _ _)
  | starts => exact ⟨frames.alive, frames.dead, frames.order⟩
  | cancelled | closes => exact ⟨nofun, fun _ => rfl, frames.order⟩
  | sent => exact ⟨frames.alive, frames.dead, frames.order⟩
  | fails => exact ⟨nofun, fun _ => rfl, frames.order⟩
  | skips unsent queue | hands unsent queue =>
    have takes := frames.takes queue
    exact ⟨fun _ => takes, fun dead => Bool.noConfusion ((frames.listens queue).symm.trans dead), ⟨_, takes.symm⟩⟩
  | panics unsent queue => exact ⟨nofun, fun _ => rfl, ⟨_, (frames.takes queue).symm⟩⟩

/-- What taking one more frame adds to the payloads. -/
theorem SendLoop.Ready.payloads_take {session : MediaSession κ} {record : SendRecord} {task : SendLoop κ}
    {hand : Option (List UInt8)} (ready : task.Ready session record hand) (frame : AudioFrame) :
    session.codec.encodings session.sendCodec (record.taken ++ [frame]) =
        record.payloads session ++ session.codec.encodings task.codec [frame] ∧
      session.codec.encoded session.sendCodec (record.taken ++ [frame]) =
        (session.codec.encode task.codec frame.samples).2 := by
  rw [Codec.encodings_append, Codec.encoded_append, ← ready.codec]
  exact ⟨rfl, rfl⟩

theorem Codec.encodings_empty {codec : Codec κ} {state : κ} {frame : AudioFrame}
    (empty : (codec.encode state frame.samples).1 = []) : codec.encodings state [frame] = [] := by
  simp only [encodings, empty, List.isEmpty_nil, if_true]

theorem Codec.encodings_some {codec : Codec κ} {state : κ} {frame : AudioFrame}
    (some : (codec.encode state frame.samples).1 ≠ []) :
    codec.encodings state [frame] = [(codec.encode state frame.samples).1] := by
  have payload : (codec.encode state frame.samples).1.isEmpty = false := List.isEmpty_eq_false_iff.mpr some
  simp only [encodings, payload, Bool.false_eq_true, if_false]

/-- Frames that are taken up after a packet was handed over leave it the packet
of its payload. -/
theorem Streams.built_take {session : MediaSession κ} {sendTask : Task (SendLoop κ × Option (List UInt8)) TaskExit}
    {record : SendRecord} {i : Nat} {packet : List UInt8} (streams : Streams session sendTask record)
    {later : List (List UInt8)} (there : record.handed[i]? = some packet) :
    ∃ first payload, record.first = some first ∧ (record.payloads session ++ later)[i]? = some payload ∧
      buildRtpPacket session.crate payload (first.advanced i) = some packet := by
  obtain ⟨first, payload, begun, owed, built⟩ := streams.built i packet there
  refine ⟨first, payload, begun, ?_, built⟩
  rw [List.getElem?_append_left (List.getElem?_eq_some_iff.mp owed).1, owed]

theorem SendLoop.Ready.no_failure {session : MediaSession κ} {record : SendRecord} {task : SendLoop κ}
    {hand : Option (List UInt8)} {i : Nat} (ready : task.Ready session record hand) :
    record.results[i]? ≠ some false := fun failed => ready.succeeded (List.mem_of_getElem? failed)

/-- A loop that starts owes nothing yet. -/
theorem SendLoop.Ready.start {session : MediaSession κ} {record : SendRecord} (taken : record.taken = [])
    (handed : record.handed = []) (results : record.results = []) (ssrc : UInt32) (sequence : UInt16)
    (timestamp : UInt32) :
    (session.sendLoop ssrc sequence timestamp).Ready session
      { record with first := some (session.sendLoop ssrc sequence timestamp).rtpState } none := by
  refine ⟨⟨_, rfl, by rw [handed]; rfl⟩, by rw [taken]; rfl, ?_, ?_, ?_⟩
  · rw [handed, SendRecord.payloads, taken]
    rfl
  · rw [results, handed]
    rfl
  · rw [results]
    exact List.not_mem_nil

theorem SendLoop.Ready.answer {session : MediaSession κ} {record : SendRecord} {task : SendLoop κ}
    {packet : List UInt8} (ready : task.Ready session record (some packet)) :
    task.Ready session { record with results := record.results ++ [true] } none := by
  refine ⟨ready.header, ready.codec, ready.even, ?_, ?_⟩
  · rw [List.length_append]
    exact ready.answered
  · rw [List.mem_append]
    rintro (old | new)
    · exact ready.succeeded old
    · cases List.mem_singleton.mp new

theorem SendLoop.Ready.skip {session : MediaSession κ} {record : SendRecord} {task : SendLoop κ} {frame : AudioFrame}
    (ready : task.Ready session record none) (empty : (session.codec.encode task.codec frame.samples).1 = []) :
    ({ task with codec := (session.codec.encode task.codec frame.samples).2 } : SendLoop κ).Ready session
      { record with taken := record.taken ++ [frame] } none := by
  obtain ⟨payloads, codec⟩ := ready.payloads_take frame
  rw [Codec.encodings_empty empty, List.append_nil] at payloads
  refine ⟨ready.header, codec.symm, ?_, ready.answered, ready.succeeded⟩
  rw [SendRecord.payloads, payloads]
  exact ready.even

theorem SendLoop.Ready.hand {session : MediaSession κ} {record : SendRecord} {task : SendLoop κ} {frame : AudioFrame}
    (ready : task.Ready session record none) (some : (session.codec.encode task.codec frame.samples).1 ≠ [])
    (packet : List UInt8) :
    (⟨task.rtpState.next.2, (session.codec.encode task.codec frame.samples).2⟩ : SendLoop κ).Ready session
      { record with taken := record.taken ++ [frame], handed := record.handed ++ [packet] } (.some packet) := by
  obtain ⟨payloads, codec⟩ := ready.payloads_take frame
  rw [Codec.encodings_some some] at payloads
  obtain ⟨first, begun, state⟩ := ready.header
  refine ⟨⟨first, begun, ?_⟩, codec.symm, ?_, ?_, ready.succeeded⟩
  · rw [List.length_append, state]
    rfl
  · rw [SendRecord.payloads, payloads, List.length_append, List.length_append, ready.even]
    rfl
  · rw [List.length_append, ← ready.answered]
    rfl

theorem Sends.streams {session : MediaSession κ} {h k : SendHistory κ} {act : CallAct} (step : Sends session h act k)
    (fresh : h.state.handleCall = .accepted → h.state.sendTask = .unspawned)
    (streams : Streams session h.state.sendTask h.record) : Streams session k.state.sendTask k.record := by
  cases step with
  | leaves other leaves =>
    rcases leaves.sendTask with same | ⟨place, spawned⟩
    · rw [same]
      exact streams
    · rw [spawned]
      exact ⟨fun _ => streams.idle (Or.inl (fresh place)), nofun, streams.first, streams.built, streams.failure⟩
  | puts sent =>
    refine ⟨streams.idle, fun task hand running => ?_, streams.first, streams.built, streams.failure⟩
    have ready := streams.running task hand running
    exact ⟨ready.header, ready.codec, ready.even, ready.answered, ready.succeeded⟩
  | @starts ssrc sequence timestamp unstarted =>
    obtain ⟨taken, handed, results⟩ := streams.idle (Or.inr unstarted)
    refine ⟨nofun, ?_, ?_, ?_, ?_⟩
    · intro task hand same
      cases same
      exact .start taken handed results ssrc sequence timestamp
    · intro first same
      cases same
      exact ⟨rfl, rfl⟩
    · intro i packet there
      rw [handed] at there
      cases there
    · intro i failed
      rw [results] at failed
      cases failed
  | cancelled | closes => exact ⟨nofun, nofun, streams.first, streams.built, streams.failure⟩
  | @sent task packet inHand =>
    have ready := streams.running task (some packet) inHand
    refine ⟨nofun, ?_, streams.first, streams.built, fun i failed => absurd failed ready.answer.no_failure⟩
    intro _ _ same
    cases same
    exact ready.answer
  | @fails task packet inHand =>
    have ready := streams.running task (some packet) inHand
    have answered : h.record.results.length + 1 = h.record.handed.length := ready.answered
    refine ⟨nofun, nofun, streams.first, streams.built, ?_⟩
    intro i failed
    by_cases old : i < h.record.results.length
    · rw [List.getElem?_append_left old] at failed
      exact absurd failed ready.no_failure
    · have bound := (List.getElem?_eq_some_iff.mp failed).1
      rw [List.length_append, List.length_singleton] at bound
      change h.record.handed.length = i + 1
      omega
  | @skips task frame later unsent queue empty =>
    have ready := streams.running task none unsent
    refine ⟨nofun, ?_, streams.first, ?_, streams.failure⟩
    · intro _ _ same
      cases same
      exact ready.skip empty
    · intro i packet there
      rw [SendRecord.payloads, (ready.payloads_take frame).1]
      exact streams.built_take there
  | @panics task frame later unsent queue some refused =>
    have ready := streams.running task none unsent
    refine ⟨nofun, nofun, streams.first, ?_, streams.failure⟩
    intro i packet there
    rw [SendRecord.payloads, (ready.payloads_take frame).1]
    exact streams.built_take there
  | @hands task frame later packet unsent queue some built =>
    have ready := streams.running task none unsent
    obtain ⟨first, begun, state⟩ := ready.header
    refine ⟨nofun, ?_, streams.first, ?_, fun i failed => absurd failed ready.no_failure⟩
    · intro _ _ same
      cases same
      exact ready.hand some packet
    · intro i handed there
      rw [SendRecord.payloads, (ready.payloads_take frame).1, Codec.encodings_some some]
      by_cases old : i < h.record.handed.length
      · rw [List.getElem?_append_left old] at there
        exact streams.built_take there
      · have bound := (List.getElem?_eq_some_iff.mp there).1
        rw [List.length_append, List.length_singleton] at bound
        obtain rfl : i = h.record.handed.length := by omega
        rw [List.getElem?_concat_length] at there
        cases there
        refine ⟨first, _, begun, ?_, state ▸ built⟩
        rw [ready.even, List.getElem?_concat_length]

/-- What holds of the outgoing side of a call in every state. -/
structure Outgoing (session : MediaSession κ) (h : SendHistory κ) : Prop where
  fresh : h.state.handleCall = .accepted → h.state.sendTask = .unspawned
  frames : FrameQueue h
  streams : Streams session h.state.sendTask h.record

theorem Sends.fresh {session : MediaSession κ} {h k : SendHistory κ} {act : CallAct} (step : Sends session h act k)
    (fresh : h.state.handleCall = .accepted → h.state.sendTask = .unspawned) :
    k.state.handleCall = .accepted → k.state.sendTask = .unspawned := by
  cases step with
  | leaves other leaves =>
    intro place
    obtain ⟨before, same⟩ := leaves.place place
    exact same.trans (fresh before)
  | puts sent => exact fresh
  | starts task | cancelled task | closes task | skips task | panics task | hands task | sent task | fails task =>
    exact fun place => by cases task.symm.trans (fresh place)

theorem Sends.outgoing {session : MediaSession κ} {h k : SendHistory κ} {act : CallAct} (step : Sends session h act k)
    (outgoing : Outgoing session h) : Outgoing session k :=
  ⟨step.fresh outgoing.fresh, step.frameQueue outgoing.frames, step.streams outgoing.fresh outgoing.streams⟩

theorem outgoing_accepted (session : MediaSession κ) (now : Nat) : Outgoing session (.accepted now) := by
  refine ⟨fun _ => rfl, ⟨fun _ => rfl, nofun, List.prefix_rfl⟩, ⟨fun _ => ⟨rfl, rfl, rfl⟩, nofun, nofun, ?_, ?_⟩⟩
  · intro i packet there
    cases there
  · intro i failed
    cases failed

/-- A packet that was handed over reads back as its payload under the header
that is due. -/
theorem Streams.parsed {session : MediaSession κ} {sendTask : Task (SendLoop κ × Option (List UInt8)) TaskExit}
    {record : SendRecord} {i : Nat} {packet : List UInt8} (conforms : session.crate.Conforms)
    (streams : Streams session sendTask record) (there : record.handed[i]? = some packet) :
    ∃ first payload, record.first = some first ∧ (record.payloads session)[i]? = some payload ∧
      parseRtpPacket session.crate packet = some {
        payload := payload
        timestamp := first.timestamp + UInt32.ofNat i * session.codec.rtpTimestampIncrement session.sendCodec
        sequence := first.sequence + UInt16.ofNat i
        ssrc := first.ssrc
        payloadType := session.payloadType } := by
  obtain ⟨first, payload, begun, owed, built⟩ := streams.built i packet there
  obtain ⟨payloadType, increment⟩ := streams.first first begun
  obtain ⟨sequence, timestamp, _⟩ := first.advanced_numbers i
  obtain ⟨type, source⟩ := first.advanced_header i
  have fits : (first.advanced i).payloadType ≤ 127 := by
    rw [← UInt8.not_lt]
    intro large
    rw [buildRtpPacket, conforms.refuses _ _ _ _ _ large] at built
    cases built
  obtain ⟨again, same, parsed⟩ := conforms.roundTrip fits (Codec.ne_nil_of_mem_encodings (List.mem_of_getElem? owed))
  cases same.symm.trans built
  rw [sequence, timestamp, increment, type, source, payloadType] at parsed
  exact ⟨first, payload, begun, owed, parsed⟩

/-- The stream has no gap exactly if a packet was built for every payload. -/
theorem Outgoing.whole_iff {session : MediaSession κ} {h : SendHistory κ} (conforms : session.crate.Conforms)
    (outgoing : Outgoing session h) :
    h.record.GapFree session ↔ h.record.handed.length = (h.record.payloads session).length := by
  refine ⟨fun whole => whole.onePerEncoding, fun even => ⟨outgoing.frames.order, even, ?_, outgoing.streams.failure⟩⟩
  intro i payload owed
  obtain ⟨bound, _⟩ := List.getElem?_eq_some_iff.mp owed
  have there := List.getElem?_eq_getElem (even ▸ bound : i < h.record.handed.length)
  obtain ⟨first, _, begun, owed', parsed⟩ := outgoing.streams.parsed conforms there
  cases owed.symm.trans owed'
  exact ⟨first, _, begun, there, parsed⟩

theorem Streams.payloadType {session : MediaSession κ} {record : SendRecord} {task : SendLoop κ}
    {hand : Option (List UInt8)} (streams : Streams session (.running (task, hand)) record) :
    task.rtpState.payloadType = session.payloadType := by
  obtain ⟨first, begun, state⟩ := (streams.running task hand rfl).header
  rw [state, (first.advanced_header _).1]
  exact (streams.first first begun).1

theorem Sends.even_iff {session : MediaSession κ} {h k : SendHistory κ} {act : CallAct}
    (conforms : session.crate.Conforms) (outgoing : Outgoing session h) (step : Sends session h act k)
    (even : h.record.handed.length = (h.record.payloads session).length) :
    k.record.handed.length = (k.record.payloads session).length ↔ ¬ BuilderRefuses session h act := by
  have streams := outgoing.streams
  cases step with
  | leaves other =>
    refine iff_of_true even ?_
    rintro ⟨_, same, _⟩
    exact other _ same
  | puts | starts | cancelled | sent | fails =>
    refine iff_of_true even ?_
    rintro ⟨_, same, _⟩
    cases same
  | closes unsent queue =>
    refine iff_of_true even ?_
    rintro ⟨_, _, _, _, _, _, there, _⟩
    cases queue.symm.trans there
  | @skips task frame later unsent queue empty =>
    have ready := streams.running task none unsent
    rw [SendRecord.payloads, (ready.payloads_take frame).1, Codec.encodings_empty empty, List.append_nil]
    refine iff_of_true even ?_
    rintro ⟨_, _, _, _, _, running, there, some⟩
    cases unsent.symm.trans running
    cases queue.symm.trans there
    exact some empty
  | @panics task frame later unsent queue some refused =>
    have ready := streams.running task none unsent
    rw [SendRecord.payloads, (ready.payloads_take frame).1, Codec.encodings_some some, List.length_append]
    refine iff_of_false ?_ (not_not_intro ⟨?_, rfl, task, frame, later, unsent, queue, some⟩)
    · change h.record.handed.length ≠ _ + 1
      omega
    · rw [unsent] at streams
      rw [← streams.payloadType]
      by_contra fits
      rw [buildRtpPacket, conforms.writes _ _ _ _ _ (UInt8.not_lt.mp fits) some] at refused
      cases refused
  | @hands task frame later packet unsent queue some built =>
    have ready := streams.running task none unsent
    rw [SendRecord.payloads, (ready.payloads_take frame).1, Codec.encodings_some some, List.length_append,
      List.length_append, even]
    refine iff_of_true rfl ?_
    rintro ⟨large, _⟩
    rw [unsent] at streams
    rw [← streams.payloadType] at large
    rw [buildRtpPacket, conforms.refuses _ _ _ _ _ large] at built
    cases built

/-- The packets of a call are gap-free along a run exactly if the builder never
gets a payload under a payload type above 127. -/
theorem gapFree_iff {session : MediaSession κ} (conforms : session.crate.Conforms) {now : Nat} {acts : List CallAct}
    {last : SendHistory κ} (reach : run (sendHistoryStep session) (.accepted now) acts = some last) :
    (∀ h, Visits (sendHistoryStep session) (.accepted now) acts h → h.record.GapFree session) ↔
      ∀ h act, Takes (sendHistoryStep session) (.accepted now) acts h act → ¬ BuilderRefuses session h act := by
  refine visits_iff_takes (I := Outgoing session) (outgoing_accepted session now) ?_ ?_ ?_ reach
  · exact ((outgoing_accepted session now).whole_iff conforms).mpr rfl
  · exact fun h act k outgoing step => (sends_of_step step).outgoing outgoing
  · intro h act k outgoing before step
    have moved := sends_of_step step
    rw [(moved.outgoing outgoing).whole_iff conforms]
    exact moved.even_iff conforms outgoing ((outgoing.whole_iff conforms).mp before)

/-- Under a payload type that fits the header the stream is gap-free in every
state of every run. -/
theorem gapFree_of_le {session : MediaSession κ} (conforms : session.crate.Conforms)
    (fits : session.payloadType ≤ 127) {now : Nat} {acts : List CallAct} {last : SendHistory κ}
    (reach : run (sendHistoryStep session) (.accepted now) acts = some last) : last.record.GapFree session := by
  have even : Outgoing session last ∧ last.record.handed.length = (last.record.payloads session).length := by
    refine run_invariant
      (P := fun h => Outgoing session h ∧ h.record.handed.length = (h.record.payloads session).length)
      ⟨outgoing_accepted session now, rfl⟩ ?_ reach
    rintro h act k ⟨outgoing, even⟩ step
    have moved := sends_of_step step
    refine ⟨moved.outgoing outgoing, (moved.even_iff conforms outgoing even).mpr ?_⟩
    rintro ⟨large, _⟩
    exact UInt8.not_lt.mpr fits large
  exact (even.1.whole_iff conforms).mpr even.2

/-- A session whose codec encodes a sample as one byte. -/
def talkingSession (payloadType : UInt8) : MediaSession Unit :=
  { crate := fixedHeaderRtpRs
    codec := ⟨fun _ _ => ([], ()), fun _ samples => (samples.map fun sample => sample.toUInt16.toUInt8, ()),
      fun _ => 160⟩
    recvCodec := (), sendCodec := (), payloadType, mediaReceiveTimeout := 30, maxInstant := UInt64.size }

/-- Three frames, of which the second is empty and the send of the third fails.
The sequence number and the timestamp wrap around. -/
def threeFrames : List CallAct :=
  [.handleCall, .handleCall, .sendTask (.start 7 0xffff 0xffffffff), .handlerTask (.put ⟨[1]⟩),
    .handlerTask (.put ⟨[]⟩), .sendTask .recv, .sendTask (.sent true), .sendTask .recv,
    .handlerTask (.put ⟨[3]⟩), .sendTask .recv, .sendTask (.sent false)]

theorem gapFree_threeFrames : ∃ last, run (sendHistoryStep (talkingSession 0)) (.accepted 0) threeFrames = some last ∧
    last.record.handed = [fixedHeader 0 7 0xffff 0xffffffff ++ [1], fixedHeader 0 7 0 159 ++ [3]] ∧
    ((∀ h, Visits (sendHistoryStep (talkingSession 0)) (.accepted 0) threeFrames h →
      h.record.GapFree (talkingSession 0)) ↔
      ∀ h act, Takes (sendHistoryStep (talkingSession 0)) (.accepted 0) threeFrames h act →
        ¬ BuilderRefuses (talkingSession 0) h act) := by
  have handed : (run (sendHistoryStep (talkingSession 0)) (.accepted 0) threeFrames).map (fun h => h.record.handed) =
      some [fixedHeader 0 7 0xffff 0xffffffff ++ [1], fixedHeader 0 7 0 159 ++ [3]] := by decide +kernel
  refine exists_of_run (by decide +kernel) fun last reach => ⟨?_, gapFree_iff fixedHeaderRtpRs_conforms reach⟩
  rw [reach] at handed
  exact Option.some.inj handed

/-- Under the payload type 200 the first frame ends the send task, and no packet
is handed over for it. -/
theorem gapFree_fails : ∃ last, run (sendHistoryStep (talkingSession 200)) (.accepted 0)
      [.handleCall, .handleCall, .sendTask (.start 7 1 1), .handlerTask (.put ⟨[1]⟩), .sendTask .recv] = some last ∧
    last.record.taken = [⟨[1]⟩] ∧ last.record.handed = [] ∧ ¬ last.record.GapFree (talkingSession 200) := by
  have record : (run (sendHistoryStep (talkingSession 200)) (.accepted 0)
      [.handleCall, .handleCall, .sendTask (.start 7 1 1), .handlerTask (.put ⟨[1]⟩), .sendTask .recv]).map
      (fun h => (h.record.taken, h.record.handed)) = some ([⟨[1]⟩], []) := by decide +kernel
  refine exists_of_run (by decide +kernel) fun last reach => ?_
  rw [reach] at record
  obtain ⟨taken, handed⟩ := Prod.mk.inj (Option.some.inj record)
  refine ⟨taken, handed, fun whole => ?_⟩
  have even := whole.onePerEncoding
  rw [handed, SendRecord.payloads, taken] at even
  cases even

end RsipstackServer
