import RsipstackServer.EchoServer
import RsipstackServer.WireRoundTrip

namespace RsipstackServer
open Foundation
universe u
variable {κ : Type u} {session : MediaSession κ}

/-- What a payload comes back as. -/
def PcmKind.onWire : PcmKind → List UInt8 → List UInt8
  | pcmu, payload => payload.map canonicalUlaw
  | pcma, payload => payload
  | l16, payload => if payload.length % 2 = 1 then payload.dropLast else payload

theorem PcmKind.encode_decode (kind : PcmKind) (payload : List UInt8) :
    kind.encode (kind.decode payload) = kind.onWire payload := by
  cases kind with
  | pcmu =>
    have whole := downsampled_upsampled encodeUlawSample decodeUlawSample payload
    simp only [encodeUlawSample_decodeUlawSample] at whole
    exact whole
  | pcma => exact pcmaCodec_encode_decode payload
  | l16 => exact encode_decodeL16 payload

/-- What comes back of all payloads: nothing is sent for an empty one. -/
def PcmKind.echoed (kind : PcmKind) (payloads : List (List UInt8)) : List (List UInt8) :=
  (payloads.map kind.onWire).filter fun payload => !payload.isEmpty

theorem PcmKind.encodings_decodings (kind : PcmKind) (state other : Unit) (payloads : List (List UInt8)) :
    kind.codec.encodings state (kind.codec.decodings other payloads) = kind.echoed payloads := by
  induction payloads with
  | nil => rfl
  | cons payload payloads ih =>
    have back : (kind.codec.encode state (kind.codec.decode other payload).1).1 = kind.onWire payload :=
      kind.encode_decode payload
    simp only [Codec.decodings, Codec.encodings, back, echoed, List.map_cons, List.filter_cons]
    rw [← PcmKind.echoed, ← ih]
    cases (kind.onWire payload).isEmpty <;> rfl

/-- The payload types and the payloads of the packets that were handed to the
socket, where they can be read. -/
def SendRecord.returned (session : MediaSession κ) (record : SendRecord) : List (Option (UInt8 × List UInt8)) :=
  record.handed.map fun packet => (parseRtpPacket session.crate packet).map fun raw => (raw.payloadType, raw.payload)

theorem Streams.returned {sendTask : Task (SendLoop κ × Option (List UInt8)) TaskExit} {record : SendRecord}
    (conforms : session.crate.Conforms) (streams : Streams session sendTask record) :
    record.returned session =
      ((record.payloads session).take record.handed.length).map fun payload =>
        some (session.payloadType, payload) := by
  refine List.ext_getElem? fun i => ?_
  rw [SendRecord.returned, List.getElem?_map, List.getElem?_map]
  by_cases inside : i < record.handed.length
  · have there := List.getElem?_eq_getElem inside
    obtain ⟨first, payload, _, owed, parsed⟩ := streams.parsed conforms there
    rw [there, List.getElem?_take_of_lt inside, owed, Option.map_some, Option.map_some, parsed, Option.map_some]
  · have beyond : ((record.payloads session).take record.handed.length).length ≤ i := by
      rw [List.length_take]
      omega
    rw [List.getElem?_eq_none (Nat.not_lt.mp inside), List.getElem?_eq_none beyond]
    rfl

/-- The handler got decodings of the packets only, in their order. -/
theorem Hears.delivered_prefix {h k : ReceiveHistory κ} {act : CallAct} (step : Hears session h act k)
    (decoding : Decoding session h)
    (before : h.record.delivered <+: session.codec.decodings session.recvCodec (h.record.payloads session)) :
    k.record.delivered <+: session.codec.decodings session.recvCodec (k.record.payloads session) := by
  cases step.taking with
  | quiet _ heard delivered _ =>
    rw [delivered, ReceiveRecord.payloads_of_same heard]
    exact before
  | overflows _ _ heard delivered _ =>
    rw [delivered, ReceiveRecord.payloads_of_concat heard, Codec.decodings_concat]
    exact before.trans (List.prefix_append _ _)
  | @decodes task raw deadline takes _ heard delivered _ _ =>
    have frames := decoding.frames task takes.1
    have codec := decoding.decoder task takes.1
    rw [delivered, ReceiveRecord.payloads_of_concat heard, Codec.decodings_concat, ← frames, ← codec]

/-- What holds of an echoing call in every state. -/
structure EchoCall.Sound (session : MediaSession κ) (e : EchoCall κ) : Prop where
  relays : e.Relays
  decoding : Decoding session e.media.incoming
  delivered : e.media.record.1.delivered <+: session.codec.decodings session.recvCodec
    (e.media.record.1.payloads session)
  outgoing : Outgoing session e.media.outgoing
  even : session.payloadType ≤ 127 → e.media.record.2.handed.length = (e.media.record.2.payloads session).length

theorem EchoCall.sound_accepted (session : MediaSession κ) (now : Nat) :
    (EchoCall.accepted now : EchoCall κ).Sound session :=
  ⟨relays_accepted now, decoding_accepted now, List.prefix_rfl, outgoing_accepted session now, fun _ => rfl⟩

theorem EchoCall.Sound.step {e f : EchoCall κ} {act : EchoAct} (conforms : session.crate.Conforms)
    (sound : e.Sound session) (step : e.step session act = some f) : f.Sound session := by
  obtain ⟨own, moved⟩ := step_media step
  obtain ⟨hears, sends⟩ := mediaHistoryStep_sides moved
  refine ⟨sound.relays.step (echoes_of_step step), hears.decoding sound.decoding,
    hears.delivered_prefix sound.decoding sound.delivered, sends.outgoing sound.outgoing, fun fits => ?_⟩
  refine (sends.even_iff conforms sound.outgoing (sound.even fits)).mpr ?_
  rintro ⟨large, _⟩
  exact UInt8.not_lt.mpr fits large

/-- The call is up, and no frame is on its way through it. -/
structure EchoCall.Settled (e : EchoCall κ) : Prop where
  receiving : ∃ task, e.media.state.receiveTask = .running task
  listening : e.media.state.audioIn.receiverAlive = true
  sending : e.media.state.audioOut.receiverAlive = true
  selecting : e.phase = .selecting
  taken : e.media.state.audioIn.queue = []
  sent : e.media.state.audioOut.queue = []

theorem Codec.encodings_prefix {codec : Codec κ} {state : κ} {frames later : List AudioFrame}
    (before : frames <+: later) :
    codec.encodings state frames <+: codec.encodings state later := by
  obtain ⟨rest, rfl⟩ := before
  rw [codec.encodings_append]
  exact List.prefix_append _ _

/-- What goes out is the encoding of the decoding of what came in. -/
theorem EchoCall.Sound.payloads_prefix {e : EchoCall κ} (sound : e.Sound session) :
    e.media.record.2.payloads session <+: session.codec.encodings session.sendCodec
      (session.codec.decodings session.recvCodec (e.media.record.1.payloads session)) :=
  Codec.encodings_prefix (sound.outgoing.frames.order.trans (sound.relays.order.trans sound.delivered))

theorem EchoCall.Sound.payloads_eq {e : EchoCall κ} (sound : e.Sound session) (settled : e.Settled) :
    e.media.record.2.payloads session = session.codec.encodings session.sendCodec
      (session.codec.decodings session.recvCodec (e.media.record.1.payloads session)) := by
  obtain ⟨task, receiving⟩ := settled.receiving
  have frames : e.media.record.1.delivered = _ := sound.decoding.frames task receiving
  have whole := sound.relays.whole settled.listening
  have offered : e.media.record.2.offered = e.media.record.2.taken ++ e.media.state.audioOut.queue :=
    sound.outgoing.frames.alive settled.sending
  have held : e.holding = [] := by rw [holding, settled.selecting]
  rw [settled.taken, held, List.append_nil, List.append_nil] at whole
  rw [settled.sent, List.append_nil] at offered
  rw [SendRecord.payloads, ← offered, ← whole]
  exact congrArg _ frames

/-- The peer hears what it said, packet by packet, under the negotiated payload
type: every state of the call has sent back the first packets of those it has
received, and where no frame is on its way it has sent back all of them. -/
structure EchoCall.Returns (kind : PcmKind) (session : MediaSession Unit) (e : EchoCall Unit) : Prop where
  inOrder : e.media.record.2.returned session <+:
    (kind.echoed (e.media.record.1.payloads session)).map fun payload => some (session.payloadType, payload)
  complete : session.payloadType ≤ 127 → e.Settled → e.media.record.2.returned session =
    (kind.echoed (e.media.record.1.payloads session)).map fun payload => some (session.payloadType, payload)

theorem EchoCall.sound_of_run {now : Nat} {acts : List EchoAct} {e : EchoCall κ} (conforms : session.crate.Conforms)
    (reach : run (EchoCall.step session) (.accepted now) acts = some e) : e.Sound session :=
  run_invariant (sound_accepted session now) (fun _ _ _ before step => before.step conforms step) reach

theorem EchoCall.Sound.returns {kind : PcmKind} {session : MediaSession Unit} {e : EchoCall Unit}
    (sound : e.Sound session) (codec : session.codec = kind.codec) (conforms : session.crate.Conforms) :
    e.Returns kind session := by
  have returned := sound.outgoing.streams.returned conforms
  have echoed : session.codec.encodings session.sendCodec
      (session.codec.decodings session.recvCodec (e.media.record.1.payloads session)) =
      kind.echoed (e.media.record.1.payloads session) := by
    rw [codec]
    exact kind.encodings_decodings _ _ _
  refine ⟨?_, fun fits settled => ?_⟩
  · have before := sound.payloads_prefix
    rw [echoed] at before
    exact returned ▸ ((List.take_prefix _ _).trans before).map _
  · have whole := sound.payloads_eq settled
    have even := sound.even fits
    rw [echoed] at whole
    refine returned.trans ?_
    change (List.take e.media.record.2.handed.length (e.media.record.2.payloads session)).map _ = _
    rw [even, List.take_length, whole]

/-- The echo server echoes: an accepted call with an `EchoHandler` under one of
the PCM codecs returns the audio of its peer byte for byte, as the codec writes
it. -/
theorem echoServer_returns {kind : PcmKind} {session : MediaSession Unit} (codec : session.codec = kind.codec)
    (conforms : session.crate.Conforms) {now : Nat} {acts : List EchoAct} {e : EchoCall Unit}
    (reach : run (EchoCall.step session) (.accepted now) acts = some e) : e.Returns kind session :=
  (EchoCall.sound_of_run conforms reach).returns codec conforms

/-- A peer says two things under PCMU, of which the first has a negative zero,
and has heard them both. -/
def spokenTwice : List EchoAct :=
  [.other .handleCall, .other .handleCall, .other .receiveTask, .other (.sendTask (.start 7 1 2)),
    .other (.peerSends (fixedHeader 0 9 4 5 ++ [0x7f, 0x12])), .other .receiveTask,
    .other (.peerSends (fixedHeader 0 9 5 165 ++ [0x80])), .handler .recv, .other .receiveTask, .handler .send,
    .other (.sendTask .recv), .handler .recv, .other (.sendTask (.sent true)), .handler .send,
    .other (.sendTask .recv)]

theorem echoServer_returns_spokenTwice :
    ∃ e, run (EchoCall.step (pcmSession .pcmu)) (.accepted 0) spokenTwice = some e ∧
    e.media.record.2.handed = [fixedHeader 0 7 1 2 ++ [0xff, 0x12], fixedHeader 0 7 2 162 ++ [0x80]] ∧
    e.Returns .pcmu (pcmSession .pcmu) := by
  have handed : (run (EchoCall.step (pcmSession .pcmu)) (.accepted 0) spokenTwice).map
    (fun e => e.media.record.2.handed) =
      some [fixedHeader 0 7 1 2 ++ [0xff, 0x12], fixedHeader 0 7 2 162 ++ [0x80]] := by decide +kernel
  refine exists_of_run (by decide +kernel) fun e reach => ⟨?_, ?_⟩
  · rw [reach] at handed
    exact Option.some.inj handed
  · exact echoServer_returns rfl fixedHeaderRtpRs_conforms reach

end RsipstackServer
