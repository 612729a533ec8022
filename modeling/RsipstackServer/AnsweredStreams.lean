import RsipstackServer.AnsweredPorts
import RsipstackServer.AnnouncedStream

namespace RsipstackServer
open Foundation
universe u
variable {κ : Type u} {session : CallId → MediaSession κ} {state : ServerState} {sessionId : CallId → UInt64}

/-- What one step of the server does to the accepted call `id`, if it has one. -/
inductive CallMoves (session : MediaSession κ) (id : CallId) :
    RunningAct → Option (CallState κ) → Option (CallState κ) → Prop
  | rests {act call} : (∀ own, act ≠ .media id own) → CallMoves session id act call call
  | begins {act call now} : (∀ own, act ≠ .media id own) →
      call = .accepted now ∨ call = (CallState.accepted now).cancel dialogToken →
        CallMoves session id act none (some call)
  | signals {act own call after} : (∀ own, act ≠ .media id own) → own = .dialogEnds ∨ own = .handleCall →
      callStep session call own = some after → CallMoves session id act (some call) (some after)
  | plays {own call after} : callStep session call own = some after →
      CallMoves session id (.media id own) (some call) (some after)

namespace LiveCalls
variable {s t : LiveCalls κ} {id other : CallId}

theorem call?_cancelDialog (s : LiveCalls κ) (id other : CallId) : (s.cancelDialog other).call? id = s.call? id ∨
    ∃ call, s.call? id = some call ∧ (s.cancelDialog other).call? id = some (call.cancel dialogToken) := by
  rcases cancelDialog_line s other id with same | ⟨rfl, call, there, cancelled⟩
  · exact Or.inl (by rw [call?, call?, same])
  · exact Or.inr ⟨call, call?_eq_some.mpr there, call?_eq_some.mpr cancelled⟩

/-- A step of the calls that is not one of the media of `id`. -/
theorem callMoves_foreign {act : LiveAct} {whole : RunningAct} (step : liveStep session s act = some t)
    (foreign : LiveAct.of id act = none) (apart : ∀ own, whole ≠ .media id own) :
    CallMoves (session id) id whole (s.call? id) (t.call? id) := by
  rcases (LiveCalls.component id).keeps s act t step foreign with same | ⟨none, first, ⟨now, rfl⟩, begun⟩
  · rw [show t.call? id = s.call? id from same]
    exact .rests apart
  · rw [show s.call? id = _ from none, show t.call? id = _ from begun]
    exact .begins apart (Or.inl rfl)

/-- The token of the dialog is cancelled after the call has moved. -/
theorem callMoves_cancelDialog {before : Option (CallState κ)} {whole : RunningAct}
    (apart : ∀ own, whole ≠ .media id own)
    (setUp : s.call? id = before ∨ before = none ∧ ∃ now, s.call? id = some (.accepted now)) :
    CallMoves (session id) id whole before ((s.cancelDialog other).call? id) := by
  rcases call?_cancelDialog s id other with same | ⟨call, there, cancelled⟩
  · rw [same]
    rcases setUp with kept | ⟨rfl, now, begun⟩
    · rw [kept]
      exact .rests apart
    · rw [begun]
      exact .begins apart (Or.inl rfl)
  · rw [cancelled]
    rcases setUp with kept | ⟨rfl, now, begun⟩
    · rw [← kept, there]
      exact .signals apart (Or.inl rfl) rfl
    · cases begun.symm.trans there
      exact .begins apart (Or.inr rfl)

end LiveCalls

theorem callMoves_of_step {s t : RunningServer κ} {act : RunningAct} (step : runningStep session s act = some t)
    (id : CallId) :
    CallMoves (session id) id act (s.calls.call? id) (t.calls.call? id) := by
  cases act with
  | signalling act =>
    obtain ⟨_, step⟩ := Option.ite_none_left_eq_some.mp step
    obtain ⟨sip, _, rfl⟩ := Option.map_eq_some_iff.mp step
    cases act with
    | dialogEnds other reason => exact LiveCalls.callMoves_cancelDialog (by simp) (Or.inl rfl)
    | _ => exact .rests (by simp)
  | handle other act =>
    obtain ⟨_, step⟩ := Option.ite_none_right_eq_some.mp step
    obtain ⟨sip, _, rfl⟩ := Option.map_eq_some_iff.mp step
    exact .rests (by simp)
  | alloc act =>
    cases act with
    | advance other chosen =>
      obtain ⟨_, step⟩ := Option.ite_none_right_eq_some.mp step
      obtain ⟨calls, moved, rfl⟩ := Option.map_eq_some_iff.mp step
      exact LiveCalls.callMoves_foreign moved rfl (by simp)
    | otherBinds port =>
      obtain ⟨calls, moved, rfl⟩ := Option.map_eq_some_iff.mp step
      exact LiveCalls.callMoves_foreign moved rfl (by simp)
  | allocated other =>
    simp only [runningStep] at step
    split at step
    · obtain ⟨sip, _, rfl⟩ := Option.map_eq_some_iff.mp step
      exact .rests (by simp)
    · cases step
  | connect | create => exact LiveCalls.callMoves_foreign (RunningServer.both_eq_some.mp step).2 rfl (by simp)
  | accept other ok now =>
    obtain ⟨calls, moved, same⟩ := Option.map_eq_some_iff.mp (RunningServer.both_eq_some.mp step).2
    rw [← same]
    split
    · refine LiveCalls.callMoves_cancelDialog (by simp) ?_
      rcases (LiveCalls.component id).keeps s.calls _ calls moved rfl with kept | ⟨none, first, ⟨now, rfl⟩, begun⟩
      · exact Or.inl kept
      · exact Or.inr ⟨none, now, begun⟩
    · exact LiveCalls.callMoves_foreign moved rfl (by simp)
  | close other =>
    obtain ⟨calls, moved, rfl⟩ := Option.map_eq_some_iff.mp step
    exact LiveCalls.callMoves_foreign moved rfl (by simp)
  | proceed other =>
    have moved := (RunningServer.both_eq_some.mp step).2
    by_cases mine : other = id
    · subst mine
      obtain ⟨call, after, there, played, now, _⟩ := LiveCalls.liveStep_media moved
      rw [LiveCalls.call?_eq_some.mpr there, LiveCalls.call?_eq_some.mpr now]
      exact .signals (by simp) (Or.inr rfl) played
    · exact LiveCalls.callMoves_foreign moved (if_neg mine) (by simp)
  | media other act =>
    obtain ⟨_, step⟩ := Option.ite_none_left_eq_some.mp step
    obtain ⟨calls, moved, rfl⟩ := Option.map_eq_some_iff.mp step
    by_cases mine : other = id
    · subst mine
      obtain ⟨call, after, there, played, now, _⟩ := LiveCalls.liveStep_media moved
      rw [LiveCalls.call?_eq_some.mpr there, LiveCalls.call?_eq_some.mpr now]
      exact .plays played
    · exact LiveCalls.callMoves_foreign moved (if_neg mine) (by simp [mine])

/-- What is written down of the outgoing side of all calls. -/
abbrev SendRecords := CallId → SendRecord

def SendRecords.note (session : CallId → MediaSession κ) (s : Negotiated κ) (act : RunningAct) (t : Negotiated κ)
    (sent : SendRecords) : SendRecords :=
  match act with
  | .media id act =>
    match s.state.calls.call? id, t.state.calls.call? id with
    | some call, some after => Function.update sent id (SendRecord.note (session id) call act after (sent id))
    | _, _ => sent
  | _ => sent

theorem SendRecords.note_other {s t : Negotiated κ} {act : RunningAct} {id : CallId} (sent : SendRecords)
    (apart : ∀ own, act ≠ .media id own) : note session s act t sent id = sent id := by
  cases act with
  | media other act =>
    have different : id ≠ other := fun same => apart act (by rw [same])
    simp only [note]
    cases s.state.calls.call? other with
    | none => rfl
    | some call =>
      cases t.state.calls.call? other with
      | none => rfl
      | some after => exact Function.update_of_ne different ..
  | signalling | handle | alloc | allocated | connect | create | accept | close | proceed => rfl

/-- The server with the record of its negotiations and of what its calls sent. -/
abbrev Answering (κ : Type u) := Recorded (Negotiated κ) SendRecords

def answeringStep (session : CallId → MediaSession κ) (state : ServerState) (sessionId : CallId → UInt64) :
    Answering κ → RunningAct → Option (Answering κ) :=
  Recorded.step (negotiatedStep session state sessionId) (SendRecords.note session)

def Answering.start (drainToken : Bool) (range : RtpPortRange) (taken : UInt16 → Bool) : Answering κ :=
  ⟨⟨.start drainToken range taken, .empty⟩, fun _ => .empty⟩

/-- The record of each call is that of a run of the call alone. -/
def RunsAlone (session : MediaSession κ) (call : Option (CallState κ)) (sent : SendRecord) : Prop :=
  match call with
  | none => sent = .empty
  | some call => ∃ now acts, run (sendHistoryStep session) (.accepted now) acts = some ⟨call, sent⟩

theorem RunsAlone.moves {session : MediaSession κ} {id : CallId} {act : RunningAct}
    {before after : Option (CallState κ)} {sent next : SendRecord} (alone : RunsAlone session before sent)
    (moves : CallMoves session id act before after) (other : (∀ own, act ≠ .media id own) → next = sent)
    (own : ∀ own call later, act = .media id own → before = some call → after = some later →
      next = SendRecord.note session call own later sent) :
    RunsAlone session after next := by
  have plays {call later : CallState κ} {act : CallAct} (alone : RunsAlone session (some call) sent)
      (step : callStep session call act = some later) (noted : next = SendRecord.note session call act later sent) :
      RunsAlone session (some later) next := by
    obtain ⟨now, acts, reach⟩ := alone
    exact ⟨now, acts ++ [act], run_concat_iff.mpr ⟨_, reach, Recorded.step_eq_some_iff.mpr ⟨step, noted⟩⟩⟩
  cases moves with
  | rests apart =>
    rw [other apart]
    exact alone
  | @begins _ call now apart begun =>
    rw [other apart, show sent = .empty from alone]
    rcases begun with rfl | rfl
    · exact ⟨now, [], rfl⟩
    · exact ⟨now, [.dialogEnds], rfl⟩
  | signals apart signal step =>
    refine plays alone step ?_
    rw [other apart]
    rcases signal with rfl | rfl <;> rfl
  | plays step => exact plays alone step (own _ _ _ rfl rfl rfl)

theorem Answering.runsAlone_step {r q : Answering κ} {act : RunningAct}
    (before : ∀ id, RunsAlone (session id) (r.state.state.calls.call? id) (r.record id))
    (step : answeringStep session state sessionId r act = some q) (id : CallId) :
    RunsAlone (session id) (q.state.state.calls.call? id) (q.record id) := by
  obtain ⟨moved, noted⟩ := Recorded.step_eq_some_iff.mp step
  refine (before id).moves (callMoves_of_step (Recorded.step_eq_some_iff.mp moved).1 id) (fun apart => ?_)
    fun own call later same there now => ?_
  · rw [noted, SendRecords.note_other _ apart]
  · subst same
    simp only [noted, SendRecords.note, there, now, Function.update_self]

theorem Answering.runsAlone_of_run {drainToken : Bool} {range : RtpPortRange} {taken : UInt16 → Bool}
    {acts : List RunningAct} {r : Answering κ}
    (reach : run (answeringStep session state sessionId) (.start drainToken range taken) acts = some r) :
    ∀ id, RunsAlone (session id) (r.state.state.calls.call? id) (r.record id) := by
  have first (id : CallId) : RunsAlone (session id)
    ((start drainToken range taken : Answering κ).state.state.calls.call? id)
      ((start drainToken range taken : Answering κ).record id) := rfl
  exact run_invariant (P := fun r : Answering κ => ∀ id,
    RunsAlone (session id) (r.state.state.calls.call? id) (r.record id))
    first (fun _ _ _ before step => runsAlone_step before step) reach

theorem encode_boxed {crates : CodecCrates} {kind : CodecKind} (state : kind.State crates) (samples : List Int16) :
    (boxedCodec crates).encode ⟨kind, state⟩ samples =
      (((kind.codec crates).encode state samples).1, ⟨kind, ((kind.codec crates).encode state samples).2⟩) := rfl

theorem encodings_boxed {crates : CodecCrates} {kind : CodecKind} (state : kind.State crates)
    (frames : List AudioFrame) :
    (boxedCodec crates).encodings ⟨kind, state⟩ frames = (kind.codec crates).encodings state frames := by
  induction frames generalizing state with
  | nil => rfl
  | cons frame later ih => simp only [Codec.encodings, encode_boxed, ih]

theorem SendRecord.KeepsTo.ofBoxed {crates : CodecCrates} {kind : CodecKind}
    {session : MediaSession (kind.State crates)} {record : SendRecord} {rtpmap : Rtpmap} {interval : Nat}
    (codec : session.codec = kind.codec crates) (keeps : record.KeepsTo session.boxed rtpmap interval) :
    record.KeepsTo session rtpmap interval where
  typed := keeps.typed
  encoded i packet there := by
    rw [codec, ← encodings_boxed]
    exact keeps.encoded i packet there
  spaced := keeps.spaced

/-- Where nothing was sent, nothing went wrong. -/
theorem SendRecord.KeepsTo.empty (session : MediaSession κ) (rtpmap : Rtpmap) (interval : Nat) :
    SendRecord.empty.KeepsTo session rtpmap interval where
  typed _ member := by cases member
  encoded _ _ there := by cases there
  spaced _ _ _ _ _ there := by cases there

theorem SupportedAs.enabled {features : Features} {attributes : List Attribute} {pt : UInt8} {kind : CodecKind}
    (supported : SupportedAs features attributes pt kind) : kind.enabled features = true := by
  cases supported with
  | pcmu | pcma => rfl
  | g722 built => exact built
  | dynamic _ _ named => exact named.1

theorem enabled_of_parse {features : Features} {sdpRs : SdpRs} {sdpBody : Text} {offer : SdpOffer}
    (parsed : parseSdpOffer features sdpRs sdpBody = .ok offer) : offer.codecKind.enabled features = true := by
  obtain ⟨sdp, _, built⟩ := parseSdpOffer_eq_ok.mp parsed
  obtain ⟨audioMedia, connection, _, _, _, _, ⟨_, _, _, supported, _⟩, _⟩ := offerOf_eq_ok.mp built
  exact supported.enabled

section
variable {crates : CodecCrates} (features : Features) (sdpRs : SdpRs) (rtpRs : RtpRs) (maxInstant timeout : Nat)

/-- Where the offer and the session of a call come from: the offer from
`parse_sdp_offer`, and the session of an answered call from `MediaSession::new`
with the offer that this call has read. -/
structure SessionMade (session : CallId → MediaSession (AnyCodec crates)) (r : Answering (AnyCodec crates))
    (id : CallId) :
    Prop where
  parsed : ∀ offer, r.state.record.offer id = some offer → ∃ sdpBody, parseSdpOffer features sdpRs sdpBody = .ok offer
  made : ∀ offer answer, r.state.record.offer id = some offer → r.state.record.answer id = some answer →
    ∃ n own, MediaSession.new rtpRs maxInstant crates n offer timeout = .ok own ∧ session id = own.boxed

/-- The stream that a call sends is the one that its peer reads about in the
answer. -/
def StreamAnswered (r : Answering (AnyCodec crates)) (id : CallId) (answer : Text) : Prop :=
  ∃ offer n, ∃ own : MediaSession (offer.codecKind.State crates), ∃ description rtpmap interval,
    r.state.record.offer id = some offer ∧ MediaSession.new rtpRs maxInstant crates n offer timeout = .ok own ∧
    readSdp answer = some description ∧ Announces description rtpmap interval ∧
    CodecKind.fromName features rtpmap.encodingName = some offer.codecKind ∧ (r.record id).KeepsTo own rtpmap interval

variable {features sdpRs rtpRs maxInstant timeout} {session : CallId → MediaSession (AnyCodec crates)}

/-- In every run of the whole server, each accepted call sends what the answer
of this very call announces, and no other call sends anything. -/
theorem answeredStreams_of_run (conforms : rtpRs.Conforms) {a b c d : UInt8} (address : state.mediaIp = .v4 a b c d)
    {drainToken : Bool} {range : RtpPortRange} {taken : UInt16 → Bool} {acts : List RunningAct}
    {r : Answering (AnyCodec crates)}
    (reach : run (answeringStep session state sessionId) (.start drainToken range taken) acts = some r) {id : CallId}
    (sessionMade : SessionMade features sdpRs rtpRs maxInstant timeout session r id) :
    (r.state.record.answer id = none → (r.record id).handed = []) ∧
      ∀ answer, r.state.record.answer id = some answer →
        StreamAnswered features rtpRs maxInstant timeout r id answer := by
  have alone := Answering.runsAlone_of_run reach id
  obtain ⟨invariant, negotiates⟩ := Negotiated.Sound.run (Recorded.run_state reach)
  obtain ⟨_, answers, content⟩ := negotiates id
  constructor
  · intro unanswered
    cases playing : r.state.state.calls.call? id with
    | none =>
      rw [playing] at alone
      rw [show r.record id = .empty from alone]
      rfl
    | some call =>
      have together := invariant.inStep id
      rw [LiveCalls.call?_eq_some.mp playing] at together
      obtain ⟨phase, _⟩ := Together.media_iff.mp together
      have answered := answers.mpr ⟨_, phase⟩
      rw [unanswered] at answered
      cases answered
  · intro answer answered
    obtain ⟨offer, sockets, read, _, rfl⟩ := content answer answered
    obtain ⟨sdpBody, parsed⟩ := sessionMade.parsed offer read
    obtain ⟨n, own, made, same⟩ := sessionMade.made offer _ read answered
    obtain ⟨crate, codec, payloadType⟩ := MediaSession.new_eq_ok made
    refine ⟨offer, n, own, _, answeredRtpmap ⟨offer.payloadType, offer.codecKind⟩, expectedSendInterval, read,
      made, ?_,
      announces_answer a b c d sockets.rtpPortPair.rtpPort _, fromName_name (enabled_of_parse parsed), ?_⟩
    · rw [sdpAnswer, address, readSdp_answer]
    · cases playing : r.state.state.calls.call? id with
      | none =>
        rw [playing] at alone
        rw [show r.record id = .empty from alone]
        exact .empty own _ _
      | some call =>
        rw [playing, same] at alone
        obtain ⟨now, own, reach⟩ := alone
        refine SendRecord.KeepsTo.ofBoxed codec ((outgoing_of_run reach).streams.keepsTo ?_ ?_ ?_)
        · exact crate ▸ conforms
        · exact congrArg UInt8.toUInt32 payloadType
        · exact offer.codecKind.increment_eq crates _

end

def answeredSession : CallId → MediaSession (AnyCodec idleCrates)
  | 0 => ⟨fixedHeaderRtpRs, boxedCodec idleCrates, ⟨.pcmu, ()⟩, ⟨.pcmu, ()⟩, 0, 30, 1000⟩
  | _ => ⟨fixedHeaderRtpRs, boxedCodec idleCrates, ⟨.pcma, ()⟩, ⟨.pcma, ()⟩, 8, 30, 1000⟩

/-- Both of the accepted calls send a frame. -/
def sendsTwice : List RunningAct :=
  [.proceed 0, .proceed 1, .proceed 1, .proceed 0, .media 0 (.sendTask (.start 7 1 1)),
    .media 1 (.sendTask (.start 8 2 2)), .media 1 (.handlerTask (.put ⟨[0, 0, 0]⟩)),
    .media 0 (.handlerTask (.put ⟨[0, 0, 0]⟩)), .media 0 (.sendTask .recv), .media 1 (.sendTask .recv)]

theorem answeredStreams_sendsTwice : ∃ r first second,
    run (answeringStep answeredSession ⟨.v4 192 168 0 10, none⟩ fun id => .ofNat (77 + id))
        (.start false ⟨10000, 10098, 10000⟩ fun _ => false) (answeredTwice ++ sendsTwice) = some r ∧
      r.state.record.answer 0 = some first ∧ r.state.record.answer 1 = some second ∧
      ((r.record 0).handed.length, (r.record 1).handed.length) = (1, 1) ∧
      StreamAnswered ⟨false, false⟩ fixedHeaderRtpRs 1000 30 r 0 first ∧
      StreamAnswered ⟨false, false⟩ fixedHeaderRtpRs 1000 30 r 1 second := by
  have shown : (run (answeringStep answeredSession ⟨.v4 192 168 0 10, none⟩ fun id => .ofNat (77 + id))
      (.start false ⟨10000, 10098, 10000⟩ fun _ => false) (answeredTwice ++ sendsTwice)).map
        (fun r => ((r.state.record.offer 0, r.state.record.offer 1), ((r.state.record.answer 0).isSome,
          (r.state.record.answer 1).isSome), (r.record 0).handed.length, (r.record 1).handed.length)) =
      some ((some plainOffer, some ⟨.v4 10 0 0 50, 4000, 8, .pcma⟩), (true, true), 1, 1) := by decide +kernel
  obtain ⟨r, reach, same⟩ := Option.map_eq_some_iff.mp shown
  obtain ⟨offers, rest⟩ := Prod.mk.inj same
  obtain ⟨offer, otherOffer⟩ := Prod.mk.inj offers
  obtain ⟨answers, handed⟩ := Prod.mk.inj rest
  obtain ⟨answered, otherAnswered⟩ := Prod.mk.inj answers
  obtain ⟨first, said⟩ := Option.isSome_iff_exists.mp answered
  obtain ⟨second, otherSaid⟩ := Option.isSome_iff_exists.mp otherAnswered
  have made : SessionMade ⟨false, false⟩ strictSdpRs fixedHeaderRtpRs 1000 30 answeredSession r 0 := by
    refine ⟨fun read there => ⟨offerText "0".toList [], ?_⟩, fun read answer there _ => ?_⟩
    · rw [← Option.some.inj (offer.symm.trans there)]
      decide +kernel
    · cases Option.some.inj (offer.symm.trans there)
      exact ⟨0, _, rfl, rfl⟩
  have otherMade : SessionMade ⟨false, false⟩ strictSdpRs fixedHeaderRtpRs 1000 30 answeredSession r 1 := by
    refine ⟨fun read there => ⟨offerText "8".toList [], ?_⟩, fun read answer there _ => ?_⟩
    · rw [← Option.some.inj (otherOffer.symm.trans there)]
      decide +kernel
    · cases Option.some.inj (otherOffer.symm.trans there)
      exact ⟨0, _, rfl, rfl⟩
  exact ⟨r, first, second, reach, said, otherSaid, handed,
    (answeredStreams_of_run fixedHeaderRtpRs_conforms rfl reach made).2 first said,
    (answeredStreams_of_run fixedHeaderRtpRs_conforms rfl reach otherMade).2 second otherSaid⟩

end RsipstackServer
