import RsipstackServer.CallAgreement
import RsipstackServer.AnswerFits

namespace RsipstackServer
open Foundation
universe u
variable {κ : Type u} {session : CallId → MediaSession κ} {state : ServerState} {sessionId : CallId → UInt64}

/-- What is written down of the negotiation of each call: the offer that was
read, and the answer that went out with the 200 OK. -/
structure Negotiations where
  offer : CallId → Option SdpOffer
  answer : CallId → Option Text

namespace HandleAct

def read (act : HandleAct) (before : Option SdpOffer) : Option SdpOffer :=
  match act with
  | .parse (.ok offer) => some offer
  | .parse (.error _) | .ringing _ | .reject _ | .allocate _ | .connect _ | .create _ | .accept _ | .proceed => before

def said (act : HandleAct) (ready before : Option Text) : Option Text :=
  match act with
  | .accept true => ready
  | .accept false | .parse _ | .ringing _ | .reject _ | .allocate _ | .connect _ | .create _ | .proceed => before

end HandleAct

/-- The answer that `generate_sdp_answer` makes for a call. -/
def RunningServer.readyAnswer (s : RunningServer κ) (state : ServerState) (sessionId : CallId → UInt64)
    (id : CallId) :
    Option Text :=
  match s.sip.phase? id, s.calls.alloc.phase id with
  | some (.rung offer), .returned (some sockets) =>
    some (sdpAnswer state sockets.rtpPortPair.rtpPort (sessionId id) offer)
  | _, _ => none

namespace Negotiations

def empty : Negotiations := ⟨fun _ => none, fun _ => none⟩

def note (state : ServerState) (sessionId : CallId → UInt64) (s : RunningServer κ) (act : RunningAct)
    (_ : RunningServer κ) (record : Negotiations) : Negotiations :=
  match s.operation? act with
  | none => record
  | some (id, operation) =>
    { offer := Function.update record.offer id (operation.read (record.offer id))
      answer := Function.update record.answer id
        (operation.said (s.readyAnswer state sessionId id) (record.answer id)) }

end Negotiations

/-- The server with the record of its negotiations. -/
abbrev Negotiated (κ : Type u) := Recorded (RunningServer κ) Negotiations

def negotiatedStep (session : CallId → MediaSession κ) (state : ServerState) (sessionId : CallId → UInt64) :
    Negotiated κ → RunningAct → Option (Negotiated κ) :=
  Recorded.step (runningStep session) (Negotiations.note state sessionId)

theorem PhaseMoves.accepts {before after : CallPhase} (moves : PhaseMoves before (.accept true) after) :
    ∃ offer, before = .rung offer := by
  generalize same : HandleAct.accept true = act at moves
  cases moves with
  | answered => exact ⟨_, rfl⟩
  | parsed | unparsed | declined | bound | exhausted | connected | unconnected | created | uncreated | refused | rung
  | unanswered | proceeds => cases same

/-- How the record of a call stands to the call. -/
structure Negotiates (state : ServerState) (sessionId : UInt64) (phase : Option CallPhase) (alloc : AllocPhase)
    (offer : Option SdpOffer) (answer : Option Text) : Prop where
  reads : ∀ current read, phase = some current → current.offer? = some read → offer = some read
  answers : answer.isSome = true ↔ ∃ place, phase = some (.answered place)
  content : ∀ text, answer = some text → ∃ read sockets, offer = some read ∧ alloc = .returned (some sockets) ∧
    text = sdpAnswer state sockets.rtpPortPair.rtpPort sessionId read

namespace Negotiates
variable {id : UInt64} {phase : Option CallPhase} {alloc after : AllocPhase} {offer : Option SdpOffer}
  {answer : Option Text}

theorem unbegun (state : ServerState) (id : UInt64) (alloc : AllocPhase) (offer : Option SdpOffer) :
    Negotiates state id none alloc offer none where
  reads _ _ there := by cases there
  answers := by simp
  content _ there := by cases there

/-- A call begins without an answer. -/
theorem begins (before : Negotiates state id none alloc offer answer) :
    Negotiates state id (some .invited) alloc offer answer where
  reads current read there found := by
    cases there
    cases found
  answers := before.answers.trans (by simp)
  content := before.content

/-- An allocation moves before there is an answer. -/
theorem allocates {read : SdpOffer} (before : Negotiates state id (some (.parsed read)) alloc offer answer) :
    Negotiates state id (some (.parsed read)) after offer answer where
  reads := before.reads
  answers := before.answers
  content text there := by
    have answered := before.answers.mp (by rw [there]; rfl)
    obtain ⟨place, same⟩ := answered
    cases same

theorem operates {current next : CallPhase} {act : HandleAct} {ready : Option Text}
    (before : Negotiates state id (some current) alloc offer answer) (moves : PhaseMoves current act next)
    (made : act = .accept true → ∃ read sockets, current = .rung read ∧ alloc = .returned (some sockets) ∧
      ready = some (sdpAnswer state sockets.rtpPortPair.rtpPort id read)) :
    Negotiates state id (some next) alloc (act.read offer) (act.said ready answer) := by
  obtain ⟨reads, answers, content⟩ := before
  simp only [Option.some.injEq] at answers
  cases moves with
  | @parsed read =>
    have none : answer = none := by simpa using answers
    refine ⟨fun current found there same => ?_, by simp [HandleAct.said, none], fun text there => ?_⟩
    · cases there
      exact same
    · cases none.symm.trans there
  | @answered read =>
    obtain ⟨_, sockets, same, returned, ready⟩ := made rfl
    cases same
    refine ⟨fun current found there same => ?_, by simp [HandleAct.said, ready], fun text there => ?_⟩
    · cases there
      cases same
    · rw [HandleAct.said, ready] at there
      cases there
      exact ⟨read, sockets, reads _ read rfl rfl, returned, rfl⟩
  | proceeds =>
    refine ⟨fun current found there same => ?_, by simpa [HandleAct.said] using answers, content⟩
    cases there
    cases same
  | bound | connected | created | rung =>
    refine ⟨fun current found there same => ?_, by simpa [HandleAct.said] using answers, content⟩
    cases there
    exact reads _ found rfl same
  | unparsed | declined | exhausted | unconnected | uncreated | refused | unanswered =>
    refine ⟨fun current found there same => ?_, by simpa [HandleAct.said] using answers, content⟩
    cases there
    cases same

end Negotiates

/-- How the record stands to the calls. -/
structure Negotiated.Sound (state : ServerState) (sessionId : CallId → UInt64) (r : Negotiated κ) : Prop where
  invariant : r.state.Invariant
  negotiates : ∀ id, Negotiates state (sessionId id) (r.state.sip.phase? id) (r.state.calls.alloc.phase id)
    (r.record.offer id) (r.record.answer id)

/-- The 200 OK goes out with an answer for the pair that the call was given. -/
theorem RunningServer.Invariant.readyAnswer {s : RunningServer κ} {id : CallId} {read : SdpOffer}
    (before : s.Invariant) (phase : s.sip.phase? id = some (.rung read)) :
    ∃ sockets, s.calls.alloc.phase id = .returned (some sockets) ∧
      s.readyAnswer state sessionId id = some (sdpAnswer state sockets.rtpPortPair.rtpPort (sessionId id) read) := by
  have together := before.inStep id
  rw [phase] at together
  obtain ⟨sockets, returned⟩ :=
    (before.live.fits id).returned (by rw [show s.calls.line id = .created from together]; simp)
  refine ⟨sockets, returned, ?_⟩
  rw [RunningServer.readyAnswer, phase, returned]

theorem Negotiated.Sound.step {r q : Negotiated κ} {act : RunningAct} (before : r.Sound state sessionId)
    (step : negotiatedStep session state sessionId r act = some q) : q.Sound state sessionId := by
  obtain ⟨moved, noted⟩ := Recorded.step_eq_some_iff.mp step
  refine ⟨before.invariant.step moved, fun id => ?_⟩
  have own := before.negotiates id
  rw [noted]
  rcases RunningServer.alloc_of_step moved with same | ⟨mover, chosen, read, rfl, parsed, rests, advances⟩
  · rw [same]
    cases RunningServer.sipHalf_of_step moved with
    | rests idle still =>
      rw [Negotiations.note, idle, still]
      exact own
    | @loops act foreign signalled =>
      rcases SipServer.phase?_signalling signalled foreign id with kept | ⟨fresh, begun⟩
      · rw [kept]
        exact own
      · rw [fresh] at own
        rw [begun]
        exact own.begins
    | @operates _ mover operation selects signalled =>
      obtain ⟨⟨current, next, was, moves, now⟩, others⟩ := SipServer.phase?_handle signalled
      simp only [Negotiations.note, selects]
      by_cases mine : id = mover
      · subst mine
        rw [was] at own
        rw [now, Function.update_self, Function.update_self]
        refine own.operates moves fun accepts => ?_
        rw [accepts] at moves
        obtain ⟨read, rung⟩ := moves.accepts
        rw [rung] at was
        obtain ⟨sockets, returned, ready⟩ := before.invariant.readyAnswer was
        exact ⟨read, sockets, rung, returned, ready⟩
      · rw [others id mine, Function.update_of_ne mine, Function.update_of_ne mine]
        exact own
  · rw [rests]
    by_cases mine : id = mover
    · subst mine
      rw [parsed] at own ⊢
      exact own.allocates
    · rw [advances.others.1 id mine]
      exact own

theorem Negotiated.Sound.run {drainToken : Bool} {range : RtpPortRange} {taken : UInt16 → Bool}
    {acts : List RunningAct} {r : Negotiated κ}
    (reach : run (negotiatedStep session state sessionId) ⟨.start drainToken range taken, .empty⟩ acts = some r) :
    r.Sound state sessionId :=
  run_invariant (P := Negotiated.Sound state sessionId)
    ⟨RunningServer.invariant_start drainToken range taken, fun _ => .unbegun state _ _ _⟩
    (fun _ _ _ before step => before.step step) reach

/-- The port that a peer sends its audio to, if this is the answer it reads. -/
def answeredPort (answer : Text) : Option UInt16 :=
  (readSdp answer).bind fun description => description.mediaDescriptions.head?.map fun media => media.media.port

theorem answeredPort_sdpAnswer {a b c d : UInt8} (address : state.mediaIp = .v4 a b c d) (rtpPort : UInt16)
    (sessionId : UInt64) (offer : SdpOffer) :
    answeredPort (sdpAnswer state rtpPort sessionId offer) = some rtpPort := by
  rw [answeredPort, sdpAnswer, address, readSdp_answer]
  rfl

/-- Which ports the answers name, of which calls. -/
structure AnswersNamePorts (minPort maxPort : UInt16) (address : IpAddr) (r : Negotiated κ) : Prop where
  answered : ∀ id, (∃ call, r.state.sip.call? id = some call ∧ call.Told .accept) ↔
    ∃ answer, r.record.answer id = some answer
  names : ∀ id answer, r.record.answer id = some answer → ∃ offer rtpPort, r.record.offer id = some offer ∧
    readSdp answer = some (answeredDescription address rtpPort ⟨offer.payloadType, offer.codecKind⟩) ∧
    minPort ≤ rtpPort ∧ rtpPort < maxPort ∧
    ((r.state.calls.line id).live = true → r.state.calls.alloc.bound rtpPort = some (.call id))
  apart : ∀ id other answer otherAnswer, id ≠ other → r.record.answer id = some answer →
    r.record.answer other = some otherAnswer → (r.state.calls.line id).live = true →
      (r.state.calls.line other).live = true →
    answeredPort answer ≠ answeredPort otherAnswer

/-- In every run of the whole server on a range without the ports 0 and 65535,
the peer of each accepted call reads in its answer the codec it offered and a
port within the configured bounds. While the call is live this port is bound by
it, and no other live call has it in its answer. -/
theorem answersNamePorts_of_run {minPort maxPort : UInt16} {range : RtpPortRange} {slot : Nat}
    (built : RtpPortRange.new minPort maxPort = some (.ok range)) (below : maxPort < 65535) (positive : minPort ≠ 0)
    (inside : slot < range.slots) {a b c d : UInt8} (address : state.mediaIp = .v4 a b c d) {drainToken : Bool}
    {taken : UInt16 → Bool} {acts : List RunningAct} {r : Negotiated κ}
    (reach : run (negotiatedStep session state sessionId)
      ⟨.start drainToken (range.atSlot slot) taken, .empty⟩ acts = some r) :
    AnswersNamePorts minPort maxPort (.v4 a b c d) r := by
  have sound := RtpPortRange.sound_of_new built (Or.inl (UInt16.lt_iff_toNat_lt.mp below))
  obtain ⟨_, first, _⟩ := RtpPortRange.new_ok built
  have nonzero := positive
  rw [← first] at nonzero
  have reached := (RunningServer.recorded_of_run sound nonzero inside (Recorded.run_state reach)).toInRange
  have owns := reached.ownsRtp sound
  obtain ⟨invariant, negotiates⟩ := Negotiated.Sound.run reach
  have holds : ∀ id answer, r.record.answer id = some answer → ∃ offer sockets, r.record.offer id = some offer ∧
      r.state.calls.alloc.phase id = .returned (some sockets) ∧
      answer = sdpAnswer state sockets.rtpPortPair.rtpPort (sessionId id) offer := fun id => (negotiates id).content
  refine ⟨fun id => ?_, fun id answer there => ?_,
    fun id other answer otherAnswer different there there' live live' => ?_⟩
  · rw [← Option.isSome_iff_exists, (negotiates id).answers]
    constructor
    · rintro ⟨call, running, told⟩
      obtain ⟨place, phase⟩ := (invariant.consistent running).told_accept_iff.mp told
      exact ⟨place, by rw [SipServer.phase?, running, Option.map_some, phase]⟩
    · rintro ⟨place, phase⟩
      obtain ⟨call, running, phase⟩ := Option.map_eq_some_iff.mp phase
      exact ⟨call, running, (invariant.consistent running).told_accept_iff.mpr ⟨place, phase⟩⟩
  · obtain ⟨offer, sockets, read, returned, rfl⟩ := holds id answer there
    refine ⟨offer, sockets.rtpPortPair.rtpPort, read, ?_, ?_⟩
    · rw [sdpAnswer, address, readSdp_answer]
    · have fits := reached.fits id
      rw [returned] at fits
      obtain ⟨place, within, same⟩ := sound.exists_slot fits.1
      obtain ⟨lower, next, upper⟩ := sound.slotPair_bounds built within
      rw [same] at lower next upper
      refine ⟨lower, UInt16.lt_iff_toNat_lt.mpr ?_, fun live => owns.rtp id _ ⟨live, sockets, returned, rfl⟩⟩
      have := UInt16.le_iff_toNat_le.mp upper
      omega
  · obtain ⟨offer, sockets, _, returned, rfl⟩ := holds id answer there
    obtain ⟨otherOffer, otherSockets, _, otherReturned, rfl⟩ := holds other otherAnswer there'
    rw [answeredPort_sdpAnswer address, answeredPort_sdpAnswer address]
    intro same
    exact (owns.apart id other _ _ different ⟨live, sockets, returned, rfl⟩ ⟨live', otherSockets,
      otherReturned, rfl⟩).1
      (Option.some.inj same)

/-- Two calls with different codecs are set up at once, and both are
accepted. -/
def answeredTwice : List RunningAct :=
  [.signalling (.arrive freshInvite), .signalling (.request creating), .signalling (.arrive freshInvite),
    .signalling (.request creating), .signalling (.calling 1), .signalling (.calling 0),
    .handle 0 (.parse (.ok plainOffer)), .handle 1 (.parse (.ok ⟨.v4 10 0 0 50, 4000, 8, .pcma⟩)),
    .alloc (.advance 0 0), .alloc (.advance 1 0), .alloc (.advance 1 0), .alloc (.advance 0 0),
    .alloc (.advance 0 0), .alloc (.advance 1 0), .alloc (.advance 1 0), .alloc (.advance 0 0), .allocated 1,
    .allocated 0, .connect 1 true, .connect 0 true, .create 0 true, .create 1 true, .handle 1 (.ringing true),
    .handle 0 (.ringing true), .accept 0 true 5, .accept 1 true 6]

theorem answersNamePorts_answeredTwice : ∃ r,
    run (negotiatedStep (fun _ => talkingSession 0) ⟨.v4 192 168 0 10, none⟩ fun id => .ofNat (77 + id))
        ⟨.start false (RtpPortRange.atSlot ⟨10000, 10098, 10000⟩ 0) fun _ => false, .empty⟩ answeredTwice = some r ∧
      (r.record.answer 0).isSome = true ∧ (r.record.answer 1).isSome = true ∧ (r.state.calls.line 0).live = true ∧
      (r.state.calls.line 1).live = true ∧ AnswersNamePorts 10000 10099 (.v4 192 168 0 10) r := by
  have built : RtpPortRange.new 10000 10099 = some (.ok ⟨10000, 10098, 10000⟩) := by decide
  have shown : (run (negotiatedStep (fun _ => talkingSession 0) ⟨.v4 192 168 0 10, none⟩ fun id => .ofNat (77 + id))
      ⟨.start false (RtpPortRange.atSlot ⟨10000, 10098, 10000⟩ 0) fun _ => false, .empty⟩ answeredTwice).map
        (fun r => ((r.record.answer 0).isSome, (r.record.answer 1).isSome, (r.state.calls.line 0).live,
          (r.state.calls.line 1).live)) = some (true, true, true, true) := by decide +kernel
  obtain ⟨r, reach, same⟩ := Option.map_eq_some_iff.mp shown
  obtain ⟨first, rest⟩ := Prod.mk.inj same
  obtain ⟨second, rest⟩ := Prod.mk.inj rest
  obtain ⟨live, live'⟩ := Prod.mk.inj rest
  exact ⟨r, reach, first, second, live, live',
    answersNamePorts_of_run built (by decide) (by decide) (by decide) rfl reach⟩

end RsipstackServer
