import RsipstackServer.AllocationInvariant

namespace RsipstackServer
open Foundation

/-- What a call knows at each point: how many attempts it has left, that the
pair it tries is one of the range, and that its sockets are those of the pair. -/
def AllocPhase.Fits (range : RtpPortRange) : AllocPhase → Prop
  | .idle | .returned none => True
  | .looping numAttempts capacity => capacity = range.slots ∧ numAttempts ≤ capacity
  | .bindingRtp numAttempts capacity pair => capacity = range.slots ∧ numAttempts < capacity ∧ range.HasPair pair
  | .bindingRtcp numAttempts capacity pair rtpSocket =>
    capacity = range.slots ∧ numAttempts < capacity ∧ range.HasPair pair ∧ rtpSocket = pair.rtpPort
  | .dropping numAttempts capacity _ => capacity = range.slots ∧ numAttempts < capacity
  | .returned (some sockets) => range.HasPair sockets.rtpPortPair ∧
      sockets.rtpSocket = sockets.rtpPortPair.rtpPort ∧ sockets.rtcpSocket = sockets.rtpPortPair.rtcpPort

theorem RtpPortRange.HasPair.nonzero {range : RtpPortRange} {pair : RtpPortPair} (has : range.HasPair pair)
    (positive : range.firstRtpPort ≠ 0) : pair.rtpPort ≠ 0 ∧ pair.rtcpPort ≠ 0 ∧ pair.rtpPort ≠ pair.rtcpPort := by
  obtain ⟨lower, _, _, rtcp⟩ := has
  rw [UInt16.le_iff_toNat_le] at lower
  simp only [ne_eq, ← UInt16.toNat_inj, show (0 : UInt16).toNat = 0 from rfl] at positive ⊢
  omega

theorem RtpPortRange.Sound.capacity_toNat {range : RtpPortRange} (sound : range.Sound) {slot : Nat}
    {capacity : UInt16} (value : (range.atSlot slot).capacity = some capacity) : capacity.toNat = range.slots := by
  have room := sound.room
  have same : (range.atSlot slot).capacity = range.capacity := rfl
  rw [same, sound.capacity_eq] at value
  cases Option.some.inj value
  exact word_ofNat_toNat (by omega)

theorem AllocState.Rotated.fits {range : RtpPortRange} {slot : Nat} {s t : AllocState} {id : CallId}
    (sound : range.Sound) (positive : range.firstRtpPort ≠ 0) (rotated : s.Rotated range slot)
    (fits : (s.phase id).Fits range) (step : Advances s id t) : (t.phase id).Fits range := by
  cases step with
  | enter _ value =>
    rw [rotated.cursor] at value
    simp only [record_phase, enter_phase_self, AllocPhase.Fits, sound.capacity_toNat value, Nat.zero_le, and_self]
  | draw atPhase more pulled =>
    rw [rotated.cursor, sound.nextPortPair_atSlot] at pulled
    cases Option.some.inj pulled
    rw [atPhase] at fits
    simp only [record_phase, enter_phase_self]
    exact ⟨fits.1, more, sound.slotPair_hasPair (Nat.mod_lt _ range.slots_pos)⟩
  | exhaust _ _ => simp only [record_phase, enter_phase_self, AllocPhase.Fits]
  | bindRtp atPhase bound =>
    rw [atPhase] at fits
    rw [enter_phase_self]
    obtain ⟨count, more, has⟩ := fits
    exact ⟨count, more, has, (udpBind_eq_some bound).1.trans (socketPort_of_nonzero _ (has.nonzero positive).1)⟩
  | rtpTaken atPhase _ =>
    rw [atPhase] at fits
    simp only [record_phase, enter_phase_self]
    exact ⟨fits.1, fits.2.1⟩
  | bindRtcp atPhase bound =>
    rw [atPhase] at fits
    simp only [record_phase, enter_phase_self]
    obtain ⟨_, _, has, rtp⟩ := fits
    exact ⟨has, rtp, (udpBind_eq_some bound).1.trans (socketPort_of_nonzero _ (has.nonzero positive).2.1)⟩
  | rtcpTaken atPhase _ =>
    rw [atPhase] at fits
    simp only [record_phase, enter_phase_self]
    exact ⟨fits.1, fits.2.1⟩
  | drop atPhase =>
    rw [atPhase] at fits
    rw [enter_phase_self]
    exact ⟨fits.1, fits.2⟩

def AllocEvent.drewBy (id : CallId) : AllocEvent → Bool
  | .drew caller _ => caller == id
  | _ => false

/-- One of the ports of the pair was held by somebody else when the call
tried to bind it. -/
def FoundTaken (id : CallId) (pair : RtpPortPair) (events : List AllocEvent) : Prop :=
  ∃ port holder, AllocEvent.foundTaken id pair port (some holder) ∈ events ∧
    (port = pair.rtpPort ∨ port = pair.rtcpPort) ∧ holder ≠ .call id

/-- The call drew `draws` pairs, and all but the pending one were taken. -/
structure Tried (id : CallId) (draws : Nat) (pending : Option RtpPortPair) (events : List AllocEvent) : Prop where
  count : events.countP (AllocEvent.drewBy id) = draws
  taken : ∀ pair, AllocEvent.drew id pair ∈ events → FoundTaken id pair events ∨ pending = some pair

theorem FoundTaken.mono {id : CallId} {pair : RtpPortPair} {events more : List AllocEvent}
    (found : FoundTaken id pair events) (sub : events ⊆ more) : FoundTaken id pair more := by
  obtain ⟨port, holder, member, place, apart⟩ := found
  exact ⟨port, holder, sub member, place, apart⟩

theorem Tried.nil (id : CallId) : Tried id 0 none [] := ⟨rfl, by simp⟩

theorem Tried.append {id : CallId} {draws : Nat} {pending : Option RtpPortPair} {events : List AllocEvent}
    (tried : Tried id draws pending events) {event : AllocEvent} (other : event.drewBy id = false) :
    Tried id draws pending (events ++ [event]) := by
  refine ⟨?_, ?_⟩
  · rw [List.countP_append, tried.count, List.countP_singleton, other]
    rfl
  · intro pair member
    rcases List.mem_append.mp member with old | new
    · exact (tried.taken pair old).imp_left fun found => found.mono (List.subset_append_left ..)
    · rw [← List.mem_singleton.mp new] at other
      simp [AllocEvent.drewBy] at other

theorem Tried.draw {id : CallId} {draws : Nat} {events : List AllocEvent} (tried : Tried id draws none events)
    (pair : RtpPortPair) : Tried id (draws + 1) (some pair) (events ++ [.drew id pair]) := by
  refine ⟨?_, ?_⟩
  · rw [List.countP_append, tried.count, List.countP_singleton]
    simp [AllocEvent.drewBy]
  · intro drawn member
    rcases List.mem_append.mp member with old | new
    · rcases tried.taken drawn old with found | nothing
      · exact Or.inl (found.mono (List.subset_append_left ..))
      · cases nothing
    · cases List.mem_singleton.mp new
      exact Or.inr rfl

theorem Tried.foundTaken {id : CallId} {draws : Nat} {pair : RtpPortPair} {events : List AllocEvent} {port : UInt16}
    {holder : Holder} (tried : Tried id draws (some pair) events) (place : port = pair.rtpPort ∨ port = pair.rtcpPort)
    (apart : holder ≠ .call id) : Tried id draws none (events ++ [.foundTaken id pair port (some holder)]) := by
  have kept : Tried id draws (some pair) (events ++ [.foundTaken id pair port (some holder)]) := tried.append rfl
  refine ⟨kept.count, ?_⟩
  intro drawn member
  rcases kept.taken drawn member with found | same
  · exact Or.inl found
  · cases Option.some.inj same
    exact Or.inl ⟨port, holder, by simp, place, apart⟩

/-- The call was made at some moment of the history, and since then it drew
`draws` pairs of which all but the pending one were taken. -/
def Since (id : CallId) (draws : Nat) (pending : Option RtpPortPair) (history : List AllocEvent) : Prop :=
  ∃ before during, history = before ++ .called id :: during ∧ (∀ event ∈ before, event.caller ≠ id) ∧
    Tried id draws pending during

theorem Since.append {id : CallId} {draws : Nat} {pending : Option RtpPortPair} {history : List AllocEvent}
    (since : Since id draws pending history) {event : AllocEvent} (other : event.drewBy id = false) :
    Since id draws pending (history ++ [event]) := by
  obtain ⟨before, during, whole, unseen, tried⟩ := since
  exact ⟨before, during ++ [event], by simp [whole], unseen, tried.append other⟩

theorem Since.draw {id : CallId} {draws : Nat} {history : List AllocEvent} (since : Since id draws none history)
    (pair : RtpPortPair) : Since id (draws + 1) (some pair) (history ++ [.drew id pair]) := by
  obtain ⟨before, during, whole, unseen, tried⟩ := since
  exact ⟨before, during ++ [.drew id pair], by simp [whole], unseen, tried.draw pair⟩

theorem Since.foundTaken {id : CallId} {draws : Nat} {pair : RtpPortPair} {history : List AllocEvent} {port : UInt16}
    {holder : Holder} (since : Since id draws (some pair) history)
    (place : port = pair.rtpPort ∨ port = pair.rtcpPort) (apart : holder ≠ .call id) :
    Since id draws none (history ++ [.foundTaken id pair port (some holder)]) := by
  obtain ⟨before, during, whole, unseen, tried⟩ := since
  exact ⟨before, during ++ [.foundTaken id pair port (some holder)], by simp [whole], unseen,
    tried.foundTaken place apart⟩

/-- The call was made and returned `result`, and what it tried in between. -/
def Between (id : CallId) (result : Option RtpSocketPair) (slots : Nat) (history : List AllocEvent) : Prop :=
  ∃ before during after, history = before ++ .called id :: during ++ .returned id result :: after ∧
    (∀ event ∈ before, event.caller ≠ id) ∧ (result = none → Tried id slots none during)

theorem Since.returned {id : CallId} {draws slots : Nat} {pending : Option RtpPortPair} {history : List AllocEvent}
    (since : Since id draws pending history) (result : Option RtpSocketPair)
    (complete : result = none → draws = slots ∧ pending = none) :
    Between id result slots (history ++ [.returned id result]) := by
  obtain ⟨before, during, whole, unseen, tried⟩ := since
  refine ⟨before, during, [], by simp [whole], unseen, ?_⟩
  intro nothing
  obtain ⟨rfl, rfl⟩ := complete nothing
  exact tried

/-- The history of one call, as far as it has come. -/
def CallRecord (id : CallId) (slots : Nat) (history : List AllocEvent) : AllocPhase → Prop
  | .idle => ∀ event ∈ history, event.caller ≠ id
  | .looping numAttempts _ => Since id numAttempts none history
  | .bindingRtp numAttempts _ pair | .bindingRtcp numAttempts _ pair _ =>
    Since id (numAttempts + 1) (some pair) history
  | .dropping numAttempts _ _ => Since id (numAttempts + 1) none history
  | .returned result => Between id result slots history

theorem AllocEvent.drewBy_eq_false {id : CallId} {event : AllocEvent} (other : event.caller ≠ id) :
    event.drewBy id = false := by
  cases event <;> simp_all [AllocEvent.drewBy, AllocEvent.caller]

theorem CallRecord.append {id : CallId} {slots : Nat} {history : List AllocEvent} {phase : AllocPhase}
    (record : CallRecord id slots history phase) {event : AllocEvent} (other : event.caller ≠ id) :
    CallRecord id slots (history ++ [event]) phase := by
  have quiet := AllocEvent.drewBy_eq_false other
  cases phase with
  | idle =>
    intro seen member
    rcases List.mem_append.mp member with old | new
    · exact record seen old
    · rw [List.mem_singleton.mp new]
      exact other
  | looping | bindingRtp | bindingRtcp | dropping => exact Since.append record quiet
  | returned result =>
    obtain ⟨before, during, after, whole, unseen, tried⟩ := record
    exact ⟨before, during, after ++ [event], by simp [whole], unseen, tried⟩

/-- A call keeps its record wherever the ports that it holds are those of its
phase. -/
theorem CallRecord.advances {range : RtpPortRange} {s t : AllocState} {id : CallId}
    (positive : range.firstRtpPort ≠ 0) (owned : ∀ port, s.bound port = some (.call id) ↔ (s.phase id).Holds port)
    (fits : (s.phase id).Fits range) (record : CallRecord id range.slots s.history (s.phase id))
    (step : Advances s id t) :
    CallRecord id range.slots t.history (t.phase id) := by
  cases step with
  | enter atPhase _ =>
    rw [atPhase] at record
    rw [AllocState.record_phase, AllocState.enter_phase_self]
    exact ⟨s.history, [], rfl, record, Tried.nil id⟩
  | draw atPhase _ _ =>
    rw [atPhase] at record
    rw [AllocState.record_phase, AllocState.enter_phase_self]
    exact Since.draw record _
  | exhaust atPhase done =>
    rw [atPhase] at record fits
    rw [AllocState.record_phase, AllocState.enter_phase_self]
    exact Since.returned record none fun _ => ⟨by have := fits.1; have := fits.2; omega, rfl⟩
  | bindRtp atPhase _ =>
    rw [atPhase] at record
    rw [AllocState.enter_phase_self]
    exact record
  | @rtpTaken _ _ pair _ atPhase failure =>
    have holds := owned pair.rtpPort
    rw [atPhase] at record fits holds
    obtain ⟨holder, found⟩ := udpBind_eq_none (fits.2.2.nonzero positive).1 failure
    rw [AllocState.record_phase, AllocState.enter_phase_self, found]
    refine Since.foundTaken record (Or.inl rfl) ?_
    rintro rfl
    exact holds.mp found
  | bindRtcp atPhase _ =>
    rw [atPhase] at record
    rw [AllocState.record_phase, AllocState.enter_phase_self]
    exact Since.returned record _ (by simp)
  | @rtcpTaken _ _ pair _ _ atPhase failure =>
    have holds := owned pair.rtcpPort
    rw [atPhase] at record fits holds
    obtain ⟨_, _, has, rtp⟩ := fits
    obtain ⟨_, nonzero, apart⟩ := has.nonzero positive
    obtain ⟨holder, found⟩ := udpBind_eq_none nonzero failure
    rw [AllocState.record_phase, AllocState.enter_phase_self, found]
    refine Since.foundTaken record (Or.inr rfl) ?_
    rintro rfl
    exact apart ((holds.mp found).trans rtp).symm
  | drop atPhase =>
    rw [atPhase] at record
    rw [AllocState.enter_phase_self]
    exact record

/-- Everything that holds of the calls on one sound range without port 0. -/
structure AllocInvariant (range : RtpPortRange) (slot : Nat) (s : AllocState) : Prop where
  owned : s.Owned
  rotated : s.Rotated range slot
  fits : ∀ id, (s.phase id).Fits range
  record : ∀ id, CallRecord id range.slots s.history (s.phase id)

theorem AllocInvariant.start {range : RtpPortRange} {slot : Nat} (inside : slot < range.slots)
    (taken : UInt16 → Bool) :
    AllocInvariant range slot (AllocState.start (range.atSlot slot) taken) where
  owned := AllocState.Owned.start (range.atSlot slot) taken
  rotated := ⟨by simp [AllocState.start, drawnPairs, Nat.mod_eq_of_lt inside], rfl⟩
  fits := fun _ => trivial
  record := by
    intro id event member
    cases member

theorem AllocInvariant.record_self {range : RtpPortRange} {slot : Nat} {s t : AllocState} {id : CallId}
    (positive : range.firstRtpPort ≠ 0) (before : AllocInvariant range slot s) (step : Advances s id t) :
    CallRecord id range.slots t.history (t.phase id) :=
  .advances positive (before.owned id) (before.fits id) (before.record id) step

theorem AllocInvariant.advances {range : RtpPortRange} {slot : Nat} {s t : AllocState} {id : CallId}
    (sound : range.Sound) (positive : range.firstRtpPort ≠ 0) (before : AllocInvariant range slot s)
    (step : Advances s id t) :
    AllocInvariant range slot t := by
  refine ⟨before.owned.advances step, before.rotated.advances sound step, ?_, ?_⟩
  · exact step.phases (P := fun _ phase => phase.Fits range)
      (before.rotated.fits sound positive (before.fits id) step)
      fun other _ => before.fits other
  · refine step.phases (P := fun other phase => CallRecord other range.slots t.history phase)
      (before.record_self positive step) fun other apart => ?_
    rcases step.others.2 with same | ⟨event, caller, more⟩
    · rw [same]
      exact before.record other
    · rw [more]
      exact (before.record other).append (caller ▸ Ne.symm apart)

theorem AllocInvariant.step {range : RtpPortRange} {slot : Nat} {s t : AllocState} {act : AllocAct}
    (sound : range.Sound) (positive : range.firstRtpPort ≠ 0) (before : AllocInvariant range slot s)
    (step : allocStep s act = some t) :
    AllocInvariant range slot t := by
  rcases allocStep_cases step with ⟨id, advances⟩ | ⟨port, free, rfl⟩
  · exact before.advances sound positive advances
  · exact ⟨before.owned.otherBinds free, before.rotated.of_same rfl rfl, before.fits, before.record⟩

theorem AllocInvariant.run {range : RtpPortRange} {slot : Nat} {taken : UInt16 → Bool} {acts : List AllocAct}
    {s : AllocState} (sound : range.Sound) (positive : range.firstRtpPort ≠ 0) (inside : slot < range.slots)
    (reach : run allocStep (AllocState.start (range.atSlot slot) taken) acts = some s) :
    AllocInvariant range slot s :=
  run_invariant (.start inside taken) (fun _ _ _ before step => before.step sound positive step) reach

end RsipstackServer
