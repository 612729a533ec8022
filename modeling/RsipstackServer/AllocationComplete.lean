import RsipstackServer.AllocationRecord

namespace RsipstackServer
open Foundation

def PortTable.free (bound : PortTable) (pair : RtpPortPair) : Bool :=
  (bound pair.rtpPort).isNone && (bound pair.rtcpPort).isNone

/-- The pairs of a range in the order in which calls try them, from the
cursor on. -/
def RtpPortRange.fromCursor (range : RtpPortRange) : List RtpPortPair :=
  (List.range range.slots).map fun turn =>
    range.slotPair (((range.currentRtpPort.toNat - range.firstRtpPort.toNat) / 2 + turn) % range.slots)

theorem RtpPortRange.Sound.fromCursor_atSlot {range : RtpPortRange} (sound : range.Sound) {slot : Nat}
    (inside : slot < range.slots) : (range.atSlot slot).fromCursor =
      (List.range' slot range.slots).map fun turn => range.slotPair (turn % range.slots) := by
  have cursor : (range.atSlot slot).currentRtpPort.toNat = _ := sound.slotPort_toNat inside.le
  have same : (range.atSlot slot).firstRtpPort.toNat = range.firstRtpPort.toNat := rfl
  have place : ((range.atSlot slot).currentRtpPort.toNat - (range.atSlot slot).firstRtpPort.toNat) / 2 = slot := by
    omega
  rw [RtpPortRange.fromCursor, place, List.range'_eq_map_range, List.map_map]
  rfl

namespace AllocState

theorem advance_idle {s : AllocState} {id : CallId} {capacity : UInt16} (chosen : UInt16)
    (atPhase : s.phase id = .idle) (value : s.range.capacity = some capacity) :
    s.advance id chosen = some ((s.enter id (.looping 0 capacity.toNat)).record (.called id)) := by
  simp only [advance, atPhase, value, Option.bind_eq_bind, Option.bind_some, Option.pure_def]

theorem advance_draw {s : AllocState} {id : CallId} {numAttempts capacity : Nat} {pair : RtpPortPair}
    {range : RtpPortRange} (chosen : UInt16) (atPhase : s.phase id = .looping numAttempts capacity)
    (more : numAttempts < capacity) (pulled : s.range.nextPortPair = some (pair, range)) : s.advance id chosen =
      some (({ s with range }.enter id (.bindingRtp numAttempts capacity pair)).record (.drew id pair)) := by
  simp only [advance, atPhase, if_pos more, pulled, Option.bind_eq_bind, Option.bind_some, Option.pure_def]

theorem advance_exhaust {s : AllocState} {id : CallId} {numAttempts capacity : Nat} (chosen : UInt16)
    (atPhase : s.phase id = .looping numAttempts capacity) (done : capacity ≤ numAttempts) :
    s.advance id chosen = some ((s.enter id (.returned none)).record (.returned id none)) := by
  simp only [advance, atPhase, if_neg (Nat.not_lt.mpr done)]

theorem advance_bindRtp {s : AllocState} {id : CallId} {numAttempts capacity : Nat} {pair : RtpPortPair}
    {chosen rtpSocket : UInt16} (atPhase : s.phase id = .bindingRtp numAttempts capacity pair)
    (bound : udpBind s.bound pair.rtpPort chosen = some rtpSocket) :
    s.advance id chosen =
      some ((s.bind rtpSocket (some (.call id))).enter id (.bindingRtcp numAttempts capacity pair rtpSocket)) := by
  simp only [advance, atPhase, bound]

theorem advance_rtpTaken {s : AllocState} {id : CallId} {numAttempts capacity : Nat} {pair : RtpPortPair}
    {chosen : UInt16} (atPhase : s.phase id = .bindingRtp numAttempts capacity pair)
    (taken : udpBind s.bound pair.rtpPort chosen = none) :
    s.advance id chosen = some ((s.enter id (.looping (numAttempts + 1) capacity)).record
      (.foundTaken id pair pair.rtpPort (s.bound pair.rtpPort))) := by
  simp only [advance, atPhase, taken]

theorem advance_bindRtcp {s : AllocState} {id : CallId} {numAttempts capacity : Nat} {pair : RtpPortPair}
    {rtpSocket chosen rtcpSocket : UInt16} (atPhase : s.phase id = .bindingRtcp numAttempts capacity pair rtpSocket)
    (bound : udpBind s.bound pair.rtcpPort chosen = some rtcpSocket) : s.advance id chosen =
      some (((s.bind rtcpSocket (some (.call id))).enter id (.returned (some ⟨pair, rtpSocket, rtcpSocket⟩))).record
        (.returned id (some ⟨pair, rtpSocket, rtcpSocket⟩))) := by
  simp only [advance, atPhase, bound]

theorem advance_rtcpTaken {s : AllocState} {id : CallId} {numAttempts capacity : Nat} {pair : RtpPortPair}
    {rtpSocket chosen : UInt16} (atPhase : s.phase id = .bindingRtcp numAttempts capacity pair rtpSocket)
    (taken : udpBind s.bound pair.rtcpPort chosen = none) : s.advance id chosen =
      some ((s.enter id (.dropping numAttempts capacity rtpSocket)).record
        (.foundTaken id pair pair.rtcpPort (s.bound pair.rtcpPort))) := by
  simp only [advance, atPhase, taken]

theorem advance_drop {s : AllocState} {id : CallId} {numAttempts capacity : Nat} {rtpSocket : UInt16}
    (chosen : UInt16) (atPhase : s.phase id = .dropping numAttempts capacity rtpSocket) : s.advance id chosen =
      some ((s.bind rtpSocket none).enter id (.looping (numAttempts + 1) capacity)) := by
  simp only [advance, atPhase]

/-- Left to itself, the call returns after some number of steps, whatever the
operating system chooses, and with sockets for the expected pair. -/
def ReturnsAlone (s : AllocState) (id : CallId) (expected : Option RtpPortPair) : Prop :=
  ∃ steps, ∀ choices : List UInt16, choices.length = steps →
    ∃ t result, run (fun s chosen => s.advance id chosen) s choices = some t ∧ t.phase id = .returned result ∧
      result.map RtpSocketPair.rtpPortPair = expected

theorem ReturnsAlone.here {s : AllocState} {id : CallId} {result : Option RtpSocketPair}
    {expected : Option RtpPortPair} (atPhase : s.phase id = .returned result)
    (same : result.map RtpSocketPair.rtpPortPair = expected) :
    s.ReturnsAlone id expected := by
  refine ⟨0, ?_⟩
  intro choices none
  cases List.length_eq_zero_iff.mp none
  exact ⟨s, result, rfl, atPhase, same⟩

theorem ReturnsAlone.step {s t : AllocState} {id : CallId} {expected : Option RtpPortPair}
    (advances : ∀ chosen, s.advance id chosen = some t) (later : t.ReturnsAlone id expected) :
    s.ReturnsAlone id expected := by
  obtain ⟨steps, returns⟩ := later
  refine ⟨steps + 1, ?_⟩
  intro choices count
  cases choices with
  | nil => cases count
  | cons chosen rest =>
    obtain ⟨final, result, reach, done⟩ := returns rest (Nat.succ.inj count)
    refine ⟨final, result, ?_, done⟩
    rw [run_cons, advances, Option.bind_some, reach]

/-- The loop left to itself tries the next places of the rotation in turn,
and gives back the RTP port of each half-bound pair. -/
theorem loop_returnsAlone {range : RtpPortRange} (sound : range.Sound) (positive : range.firstRtpPort ≠ 0)
    {id : CallId} (bound : PortTable) (left : Nat) : ∀ (s : AllocState) (numAttempts turn : Nat),
      s.phase id = .looping numAttempts range.slots → numAttempts + left = range.slots →
      s.range = range.atSlot (turn % range.slots) → s.bound = bound →
      s.ReturnsAlone id (((List.range' turn left).map
        fun turn => range.slotPair (turn % range.slots)).find? bound.free) := by
  induction left with
  | zero =>
    intro s numAttempts turn atPhase spent _ _
    exact .step (fun chosen => advance_exhaust chosen atPhase (by omega)) (.here (enter_phase_self ..) rfl)
  | succ left ih =>
    intro s numAttempts turn atPhase spent cursor table
    have has := sound.slotPair_hasPair (Nat.mod_lt turn range.slots_pos)
    obtain ⟨rtpNonzero, rtcpNonzero, apart⟩ := has.nonzero positive
    subst table
    refine .step (fun chosen => advance_draw chosen atPhase (by omega) (cursor ▸ sound.nextPortPair_atSlot turn)) ?_
    rw [List.range'_succ, List.map_cons, List.find?_cons]
    generalize range.slotPair (turn % range.slots) = pair at has rtpNonzero rtcpNonzero apart ⊢
    cases rtpFree : s.bound pair.rtpPort with
    | some holder =>
      refine .step (fun chosen => advance_rtpTaken (enter_phase_self ..)
        (udpBind_of_taken chosen rtpNonzero (by simp [rtpFree]))) ?_
      simp only [PortTable.free, rtpFree, Option.isNone_some, Bool.false_and]
      exact ih _ _ _ (enter_phase_self ..) (by omega) rfl rfl
    | none =>
      refine .step (fun chosen => advance_bindRtp (enter_phase_self ..)
        (udpBind_of_free chosen rtpNonzero rtpFree)) ?_
      have unchanged : (s.bind pair.rtpPort (some (.call id))).bound pair.rtcpPort = s.bound pair.rtcpPort :=
        bind_bound_of_ne s _ apart.symm
      cases rtcpFree : s.bound pair.rtcpPort with
      | some holder =>
        have taken : (s.bind pair.rtpPort (some (.call id))).bound pair.rtcpPort ≠ none := by
          simp [unchanged, rtcpFree]
        have restored : Function.update (Function.update s.bound pair.rtpPort (some (.call id))) pair.rtpPort none =
          s.bound := by
          rw [Function.update_idem, ← rtpFree, Function.update_eq_self]
        refine .step (fun chosen => advance_rtcpTaken (enter_phase_self ..)
          (udpBind_of_taken chosen rtcpNonzero taken)) ?_
        refine .step (fun chosen => advance_drop chosen (enter_phase_self ..)) ?_
        simp only [PortTable.free, rtcpFree, Option.isNone_some, Bool.and_false]
        exact ih _ _ _ (enter_phase_self ..) (by omega) rfl restored
      | none =>
        refine .step (fun chosen => advance_bindRtcp (enter_phase_self ..)
          (udpBind_of_free chosen rtcpNonzero (unchanged.trans rtcpFree))) ?_
        simp only [PortTable.free, rtpFree, rtcpFree, Option.isNone_none, Bool.and_self]
        exact .here (enter_phase_self ..) rfl

/-- A call that runs alone returns the first free pair from the cursor on. -/
theorem returnsAlone {range : RtpPortRange} (sound : range.Sound) (positive : range.firstRtpPort ≠ 0) {s : AllocState}
    {id : CallId} {slot : Nat} (inside : slot < range.slots) (cursor : s.range = range.atSlot slot)
    (atPhase : s.phase id = .idle) : s.ReturnsAlone id (s.range.fromCursor.find? s.bound.free) := by
  have value : s.range.capacity = some (UInt16.ofNat range.slots) := cursor ▸ sound.capacity_eq
  have count : (UInt16.ofNat range.slots).toNat = range.slots := sound.capacity_toNat (cursor ▸ value)
  refine .step (fun chosen => advance_idle chosen atPhase value) ?_
  rw [count, cursor, sound.fromCursor_atSlot inside]
  refine loop_returnsAlone sound positive s.bound range.slots _ 0 slot (enter_phase_self ..) (Nat.zero_add _) ?_ rfl
  rw [Nat.mod_eq_of_lt inside]
  exact cursor

end AllocState

/-- What a state of the allocation owes to its calls. -/
structure AllocationCorrect (range : RtpPortRange) (s : AllocState) : Prop where
  allocated : ∀ id sockets, s.phase id = .returned (some sockets) → range.HasPair sockets.rtpPortPair ∧
    s.bound sockets.rtpPortPair.rtpPort = some (.call id) ∧ s.bound sockets.rtpPortPair.rtcpPort = some (.call id)
  exhausted : ∀ id, s.phase id = .returned none → ∃ before during after,
    s.history = before ++ .called id :: during ++ .returned id none :: after ∧ (∀ event ∈ before, event.caller ≠ id) ∧
      ∀ pair, range.HasPair pair → (.drew id pair ∈ during ∧ FoundTaken id pair during) ∨
        ∃ other, other ≠ id ∧ .drew other pair ∈ during
  noLeak : ∀ id port, s.bound port = some (.call id) →
    (∃ sockets, s.phase id = .returned (some sockets) ∧
      (port = sockets.rtpPortPair.rtpPort ∨ port = sockets.rtpPortPair.rtcpPort)) ∨
    ∃ numAttempts capacity, (∃ pair, s.phase id = .bindingRtcp numAttempts capacity pair port) ∨
      s.phase id = .dropping numAttempts capacity port
  alone : ∀ id, s.phase id = .idle → s.ReturnsAlone id (s.range.fromCursor.find? s.bound.free) ∧
    (s.range.fromCursor.find? s.bound.free = none ↔ ∀ pair, range.HasPair pair → s.bound.free pair = false)

theorem Between.exhausted {range : RtpPortRange} {slot : Nat} {s : AllocState} {id : CallId} (sound : range.Sound)
    (rotated : s.Rotated range slot) (between : Between id none range.slots s.history) : ∃ before during after,
    s.history = before ++ .called id :: during ++ .returned id none :: after ∧ (∀ event ∈ before, event.caller ≠ id) ∧
      ∀ pair, range.HasPair pair → (.drew id pair ∈ during ∧ FoundTaken id pair during) ∨
        ∃ other, other ≠ id ∧ .drew other pair ∈ during := by
  obtain ⟨before, during, after, whole, unseen, tried⟩ := between
  refine ⟨before, during, after, whole, unseen, ?_⟩
  intro pair has
  -- The draws made during the call are consecutive, and its own are a whole round.
  have parts : drawnPairs s.history = drawnPairs before ++ (drawnPairs during ++ drawnPairs after) := by
    rw [whole, List.append_assoc, drawnPairs_append]
    exact congrArg _ ((congrArg drawnPairs (List.cons_append ..)).trans
      (drawnPairs_append during (.returned id none :: after)))
  have own : range.slots ≤ (drawnPairs during).length := by
    rw [← (tried rfl).count, drawnPairs, List.length_filterMap_eq_countP]
    refine List.countP_mono_left ?_
    intro event _ mine
    cases event <;> simp_all [AllocEvent.drewBy, AllocEvent.drawn]
  have window : drawnPairs during = (List.range' (slot + (drawnPairs before).length) (drawnPairs during).length).map
      fun turn => range.slotPair (turn % range.slots) := by
    have drawn := rotated.drawn
    rw [parts] at drawn
    exact turns_window drawn
  obtain ⟨place, inside, same⟩ := sound.exists_slot has
  obtain ⟨turn, lower, upper, here⟩ := round_covers (slot + (drawnPairs before).length) inside
  have member : pair ∈ drawnPairs during := by
    rw [window]
    exact List.mem_map.mpr ⟨turn, List.mem_range'_1.mpr ⟨lower, by omega⟩, by rw [here, same]⟩
  obtain ⟨event, drew, value⟩ := List.mem_filterMap.mp member
  cases event with
  | drew caller drawn =>
    cases Option.some.inj value
    by_cases mine : caller = id
    · subst mine
      rcases (tried rfl).taken pair drew with found | nothing
      · exact Or.inl ⟨drew, found⟩
      · cases nothing
    · exact Or.inr ⟨caller, mine, drew⟩
  | called | foundTaken | returned => cases value

/-- Every state that the calls can reach together, from any cursor and with
any ports taken beforehand, is a correct one. -/
def AllocationSafe (range : RtpPortRange) : Prop :=
  ∀ slot < range.slots, ∀ taken acts s, run allocStep (AllocState.start (range.atSlot slot) taken) acts = some s →
    AllocationCorrect range s

theorem AllocInvariant.correct {range : RtpPortRange} {slot : Nat} {s : AllocState} (sound : range.Sound)
    (positive : range.firstRtpPort ≠ 0) (reached : AllocInvariant range slot s) : AllocationCorrect range s where
  allocated := by
    intro id sockets atPhase
    have fits := reached.fits id
    have rtp := reached.owned id sockets.rtpSocket
    have rtcp := reached.owned id sockets.rtcpSocket
    rw [atPhase] at fits rtp rtcp
    obtain ⟨has, rtpSame, rtcpSame⟩ := fits
    rw [← rtpSame, ← rtcpSame]
    exact ⟨has, rtp.mpr (Or.inl rfl), rtcp.mpr (Or.inr rfl)⟩
  exhausted := by
    intro id atPhase
    have record := reached.record id
    rw [atPhase] at record
    exact Between.exhausted sound reached.rotated record
  noLeak := by
    intro id port held
    have holds := (reached.owned id port).mp held
    have fits := reached.fits id
    cases atPhase : s.phase id with
    | idle | looping | bindingRtp =>
      rw [atPhase] at holds
      cases holds
    | bindingRtcp numAttempts capacity pair rtpSocket =>
      rw [atPhase] at holds
      cases holds
      exact Or.inr ⟨numAttempts, capacity, Or.inl ⟨pair, rfl⟩⟩
    | dropping numAttempts capacity rtpSocket =>
      rw [atPhase] at holds
      cases holds
      exact Or.inr ⟨numAttempts, capacity, Or.inr rfl⟩
    | returned result =>
      cases result with
      | none =>
        rw [atPhase] at holds
        cases holds
      | some sockets =>
        rw [atPhase] at holds fits
        obtain ⟨_, rtpSame, rtcpSame⟩ := fits
        exact Or.inl ⟨sockets, rfl, by rwa [← rtpSame, ← rtcpSame]⟩
  alone := by
    intro id atPhase
    have inside := Nat.mod_lt (slot + (drawnPairs s.history).length) range.slots_pos
    refine ⟨AllocState.returnsAlone sound positive inside reached.rotated.cursor atPhase, ?_⟩
    rw [reached.rotated.cursor, sound.fromCursor_atSlot inside, List.find?_eq_none]
    simp only [(range.round_pairs_perm _).mem_iff, sound.mem_allPairs, Bool.not_eq_true]

/-- On a range with port 0 the first call binds whatever port the operating
system chooses, and returns it as port 0. -/
theorem not_allocationSafe_of_zero {range : RtpPortRange} (sound : range.Sound) (zero : range.firstRtpPort = 0) :
    ¬ AllocationSafe range := by
  intro safe
  have pair : range.slotPair 0 = ⟨0, 1⟩ := by
    rw [RtpPortRange.slotPair, RtpPortRange.slotPort_zero, zero]
    rfl
  have drawn : (range.atSlot 0).nextPortPair = some (⟨0, 1⟩, range.atSlot (1 % range.slots)) := by
    have next := sound.nextPortPair_atSlot 0
    rwa [Nat.zero_mod, pair] at next
  have value : (range.atSlot 0).capacity = some (UInt16.ofNat range.slots) := sound.capacity_eq
  have positive : 0 < (UInt16.ofNat range.slots).toNat := by
    rw [sound.capacity_toNat value]
    exact range.slots_pos
  let idle := AllocState.start (range.atSlot 0) fun _ => false
  let looping := (idle.enter 0 (.looping 0 (UInt16.ofNat range.slots).toNat)).record (.called 0)
  let binding := ({ looping with range := range.atSlot (1 % range.slots) }.enter 0
    (.bindingRtp 0 (UInt16.ofNat range.slots).toNat ⟨0, 1⟩)).record (.drew 0 ⟨0, 1⟩)
  let half := (binding.bind 40000 (some (.call 0))).enter 0
    (.bindingRtcp 0 (UInt16.ofNat range.slots).toNat ⟨0, 1⟩ 40000)
  let last := ((half.bind 1 (some (.call 0))).enter 0 (.returned (some ⟨⟨0, 1⟩, 40000, 1⟩))).record
    (.returned 0 (some ⟨⟨0, 1⟩, 40000, 1⟩))
  have called : idle.advance 0 0 = some looping := AllocState.advance_idle 0 rfl value
  have drew : looping.advance 0 0 = some binding := AllocState.advance_draw 0 rfl positive drawn
  have rtp : binding.advance 0 40000 = some half := AllocState.advance_bindRtp rfl rfl
  have rtcp : half.advance 0 0 = some last := AllocState.advance_bindRtcp rfl rfl
  have reach : run allocStep idle [.advance 0 0, .advance 0 0, .advance 0 40000, .advance 0 0] = some last := by
    simp only [run_cons, run_nil, allocStep, called, drew, rtp, rtcp, Option.bind_some]
  have nobody : last.bound 0 = none := rfl
  have returned : last.phase 0 = .returned (some ⟨⟨0, 1⟩, 40000, 1⟩) := rfl
  obtain ⟨_, held, _⟩ := (safe 0 range.slots_pos _ _ _ reach).allocated 0 _ returned
  rw [nobody] at held
  cases held

/-- Allocation on an accepted range is safe exactly when port 0 is not one
of its ports. -/
theorem allocationSafe_iff {minPort maxPort : UInt16} {range : RtpPortRange}
    (built : RtpPortRange.new minPort maxPort = some (.ok range)) (below : maxPort < 65535) :
    AllocationSafe range ↔ minPort ≠ 0 := by
  have sound := RtpPortRange.sound_of_new built (Or.inl (UInt16.lt_iff_toNat_lt.mp below))
  obtain ⟨_, first, _⟩ := RtpPortRange.new_ok built
  rw [← first]
  constructor
  · intro safe zero
    exact not_allocationSafe_of_zero sound zero safe
  · intro positive slot inside taken acts s reach
    exact (AllocInvariant.run sound positive inside reach).correct sound positive

theorem allocationSafe_default : AllocationSafe ⟨10000, 10098, 10000⟩ :=
  (allocationSafe_iff (by decide : RtpPortRange.new 10000 10099 = _) (by decide)).mpr (by decide)

theorem allocationSafe_fails : RtpPortRange.new 0 9 = some (.ok ⟨0, 8, 0⟩) ∧ ¬ AllocationSafe ⟨0, 8, 0⟩ :=
  ⟨by decide, not_allocationSafe_of_zero ⟨by decide, by decide⟩ rfl⟩

end RsipstackServer
