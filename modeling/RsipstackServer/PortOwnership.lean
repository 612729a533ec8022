import RsipstackServer.LiveCalls

namespace RsipstackServer
open Foundation
universe u
variable {κ : Type u}

/-- Before a session starts its tasks do not exist. -/
def CallState.Fresh (call : CallState κ) : Prop :=
  call.handleCall = .accepted → call.receiveTask = .unspawned ∧ call.sendTask = .unspawned

theorem CallState.Fresh.not_ended {call : CallState κ} (fresh : call.Fresh) (place : call.handleCall = .accepted) :
    call.mediaEnded = false := by
  rw [CallState.mediaEnded, (fresh place).1]
  rfl

/-- What a step of an accepted call does to its session: it starts it, or it
leaves alone whether the session has started and what of it has ended. -/
inductive Plays (call : CallState κ) (act : CallAct) (after : CallState κ) : Prop
  | starts : act = .handleCall → call.handleCall = .accepted → after.handleCall = .started →
      after.mediaEnded = false → Plays call act after
  | goesOn : (act = .handleCall → call.handleCall ≠ .accepted) →
      (after.handleCall = .accepted ↔ call.handleCall = .accepted) → after.Fresh →
      (call.mediaEnded = true → after.mediaEnded = true) → Plays call act after

theorem Plays.of_same {call after : CallState κ} {act : CallAct} (fresh : call.Fresh) (other : act ≠ .handleCall)
    (place : after.handleCall = call.handleCall) (receiveTask : after.receiveTask = call.receiveTask)
    (sendTask : after.sendTask = call.sendTask) : Plays call act after := by
  refine .goesOn (fun same => absurd same other) (by rw [place]) ?_ ?_
  · unfold CallState.Fresh
    rw [place, receiveTask, sendTask]
    exact fresh
  · unfold CallState.mediaEnded
    rw [receiveTask, sendTask]
    exact id

theorem Plays.of_past {call after : CallState κ} {act : CallAct} (past : call.handleCall ≠ .accepted)
    (later : after.handleCall ≠ .accepted) (ended : call.mediaEnded = true → after.mediaEnded = true) :
    Plays call act after :=
  .goesOn (fun _ => past) (iff_of_false later past) (fun place => absurd place later) ended

theorem Proceeds.plays {call after : CallState κ} (step : Proceeds call after) : Plays call .handleCall after := by
  cases step with
  | starts place => exact .starts rfl place rfl rfl
  | runs place | returns place =>
    exact .of_past (by rw [place]; exact HandleCall.noConfusion) HandleCall.noConfusion id
  | ends place _ handler =>
    have past : call.handleCall ≠ .accepted := by rw [place]; exact HandleCall.noConfusion
    rcases handler with rfl | rfl <;> exact .of_past past HandleCall.noConfusion id

/-- A task that moves exists and has not ended, so the session has started and
is not over. -/
theorem Plays.of_task {call after : CallState κ} {act : CallAct} (fresh : call.Fresh)
    (running : call.receiveTask ≠ .unspawned ∧ call.receiveTask.hasEnded = false ∨
      call.sendTask ≠ .unspawned ∧ call.sendTask.hasEnded = false)
    (place : after.handleCall = call.handleCall) : Plays call act after := by
  have past : call.handleCall ≠ .accepted := by
    intro accepted
    obtain ⟨receiveTask, sendTask⟩ := fresh accepted
    exact running.elim (fun moves => moves.1 receiveTask) (fun moves => moves.1 sendTask)
  refine .of_past past (place ▸ past) fun ended => ?_
  rw [CallState.mediaEnded, Bool.and_eq_true] at ended
  rcases running with ⟨_, alive⟩ | ⟨_, alive⟩
  · exact absurd (alive.symm.trans ended.1) Bool.false_ne_true
  · exact absurd (alive.symm.trans ended.2) Bool.false_ne_true

theorem Receives.moves {session : MediaSession κ} {call after : CallState κ} (step : Receives session call after) :
    (call.receiveTask ≠ .unspawned ∧ call.receiveTask.hasEnded = false) ∧ after.handleCall = call.handleCall := by
  cases step with
  | start task | cancelled task | timesOut task | fails task | skips task | panics task | closes task
  | delivers task =>
    exact ⟨by rw [task]; exact ⟨nofun, rfl⟩, rfl⟩

theorem plays_of_step {session : MediaSession κ} {call after : CallState κ} {act : CallAct} (fresh : call.Fresh)
    (step : callStep session call act = some after) : Plays call act after := by
  cases act with
  | tick | peerSends | socketFails | dialogEnds =>
    cases Option.some.inj step
    exact .of_same fresh nofun rfl rfl rfl
  | handleCall => exact (CallState.handleCallStep_cases step).plays
  | receiveTask =>
    obtain ⟨moves, place⟩ := (CallState.receiveStep_cases step).moves
    exact .of_task fresh (Or.inl moves) place
  | sendTask act =>
    obtain ⟨moves, _, _, rfl⟩ := CallState.sendStep_frame step
    refine .of_task fresh (Or.inr ?_) rfl
    rcases moves with task | ⟨_, task⟩ <;> exact ⟨by rw [task]; exact nofun, by rw [task]; rfl⟩
  | handlerTask act =>
    obtain ⟨_, _, _, _, _, rfl⟩ := CallState.handlerStep_frame step
    exact .of_same fresh nofun rfl rfl rfl

/-- The ports of the sockets that a call owns, from what it was given on. -/
def CallLine.Holds (phase : AllocPhase) : CallLine κ → UInt16 → Prop
  | .allocating, port => phase.Holds port
  | .connected, port => phase.Holds port
  | .created, port => phase.Holds port
  | .closing left, port => port ∈ left
  | .media call, port => ∃ sockets, phase = .returned (some sockets) ∧
      (port = sockets.rtpSocket ∧ call.mediaEnded = false ∨ port = sockets.rtcpSocket ∧ call.handleCall = .accepted)

/-- The socket that a call got when it asked for a port. -/
def ServesPort (port socket : UInt16) : Prop := socket ≠ 0 ∧ (port ≠ 0 → socket = port)

/-- What a call knows of its sockets while it is in `tryAllocateSocketPair`. -/
def AllocPhase.Served : AllocPhase → Prop
  | .bindingRtp _ _ pair => pair.rtcpPort ≠ 0
  | .bindingRtcp _ _ pair rtpSocket => pair.rtcpPort ≠ 0 ∧ ServesPort pair.rtpPort rtpSocket
  | .returned (some sockets) =>
    sockets.rtpPortPair.rtcpPort ≠ 0 ∧ ServesPort sockets.rtpPortPair.rtpPort sockets.rtpSocket ∧
      ServesPort sockets.rtpPortPair.rtcpPort sockets.rtcpSocket ∧ sockets.rtpSocket ≠ sockets.rtcpSocket
  | .idle | .looping _ _ | .dropping _ _ _ | .returned none => True

/-- What a call has become, for the sockets that it was given. -/
def CallLine.Fits (phase : AllocPhase) : CallLine κ → Prop
  | .allocating => True
  | .connected | .created => ∃ sockets, phase = .returned (some sockets)
  | .closing left => (∃ sockets, phase = .returned (some sockets)) ∧ left.Nodup
  | .media call => (∃ sockets, phase = .returned (some sockets)) ∧ call.Fresh

/-- What holds of all calls in every state. -/
structure LiveInvariant (s : LiveCalls κ) : Prop where
  owned : Ownership Holder.call s.alloc.bound fun id => (s.line id).Holds (s.alloc.phase id)
  served : ∀ id, (s.alloc.phase id).Served
  fits : ∀ id, (s.line id).Fits (s.alloc.phase id)

theorem CallLine.holds_of_inSetup {line : CallLine κ} (stage : line.inSetup = true) (phase : AllocPhase) :
    line.Holds phase = phase.Holds := by
  cases line with
  | allocating | connected | created => rfl
  | closing | media => cases stage

theorem CallLine.holds_accepted {sockets : RtpSocketPair} (now : Nat) (port : UInt16) :
    (CallLine.media (.accepted now) : CallLine κ).Holds (.returned (some sockets)) port ↔
      (AllocPhase.returned (some sockets)).Holds port := by
  constructor
  · rintro ⟨_, same, rtp | rtcp⟩
    · cases same
      exact Or.inl rtp.1
    · cases same
      exact Or.inr rtcp.1
  · rintro (rtp | rtcp)
    · exact ⟨sockets, rfl, Or.inl ⟨rtp, rfl⟩⟩
    · exact ⟨sockets, rfl, Or.inr ⟨rtcp, rfl⟩⟩

theorem udpBind_serves {bound : PortTable} {port chosen socket : UInt16}
    (success : udpBind bound port chosen = some socket) :
    ServesPort port socket := by
  obtain ⟨same, _⟩ := udpBind_eq_some success
  refine ⟨fun zero => ?_, fun nonzero => same.trans (socketPort_of_nonzero chosen nonzero)⟩
  rw [udpBind, ← same, zero, if_pos (Or.inl rfl)] at success
  cases success

theorem RtpPortRange.nextPortPair_rtcp {range later : RtpPortRange} {pair : RtpPortPair}
    (pulled : range.nextPortPair = some (pair, later)) : pair.rtcpPort ≠ 0 := by
  obtain ⟨_, _, rest⟩ := Option.bind_eq_some_iff.mp pulled
  obtain ⟨_, paired, same⟩ := Option.bind_eq_some_iff.mp rest
  obtain ⟨rtcpPort, bumped, whole⟩ := Option.bind_eq_some_iff.mp paired
  cases Option.some.inj same
  cases Option.some.inj whole
  intro zero
  change rtcpPort = 0 at zero
  have sum := checkedAdd_eq_some.mp bumped
  rw [zero] at sum
  change 0 = _ + 1 at sum
  omega

/-- A call that moves in `tryAllocateSocketPair` has not returned from it. -/
theorem Advances.not_returned {s t : AllocState} {id : CallId} (step : Advances s id t)
    (result : Option RtpSocketPair) :
    s.phase id ≠ .returned result := by
  cases step with
  | enter phase | draw phase | exhaust phase | bindRtp phase | rtpTaken phase | bindRtcp phase | rtcpTaken phase
  | drop phase =>
    rw [phase]
    exact AllocPhase.noConfusion

theorem Advances.served {s t : AllocState} {id : CallId} (step : Advances s id t) (served : (s.phase id).Served)
    (owned : ∀ port, s.bound port = some (.call id) ↔ (s.phase id).Holds port) : (t.phase id).Served := by
  cases step with
  | enter | exhaust | rtpTaken | rtcpTaken =>
    rw [AllocState.record_phase, AllocState.enter_phase_self]
    trivial
  | drop =>
    rw [AllocState.enter_phase_self]
    trivial
  | draw _ _ pulled =>
    rw [AllocState.record_phase, AllocState.enter_phase_self]
    exact RtpPortRange.nextPortPair_rtcp pulled
  | bindRtp phase bound =>
    rw [phase] at served
    rw [AllocState.enter_phase_self]
    exact ⟨served, udpBind_serves bound⟩
  | @bindRtcp _ _ _ rtpSocket _ rtcpSocket phase bound =>
    rw [phase] at served owned
    rw [AllocState.record_phase, AllocState.enter_phase_self]
    refine ⟨served.1, served.2, udpBind_serves bound, ?_⟩
    intro same
    change rtpSocket = rtcpSocket at same
    cases (udpBind_eq_some bound).2.symm.trans ((owned rtcpSocket).mpr same.symm)

theorem CallLine.media_holds {call : CallState κ} {sockets : RtpSocketPair} {port : UInt16} :
    (CallLine.media call).Holds (.returned (some sockets)) port ↔
      port = sockets.rtpSocket ∧ call.mediaEnded = false ∨ port = sockets.rtcpSocket ∧
        call.handleCall = .accepted := by
  constructor
  · rintro ⟨_, same, held⟩
    cases same
    exact held
  · exact fun held => ⟨sockets, rfl, held⟩

/-- A step of an accepted call closes the RTCP socket as it starts the session,
the RTP socket as the session ends, and no other. -/
theorem Plays.transfers {s : LiveCalls κ} {call after : CallState κ} {act : CallAct} {sockets : RtpSocketPair}
    {id : CallId} (plays : Plays call act after) (fresh : call.Fresh)
    (apart : sockets.rtpSocket ≠ sockets.rtcpSocket) :
    Transfers (.call id) s.alloc.bound ((CallLine.media call).Holds (.returned (some sockets)))
      (s.close (sockets.closedBy call after)).alloc.bound ((CallLine.media after).Holds
        (.returned (some sockets))) := by
  cases plays with
  | starts _ place started running =>
    have later : after.handleCall ≠ .accepted := by
      rw [started]
      exact HandleCall.noConfusion
    rw [RtpSocketPair.closedBy, if_pos ⟨place, later⟩]
    refine .releases (CallLine.media_holds.mpr (Or.inr ⟨rfl, place⟩)) fun port => ?_
    rw [CallLine.media_holds, CallLine.media_holds]
    have alive := fresh.not_ended place
    constructor
    · rintro (⟨rfl, _⟩ | ⟨_, again⟩)
      · exact ⟨Or.inl ⟨rfl, alive⟩, apart⟩
      · exact absurd again later
    · rintro ⟨⟨rfl, _⟩ | ⟨rfl, _⟩, other⟩
      · exact Or.inl ⟨rfl, running⟩
      · exact absurd rfl other
  | goesOn _ place fresh' ended =>
    rw [RtpSocketPair.closedBy, if_neg fun both => both.2 (place.mpr both.1)]
    by_cases ends : (after.mediaEnded && !call.mediaEnded) = true
    · rw [if_pos ends]
      rw [Bool.and_eq_true, Bool.not_eq_true'] at ends
      have past : after.handleCall ≠ .accepted := by
        intro accepted
        cases ends.1.symm.trans (fresh'.not_ended accepted)
      refine .releases (CallLine.media_holds.mpr (Or.inl ⟨rfl, ends.2⟩)) fun port => ?_
      rw [CallLine.media_holds, CallLine.media_holds, ← place]
      constructor
      · rintro (⟨_, alive⟩ | ⟨_, accepted⟩)
        · cases ends.1.symm.trans alive
        · exact absurd accepted past
      · rintro ⟨⟨rfl, _⟩ | ⟨_, accepted⟩, other⟩
        · exact absurd rfl other
        · exact absurd accepted past
    · rw [if_neg ends]
      refine .keeps fun port => ?_
      have same : after.mediaEnded = call.mediaEnded := by
        cases before : call.mediaEnded with
        | true => exact ended before
        | false =>
          rw [before, Bool.not_false, Bool.and_true] at ends
          exact Bool.eq_false_iff.mpr ends
      rw [CallLine.media_holds, CallLine.media_holds, place, same]

theorem CallLine.Fits.returned {line : CallLine κ} {phase : AllocPhase} (fits : line.Fits phase)
    (stage : line ≠ .allocating) : ∃ sockets, phase = .returned (some sockets) := by
  cases line with
  | allocating => exact absurd rfl stage
  | connected | created => exact fits
  | closing | media => exact fits.1

/-- A call that moves in `tryAllocateSocketPair` has no later stage. -/
theorem LiveInvariant.allocating {s : LiveCalls κ} {id : CallId} {alloc : AllocState} (before : LiveInvariant s)
    (moved : Advances s.alloc id alloc) : s.line id = .allocating := by
  by_contra stage
  obtain ⟨sockets, returned⟩ := (before.fits id).returned stage
  exact moved.not_returned _ returned

theorem LiveInvariant.owned_enter {s : LiveCalls κ} {id : CallId} {line : CallLine κ} (before : LiveInvariant s)
    (port : Option UInt16) (moved : Transfers (.call id) s.alloc.bound ((s.line id).Holds (s.alloc.phase id))
      (s.close port).alloc.bound (line.Holds (s.alloc.phase id))) :
    Ownership Holder.call ((s.close port).enter id line).alloc.bound fun other =>
      (((s.close port).enter id line).line other).Holds (((s.close port).enter id line).alloc.phase other) := by
  refine before.owned.transfers Holder.call_injective id ?_ fun other apart => ?_
  · rw [LiveCalls.enter_line_self, LiveCalls.enter_alloc, LiveCalls.close_phase]
    exact moved
  · rw [LiveCalls.enter_line_of_ne _ _ apart, LiveCalls.enter_alloc, LiveCalls.close_phase, LiveCalls.close_line]

theorem Lives.owned {session : CallId → MediaSession κ} {s t : LiveCalls κ} {act : LiveAct}
    (step : Lives session s act t) (before : LiveInvariant s) :
    Ownership Holder.call t.alloc.bound fun id => (t.line id).Holds (t.alloc.phase id) := by
  cases step with
  | @allocates id chosen alloc moved =>
    refine before.owned.transfers Holder.call_injective id ?_ fun other apart => ?_
    · rw [before.allocating moved]
      exact moved.transfers
    · rw [moved.others.1 other apart]
  | otherBinds free => exact before.owned.foreign (fun _ => Holder.noConfusion) free
  | @setsUp _ id sockets next _ stage returned later =>
    refine before.owned_enter none (.keeps fun port => ?_)
    rw [CallLine.holds_of_inSetup stage, returned]
    rcases later with rfl | rfl | ⟨now, rfl⟩
    · rfl
    · rfl
    · exact CallLine.holds_accepted now port
  | @fails _ id sockets _ stage returned =>
    refine before.owned_enter none (.keeps fun port => ?_)
    rw [CallLine.holds_of_inSetup stage, returned]
    exact List.mem_pair
  | @closes id port left stage =>
    refine before.owned_enter _ ?_
    have line := before.fits id
    rw [stage] at line ⊢
    refine .releases List.mem_cons_self fun place => ?_
    change place ∈ left ↔ place ∈ port :: left ∧ place ≠ port
    rw [List.mem_cons]
    constructor
    · exact fun member => ⟨Or.inr member, fun same => (List.nodup_cons.mp line.2).1 (same ▸ member)⟩
    · exact fun both => both.1.resolve_left both.2
  | @plays id act sockets call after stage returned moved =>
    refine before.owned_enter _ ?_
    have line := before.fits id
    have served := before.served id
    rw [stage] at line ⊢
    rw [returned] at served ⊢
    exact (plays_of_step line.2 moved).transfers line.2 served.2.2.2

theorem Lives.served {session : CallId → MediaSession κ} {s t : LiveCalls κ} {act : LiveAct}
    (step : Lives session s act t) (before : LiveInvariant s) (id : CallId) : (t.alloc.phase id).Served := by
  cases step with
  | @allocates mover chosen alloc moved =>
    have owned : ∀ port, s.alloc.bound port = some (.call mover) ↔ (s.line mover).Holds (s.alloc.phase mover) port :=
      before.owned mover
    rw [before.allocating moved] at owned
    exact moved.phases (P := fun _ phase => phase.Served) (moved.served (before.served mover) owned)
      (fun other _ => before.served other) id
  | otherBinds | setsUp | fails | closes => exact before.served id
  | plays =>
    rw [LiveCalls.enter_alloc, LiveCalls.close_phase]
    exact before.served id

theorem LiveInvariant.fits_enter {s : LiveCalls κ} {id : CallId} {line : CallLine κ} (before : LiveInvariant s)
    (port : Option UInt16) (fits : line.Fits (s.alloc.phase id)) (other : CallId) :
    (((s.close port).enter id line).line other).Fits (((s.close port).enter id line).alloc.phase other) := by
  rw [LiveCalls.enter_alloc, LiveCalls.close_phase]
  by_cases mine : other = id
  · subst mine
    rw [LiveCalls.enter_line_self]
    exact fits
  · rw [LiveCalls.enter_line_of_ne _ _ mine, LiveCalls.close_line]
    exact before.fits other

theorem Lives.fits {session : CallId → MediaSession κ} {s t : LiveCalls κ} {act : LiveAct}
    (step : Lives session s act t) (before : LiveInvariant s) (id : CallId) :
    (t.line id).Fits (t.alloc.phase id) := by
  cases step with
  | @allocates mover chosen alloc moved =>
    refine moved.phases (P := fun other phase => (s.line other).Fits phase) ?_ (fun other _ => before.fits other) id
    rw [before.allocating moved]
    trivial
  | otherBinds => exact before.fits id
  | @setsUp _ mover sockets next _ _ returned later =>
    refine before.fits_enter none ?_ id
    rcases later with rfl | rfl | ⟨now, rfl⟩
    · exact ⟨sockets, returned⟩
    · exact ⟨sockets, returned⟩
    · exact ⟨⟨sockets, returned⟩, fun _ => ⟨rfl, rfl⟩⟩
  | @fails _ mover sockets _ _ returned =>
    have served := before.served mover
    rw [returned] at served
    have nodup : [sockets.rtpSocket, sockets.rtcpSocket].Nodup :=
      List.nodup_cons.mpr ⟨fun member => served.2.2.2 (List.mem_singleton.mp member), List.nodup_singleton _⟩
    have line : (CallLine.closing [sockets.rtpSocket, sockets.rtcpSocket] : CallLine κ).Fits (s.alloc.phase mover) :=
      ⟨⟨sockets, returned⟩, nodup⟩
    exact before.fits_enter none line id
  | @closes mover port left stage =>
    have line := before.fits mover
    rw [stage] at line
    have later : (CallLine.closing left : CallLine κ).Fits (s.alloc.phase mover) :=
      ⟨line.1, (List.nodup_cons.mp line.2).2⟩
    exact before.fits_enter _ later id
  | @plays mover act sockets call after stage returned moved =>
    have line := before.fits mover
    rw [stage] at line
    have fresh : after.Fresh := by
      cases plays_of_step line.2 moved with
      | starts _ _ started => exact fun place => HandleCall.noConfusion (started.symm.trans place)
      | goesOn _ _ fresh => exact fresh
    have later : (CallLine.media after).Fits (s.alloc.phase mover) := ⟨⟨sockets, returned⟩, fresh⟩
    exact before.fits_enter _ later id

theorem LiveInvariant.step {session : CallId → MediaSession κ} {s t : LiveCalls κ} {act : LiveAct}
    (before : LiveInvariant s) (step : liveStep session s act = some t) : LiveInvariant t :=
  ⟨(lives_of_step step).owned before, (lives_of_step step).served before, (lives_of_step step).fits before⟩

theorem LiveInvariant.start (range : RtpPortRange) (taken : UInt16 → Bool) :
    LiveInvariant (LiveCalls.start range taken : LiveCalls κ) :=
  ⟨AllocState.Owned.start range taken, fun _ => trivial, fun _ => trivial⟩

end RsipstackServer
