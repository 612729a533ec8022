import RsipstackServer.PortOwnership
import RsipstackServer.AllocationComplete
import RsipstackServer.MediaTimeout

namespace RsipstackServer
open Foundation
universe u
variable {κ : Type u}

/-- Not yet failed, and not yet at the end of both tasks. -/
def CallLine.live : CallLine κ → Bool
  | .allocating | .connected | .created => true
  | .closing _ => false
  | .media call => !call.mediaEnded

/-- The session of the call has ended, or its setup has and with it all it
held. -/
def CallLine.finished : CallLine κ → Bool
  | .allocating | .connected | .created | .closing (_ :: _) => false
  | .closing [] => true
  | .media call => call.mediaEnded

def CallLine.started : CallLine κ → Bool
  | .allocating | .connected | .created | .closing _ => false
  | .media call => call.handleCall != .accepted

namespace LiveCalls

/-- The pair that `tryAllocateSocketPair` returned to a call, while the call is
live. -/
def HoldsPair (s : LiveCalls κ) (id : CallId) (pair : RtpPortPair) : Prop :=
  (s.line id).live = true ∧ ∃ sockets, s.alloc.phase id = .returned (some sockets) ∧ sockets.rtpPortPair = pair

/-- The pairs of live calls are apart, each has its two ports bound by its
call, and a call that is over has none bound. -/
structure OwnsBoth (s : LiveCalls κ) : Prop where
  apart : ∀ id other pair otherPair, id ≠ other → s.HoldsPair id pair → s.HoldsPair other otherPair →
    pair.Disjoint otherPair
  bound : ∀ id pair, s.HoldsPair id pair →
    s.alloc.bound pair.rtpPort = some (.call id) ∧ s.alloc.bound pair.rtcpPort = some (.call id)
  released : ∀ id, (s.line id).finished = true → ∀ port, s.alloc.bound port ≠ some (.call id)

/-- A call starts its media session. -/
def StartsMedia (s : LiveCalls κ) (act : LiveAct) : Prop :=
  ∃ id call, act = .media id .handleCall ∧ s.line id = .media call ∧ call.handleCall = .accepted

/-- A call binds the second socket of a pair with the RTP port 0, for which it
has got some other port. -/
def ReturnsPortZero (s : LiveCalls κ) (act : LiveAct) : Prop :=
  ∃ id chosen numAttempts capacity pair rtpSocket, act = .alloc (.advance id chosen) ∧
    s.alloc.phase id = .bindingRtcp numAttempts capacity pair rtpSocket ∧ pair.rtpPort = 0 ∧
    udpBind s.alloc.bound pair.rtcpPort chosen ≠ none

end LiveCalls

theorem AllocState.advance_returned {s t : AllocState} {id : CallId} {chosen : UInt16} {sockets : RtpSocketPair}
    (step : s.advance id chosen = some t) (returned : t.phase id = .returned (some sockets)) :
    ∃ numAttempts capacity, s.phase id = .bindingRtcp numAttempts capacity sockets.rtpPortPair sockets.rtpSocket ∧
      udpBind s.bound sockets.rtpPortPair.rtcpPort chosen = some sockets.rtcpSocket := by
  unfold AllocState.advance at step
  split at step
  · obtain ⟨_, _, result⟩ := Option.bind_eq_some_iff.mp step
    cases Option.some.inj result
    rw [record_phase, enter_phase_self] at returned
    cases returned
  · split at step
    · obtain ⟨_, _, result⟩ := Option.bind_eq_some_iff.mp step
      cases Option.some.inj result
      rw [record_phase, enter_phase_self] at returned
      cases returned
    · cases Option.some.inj step
      rw [record_phase, enter_phase_self] at returned
      cases returned
  · split at step <;> cases Option.some.inj step
    · rw [enter_phase_self] at returned
      cases returned
    · rw [record_phase, enter_phase_self] at returned
      cases returned
  · rename_i phase
    split at step <;> cases Option.some.inj step
    · rename_i bound
      rw [record_phase, enter_phase_self] at returned
      cases returned
      exact ⟨_, _, phase, bound⟩
    · rw [record_phase, enter_phase_self] at returned
      cases returned
  · cases Option.some.inj step
    rw [enter_phase_self] at returned
    cases returned
  · cases step

/-- While a call is live it holds its RTP socket, and until it starts its
session the RTCP socket too. -/
theorem LiveInvariant.holds_iff {s : LiveCalls κ} {id : CallId} {sockets : RtpSocketPair}
    (invariant : LiveInvariant s) (returned : s.alloc.phase id = .returned (some sockets))
    (live : (s.line id).live = true) (port : UInt16) :
    s.alloc.bound port = some (.call id) ↔
      port = sockets.rtpSocket ∨ port = sockets.rtcpSocket ∧ (s.line id).started = false := by
  have owned : s.alloc.bound port = some (.call id) ↔ (s.line id).Holds (s.alloc.phase id) port :=
    invariant.owned id port
  rw [owned, returned]
  cases stage : s.line id with
  | allocating | connected | created =>
    exact ⟨fun held => held.imp_right fun rtcp => ⟨rtcp, rfl⟩, fun held => held.imp_right And.left⟩
  | closing left =>
    rw [stage] at live
    cases live
  | media call =>
    rw [stage] at live
    have alive : call.mediaEnded = false := (Bool.not_eq_true' _).mp live
    rw [CallLine.media_holds, CallLine.started, bne_eq_false_iff_eq, and_iff_left alive]

/-- A call that is over holds nothing. -/
theorem LiveInvariant.not_holds {s : LiveCalls κ} {id : CallId} (invariant : LiveInvariant s)
    (finished : (s.line id).finished = true) (port : UInt16) : s.alloc.bound port ≠ some (.call id) := by
  intro bound
  have held : (s.line id).Holds (s.alloc.phase id) port := (invariant.owned id port).mp bound
  have fits := invariant.fits id
  cases stage : s.line id with
  | allocating | connected | created =>
    rw [stage] at finished
    cases finished
  | closing left =>
    rw [stage] at finished held
    cases left with
    | nil => cases held
    | cons => cases finished
  | media call =>
    rw [stage] at finished held fits
    obtain ⟨_, _, ⟨_, alive⟩ | ⟨_, accepted⟩⟩ := held
    · cases alive.symm.trans finished
    · cases (fits.2.not_ended accepted).symm.trans finished

/-- A state is as it should be exactly if no live call has started its session,
and none holds a pair with port 0. -/
theorem LiveInvariant.owns_iff {s : LiveCalls κ} (invariant : LiveInvariant s) :
    s.OwnsBoth ↔ ∀ id pair, s.HoldsPair id pair → pair.rtpPort ≠ 0 ∧ (s.line id).started = false := by
  constructor
  · rintro owns id pair ⟨live, sockets, returned, rfl⟩
    obtain ⟨rtpBound, rtcpBound⟩ := owns.bound id _ ⟨live, sockets, returned, rfl⟩
    have served := invariant.served id
    rw [returned] at served
    obtain ⟨rtcpNonzero, rtp, rtcp, distinct⟩ := served
    constructor
    · intro zero
      rcases (invariant.holds_iff returned live _).mp rtpBound with same | ⟨same, _⟩
      · exact rtp.1 (same.symm.trans zero)
      · exact rtcp.1 (same.symm.trans zero)
    · rcases (invariant.holds_iff returned live _).mp rtcpBound with same | ⟨_, unstarted⟩
      · exact absurd (same.symm.trans (rtcp.2 rtcpNonzero).symm) distinct
      · exact unstarted
  · intro sound
    have bound : ∀ id pair, s.HoldsPair id pair →
        s.alloc.bound pair.rtpPort = some (.call id) ∧ s.alloc.bound pair.rtcpPort = some (.call id) := by
      rintro id pair ⟨live, sockets, returned, rfl⟩
      obtain ⟨nonzero, unstarted⟩ := sound id _ ⟨live, sockets, returned, rfl⟩
      have served := invariant.served id
      rw [returned] at served
      obtain ⟨rtcpNonzero, rtp, rtcp, _⟩ := served
      constructor
      · exact (invariant.holds_iff returned live _).mpr (Or.inl (rtp.2 nonzero).symm)
      · exact (invariant.holds_iff returned live _).mpr (Or.inr ⟨(rtcp.2 rtcpNonzero).symm, unstarted⟩)
    refine ⟨fun id other pair otherPair different mine theirs => ?_, bound,
      fun id finished => invariant.not_holds finished⟩
    obtain ⟨rtp, rtcp⟩ := bound id pair mine
    obtain ⟨otherRtp, otherRtcp⟩ := bound other otherPair theirs
    have clash : ∀ port, s.alloc.bound port = some (.call id) → s.alloc.bound port ≠ some (.call other) := by
      intro port held again
      exact different (Holder.call_injective (Option.some.inj (held.symm.trans again)))
    refine ⟨?_, ?_, ?_, ?_⟩
    · exact fun same => clash _ rtp (same ▸ otherRtp)
    · exact fun same => clash _ rtp (same ▸ otherRtcp)
    · exact fun same => clash _ rtcp (same ▸ otherRtp)
    · exact fun same => clash _ rtcp (same ▸ otherRtcp)

/-- A call is as it should be, if it is live. -/
def LiveCalls.InOrder (s : LiveCalls κ) (id : CallId) : Prop :=
  ∀ pair, s.HoldsPair id pair → pair.rtpPort ≠ 0 ∧ (s.line id).started = false

/-- A step of one call leaves all calls in order exactly if it leaves this one
in order. -/
theorem LiveCalls.inOrder_enter {s : LiveCalls κ} {id : CallId} {sockets : RtpSocketPair}
    (order : ∀ other, s.InOrder other) (returned : s.alloc.phase id = .returned (some sockets)) (port : Option UInt16)
    (line : CallLine κ) :
    (∀ other, ((s.close port).enter id line).InOrder other) ↔
      (line.live = true → sockets.rtpPortPair.rtpPort ≠ 0 ∧ line.started = false) := by
  have self : ((s.close port).enter id line).InOrder id ↔
      (line.live = true → sockets.rtpPortPair.rtpPort ≠ 0 ∧ line.started = false) := by
    unfold InOrder HoldsPair
    rw [enter_line_self, enter_alloc, close_phase, returned]
    constructor
    · exact fun sound live => sound _ ⟨live, sockets, rfl, rfl⟩
    · rintro sound pair ⟨live, _, same, rfl⟩
      cases same
      exact sound live
  rw [← self]
  refine ⟨fun all => all id, fun mine other => ?_⟩
  by_cases same : other = id
  · rw [same]
    exact mine
  · unfold InOrder HoldsPair
    rw [enter_line_of_ne _ _ same, enter_alloc, close_phase, close_line]
    exact order other

/-- A call in order that is live has a pair without port 0. -/
theorem LiveCalls.InOrder.nonzero {s : LiveCalls κ} {id : CallId} {sockets : RtpSocketPair} (order : s.InOrder id)
    (returned : s.alloc.phase id = .returned (some sockets)) (live : (s.line id).live = true) :
    sockets.rtpPortPair.rtpPort ≠ 0 ∧ (s.line id).started = false := order _ ⟨live, sockets, returned, rfl⟩

theorem CallLine.live_of_inSetup {line : CallLine κ} (stage : line.inSetup = true) : line.live = true := by
  cases line with
  | allocating | connected | created => rfl
  | closing | media => cases stage

theorem LiveCalls.not_startsMedia {s : LiveCalls κ} {act : LiveAct} (other : ∀ id, act ≠ .media id .handleCall) :
    ¬ s.StartsMedia act := by
  rintro ⟨id, _, same, _⟩
  exact other id same

theorem LiveCalls.not_returnsPortZero {s : LiveCalls κ} {act : LiveAct}
    (other : ∀ id chosen, act ≠ .alloc (.advance id chosen)) :
    ¬ s.ReturnsPortZero act := by
  rintro ⟨id, chosen, _, _, _, _, same, _⟩
  exact other id chosen same

theorem LiveCalls.inert_of_setsUp {s : LiveCalls κ} {act : LiveAct} (setsUp : act.setsUp = true) :
    ¬ s.StartsMedia act ∧ ¬ s.ReturnsPortZero act := by
  refine ⟨not_startsMedia ?_, not_returnsPortZero ?_⟩
  · rintro _ rfl
    cases setsUp
  · rintro _ _ rfl
    cases setsUp

/-- In `tryAllocateSocketPair` only the return of a pair with port 0 puts a call
out of order. -/
theorem LiveInvariant.inOrder_allocates {s : LiveCalls κ} {id : CallId} {chosen : UInt16} {alloc : AllocState}
    (before : LiveInvariant s) (order : ∀ other, s.InOrder other) (step : s.alloc.advance id chosen = some alloc) :
    (∀ other, ({ s with alloc } : LiveCalls κ).InOrder other) ↔
      ¬ s.ReturnsPortZero (.alloc (.advance id chosen)) := by
  have moved := AllocState.advances step
  have stage := before.allocating moved
  constructor
  · rintro sound ⟨_, _, _, _, pair, rtpSocket, same, phase, zero, bindable⟩
    cases same
    obtain ⟨rtcpSocket, bound⟩ := Option.ne_none_iff_exists'.mp bindable
    cases step.symm.trans (AllocState.advance_bindRtcp phase bound)
    have live : (s.line id).live = true := by
      rw [stage]
      rfl
    exact (sound id pair ⟨live, _, AllocState.enter_phase_self .., rfl⟩).1 zero
  · rintro nonzero other pair ⟨live, sockets, returned, rfl⟩
    by_cases same : other = id
    · subst same
      obtain ⟨_, _, phase, bound⟩ := AllocState.advance_returned step returned
      have bindable : udpBind s.alloc.bound sockets.rtpPortPair.rtcpPort chosen ≠ none := by
        rw [bound]
        exact Option.some_ne_none _
      refine ⟨fun zero => nonzero ⟨other, chosen, _, _, _, _, rfl, phase, zero, bindable⟩, ?_⟩
      change (s.line other).started = false
      rw [stage]
      rfl
    · change alloc.phase other = _ at returned
      rw [moved.others.1 other same] at returned
      exact (order other).nonzero returned live

/-- Only the start of a session and the return of a pair with port 0 put a call
out of order. -/
theorem Lives.inOrder_iff {session : CallId → MediaSession κ} {s t : LiveCalls κ} {act : LiveAct}
    (before : LiveInvariant s) (order : ∀ id, s.InOrder id) (step : Lives session s act t) :
    (∀ id, t.InOrder id) ↔ ¬ s.StartsMedia act ∧ ¬ s.ReturnsPortZero act := by
  cases step with
  | @allocates id chosen alloc _ step =>
    have inert : ¬ s.StartsMedia (.alloc (.advance id chosen)) := LiveCalls.not_startsMedia nofun
    rw [before.inOrder_allocates order step, and_iff_right inert]
  | otherBinds => exact iff_of_true order ⟨LiveCalls.not_startsMedia nofun, LiveCalls.not_returnsPortZero nofun⟩
  | @setsUp _ id sockets next setsUp stage returned later =>
    refine iff_of_true ((LiveCalls.inOrder_enter order returned none next).mpr fun _ => ?_)
      (LiveCalls.inert_of_setsUp setsUp)
    obtain ⟨nonzero, _⟩ := (order id).nonzero returned (CallLine.live_of_inSetup stage)
    rcases later with rfl | rfl | ⟨now, rfl⟩ <;> exact ⟨nonzero, rfl⟩
  | fails setsUp _ returned =>
    exact iff_of_true ((LiveCalls.inOrder_enter order returned none _).mpr nofun) (LiveCalls.inert_of_setsUp setsUp)
  | @closes id port left stage =>
    have line := before.fits id
    rw [stage] at line
    obtain ⟨⟨sockets, returned⟩, _⟩ := line
    exact iff_of_true ((LiveCalls.inOrder_enter order returned _ _).mpr nofun)
      ⟨LiveCalls.not_startsMedia nofun, LiveCalls.not_returnsPortZero nofun⟩
  | @plays id act sockets call after stage returned moved =>
    have line := before.fits id
    rw [stage] at line
    rw [LiveCalls.inOrder_enter order returned]
    cases plays_of_step line.2 moved with
    | starts same place started running =>
      refine iff_of_false (fun sound => ?_) (fun both => both.1 ⟨id, call, by rw [same], stage, place⟩)
      have live : (CallLine.media after).live = true := by
        rw [CallLine.live, running]
        rfl
      have unstarted := (sound live).2
      rw [CallLine.started, started] at unstarted
      cases unstarted
    | goesOn other place fresh ended =>
      refine iff_of_true (fun live => ?_) ⟨?_, LiveCalls.not_returnsPortZero nofun⟩
      · have alive : (s.line id).live = true := by
          rw [stage, CallLine.live]
          rw [CallLine.live, Bool.not_eq_true'] at live
          rw [Bool.not_eq_true', ← Bool.not_eq_true]
          exact fun finished => Bool.false_ne_true (live.symm.trans (ended finished))
        obtain ⟨nonzero, unstarted⟩ := (order id).nonzero returned alive
        rw [stage, CallLine.started, bne_eq_false_iff_eq] at unstarted
        refine ⟨nonzero, ?_⟩
        rw [CallLine.started, bne_eq_false_iff_eq]
        exact place.mpr unstarted
      · rintro ⟨_, again, same, stage', accepted⟩
        cases same
        cases stage.symm.trans stage'
        exact other rfl accepted

/-- In a run every live call owns both ports of its pair in every state, and
none after its end, exactly if no session starts and no pair with port 0 is
returned. -/
theorem ownsBoth_iff {session : CallId → MediaSession κ} {range : RtpPortRange} {taken : UInt16 → Bool}
    {acts : List LiveAct} {last : LiveCalls κ}
    (reach : run (liveStep session) (.start range taken) acts = some last) :
    (∀ s, Visits (liveStep session) (.start range taken) acts s → s.OwnsBoth) ↔
      ∀ s act, Takes (liveStep session) (.start range taken) acts s act → ¬ s.StartsMedia act ∧
        ¬ s.ReturnsPortZero act := by
  refine visits_iff_takes (I := LiveInvariant) (.start range taken) ?_
    (fun s act t before step => before.step step) ?_ reach
  · refine (LiveInvariant.start range taken).owns_iff.mpr ?_
    rintro id pair ⟨_, _, returned, _⟩
    cases returned
  · intro s act t before owns step
    rw [(before.step step).owns_iff]
    exact (lives_of_step step).inOrder_iff before (before.owns_iff.mp owns)

/-- The call 0 has been accepted, and the connection of the call 1 has failed
and closed its RTP socket. -/
def twoSetups : List LiveAct :=
  [.alloc (.advance 0 0), .alloc (.advance 1 0), .alloc (.advance 0 0), .alloc (.advance 1 0),
    .alloc (.advance 0 0), .alloc (.advance 1 0), .alloc (.advance 1 0), .alloc (.advance 0 0),
    .connect 1 false, .connect 0 true, .create 0 true, .close 1, .accept 0 true 5, .media 0 .dialogEnds]

theorem ownsBoth_twoSetups : ∃ last,
    run (liveStep fun _ => silentSession 30) (.start ⟨10000, 10098, 10000⟩ fun _ => false) twoSetups = some last ∧
      (last.alloc.bound 10000, last.alloc.bound 10001, last.alloc.bound 10002, last.alloc.bound 10003) =
        (some (.call 0), some (.call 0), none, some (.call 1)) ∧
      ((∀ s, Visits (liveStep fun _ => silentSession 30) (.start ⟨10000, 10098, 10000⟩ fun _ => false) twoSetups s →
          s.OwnsBoth) ↔
        ∀ s act, Takes (liveStep fun _ => silentSession 30) (.start ⟨10000, 10098, 10000⟩
          fun _ => false) twoSetups s act →
          ¬ s.StartsMedia act ∧ ¬ s.ReturnsPortZero act) := by
  have ports : (run (liveStep fun _ => silentSession 30) (.start ⟨10000, 10098, 10000⟩ fun _ => false) twoSetups).map
      (fun s => (s.alloc.bound 10000, s.alloc.bound 10001, s.alloc.bound 10002, s.alloc.bound 10003)) =
      some (some (.call 0), some (.call 0), none, some (.call 1)) := by decide +kernel
  refine exists_of_run (by decide +kernel) fun last reach => ⟨?_, ownsBoth_iff reach⟩
  rw [reach] at ports
  exact Option.some.inj ports

/-- The session of a call starts, and somebody else binds the RTCP port that
the call was given. -/
def startedCall : List LiveAct :=
  [.alloc (.advance 0 0), .alloc (.advance 0 0), .alloc (.advance 0 0), .alloc (.advance 0 0), .connect 0 true,
    .create 0 true, .accept 0 true 5, .media 0 .handleCall, .alloc (.otherBinds 10001)]

theorem ownsBoth_fails : ∃ last,
    run (liveStep fun _ => silentSession 30) (.start ⟨10000, 10098, 10000⟩ fun _ => false) startedCall = some last ∧
      last.HoldsPair 0 ⟨10000, 10001⟩ ∧ last.alloc.bound 10000 = some (.call 0) ∧
        last.alloc.bound 10001 = some .other ∧
      ¬ last.OwnsBoth := by
  have ports : (run (liveStep fun _ => silentSession 30) (.start ⟨10000, 10098, 10000⟩
    fun _ => false) startedCall).map
      (fun s => (s.alloc.bound 10000, s.alloc.bound 10001)) = some (some (.call 0), some .other) := by decide +kernel
  have holds : (run (liveStep fun _ => silentSession 30) (.start ⟨10000, 10098, 10000⟩
    fun _ => false) startedCall).map
      (fun s => ((s.line 0).live, s.alloc.phase 0)) =
      some (true, .returned (some ⟨⟨10000, 10001⟩, 10000, 10001⟩)) := by decide +kernel
  refine exists_of_run (by decide +kernel) fun last reach => ?_
  rw [reach] at ports holds
  obtain ⟨rtp, rtcp⟩ := Prod.mk.inj (Option.some.inj ports)
  obtain ⟨live, returned⟩ := Prod.mk.inj (Option.some.inj holds)
  have pair : last.HoldsPair 0 ⟨10000, 10001⟩ := ⟨live, _, returned, rfl⟩
  refine ⟨pair, rtp, rtcp, fun owns => ?_⟩
  cases rtcp.symm.trans (owns.bound 0 _ pair).2

/-- What holds of the calls on a sound range without port 0, in every state. -/
structure LiveCalls.OwnsRtp (s : LiveCalls κ) : Prop where
  apart : ∀ id other pair otherPair, id ≠ other → s.HoldsPair id pair → s.HoldsPair other otherPair →
    pair.Disjoint otherPair
  rtp : ∀ id pair, s.HoldsPair id pair → s.alloc.bound pair.rtpPort = some (.call id)
  rtcp : ∀ id pair, s.HoldsPair id pair →
    (s.alloc.bound pair.rtcpPort = some (.call id) ↔ (s.line id).started = false)
  released : ∀ id, (s.line id).finished = true → ∀ port, s.alloc.bound port ≠ some (.call id)

/-- The draws of all calls go around the range, and what a call has drawn is a
pair of it. -/
structure LiveCalls.InRange (range : RtpPortRange) (slot : Nat) (s : LiveCalls κ) : Prop where
  invariant : LiveInvariant s
  rotated : s.alloc.Rotated range slot
  fits : ∀ id, (s.alloc.phase id).Fits range

theorem RtpPortRange.Sound.disjoint_of_ne {range : RtpPortRange} (sound : range.Sound) {pair other : RtpPortPair}
    (has : range.HasPair pair) (has' : range.HasPair other) (apart : pair ≠ other) : pair.Disjoint other := by
  obtain ⟨slot, inside, rfl⟩ := sound.exists_slot has
  obtain ⟨slot', inside', rfl⟩ := sound.exists_slot has'
  exact sound.slotPair_disjoint inside inside' fun same => apart (congrArg range.slotPair same)

theorem LiveCalls.InRange.step {range : RtpPortRange} {slot : Nat} {session : CallId → MediaSession κ}
    {s t : LiveCalls κ} {act : LiveAct} (sound : range.Sound) (positive : range.firstRtpPort ≠ 0)
    (before : s.InRange range slot) (step : liveStep session s act = some t) : t.InRange range slot := by
  refine ⟨before.invariant.step step, ?_, ?_⟩
  · cases lives_of_step step with
    | allocates moved => exact before.rotated.advances sound moved
    | otherBinds | setsUp | fails | closes => exact before.rotated.of_same rfl rfl
    | @plays id act sockets call after =>
      cases closed : sockets.closedBy call after <;> exact before.rotated.of_same rfl rfl
  · intro id
    cases lives_of_step step with
    | @allocates mover chosen alloc moved =>
      exact moved.phases (P := fun _ phase => phase.Fits range)
        (before.rotated.fits sound positive (before.fits mover) moved) (fun other _ => before.fits other) id
    | otherBinds | setsUp | fails | closes => exact before.fits id
    | plays =>
      rw [LiveCalls.enter_alloc, LiveCalls.close_phase]
      exact before.fits id

theorem LiveCalls.InRange.ownsRtp {range : RtpPortRange} {slot : Nat} {s : LiveCalls κ} (sound : range.Sound)
    (reached : s.InRange range slot) : s.OwnsRtp := by
  have serves : ∀ id pair, s.HoldsPair id pair → range.HasPair pair ∧ ∀ port, s.alloc.bound port = some (.call id) ↔
      port = pair.rtpPort ∨ port = pair.rtcpPort ∧ (s.line id).started = false := by
    rintro id pair ⟨live, sockets, returned, rfl⟩
    have fits := reached.fits id
    rw [returned] at fits
    obtain ⟨has, rtp, rtcp⟩ := fits
    refine ⟨has, fun port => ?_⟩
    rw [reached.invariant.holds_iff returned live, rtp, rtcp]
  have rtp : ∀ id pair, s.HoldsPair id pair → s.alloc.bound pair.rtpPort = some (.call id) :=
    fun id pair holds => ((serves id pair holds).2 _).mpr (Or.inl rfl)
  refine ⟨fun id other pair otherPair different mine theirs => ?_, rtp, fun id pair holds => ?_,
    fun id finished => reached.invariant.not_holds finished⟩
  · refine sound.disjoint_of_ne (serves id pair mine).1 (serves other otherPair theirs).1 ?_
    rintro rfl
    exact different (Holder.call_injective (Option.some.inj ((rtp id pair mine).symm.trans (rtp other pair theirs))))
  · obtain ⟨⟨_, _, _, next⟩, ports⟩ := serves id pair holds
    rw [ports]
    refine ⟨fun held => held.elim (fun same => ?_) And.right, fun unstarted => Or.inr ⟨rfl, unstarted⟩⟩
    rw [same] at next
    omega

/-- On a range that `RtpPortRange::new` accepts, without the port 0 and the
port 65535, live calls have disjoint pairs, keep their RTP port to their end and
their RTCP port until their session starts. -/
theorem ownsRtp_of_run {session : CallId → MediaSession κ} {minPort maxPort : UInt16} {range : RtpPortRange}
    {slot : Nat} (built : RtpPortRange.new minPort maxPort = some (.ok range)) (below : maxPort < 65535)
    (positive : minPort ≠ 0) (inside : slot < range.slots) {taken : UInt16 → Bool} {acts : List LiveAct}
    {last : LiveCalls κ} (reach : run (liveStep session) (.start (range.atSlot slot) taken) acts = some last) :
    last.OwnsRtp := by
  have sound := RtpPortRange.sound_of_new built (Or.inl (UInt16.lt_iff_toNat_lt.mp below))
  obtain ⟨_, first, _⟩ := RtpPortRange.new_ok built
  rw [← first] at positive
  have start := AllocInvariant.start inside taken
  refine (run_invariant (P := LiveCalls.InRange range slot) ⟨.start _ taken, start.rotated,
    start.fits⟩ ?_ reach).ownsRtp sound
  exact fun s act t before step => before.step sound positive step

end RsipstackServer
