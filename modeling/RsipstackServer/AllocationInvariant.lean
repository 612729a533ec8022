import RsipstackServer.SocketAllocation
import RsipstackServer.Foundation.Ownership

namespace RsipstackServer
open Foundation

namespace AllocState

@[simp] theorem enter_phase_self (s : AllocState) (id : CallId) (phase : AllocPhase) :
    (s.enter id phase).phase id = phase := Function.update_self ..

theorem enter_phase_of_ne (s : AllocState) {id other : CallId} (phase : AllocPhase) (apart : other ≠ id) :
    (s.enter id phase).phase other = s.phase other := Function.update_of_ne apart ..

@[simp] theorem enter_range (s : AllocState) (id : CallId) (phase : AllocPhase) :
    (s.enter id phase).range = s.range := rfl
@[simp] theorem enter_bound (s : AllocState) (id : CallId) (phase : AllocPhase) :
    (s.enter id phase).bound = s.bound := rfl
@[simp] theorem enter_history (s : AllocState) (id : CallId) (phase : AllocPhase) :
    (s.enter id phase).history = s.history := rfl
@[simp] theorem record_range (s : AllocState) (event : AllocEvent) : (s.record event).range = s.range := rfl
@[simp] theorem record_bound (s : AllocState) (event : AllocEvent) : (s.record event).bound = s.bound := rfl
@[simp] theorem record_phase (s : AllocState) (event : AllocEvent) : (s.record event).phase = s.phase := rfl
@[simp] theorem record_history (s : AllocState) (event : AllocEvent) :
    (s.record event).history = s.history ++ [event] := rfl
@[simp] theorem bind_range (s : AllocState) (port : UInt16) (holder : Option Holder) :
    (s.bind port holder).range = s.range := rfl
@[simp] theorem bind_phase (s : AllocState) (port : UInt16) (holder : Option Holder) :
    (s.bind port holder).phase = s.phase := rfl
@[simp] theorem bind_history (s : AllocState) (port : UInt16) (holder : Option Holder) :
    (s.bind port holder).history = s.history := rfl

theorem bind_bound_of_ne (s : AllocState) {port other : UInt16} (holder : Option Holder) (apart : other ≠ port) :
    (s.bind port holder).bound other = s.bound other := Function.update_of_ne apart ..

end AllocState

theorem Holder.call_injective : Function.Injective Holder.call := fun _ _ same => Holder.call.inj same

/-- A step of one call leaves the points of the others alone, and records at
most one event, its own. -/
theorem Advances.others {s t : AllocState} {id : CallId} (step : Advances s id t) :
    (∀ other, other ≠ id → t.phase other = s.phase other) ∧
      (t.history = s.history ∨ ∃ event, event.caller = id ∧ t.history = s.history ++ [event]) := by
  cases step with
  | enter | draw | exhaust | rtpTaken | bindRtcp | rtcpTaken =>
    exact ⟨fun other apart => AllocState.enter_phase_of_ne _ _ apart, Or.inr ⟨_, rfl, rfl⟩⟩
  | bindRtp | drop => exact ⟨fun other apart => AllocState.enter_phase_of_ne _ _ apart, Or.inl rfl⟩

/-- What holds of the new point of the call that moved, and held of those of
the others, holds of all. -/
theorem Advances.phases {s t : AllocState} {id : CallId} {P : CallId → AllocPhase → Prop} (step : Advances s id t)
    (own : P id (t.phase id)) (before : ∀ other, other ≠ id → P other (s.phase other)) (other : CallId) :
    P other (t.phase other) := by
  by_cases mine : other = id
  · rw [mine]
    exact own
  · rw [step.others.1 other mine]
    exact before other mine

/-- A step of a call binds a port that nobody holds, closes one of its own, or
leaves its sockets alone. -/
theorem Advances.transfers {s t : AllocState} {id : CallId} (step : Advances s id t) :
    Transfers (.call id) s.bound (s.phase id).Holds t.bound (t.phase id).Holds := by
  cases step with
  | enter atPhase | exhaust atPhase | rtpTaken atPhase | rtcpTaken atPhase | draw atPhase =>
    refine .keeps fun port => ?_
    rw [AllocState.record_phase, AllocState.enter_phase_self, atPhase]
    simp only [AllocPhase.Holds]
  | bindRtp atPhase bound =>
    refine .acquires (udpBind_eq_some bound).2 fun port => ?_
    rw [AllocState.enter_phase_self, atPhase]
    simp only [AllocPhase.Holds, false_or]
  | bindRtcp atPhase bound =>
    refine .acquires (udpBind_eq_some bound).2 fun port => ?_
    rw [AllocState.record_phase, AllocState.enter_phase_self, atPhase]
    simp only [AllocPhase.Holds]
  | @drop _ _ rtpSocket atPhase =>
    have held : (s.phase id).Holds rtpSocket := by
      rw [atPhase]
      rfl
    refine .releases held fun port => ?_
    rw [AllocState.enter_phase_self, atPhase]
    simp only [AllocPhase.Holds, and_not_self_iff, ne_eq]

namespace AllocState

/-- The ports a call holds in the table are those of the sockets it owns. -/
def Owned (s : AllocState) : Prop := ∀ id port, s.bound port = some (.call id) ↔ (s.phase id).Holds port

theorem Owned.start (range : RtpPortRange) (taken : UInt16 → Bool) : (AllocState.start range taken).Owned := by
  intro id port
  simp only [AllocState.start, AllocPhase.Holds, iff_false]
  split <;> simp

theorem Owned.ownership {s : AllocState} (owned : s.Owned) :
    Ownership Holder.call s.bound fun id => (s.phase id).Holds := owned

theorem Owned.otherBinds {s : AllocState} (owned : s.Owned) {port : UInt16} (free : s.bound port = none) :
    (s.bind port (some .other)).Owned := owned.ownership.foreign (fun _ => Holder.noConfusion) free

theorem Owned.advances {s t : AllocState} {id : CallId} (owned : s.Owned) (step : Advances s id t) : t.Owned :=
  owned.ownership.transfers Holder.call_injective id step.transfers
    fun other apart => by rw [step.others.1 other apart]

theorem Owned.step {s t : AllocState} {act : AllocAct} (owned : s.Owned) (step : allocStep s act = some t) :
    t.Owned := by
  rcases allocStep_cases step with ⟨id, advances⟩ | ⟨port, free, rfl⟩
  · exact owned.advances advances
  · exact owned.otherBinds free

end AllocState

def AllocEvent.drawn : AllocEvent → Option RtpPortPair
  | .drew _ pair => some pair
  | _ => none

/-- The pairs drawn from the range by anybody, in order. -/
def drawnPairs (history : List AllocEvent) : List RtpPortPair := history.filterMap AllocEvent.drawn

/-- The cursor started at the place `slot` of a sound range, and every draw
since moved it one place. -/
structure AllocState.Rotated (range : RtpPortRange) (slot : Nat) (s : AllocState) : Prop where
  cursor : s.range = range.atSlot ((slot + (drawnPairs s.history).length) % range.slots)
  drawn : drawnPairs s.history =
    (List.range' slot (drawnPairs s.history).length).map fun turn => range.slotPair (turn % range.slots)

theorem AllocState.Rotated.of_same {range : RtpPortRange} {slot : Nat} {s t : AllocState}
    (rotated : s.Rotated range slot) (cursor : t.range = s.range)
    (drawn : drawnPairs t.history = drawnPairs s.history) : t.Rotated range slot := by
  refine ⟨?_, ?_⟩
  · rw [cursor, drawn]
    exact rotated.cursor
  · rw [drawn]
    exact rotated.drawn

theorem drawnPairs_append (history more : List AllocEvent) :
    drawnPairs (history ++ more) = drawnPairs history ++ drawnPairs more := List.filterMap_append

theorem AllocState.Rotated.advances {range : RtpPortRange} {slot : Nat} {s t : AllocState} {id : CallId}
    (sound : range.Sound) (rotated : s.Rotated range slot) (step : Advances s id t) : t.Rotated range slot := by
  have quiet : ∀ event : AllocEvent, event.drawn = none →
    drawnPairs (s.history ++ [event]) = drawnPairs s.history := by
    intro event silent
    rw [drawnPairs_append, drawnPairs, drawnPairs, List.filterMap_cons_none silent, List.filterMap_nil,
      List.append_nil]
  cases step with
  | draw _ _ pulled =>
    rw [rotated.cursor, sound.nextPortPair_atSlot] at pulled
    cases Option.some.inj pulled
    refine ⟨?_, ?_⟩
    · simp only [record_range, enter_range, record_history, enter_history, drawnPairs_append, List.length_append]
      rfl
    · simp only [record_history, enter_history, drawnPairs_append, List.length_append]
      rw [show (drawnPairs [AllocEvent.drew id _]).length = 1 from rfl, List.range'_concat, List.map_append,
        ← rotated.drawn]
      simp only [Nat.one_mul]
      rfl
  | enter | exhaust | rtpTaken | bindRtcp | rtcpTaken => exact rotated.of_same rfl (quiet _ rfl)
  | bindRtp | drop => exact rotated.of_same rfl rfl

end RsipstackServer
