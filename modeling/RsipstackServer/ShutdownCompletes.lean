import RsipstackServer.RunningServer
import Mathlib.Algebra.Order.BigOperators.Group.List

namespace RsipstackServer
open Foundation
universe u
variable {κ : Type u} {session : CallId → MediaSession κ}

/-- The steps of the server itself that a shutdown waits for: those of the
dialog-state loop and the drain monitor, and those of `handle_call` and the
media tasks of each call. -/
def RunningAct.isOwn : RunningAct → Bool
  | .signalling act => act.isDraining
  | .close _ | .proceed _ => true
  | .media _ act => act.isOwn
  | .handle _ _ | .alloc _ | .allocated _ | .connect _ _ | .create _ _ | .accept _ _ _ => false

namespace CallLine

/-- The steps that a call has to take at most until it is over. -/
def work : CallLine κ → Nat
  | .allocating | .connected | .created => 0
  | .closing left => left.length
  | .media call => call.work

end CallLine

namespace SipServer
variable {s t : SipServer} {id : CallId}

/-- What the steps that a drain waits for leave of the calls. -/
theorem Moves.keepsCalls {act : SipAct} (step : Moves s act t) (own : act.isDraining = true) :
    (∀ id, t.phase? id = s.phase? id) ∧ t.dialogs.length = s.dialogs.length := by
  cases step with
  | arrives | closes | routes | returns | hands | misses | ends | handles | drains | leaves => cases own
  | wakes | findsEmpty | findsDialogs | cancels => exact ⟨fun _ => rfl, rfl⟩
  | @counts i dialog reason entry pending =>
    refine ⟨fun id => ?_, List.length_set⟩
    exact congrArg (Option.map HandledCall.phase)
      (call?_setDialog_same (s := { s with metrics.callsTerminated := _ }) entry rfl)

/-- What an operation of one `handle_call` leaves of the drain. -/
theorem Moves.keepsDrain {act : HandleAct} (step : Moves s (.handle id act) t) (draining : s.Draining) :
    t.Draining ∧ t.drainWork = s.drainWork ∧ t.dialogs.length = s.dialogs.length := by
  have counted := step.counted draining.counted
  have drain := step.drainInvariant draining.drain
  cases step with
  | @handles _ dialog call _ after entry running handled =>
    refine ⟨⟨counted, drain, draining.asked, draining.running, fun other member => ?_⟩, ?_, List.length_set⟩
    · rcases mem_setDialog member with old | rfl
      · exact draining.ended other old
      · exact draining.ended dialog (List.mem_of_getElem? entry)
    · have counts := countP_set ServerDialog.inLayer (dialog.withCall after.call) entry
      have same : (dialog.withCall after.call).inLayer = dialog.inLayer := rfl
      have work : (({ s with metrics.calls := after.metrics } : SipServer).setDialog id
        (dialog.withCall after.call)).monitorWork =
          s.monitorWork := rfl
      rw [same] at counts
      unfold drainWork
      rw [work]
      simp only [undrained, setDialog]
      omega

/-- `handle_call` proceeds wherever it is not done. -/
theorem sipStep_proceed {place next : HandleCall} (phase : s.phase? id = some (.answered place))
    (ahead : place.next = some next) :
    ∃ t, sipStep s (.handle id .proceed) = some t := by
  obtain ⟨call, there, answered⟩ := Option.map_eq_some_iff.mp phase
  obtain ⟨dialog, entry, running⟩ := Option.bind_eq_some_iff.mp there
  obtain ⟨h, handled⟩ : ∃ h, handleStep ⟨call, s.metrics.calls⟩ .proceed = some h := by
    simp only [handleStep, answered, ahead, Option.map_some]
    exact ⟨_, rfl⟩
  refine ⟨{ s with dialogs := s.dialogs.set id (dialog.withCall h.call), metrics.calls := h.metrics }, ?_⟩
  simp only [sipStep, handleCall, entry, running, handled, Option.bind_eq_bind, Option.bind_some, Option.pure_def]

end SipServer

namespace RunningServer
variable {s t : RunningServer κ}

def work (s : RunningServer κ) : Nat :=
  ((List.range s.sip.dialogs.length).map fun id => (s.calls.line id).work).sum + s.sip.drainWork

/-- The server drains, all of its dialogs have ended, and no call is being set
up. -/
structure ShuttingDown (s : RunningServer κ) : Prop where
  invariant : s.Invariant
  draining : s.sip.Draining
  settled : ∀ id phase, s.sip.phase? id = some phase → (∃ place, phase = .answered place) ∨ ∃ ok, phase = .returned ok

theorem phase?_lt {id : CallId} {phase : CallPhase} (there : s.sip.phase? id = some phase) :
    id < s.sip.dialogs.length := by
  obtain ⟨call, found, _⟩ := Option.map_eq_some_iff.mp there
  obtain ⟨dialog, entry, _⟩ := Option.bind_eq_some_iff.mp found
  exact (List.getElem?_eq_some_iff.mp entry).1

/-- A call that comes nearer to its end, while no other call is touched and the
drain goes on. -/
theorem work_lt {id : CallId} (inside : id < s.sip.dialogs.length)
    (dialogs : t.sip.dialogs.length = s.sip.dialogs.length)
    (others : ∀ other, other ≠ id → t.calls.line other = s.calls.line other)
    (less : (t.calls.line id).work < (s.calls.line id).work) (drain : t.sip.drainWork = s.sip.drainWork) :
    t.work < s.work := by
  have lines : ∀ other ∈ List.range s.sip.dialogs.length, (t.calls.line other).work ≤ (s.calls.line other).work := by
    intro other _
    by_cases mine : other = id
    · subst mine
      exact less.le
    · rw [others other mine]
  have sums := List.sum_lt_sum (fun id => (t.calls.line id).work) (fun id => (s.calls.line id).work) lines
    ⟨id, List.mem_range.mpr inside, less⟩
  unfold work
  rw [dialogs, drain]
  omega

namespace ShuttingDown

theorem dialogEnded (shutting : s.ShuttingDown) {id : CallId} {phase : CallPhase}
    (there : s.sip.phase? id = some phase) : s.sip.dialogEnded id = true := by
  obtain ⟨call, found, _⟩ := Option.map_eq_some_iff.mp there
  obtain ⟨dialog, entry, _⟩ := Option.bind_eq_some_iff.mp found
  exact SipServer.dialogEnded_iff.mpr ⟨dialog, entry, shutting.draining.ended dialog (List.mem_of_getElem? entry)⟩

/-- The next step of `handle_call` is one of both halves of the state. -/
theorem proceeds (shutting : s.ShuttingDown) {id : CallId} {place next : HandleCall} {calls : LiveCalls κ}
    (phase : s.sip.phase? id = some (.answered place)) (ahead : place.next = some next)
    (moved : liveStep session s.calls (.media id .handleCall) = some calls) :
    ∃ sip, runningStep session s (.proceed id) = some ⟨sip, calls⟩ ∧ (⟨sip, calls⟩ : RunningServer κ).ShuttingDown ∧
      sip.drainWork = s.sip.drainWork ∧ sip.dialogs.length = s.sip.dialogs.length := by
  obtain ⟨sip, signalled⟩ := SipServer.sipStep_proceed phase ahead
  have step : runningStep session s (.proceed id) = some ⟨sip, calls⟩ := both_eq_some.mpr ⟨signalled, moved⟩
  obtain ⟨draining, work, dialogs⟩ := (SipServer.moves_of_step signalled).keepsDrain shutting.draining
  obtain ⟨⟨before, after, was, moves, now⟩, others⟩ := SipServer.phase?_handle signalled
  refine ⟨sip, step, ⟨shutting.invariant.step step, draining, fun other phase there => ?_⟩, work, dialogs⟩
  by_cases mine : other = id
  · subst mine
    cases now.symm.trans there
    cases moves with
    | proceeds => exact Or.inl ⟨_, rfl⟩
  · rw [others other mine] at there
    exact shutting.settled other phase there

/-- A call that gave up closes what it has left. -/
theorem closes (shutting : s.ShuttingDown) (session : CallId → MediaSession κ) {id : CallId} {port : UInt16}
    {left : List UInt16} (line : s.calls.line id = .closing (port :: left)) :
    ∃ t, runningStep session s (.close id) = some t ∧ t.ShuttingDown ∧ t.work < s.work := by
  have there : ∃ phase, s.sip.phase? id = some phase := by
    have together := shutting.invariant.inStep id
    rw [line] at together
    cases phase : s.sip.phase? id with
    | none =>
      rw [phase] at together
      cases together.2
    | some found => exact ⟨found, rfl⟩
  obtain ⟨phase, there⟩ := there
  let calls : LiveCalls κ := (s.calls.close (some port)).enter id (.closing left)
  have taken : runningStep session s (.close id) = some { s with calls } := by
    simp only [runningStep, liveStep, line, Option.map_some, calls]
  refine ⟨_, taken, ⟨shutting.invariant.step taken, shutting.draining, shutting.settled⟩, ?_⟩
  refine work_lt (phase?_lt there) rfl (fun other apart => ?_) ?_ rfl
  · rw [LiveCalls.enter_line_of_ne _ _ apart, LiveCalls.close_line]
  · rw [line]
    simp only [calls, LiveCalls.enter_line_self]
    exact Nat.lt_succ_self _

/-- The loops of the server have a step to take until the drain is complete. -/
theorem drains (shutting : s.ShuttingDown) (session : CallId → MediaSession κ)
    (undone : ¬ (s.sip.LayerEmpty ∧ s.sip.cancelToken = true)) :
    ∃ act t, act.isOwn = true ∧ runningStep session s act = some t ∧ t.ShuttingDown ∧ t.work < s.work := by
  obtain ⟨act, sip, owned, step, draining, less⟩ := shutting.draining.moves undone
  obtain ⟨phases, dialogs⟩ := (SipServer.moves_of_step step).keepsCalls owned
  have taken : runningStep session s (.signalling act) = some { s with sip } := by
    cases act with
    | terminated | monitor =>
      rw [runningStep, SipAct.isHandle, if_neg Bool.false_ne_true, step]
      rfl
    | arrive | closeIncoming | request | calling | dialogEnds | handle | startDrain | endpointEnds => cases owned
  refine ⟨.signalling act, _, owned, taken, ⟨shutting.invariant.step taken, draining, fun id phase there => ?_⟩, ?_⟩
  · rw [phases id] at there
    exact shutting.settled id phase there
  · unfold work
    rw [dialogs]
    exact Nat.add_lt_add_left less _

end ShuttingDown

theorem invariant_of_run {drainToken : Bool} {range : RtpPortRange} {taken : UInt16 → Bool} {acts : List RunningAct}
    (reach : run (runningStep session) (.start drainToken range taken) acts = some s) : s.Invariant :=
  run_invariant (invariant_start drainToken range taken) (fun _ _ _ before step => before.step step) reach

end RunningServer

end RsipstackServer
