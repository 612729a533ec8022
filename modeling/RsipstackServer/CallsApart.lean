import RsipstackServer.PortOwnership
import RsipstackServer.LivePorts
import RsipstackServer.WindDown
import RsipstackServer.Foundation.Projection

namespace RsipstackServer
open Foundation
universe u
variable {κ : Type u} {session : CallId → MediaSession κ}

/-- The accepted call that a line holds. -/
def LiveCalls.call? (s : LiveCalls κ) (id : CallId) : Option (CallState κ) :=
  match s.line id with
  | .media call => some call
  | .allocating | .connected | .created | .closing _ => none

/-- What an action is of the accepted call `id`. -/
def LiveAct.of (id : CallId) : LiveAct → Option CallAct
  | .media other act => if other = id then some act else none
  | .alloc _ | .connect _ _ | .create _ _ | .accept _ _ _ | .close _ => none

theorem LiveCalls.call?_eq_some {s : LiveCalls κ} {id : CallId} {call : CallState κ} :
    s.call? id = some call ↔ s.line id = .media call := by
  unfold call?
  cases s.line id with
  | media other => exact ⟨fun same => congrArg CallLine.media (Option.some.inj same), fun same => by cases same; rfl⟩
  | allocating | connected | created | closing => exact iff_of_false nofun nofun

theorem LiveCalls.call?_of_inSetup {s : LiveCalls κ} {id : CallId} (stage : (s.line id).inSetup = true) :
    s.call? id = none := by
  unfold call?
  cases line : s.line id with
  | media call =>
    rw [line] at stage
    cases stage
  | allocating | connected | created | closing => rfl

theorem LiveCalls.call?_enter {s : LiveCalls κ} {id other : CallId} {line : CallLine κ} (port : Option UInt16)
    (apart : other ≠ id) : ((s.close port).enter id line).call? other = s.call? other := by
  rw [call?, call?, enter_line_of_ne _ _ apart, close_line]

/-- An accepted call is a component of the server. -/
theorem LiveCalls.component (id : CallId) :
    Component (liveStep session) (callStep (session id)) (fun s => s.call? id) (LiveAct.of id)
      fun call => ∃ now, call = .accepted now where
  moves := by
    intro s act t own step mine
    cases lives_of_step step with
    | @plays mover act sockets call after stage returned moved =>
      obtain ⟨rfl, same⟩ := Option.ite_none_right_eq_some.mp mine
      cases Option.some.inj same
      exact ⟨call, after, call?_eq_some.mpr stage, moved, call?_eq_some.mpr (enter_line_self ..)⟩
    | allocates | otherBinds | closes => cases mine
    | setsUp setsUp | fails setsUp => cases act <;> first | cases mine | cases setsUp
  keeps := by
    intro s act t step foreign
    cases lives_of_step step with
    | allocates | otherBinds => exact Or.inl rfl
    | @setsUp act mover sockets next _ stage _ later =>
      by_cases mine : id = mover
      · subst mine
        have before := call?_of_inSetup stage
        rcases later with rfl | rfl | ⟨now, rfl⟩
        · exact Or.inl (by rw [before, call?, enter_line_self])
        · exact Or.inl (by rw [before, call?, enter_line_self])
        · exact Or.inr ⟨before, .accepted now, ⟨now, rfl⟩, call?_eq_some.mpr (enter_line_self ..)⟩
      · exact Or.inl (call?_enter none mine)
    | @fails act mover sockets _ stage =>
      by_cases mine : id = mover
      · subst mine
        exact Or.inl (by rw [call?_of_inSetup stage, call?, enter_line_self])
      · exact Or.inl (call?_enter none mine)
    | @closes mover port left stage =>
      by_cases mine : id = mover
      · subst mine
        refine Or.inl ?_
        simp only [call?, enter_line_self, stage]
      · exact Or.inl (call?_enter _ mine)
    | @plays mover act sockets call after stage =>
      have other : id ≠ mover := by
        rintro rfl
        rw [LiveAct.of, if_pos rfl] at foreign
        cases foreign
      exact Or.inl (call?_enter _ other)

/-- Whatever the other calls and the third parties do, an accepted call runs
alone. -/
theorem LiveCalls.call_run {range : RtpPortRange} {taken : UInt16 → Bool} {acts : List LiveAct} {last : LiveCalls κ}
    {id : CallId} {call : CallState κ} (reach : run (liveStep session) (.start range taken) acts = some last)
    (playing : last.line id = .media call) :
    ∃ now, run (callStep (session id)) (.accepted now) (acts.filterMap (LiveAct.of id)) = some call := by
  obtain ⟨_, ⟨now, rfl⟩, own⟩ := (LiveCalls.component id).run rfl reach (call?_eq_some.mpr playing)
  exact ⟨now, own⟩

theorem LiveCalls.invariant_of_run {range : RtpPortRange} {taken : UInt16 → Bool} {acts : List LiveAct}
    {last : LiveCalls κ} (reach : run (liveStep session) (.start range taken) acts = some last) :
    LiveInvariant last :=
  run_invariant (LiveInvariant.start range taken) (fun _ _ _ before step => before.step step) reach

/-- What an accepted call can do alone, it can do among all others, and it
leaves these as they are. -/
theorem LiveCalls.play {s : LiveCalls κ} {id : CallId} {call after : CallState κ} {sockets : RtpSocketPair}
    {acts : List CallAct} (playing : s.line id = .media call) (returned : s.alloc.phase id = .returned (some sockets))
    (alone : run (callStep (session id)) call acts = some after) :
    ∃ last, run (liveStep session) s (acts.map (.media id)) = some last ∧ last.line id = .media after ∧
      last.alloc.phase = s.alloc.phase ∧ ∀ other, other ≠ id → last.line other = s.line other := by
  induction acts generalizing s call with
  | nil =>
    cases Option.some.inj alone
    exact ⟨s, rfl, playing, rfl, fun _ _ => rfl⟩
  | cons act later ih =>
    rw [run_cons, Option.bind_eq_some_iff] at alone
    obtain ⟨next, moved, rest⟩ := alone
    have step : liveStep session s (.media id act) =
      some ((s.close (sockets.closedBy call next)).enter id (.media next)) := by
      simp only [liveStep, playing, returned, moved, Option.bind_eq_bind, Option.bind_some, Option.pure_def]
    have phases : ((s.close (sockets.closedBy call next)).enter id (.media next)).alloc.phase = s.alloc.phase := by
      rw [enter_alloc, close_phase]
    obtain ⟨last, reach, line, phase, others⟩ := ih (enter_line_self ..) (by rw [phases, returned]) rest
    refine ⟨last, ?_, line, phase.trans phases, fun other apart => ?_⟩
    · rw [List.map_cons, run_cons, step, Option.bind_some]
      exact reach
    · rw [others other apart, enter_line_of_ne _ _ apart, close_line]

/-- The packets of an accepted call are its own: they follow from what happened
to this call, in the order in which it did, and they are gap-free whatever went
on in between in all other calls. -/
theorem streams_apart {range : RtpPortRange} {taken : UInt16 → Bool} {acts : List LiveAct} {last : LiveCalls κ}
    {id : CallId} {call : CallState κ} (reach : run (liveStep session) (.start range taken) acts = some last)
    (playing : last.line id = .media call) :
    ∃ now sent heard,
      run (sendHistoryStep (session id)) (.accepted now) (acts.filterMap (LiveAct.of id)) = some ⟨call, sent⟩ ∧
      run (receiveHistoryStep (session id)) (.accepted now) (acts.filterMap (LiveAct.of id)) = some ⟨call, heard⟩ ∧
      ((session id).crate.Conforms → (session id).payloadType ≤ 127 → sent.GapFree (session id)) := by
  obtain ⟨now, alone⟩ := LiveCalls.call_run reach playing
  obtain ⟨sent, sends⟩ := sendHistory_run_iff.mpr alone
  obtain ⟨heard, hears⟩ := receiveHistory_run_iff.mpr alone
  exact ⟨now, sent, heard, sends, hears, fun conforms fits => gapFree_of_le conforms fits sends⟩

/-- Two calls set up step by step in turn, of which the first sends a frame and
is then hung up on. -/
def talkAndHangUp : List LiveAct :=
  [.alloc (.advance 0 0), .alloc (.advance 1 0), .alloc (.advance 0 0), .alloc (.advance 1 0),
    .alloc (.advance 0 0), .alloc (.advance 1 0), .alloc (.advance 1 0), .alloc (.advance 0 0), .connect 1 true,
    .connect 0 true, .create 0 true, .create 1 true, .accept 0 true 5, .media 0 .handleCall, .accept 1 true 6,
    .media 1 .handleCall, .media 0 .handleCall, .media 0 (.sendTask (.start 7 1 1)),
    .media 0 (.handlerTask (.put ⟨[1]⟩)), .media 1 .handleCall, .media 0 (.sendTask .recv),
    .media 0 .dialogEnds]

theorem streams_apart_talkAndHangUp : ∃ last,
    run (liveStep fun _ => talkingSession 0) (.start ⟨10000, 10098, 10000⟩ fun _ => false) talkAndHangUp = some last ∧
      ∃ call, last.line 0 = .media call ∧ ∃ now sent heard,
        run (sendHistoryStep (talkingSession 0)) (.accepted now) (talkAndHangUp.filterMap (LiveAct.of 0)) =
          some ⟨call, sent⟩ ∧
        run (receiveHistoryStep (talkingSession 0)) (.accepted now) (talkAndHangUp.filterMap (LiveAct.of 0)) =
          some ⟨call, heard⟩ ∧
        sent.GapFree (talkingSession 0) := by
  have shown : (run (liveStep fun _ => talkingSession 0) (.start ⟨10000, 10098, 10000⟩
    fun _ => false) talkAndHangUp).map
      (fun s => (s.call? 0).isSome) = some true := by decide +kernel
  refine exists_of_run (by decide +kernel) fun last reach => ?_
  rw [reach] at shown
  obtain ⟨call, playing⟩ := Option.isSome_iff_exists.mp (Option.some.inj shown)
  have line := LiveCalls.call?_eq_some.mp playing
  obtain ⟨now, sent, heard, sends, hears, whole⟩ := streams_apart reach line
  exact ⟨call, line, now, sent, heard, sends, hears, whole fixedHeaderRtpRs_conforms (by decide)⟩

/-- A call that is cancelled gives back its ports within a bounded number of
its own steps, and these leave every other call and its ports as they are. -/
theorem cancelled_releases {range : RtpPortRange} {taken : UInt16 → Bool} {acts : List LiveAct} {s : LiveCalls κ}
    {id : CallId} {call : CallState κ} (reach : run (liveStep session) (.start range taken) acts = some s)
    (playing : s.line id = .media call) (cancelled : call.tokens.isCancelled dialogToken = true) :
    ∃ (closing : List CallAct) (last : LiveCalls κ),
      closing.length ≤ 8 + 2 * call.audioOut.queue.length ∧ closing.all CallAct.isOwn = true ∧
      run (liveStep session) s (closing.map (.media id)) = some last ∧
      (∀ port, last.alloc.bound port ≠ some (.call id)) ∧
      ∀ other, other ≠ id → last.line other = s.line other ∧
        ∀ port, last.alloc.bound port = some (.call other) ↔ s.alloc.bound port = some (.call other) := by
  have before := LiveCalls.invariant_of_run reach
  obtain ⟨sockets, returned⟩ := (before.fits id).returned (by rw [playing]; nofun)
  obtain ⟨now, alone⟩ := LiveCalls.call_run reach playing
  obtain ⟨closing, ended, short, own, closes, down⟩ := (CallState.ending_of_run alone cancelled).finishes (session id)
  obtain ⟨last, continued, line, phases, others⟩ := LiveCalls.play playing returned closes
  have after : LiveInvariant last := run_invariant before (fun _ _ _ before step => before.step step) continued
  refine ⟨closing, last, short, own, continued, after.not_holds ?_,
    fun other apart => ⟨others other apart, fun port => ?_⟩⟩
  · obtain ⟨exit, receive⟩ := down.receive
    obtain ⟨stop, send⟩ := down.send
    rw [line, CallLine.finished, CallState.mediaEnded, receive, send]
    rfl
  · have now : last.alloc.bound port = some (.call other) ↔ (last.line other).Holds (last.alloc.phase other) port :=
      after.owned other port
    have was : s.alloc.bound port = some (.call other) ↔ (s.line other).Holds (s.alloc.phase other) port :=
      before.owned other port
    rw [now, was, others other apart, phases]

theorem cancelled_releases_talkAndHangUp : ∃ s,
    run (liveStep fun _ => talkingSession 0) (.start ⟨10000, 10098, 10000⟩ fun _ => false) talkAndHangUp = some s ∧
      s.alloc.bound 10000 = some (.call 0) ∧
      ∃ (closing : List CallAct) (last : LiveCalls Unit), closing.length ≤ 8 ∧ closing.all CallAct.isOwn = true ∧
        run (liveStep fun _ => talkingSession 0) s (closing.map (.media 0)) = some last ∧
        (∀ port, last.alloc.bound port ≠ some (.call 0)) ∧
        ∀ other, other ≠ 0 → last.line other = s.line other ∧
          ∀ port, last.alloc.bound port = some (.call other) ↔ s.alloc.bound port = some (.call other) := by
  have shown : (run (liveStep fun _ => talkingSession 0) (.start ⟨10000, 10098, 10000⟩
    fun _ => false) talkAndHangUp).map
      (fun s => ((s.call? 0).map fun call => (call.tokens.isCancelled dialogToken, call.audioOut.queue.length),
        s.alloc.bound 10000)) = some (some (true, 0), some (.call 0)) := by decide +kernel
  refine exists_of_run (by decide +kernel) fun s reach => ?_
  rw [reach] at shown
  obtain ⟨there, bound⟩ := Prod.mk.inj (Option.some.inj shown)
  obtain ⟨call, playing, state⟩ := Option.map_eq_some_iff.mp there
  obtain ⟨cancelled, queue⟩ := Prod.mk.inj state
  obtain ⟨closing, last, short, released⟩ := cancelled_releases reach (LiveCalls.call?_eq_some.mp playing) cancelled
  rw [queue] at short
  exact ⟨bound, closing, last, short, released⟩

end RsipstackServer
