import RsipstackServer.RunningServer
import RsipstackServer.AllocationComplete

namespace RsipstackServer
open Foundation
universe u
variable {κ : Type u} {session : CallId → MediaSession κ}

namespace HandledCall

/-- The call got no ports, and its peer was told so or is to be told next. -/
def OutOfPorts (call : HandledCall) : Prop :=
  call.Tried portsExhausted.response ∨ ∃ refusal, call.phase = .refused refusal ∧
    refusal.response = portsExhausted.response

/-- Only an allocation without a result makes a call run out of ports. -/
theorem outOfPorts_operate {call after : HandledCall} {act : HandleAct} (step : call.operate act = some after) :
    after.OutOfPorts ↔ call.OutOfPorts ∨ act = .allocate false := by
  obtain ⟨h, handled, rfl⟩ := Option.map_eq_some_iff.mp step
  obtain ⟨phase, outcomes, responses⟩ := call
  unfold handleStep at handled
  split at handled
  case h_1 | h_2 | h_8 =>
    rename_i place
    cases place
    cases Option.some.inj handled
    simp [OutOfPorts, Tried, Handling.enter]
  case h_3 =>
    rename_i ok e place
    cases place
    cases Option.some.inj handled
    cases ok <;> simp [OutOfPorts, Tried, Handling.enter, Handling.respond, Handling.countRejected, or_and_right,
      exists_or,
      Refusal.response]
  case h_4 | h_5 | h_6 | h_9 =>
    rename_i ok offer place
    cases place
    cases Option.some.inj handled
    cases ok <;> simp [OutOfPorts, Tried, Handling.enter, Handling.respond, Handling.guardNew, Handling.countAccepted,
      or_and_right, exists_or, Refusal.response, portsExhausted, connectFailed, codecFailed]
  case h_7 =>
    rename_i ok refusal place
    cases place
    cases Option.some.inj handled
    simp [OutOfPorts, Tried, Handling.enter, Handling.respond, Handling.countRejected, or_and_right, exists_or,
      Refusal.response]
  case h_10 =>
    rename_i past place
    cases place
    obtain ⟨next, ahead, rfl⟩ := Option.map_eq_some_iff.mp handled
    split <;> simp [OutOfPorts, Tried, Handling.enter, Handling.guardDrop]
  case h_11 => cases handled

end HandledCall

namespace PhaseMoves
variable {before after : CallPhase} {act : HandleAct} {offer : SdpOffer}

theorem to_parsed (moves : PhaseMoves before act (.parsed offer)) : before = .invited := by
  cases moves
  rfl

theorem of_parsed (moves : PhaseMoves (.parsed offer) act after) : ∃ found, act = .allocate found := by
  cases moves with
  | bound => exact ⟨true, rfl⟩
  | exhausted => exact ⟨false, rfl⟩

theorem allocates {found : Bool} (moves : PhaseMoves before (.allocate found) after) :
    ∃ offer, before = .parsed offer := by
  generalize same : HandleAct.allocate found = act at moves
  cases moves with
  | bound | exhausted => exact ⟨_, rfl⟩
  | parsed | unparsed | declined | connected | unconnected | created | uncreated | refused | rung | answered |
    unanswered
  | proceeds => cases same

end PhaseMoves

/-- A call is out of ports exactly if its allocation returned nothing and it has
taken this up. -/
def PortsTold (call : Option HandledCall) (alloc : AllocPhase) : Prop :=
  (∃ told, call = some told ∧ told.OutOfPorts) ↔
    alloc = .returned none ∧ ∀ offer, call.map HandledCall.phase ≠ some (.parsed offer)

namespace PortsTold
variable {call after : HandledCall} {act : HandleAct} {alloc : AllocPhase} {line : CallLine κ}

theorem invited (alloc : AllocPhase) (waits : alloc ≠ .returned none) :
    PortsTold (some ⟨.invited, [], []⟩) alloc := by
  refine iff_of_false ?_ fun both => waits both.1
  rintro ⟨call, same, out⟩
  cases same
  simp [HandledCall.OutOfPorts, HandledCall.Tried] at out

/-- The operations apart from the allocation. -/
theorem operate (told : PortsTold (some call) alloc) (step : call.operate act = some after)
    (together : Together (some call.phase) alloc line) (other : ∀ found, act ≠ .allocate found) :
    PortsTold (some after) alloc := by
  have moves := HandledCall.phaseMoves step
  have same : after.OutOfPorts ↔ call.OutOfPorts := by
    rw [HandledCall.outOfPorts_operate step, or_iff_left (other false)]
  have before : ∀ offer, call.phase ≠ .parsed offer := by
    intro offer parsed
    rw [parsed] at moves
    obtain ⟨found, same⟩ := moves.of_parsed
    exact other found same
  unfold PortsTold at told ⊢
  simp only [Option.some.injEq, exists_eq_left', Option.map_some, ne_eq] at told ⊢
  rw [same, told]
  refine and_congr_right fun returned => iff_of_true before fun offer parsed => ?_
  rw [parsed] at moves
  -- Only a call that has not asked for ports yet comes to the allocation.
  rw [moves.to_parsed] at together
  cases returned.symm.trans together.1

/-- Once `handle_call` has returned, its peer was told. -/
theorem tried_iff (told : PortsTold (some call) alloc) (gone : call.hasReturned = true) :
    call.Tried portsExhausted.response ↔ alloc = .returned none := by
  unfold PortsTold HandledCall.OutOfPorts at told
  simp only [Option.some.injEq, exists_eq_left', Option.map_some, ne_eq] at told
  unfold HandledCall.hasReturned at gone
  cases phase : call.phase with
  | answered place => simpa [phase] using told
  | returned ok => simpa [phase] using told
  | invited | unparsed | parsed | bound | connected | refused | created | rung =>
    rw [phase] at gone
    cases gone

theorem allocate {result : Option RtpSocketPair} (told : PortsTold (some call) (.returned result))
    (step : call.operate (.allocate result.isSome) = some after) : PortsTold (some after) (.returned result) := by
  have moves := HandledCall.phaseMoves step
  have fresh : ¬ call.OutOfPorts := by
    intro out
    obtain ⟨_, unparsed⟩ := told.mp ⟨call, rfl, out⟩
    obtain ⟨offer, parsed⟩ := moves.allocates
    exact unparsed offer (congrArg some parsed)
  have taken : ∀ offer, after.phase ≠ .parsed offer := by
    intro offer parsed
    rw [parsed] at moves
    obtain ⟨earlier, same⟩ := moves.allocates
    cases moves.to_parsed.symm.trans same
  unfold PortsTold
  simp only [Option.some.injEq, exists_eq_left', Option.map_some, ne_eq, HandledCall.outOfPorts_operate step, fresh,
    false_or]
  rw [and_iff_left taken]
  cases result <;> simp

end PortsTold

/-- The calls on one range, with the record of the allocation of each. -/
structure LiveCalls.Recorded (range : RtpPortRange) (slot : Nat) (s : LiveCalls κ) :
    Prop extends s.InRange range slot where
  record : ∀ id, CallRecord id range.slots s.alloc.history (s.alloc.phase id)

theorem CallRecord.others {s t : AllocState} {id other : CallId} {slots : Nat} {phase : AllocPhase}
    (record : CallRecord other slots s.history phase) (step : Advances s id t) (apart : other ≠ id) :
    CallRecord other slots t.history phase := by
  rcases step.others.2 with same | ⟨event, caller, more⟩
  · rw [same]
    exact record
  · rw [more]
    exact record.append (caller ▸ Ne.symm apart)

theorem LiveCalls.Recorded.step {range : RtpPortRange} {slot : Nat} {s t : LiveCalls κ} {act : LiveAct}
    (sound : range.Sound) (positive : range.firstRtpPort ≠ 0) (before : s.Recorded range slot)
    (step : liveStep session s act = some t) :
    t.Recorded range slot := by
  refine ⟨before.toInRange.step sound positive step, ?_⟩
  cases lives_of_step step with
  | @allocates mover chosen alloc moved =>
    refine moved.phases (P := fun other phase => CallRecord other range.slots alloc.history phase) ?_
      fun other apart => (before.record other).others moved apart
    refine .advances positive (fun port => ?_) (before.fits mover) (before.record mover) moved
    have owned : s.alloc.bound port = some (.call mover) ↔ (s.line mover).Holds (s.alloc.phase mover) port :=
      before.invariant.owned mover port
    rw [before.invariant.allocating moved] at owned
    exact owned
  | otherBinds | setsUp | fails | closes => exact before.record
  | @plays id act sockets call after => cases closed : sockets.closedBy call after <;> exact before.record

namespace RunningServer
variable {s t : RunningServer κ}

theorem cancelDialog_run (session : CallId → MediaSession κ) {calls : LiveCalls κ} (id : CallId)
    (live : LiveInvariant calls) :
    ∃ own, run (liveStep session) calls own = some (calls.cancelDialog id) := by
  rcases LiveCalls.cancelDialog_step session live with same | step
  · exact ⟨[], by rw [same, run_nil]⟩
  · exact ⟨[.media id .dialogEnds], by rw [run_singleton, step]⟩

/-- A step of the whole is a run of the signalling half. -/
theorem SipHalf.run {act : RunningAct} (half : SipHalf s t act) :
    ∃ own, Foundation.run sipStep s.sip own = some t.sip := by
  cases half with
  | loops foreign signalled => exact ⟨[_], by rw [run_singleton, signalled]⟩
  | operates own signalled => exact ⟨[_], by rw [run_singleton, signalled]⟩
  | rests idle same => exact ⟨[], by rw [same, run_nil]⟩

/-- And it is a run of the media half. -/
theorem Invariant.media_run {act : RunningAct} (before : s.Invariant) (step : runningStep session s act = some t) :
    ∃ own, run (liveStep session) s.calls own = some t.calls := by
  have plays {act : LiveAct} {calls : LiveCalls κ} (step : liveStep session s.calls act = some calls) :
      ∃ own, run (liveStep session) s.calls own = some calls := ⟨[act], by rw [run_singleton, step]⟩
  cases act with
  | signalling act =>
    obtain ⟨_, step⟩ := Option.ite_none_left_eq_some.mp step
    obtain ⟨sip, _, rfl⟩ := Option.map_eq_some_iff.mp step
    cases act with
    | dialogEnds id reason => exact cancelDialog_run session id before.live
    | _ => exact ⟨[], rfl⟩
  | handle id act =>
    obtain ⟨_, step⟩ := Option.ite_none_right_eq_some.mp step
    obtain ⟨sip, _, rfl⟩ := Option.map_eq_some_iff.mp step
    exact ⟨[], rfl⟩
  | alloc act =>
    cases act with
    | advance id chosen =>
      obtain ⟨_, step⟩ := Option.ite_none_right_eq_some.mp step
      obtain ⟨calls, moved, rfl⟩ := Option.map_eq_some_iff.mp step
      exact plays moved
    | otherBinds port =>
      obtain ⟨calls, moved, rfl⟩ := Option.map_eq_some_iff.mp step
      exact plays moved
  | allocated id =>
    simp only [runningStep] at step
    split at step
    · obtain ⟨sip, _, rfl⟩ := Option.map_eq_some_iff.mp step
      exact ⟨[], rfl⟩
    · cases step
  | connect | create | proceed => exact plays (both_eq_some.mp step).2
  | accept id ok now =>
    obtain ⟨calls, moved, same⟩ := Option.map_eq_some_iff.mp (both_eq_some.mp step).2
    rw [← same]
    split
    · obtain ⟨later, cancelled⟩ := cancelDialog_run session id (before.live.step moved)
      exact ⟨.accept id ok now :: later, by rw [run_cons, moved, Option.bind_some, cancelled]⟩
    · exact plays moved
  | close id =>
    obtain ⟨calls, moved, rfl⟩ := Option.map_eq_some_iff.mp step
    exact plays moved
  | media id act =>
    obtain ⟨_, step⟩ := Option.ite_none_left_eq_some.mp step
    obtain ⟨calls, moved, rfl⟩ := Option.map_eq_some_iff.mp step
    exact plays moved

theorem halves_of_run {drainToken : Bool} {range : RtpPortRange} {taken : UInt16 → Bool} {acts : List RunningAct}
    (reach : run (runningStep session) (.start drainToken range taken) acts = some s) :
    (∃ own, run sipStep (.start drainToken) own = some s.sip) ∧
      ∃ own, run (liveStep session) (.start range taken) own = some s.calls := by
  have first := invariant_start (κ := κ) drainToken range taken
  have keeps (s : RunningServer κ) (act : RunningAct) (t : RunningServer κ) (before : s.Invariant)
      (step : runningStep session s act = some t) : t.Invariant := before.step step
  exact ⟨run_view sip first keeps (fun s act t _ step => (sipHalf_of_step step).run) reach,
    run_view calls first keeps (fun s act t before step => before.media_run step) reach⟩

theorem recorded_of_run {range : RtpPortRange} {slot : Nat} (sound : range.Sound) (positive : range.firstRtpPort ≠ 0)
    (inside : slot < range.slots) {drainToken : Bool} {taken : UInt16 → Bool} {acts : List RunningAct}
    (reach : run (runningStep session) (.start drainToken (range.atSlot slot) taken) acts = some s) :
    s.calls.Recorded range slot := by
  obtain ⟨_, own, media⟩ := halves_of_run reach
  have start := AllocInvariant.start inside taken
  exact run_invariant (P := LiveCalls.Recorded range slot) ⟨⟨.start _ taken, start.rotated, start.fits⟩, start.record⟩
    (fun _ _ _ before step => before.step sound positive step) media

/-- Only an allocation that has returned is taken up. -/
theorem operation?_allocate {act : RunningAct} {id : CallId} {found : Bool}
    (step : runningStep session s act = some t) (own : s.operation? act = some (id, .allocate found)) :
    ∃ result, s.calls.alloc.phase id = .returned result ∧ found = result.isSome := by
  cases act with
  | handle id act =>
    cases Option.some.inj own
    simp only [runningStep, HandleAct.isLocal, Bool.false_eq_true, if_false, reduceCtorEq] at step
  | allocated id =>
    simp only [operation?] at own
    split at own
    · rename_i result returned
      cases Option.some.inj own
      exact ⟨result, returned, rfl⟩
    all_goals cases own
  | connect | create | accept | proceed => cases Option.some.inj own
  | signalling | alloc | close | media => cases own

theorem portsTold_operation {id : CallId} {act : HandleAct} (invariant : s.Invariant)
    (before : PortsTold (s.sip.call? id) (s.calls.alloc.phase id)) {call after : HandledCall}
    (was : s.sip.call? id = some call) (moved : call.operate act = some after)
    (allocated : ∀ found, act = .allocate found → ∃ result,
      s.calls.alloc.phase id = .returned result ∧ found = result.isSome) :
    PortsTold (some after) (s.calls.alloc.phase id) := by
  rw [was] at before
  by_cases takes : ∃ found, act = .allocate found
  · obtain ⟨found, rfl⟩ := takes
    obtain ⟨result, returned, rfl⟩ := allocated found rfl
    rw [returned] at before ⊢
    exact before.allocate moved
  · have together := invariant.inStep id
    rw [SipServer.phase?, was, Option.map_some] at together
    exact before.operate moved together fun found same => takes ⟨found, same⟩

theorem portsTold_step {act : RunningAct} (invariant : s.Invariant)
    (before : ∀ id, PortsTold (s.sip.call? id) (s.calls.alloc.phase id)) (step : runningStep session s act = some t)
    (id : CallId) :
    PortsTold (t.sip.call? id) (t.calls.alloc.phase id) := by
  rcases alloc_of_step step with same | ⟨mover, _, offer, _, parsed, rests, advances⟩
  · rw [same]
    cases sipHalf_of_step step with
    | rests _ idle =>
      rw [idle]
      exact before id
    | @loops act foreign signalled =>
      have unselected : SipAct.operation? id act = none := by
        cases act with
        | handle => cases foreign
        | _ => rfl
      rcases (SipServer.call_component id).keeps s.sip act t.sip signalled unselected with kept |
        ⟨fresh, _, rfl, begun⟩
      · rw [show t.sip.call? id = s.sip.call? id from kept]
        exact before id
      · have idle := invariant.inStep id
        rw [SipServer.phase?, show s.sip.call? id = none from fresh] at idle
        rw [show t.sip.call? id = _ from begun]
        exact .invited _ (by rw [idle.1]; simp)
    | @operates _ own operation selects signalled =>
      obtain ⟨⟨call, after, was, moved, now⟩, others⟩ := SipServer.call?_handle signalled
      by_cases mine : id = own
      · subst mine
        rw [now]
        refine portsTold_operation invariant (before id) was moved fun found same => ?_
        rw [same] at selects
        exact operation?_allocate step selects
      · rw [others id mine]
        exact before id
  · rw [rests]
    by_cases mine : id = mover
    · subst mine
      have told := before id
      exact iff_of_false (fun out => (told.mp out).2 offer parsed) fun both => both.2 offer parsed
    · rw [advances.others.1 id mine]
      exact before id

theorem portsTold_of_run {drainToken : Bool} {range : RtpPortRange} {taken : UInt16 → Bool} {acts : List RunningAct}
    (reach : run (runningStep session) (.start drainToken range taken) acts = some s) :
    s.Invariant ∧ ∀ id, PortsTold (s.sip.call? id) (s.calls.alloc.phase id) := by
  refine run_invariant (P := fun s => s.Invariant ∧ ∀ id, PortsTold (s.sip.call? id) (s.calls.alloc.phase id))
    ⟨invariant_start drainToken range taken, fun id => iff_of_false ?_ ?_⟩
    (fun _ _ _ before step => ⟨before.1.step step, portsTold_step before.1 before.2 step⟩) reach
  · rintro ⟨_, there, _⟩
    cases there
  · rintro ⟨returned, _⟩
    cases returned

end RunningServer

/-- The call has its media session, and its `handle_call` is not over. -/
def CallLine.isActive : CallLine κ → Bool
  | .media call => call.handleCall ≠ .returned
  | .allocating | .connected | .created | .closing _ => false

/-- How the peers were answered and what the metrics show of the calls is what
became of their ports and of their media. -/
structure CallsAgree (range : RtpPortRange) (s : RunningServer κ) : Prop where
  accepted : ∀ id, (∃ call, s.sip.call? id = some call ∧ call.Told .accept) ↔ ∃ media, s.calls.line id = .media media
  active : s.sip.metrics.calls.callsActive =
    (List.range s.sip.dialogs.length).countP fun id => (s.calls.line id).isActive
  turnedAway : ∀ id call, s.sip.call? id = some call → call.hasReturned = true →
    (call.Tried portsExhausted.response ↔ s.calls.alloc.phase id = .returned none)
  exhausted : ∀ id, s.calls.alloc.phase id = .returned none → ∃ before during after,
    s.calls.alloc.history = before ++ .called id :: during ++ .returned id none :: after ∧
      (∀ event ∈ before, event.caller ≠ id) ∧
      ∀ pair, range.HasPair pair → (.drew id pair ∈ during ∧ FoundTaken id pair during) ∨
        ∃ other, other ≠ id ∧ .drew other pair ∈ during

theorem Consistent.told_accept_iff {call : HandledCall} (consistent : Consistent call) :
    call.Told .accept ↔ ∃ place, call.phase = .answered place := by
  unfold HandledCall.Told
  cases consistent with
  | @undecided phase undecided => cases phase <;> simp_all [CallPhase.Undecided]
  | answered | rejected | lost => simp

namespace RunningServer.Invariant
variable {s : RunningServer κ}

theorem consistent (invariant : s.Invariant) {id : CallId} {call : HandledCall} (there : s.sip.call? id = some call) :
    Consistent call := by
  obtain ⟨dialog, entry, running⟩ := Option.bind_eq_some_iff.mp there
  exact invariant.counted.tallied.consistent call
    (List.mem_filterMap.mpr ⟨dialog, List.mem_of_getElem? entry, running⟩)

theorem accepted (invariant : s.Invariant) (id : CallId) :
    (∃ call, s.sip.call? id = some call ∧ call.Told .accept) ↔ ∃ media, s.calls.line id = .media media := by
  have together := invariant.inStep id
  constructor
  · rintro ⟨call, there, told⟩
    obtain ⟨place, answered⟩ := (invariant.consistent there).told_accept_iff.mp told
    rw [SipServer.phase?, there, Option.map_some, answered] at together
    obtain ⟨media, line, _⟩ := together
    exact ⟨media, line⟩
  · rintro ⟨media, line⟩
    rw [line] at together
    obtain ⟨phase, _⟩ := Together.media_iff.mp together
    obtain ⟨call, there, answered⟩ := Option.map_eq_some_iff.mp phase
    exact ⟨call, there, (invariant.consistent there).told_accept_iff.mpr ⟨_, answered⟩⟩

theorem isActive (invariant : s.Invariant) {id : CallId} {dialog : ServerDialog}
    (entry : s.sip.dialogs[id]? = some dialog) :
    (s.calls.line id).isActive = dialog.isActive := by
  have accepted := invariant.accepted id
  have together := invariant.inStep id
  cases running : dialog.call? with
  | none =>
    have none : s.sip.call? id = none := by rw [SipServer.call?, entry, Option.bind_some, running]
    rw [SipServer.phase?, none] at together
    rw [together.2, ServerDialog.isActive, running]
    rfl
  | some call =>
    have there : s.sip.call? id = some call := by rw [SipServer.call?, entry, Option.bind_some, running]
    rw [ServerDialog.isActive, running, Option.map_some, Option.getD_some, HandledCall.isActive]
    cases line : s.calls.line id with
    | media media =>
      rw [line] at together
      obtain ⟨phase, _⟩ := Together.media_iff.mp together
      rw [SipServer.phase?, there, Option.map_some, Option.some.injEq] at phase
      have told : call.Told .accept := (invariant.consistent there).told_accept_iff.mpr ⟨_, phase⟩
      have heard : call.isAccepted = true := decide_eq_true told
      rw [heard, Bool.true_and, HandledCall.hasReturned, phase, CallLine.isActive]
      cases media.handleCall <;> rfl
    | allocating | connected | created | closing =>
      have untold : ¬ call.Told .accept := by
        intro told
        obtain ⟨media, playing⟩ := accepted.mp ⟨call, there, told⟩
        cases line.symm.trans playing
      have unheard : call.isAccepted = false := decide_eq_false untold
      rw [unheard, Bool.false_and, CallLine.isActive]

end RunningServer.Invariant

/-- In every run of the whole server on a range without the ports 0 and 65535,
signalling, metrics, ports and media of all calls agree. -/
theorem callsAgree_of_run {minPort maxPort : UInt16} {range : RtpPortRange} {slot : Nat}
    (built : RtpPortRange.new minPort maxPort = some (.ok range)) (below : maxPort < 65535) (positive : minPort ≠ 0)
    (inside : slot < range.slots) {drainToken : Bool} {taken : UInt16 → Bool} {acts : List RunningAct}
    {s : RunningServer κ}
    (reach : run (runningStep session) (.start drainToken (range.atSlot slot) taken) acts = some s) :
    CallsAgree range s := by
  have sound := RtpPortRange.sound_of_new built (Or.inl (UInt16.lt_iff_toNat_lt.mp below))
  obtain ⟨_, first, _⟩ := RtpPortRange.new_ok built
  rw [← first] at positive
  obtain ⟨invariant, told⟩ := RunningServer.portsTold_of_run reach
  have recorded := RunningServer.recorded_of_run sound positive inside reach
  refine ⟨invariant.accepted, ?_, fun id call there gone => ?_, fun id returned => ?_⟩
  · rw [invariant.counted.active, countP_range fun id dialog entry => invariant.isActive entry]
  · have both := told id
    rw [there] at both
    exact both.tried_iff gone
  · have record := recorded.record id
    rw [returned] at record
    exact Between.exhausted sound recorded.rotated record

/-- On a range with one pair a call is accepted, and a second one is turned
away. -/
def turningAway : List RunningAct :=
  [.signalling (.arrive freshInvite), .signalling (.request creating), .signalling (.arrive freshInvite),
    .signalling (.request creating), .signalling (.calling 0), .signalling (.calling 1),
    .handle 1 (.parse (.ok plainOffer)), .handle 0 (.parse (.ok plainOffer)), .alloc (.advance 0 0),
    .alloc (.advance 1 0), .alloc (.advance 0 0), .alloc (.advance 1 0), .alloc (.advance 0 0),
    .alloc (.advance 1 0), .alloc (.advance 1 0), .alloc (.advance 0 0), .allocated 1, .allocated 0,
    .handle 1 (.reject false), .connect 0 true, .create 0 true, .handle 0 (.ringing false), .accept 0 true 5,
    .proceed 0]

theorem callsAgree_turningAway : ∃ s,
    run (runningStep fun _ => talkingSession 0) (.start false (RtpPortRange.atSlot ⟨10000, 10000, 10000⟩ 0)
      fun _ => false)
        turningAway = some s ∧
      s.sip.metrics.calls.callsActive = 1 ∧ s.calls.alloc.phase 1 = .returned none ∧
        CallsAgree ⟨10000, 10000, 10000⟩ s := by
  have built : RtpPortRange.new 10000 10001 = some (.ok ⟨10000, 10000, 10000⟩) := by decide
  have state : (run (runningStep fun _ => talkingSession 0)
      (.start false (RtpPortRange.atSlot ⟨10000, 10000, 10000⟩ 0) fun _ => false) turningAway).map
        (fun s => (s.sip.metrics.calls.callsActive, s.calls.alloc.phase 1)) = some (1, .returned none) := by
          decide +kernel
  obtain ⟨s, reach, shown⟩ := Option.map_eq_some_iff.mp state
  obtain ⟨active, returned⟩ := Prod.mk.inj shown
  exact ⟨s, reach, active, returned, callsAgree_of_run built (by decide) (by decide) (by decide) reach⟩

end RsipstackServer
