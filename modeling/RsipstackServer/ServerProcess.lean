import RsipstackServer.DrainCompletes
import RsipstackServer.RejectReasons
import Mathlib

namespace RsipstackServer
open Foundation

/-- The metrics that count up and down, without the drain gauge. -/
abbrev MetricTotals := Counter RejectReason × Counter CodecKind × Int × Counter TerminatedLabel × Nat

namespace ServerMetrics

def fresh : ServerMetrics := ⟨⟨.zero, .zero, 0⟩, .zero, 0, 0⟩

def totals (metrics : ServerMetrics) : MetricTotals :=
  (metrics.calls.callsRejected, metrics.calls.callsAccepted, metrics.calls.callsActive, metrics.callsTerminated,
    metrics.callsDialogNotFound)

/-- The body of `ensure_initialized`. `absolute` never lowers a counter. -/
def ensureInitialized (metrics : ServerMetrics) : ServerMetrics :=
  { metrics with
    calls.callsRejected := fun reason => max (metrics.calls.callsRejected reason) 0
    calls.callsAccepted := fun codec => max (metrics.calls.callsAccepted codec) 0
    calls.callsActive := 0
    callsDialogNotFound := max metrics.callsDialogNotFound 0
    callsTerminated := fun label => max (metrics.callsTerminated label) 0 }

end ServerMetrics

/-- A process with its servers, which share the metrics. What a server has as
its own metrics is never read. -/
structure ServerProcess where
  initialized : Bool
  metrics : ServerMetrics
  created : Nat
  servers : List SipServer

def ServerProcess.start : ServerProcess := ⟨false, .fresh, 0, []⟩

/-- `new` is `SipServer::new`, which may fail after `ensure_initialized`, and
`run` enters `SipServer::run`. -/
inductive ProcessAct
  | new (ok : Bool)
  | run (drainToken : Bool)
  | server (i : Nat) (act : SipAct)

def ProcessAct.of (i : Nat) : ProcessAct → Option SipAct
  | .server j act => if j = i then some act else none
  | .new _ | .run _ => none

def processStep (p : ServerProcess) : ProcessAct → Option ServerProcess
  | .new ok =>
    let metrics := if p.initialized then p.metrics else p.metrics.ensureInitialized
    some { p with initialized := true, metrics, created := if ok then p.created + 1 else p.created }
  | .run drainToken =>
    match p.created with
    | 0 => none
    | left + 1 =>
      some { p with created := left, metrics.drainActive := 0, servers := p.servers ++ [.start drainToken] }
  | .server i act => do
    let server ← p.servers[i]?
    let after ← sipStep { server with metrics := p.metrics } act
    pure { p with metrics := after.metrics, servers := p.servers.set i { after with metrics := server.metrics } }

/-- The metrics of a call move by the same amounts wherever they stand. -/
structure CallMetrics.Shifted (shared own shared' own' : CallMetrics) : Prop where
  rejected : shared'.callsRejected + own.callsRejected = shared.callsRejected + own'.callsRejected
  accepted : shared'.callsAccepted + own.callsAccepted = shared.callsAccepted + own'.callsAccepted
  active : shared'.callsActive + own.callsActive = shared.callsActive + own'.callsActive

theorem CallMetrics.Shifted.same (shared own : CallMetrics) : Shifted shared own shared own := ⟨rfl, rfl, rfl⟩

/-- `handle_call` does not look at the metrics. -/
theorem handleStep_shifted {call : HandledCall} {shared : CallMetrics} {act : HandleAct} {h : Handling}
    (own : CallMetrics) (step : handleStep ⟨call, shared⟩ act = some h) :
    ∃ k, handleStep ⟨call, own⟩ act = some k ∧ k.call = h.call ∧ shared.Shifted own h.metrics k.metrics := by
  obtain ⟨phase, outcomes, responses⟩ := call
  unfold handleStep at step
  split at step
  case h_11 => cases step
  case h_1 | h_2 | h_4 | h_5 | h_6 | h_8 =>
    rename_i place
    cases place
    cases Option.some.inj step
    exact ⟨_, rfl, rfl, .same ..⟩
  case h_3 =>
    rename_i ok e place
    cases place
    cases Option.some.inj step
    cases ok with
    | true => exact ⟨_, rfl, rfl, Counter.increment_shift .., rfl, rfl⟩
    | false => exact ⟨_, rfl, rfl, .same ..⟩
  case h_7 =>
    rename_i ok refusal place
    cases place
    cases Option.some.inj step
    exact ⟨_, rfl, rfl, Counter.increment_shift .., rfl, rfl⟩
  case h_9 =>
    rename_i ok offer place
    cases place
    cases Option.some.inj step
    cases ok with
    | true =>
      refine ⟨_, rfl, rfl, rfl, Counter.increment_shift .., ?_⟩
      change shared.callsActive + 1 + own.callsActive = shared.callsActive + (own.callsActive + 1)
      omega
    | false => exact ⟨_, rfl, rfl, .same ..⟩
  case h_10 =>
    rename_i past place
    cases place
    obtain ⟨next, ahead, rfl⟩ := Option.map_eq_some_iff.mp step
    simp only [handleStep, ahead, Option.map_some]
    refine ⟨_, rfl, ?_⟩
    split
    · refine ⟨rfl, rfl, rfl, ?_⟩
      change shared.callsActive - 1 + own.callsActive = shared.callsActive + (own.callsActive - 1)
      omega
    · exact ⟨rfl, .same ..⟩

namespace SipServer
variable {s : SipServer} {shared : ServerMetrics} {act : SipAct} {t : SipServer}

/-- The step that the server takes with the shared metrics it takes alone, and
moves its own metrics by the same amounts. -/
structure Shifts (s : SipServer) (shared : ServerMetrics) (act : SipAct) (t : SipServer) (own : SipServer) :
    Prop where
  step : sipStep s act = some own
  same : t = { own with metrics := t.metrics }
  totals : t.metrics.totals + s.metrics.totals = shared.totals + own.metrics.totals
  drain : t.metrics.drainActive = shared.drainActive ∨ t.metrics.drainActive = 1 ∧ own.monitor ≠ .waiting

theorem totals_shift {a b c d : ServerMetrics} (calls : a.calls.Shifted b.calls c.calls d.calls)
    (terminated : c.callsTerminated + b.callsTerminated = a.callsTerminated + d.callsTerminated)
    (notFound : c.callsDialogNotFound + b.callsDialogNotFound = a.callsDialogNotFound + d.callsDialogNotFound) :
    c.totals + b.totals = a.totals + d.totals := by
  simp only [ServerMetrics.totals, Prod.mk_add_mk]
  rw [calls.rejected, calls.accepted, calls.active, terminated, notFound]

theorem handleTransaction_shared (running : s.finished = none) (rest : List Transaction) (routed : Routed) :
    ({ s with metrics := shared } : SipServer).handleTransaction rest routed =
      { s.handleTransaction rest routed with
        metrics := { shared with callsDialogNotFound := shared.callsDialogNotFound + routed.route.notFound } } := by
  rw [handleTransaction_eq running]
  exact handleTransaction_eq (s := { s with metrics := shared }) running

theorem shifts_of_step (s : SipServer) (shared : ServerMetrics)
    (step : sipStep { s with metrics := shared } act = some t) : ∃ own, s.Shifts shared act t own := by
  cases act with
  | arrive tx =>
    obtain ⟨unclosed, same⟩ := Option.ite_none_left_eq_some.mp step
    cases Option.some.inj same
    exact ⟨_, if_neg unclosed, rfl, rfl, Or.inl rfl⟩
  | closeIncoming =>
    cases Option.some.inj step
    exact ⟨_, rfl, rfl, rfl, Or.inl rfl⟩
  | request surroundings =>
    obtain ⟨running, step⟩ := Option.ite_none_right_eq_some.mp step
    have going : s.finished = none := Option.isNone_iff_eq_none.mp running
    simp only [processIncomingRequests] at step
    split at step
    · rename_i tx rest queue
      have alone : sipStep s (.request surroundings) =
        some (s.handleTransaction rest (s.receive tx surroundings)) := by
        rw [sipStep, if_pos running, processIncomingRequests, show s.incoming = tx :: rest from queue]
      change some (({ s with metrics := shared } : SipServer).handleTransaction rest (s.receive tx surroundings)) =
        some t at step
      rw [handleTransaction_shared going] at step
      cases Option.some.inj step
      refine ⟨_, alone, rfl, totals_shift ?_ ?_ ?_, Or.inl rfl⟩
      all_goals rw [handleTransaction_eq going]
      · exact .same ..
      · exact (Nat.add_right_comm ..).trans (Nat.add_assoc ..)
    · rename_i queue
      obtain ⟨closed, same⟩ := Option.ite_none_right_eq_some.mp step
      have alone : sipStep s (.request surroundings) = some (s.finish (.requests true)) := by
        rw [sipStep, if_pos running, processIncomingRequests, show s.incoming = [] from queue]
        exact if_pos closed
      cases Option.some.inj same
      exact ⟨_, alone, rfl, rfl, Or.inl rfl⟩
  | calling i =>
    obtain ⟨running, step⟩ := Option.ite_none_right_eq_some.mp step
    simp only [takeCalling] at step
    split at step
    · rename_i inLayer ending terminations entry
      have alone : sipStep s (.calling i) = some { s with
          dialogs := s.dialogs.set i
            ⟨inLayer, if inLayer then .handled ⟨.invited, [], []⟩ else .missed, ending, terminations⟩ } := by
        rw [sipStep, if_pos running, takeCalling, show s.dialogs[i]? = _ from entry]
      cases Option.some.inj step
      exact ⟨_, alone, rfl, rfl, Or.inl rfl⟩
    · cases step
  | terminated i =>
    obtain ⟨running, step⟩ := Option.ite_none_right_eq_some.mp step
    simp only [takeTerminated] at step
    split at step
    · rename_i inLayer task reason terminations entry
      have alone : sipStep s (.terminated i) = some { s with
          metrics.callsTerminated := s.metrics.callsTerminated.increment reason.label
          dialogs := s.dialogs.set i ⟨false, task, .processed reason, terminations + 1⟩ } := by
        rw [sipStep, if_pos running, takeTerminated, show s.dialogs[i]? = _ from entry]
      cases Option.some.inj step
      exact ⟨_, alone, rfl, totals_shift (.same ..) (Counter.increment_shift ..) rfl, Or.inl rfl⟩
    · cases step
  | dialogEnds i reason =>
    simp only [sipStep, endDialog] at step
    split at step
    · rename_i inLayer task terminations entry
      have alone : sipStep s (.dialogEnds i reason) = some { s with
          dialogs := s.dialogs.set i ⟨inLayer, task, .terminated reason, terminations⟩ } := by
        rw [sipStep, endDialog, show s.dialogs[i]? = _ from entry]
      cases Option.some.inj step
      exact ⟨_, alone, rfl, rfl, Or.inl rfl⟩
    · cases step
  | handle i act =>
    obtain ⟨dialog, entry, rest⟩ := Option.bind_eq_some_iff.mp step
    obtain ⟨call, running, rest⟩ := Option.bind_eq_some_iff.mp rest
    obtain ⟨after, handled, same⟩ := Option.bind_eq_some_iff.mp rest
    cases Option.some.inj same
    obtain ⟨k, alone, call_same, shifted⟩ := handleStep_shifted s.metrics.calls handled
    refine ⟨{ s with dialogs := s.dialogs.set i (dialog.withCall k.call), metrics.calls := k.metrics }, ?_, ?_,
      totals_shift shifted rfl rfl, Or.inl rfl⟩
    · simp only [sipStep, handleCall, show s.dialogs[i]? = some dialog from entry, running, alone,
        Option.bind_eq_bind,
        Option.bind_some, Option.pure_def]
    · rw [call_same]
  | startDrain =>
    cases Option.some.inj step
    exact ⟨_, rfl, rfl, rfl, Or.inl rfl⟩
  | monitor =>
    simp only [sipStep, drainMonitor] at step
    split at step
    · rename_i waiting
      obtain ⟨drained, same⟩ := Option.ite_none_right_eq_some.mp step
      cases Option.some.inj same
      refine ⟨{ s with respondToOptions := false, metrics.drainActive := 1, monitor := .polling }, ?_, rfl, rfl,
        Or.inr ⟨rfl, ?_⟩⟩
      · rw [sipStep, drainMonitor, waiting]
        exact if_pos drained
      · exact DrainMonitor.noConfusion
    · rename_i polling
      by_cases empty : s.LayerEmpty
      · rw [if_pos (show ({ s with metrics := shared } : SipServer).LayerEmpty from empty)] at step
        have alone : sipStep s .monitor = some { s with monitor := .foundEmpty } := by
          rw [sipStep, drainMonitor, show s.monitor = .polling from polling]
          exact congrArg some (if_pos empty)
        cases Option.some.inj step
        exact ⟨_, alone, rfl, rfl, Or.inl rfl⟩
      · rw [if_neg (show ¬ ({ s with metrics := shared } : SipServer).LayerEmpty from empty)] at step
        have alone : sipStep s .monitor = some s := by
          rw [sipStep, drainMonitor, show s.monitor = .polling from polling]
          exact congrArg some (if_neg empty)
        cases Option.some.inj step
        exact ⟨_, alone, rfl, rfl, Or.inl rfl⟩
    · rename_i found
      have alone : sipStep s .monitor = some { s with cancelToken := true, monitor := .polling } := by
        rw [sipStep, drainMonitor, show s.monitor = .foundEmpty from found]
      cases Option.some.inj step
      exact ⟨_, alone, rfl, rfl, Or.inl rfl⟩
  | endpointEnds =>
    obtain ⟨running, step⟩ := Option.ite_none_right_eq_some.mp step
    cases Option.some.inj step
    exact ⟨_, if_pos running, rfl, rfl, Or.inl rfl⟩

end SipServer

/-- A drain monitor that has woken does not wait again. -/
theorem SipServer.Moves.staysAwake {s t : SipServer} {act : SipAct} (step : SipServer.Moves s act t)
    (woken : s.monitor ≠ .waiting) :
    t.monitor ≠ .waiting := by
  cases step with
  | arrives | closes | returns | hands | misses | counts | ends | handles | drains | leaves | findsDialogs =>
    exact woken
  | routes running =>
    rw [SipServer.handleTransaction_eq running]
    exact woken
  | wakes | findsEmpty | cancels => exact DrainMonitor.noConfusion

/-- The server without what it has of the metrics. -/
def SipServer.unmetered (s : SipServer) : SipServer := { s with metrics := .fresh }

/-- How the process and its servers stand to the same servers each in a process
of its own. -/
structure Shares (acts : List ProcessAct) (p : ServerProcess) (alone : List SipServer) : Prop where
  servers : p.servers = alone.map SipServer.unmetered
  totals : p.metrics.totals = (alone.map fun s : SipServer => s.metrics.totals).sum
  own : ∀ i s, alone[i]? = some s →
    ∃ drainToken, run sipStep (.start drainToken) (acts.filterMap (ProcessAct.of i)) = some s
  idle : ∀ i, alone.length ≤ i → acts.filterMap (ProcessAct.of i) = []
  fresh : p.initialized = false → alone = [] ∧ p.created = 0
  drain : p.metrics.drainActive = 0 ∨ p.metrics.drainActive = 1 ∧ ∃ s ∈ alone, s.monitor ≠ .waiting

namespace Shares
variable {acts : List ProcessAct} {p q : ServerProcess} {alone : List SipServer}

theorem start : Shares [] .start [] where
  servers := rfl
  totals := rfl
  own i s there := by cases there
  idle i _ := rfl
  fresh _ := ⟨rfl, rfl⟩
  drain := Or.inl rfl

theorem filterMap_of {act : ProcessAct} {i : Nat} (other : act.of i = none) :
    (acts ++ [act]).filterMap (ProcessAct.of i) = acts.filterMap (ProcessAct.of i) := by
  rw [List.filterMap_append, filterMap_single, other, Option.toList_none, List.append_nil]

theorem runs (shares : Shares acts p alone) {drainToken : Bool} (step : processStep p (.run drainToken) = some q) :
    Shares (acts ++ [.run drainToken]) q (alone ++ [.start drainToken]) := by
  have others (i : Nat) : (acts ++ [ProcessAct.run drainToken]).filterMap (ProcessAct.of i) =
    acts.filterMap (ProcessAct.of i) :=
    filterMap_of rfl
  cases created : p.created with
  | zero =>
    simp only [processStep, created] at step
    cases step
  | succ left =>
    simp only [processStep, created, Option.some.injEq] at step
    subst step
    refine ⟨?_, ?_, fun i s there => ?_, fun i beyond => ?_, fun uninitialized => ?_, Or.inl rfl⟩
    · rw [List.map_append, shares.servers]
      rfl
    · rw [List.map_append, List.sum_append, ← shares.totals]
      exact (add_zero _).symm
    · rw [others]
      by_cases old : i < alone.length
      · rw [List.getElem?_append_left old] at there
        exact shares.own i s there
      · have last : i = alone.length := by
          have bound := (List.getElem?_eq_some_iff.mp there).1
          rw [List.length_append, List.length_singleton] at bound
          omega
        rw [last, List.getElem?_concat_length] at there
        cases Option.some.inj there
        rw [shares.idle i (by omega)]
        exact ⟨drainToken, rfl⟩
    · rw [others]
      rw [List.length_append] at beyond
      exact shares.idle i (by omega)
    · have none := (shares.fresh uninitialized).2
      rw [created] at none
      cases none

/-- A server moves as it would alone. -/
theorem moves (shares : Shares acts p alone) {i : Nat} {act : SipAct}
    (step : processStep p (.server i act) = some q) :
    ∃ own, Shares (acts ++ [.server i act]) q (alone.set i own) := by
  obtain ⟨server, entry, rest⟩ := Option.bind_eq_some_iff.mp step
  obtain ⟨after, moved, same⟩ := Option.bind_eq_some_iff.mp rest
  cases Option.some.inj same
  rw [shares.servers, List.getElem?_map] at entry
  obtain ⟨s, there, rfl⟩ := Option.map_eq_some_iff.mp entry
  obtain ⟨own, shifts⟩ := SipServer.shifts_of_step s p.metrics moved
  have inside := (List.getElem?_eq_some_iff.mp there).1
  have others {j : Nat} (apart : j ≠ i) : (acts ++ [ProcessAct.server i act]).filterMap (ProcessAct.of j) =
      acts.filterMap (ProcessAct.of j) := filterMap_of (if_neg (Ne.symm apart))
  refine ⟨own, ?_, ?_, fun j t found => ?_, fun j beyond => ?_, fun uninitialized => ?_, ?_⟩
  · rw [List.map_set, ← shares.servers, shifts.same]
    rfl
  · have sums := sum_map_set (fun s : SipServer => s.metrics.totals) own there
    have totals := shifts.totals
    rw [shares.totals] at totals
    exact add_right_cancel (totals.trans sums.symm)
  · by_cases mine : j = i
    · subst mine
      rw [List.getElem?_set_self inside] at found
      cases Option.some.inj found
      obtain ⟨drainToken, past⟩ := shares.own j s there
      refine ⟨drainToken, ?_⟩
      rw [List.filterMap_append, filterMap_single, ProcessAct.of, if_pos rfl, Option.toList_some]
      exact run_concat_iff.mpr ⟨s, past, shifts.step⟩
    · rw [List.getElem?_set_ne (Ne.symm mine)] at found
      rw [others mine]
      exact shares.own j t found
  · rw [List.length_set] at beyond
    rw [others (by omega)]
    exact shares.idle j beyond
  · obtain ⟨rfl, _⟩ := shares.fresh uninitialized
    cases there
  · have awake : (∃ s ∈ alone, s.monitor ≠ .waiting) → ∃ t ∈ alone.set i own, t.monitor ≠ .waiting := by
      rintro ⟨t, member, woken⟩
      obtain ⟨j, found⟩ := List.mem_iff_getElem?.mp member
      by_cases mine : j = i
      · subst mine
        cases Option.some.inj (there.symm.trans found)
        exact ⟨own, List.mem_set inside own, (SipServer.moves_of_step shifts.step).staysAwake woken⟩
      · refine ⟨t, List.mem_iff_getElem?.mpr ⟨j, ?_⟩, woken⟩
        rw [List.getElem?_set_ne (Ne.symm mine), found]
    rcases shifts.drain with same | ⟨raised, woken⟩
    · change after.metrics.drainActive = 0 ∨ after.metrics.drainActive = 1 ∧ _
      rw [same]
      exact shares.drain.imp_right fun drains => ⟨drains.1, awake drains.2⟩
    · exact Or.inr ⟨raised, own, List.mem_set inside own, woken⟩

end Shares

end RsipstackServer
