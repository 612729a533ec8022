import RsipstackServer.AnsweredStreams
import RsipstackServer.Foundation.Cadence
import Mathlib

namespace RsipstackServer
open Foundation
universe u
variable {κ : Type u} {session : CallId → MediaSession κ} {state : ServerState} {sessionId : CallId → UInt64}

/-- The floating-point seconds of the histograms: `Duration::as_secs_f64` of a
duration in the unit of the clock, and their subtraction, both rounded. -/
structure F64Secs (F : Type) where
  asSecsF64 : Nat → F
  sub : F → F → F

variable {F : Type} {f64 : F64Secs F}

/-- What is recorded of a gap between two events. -/
def F64Secs.deviation (f64 : F64Secs F) (expectedInterval elapsedTime : Nat) : F :=
  f64.sub (f64.asSecsF64 elapsedTime) (f64.asSecsF64 expectedInterval)

/-- What a `TimingDeviationMetric` keeps beside its two histograms. -/
structure TimingDeviationMetric where
  expectedInterval : Nat
  lastTick : Option Nat

namespace TimingDeviationMetric

def new (expectedInterval : Nat) : TimingDeviationMetric := ⟨expectedInterval, none⟩

/-- The sample for both histograms. There is none at the first tick, and the
difference of two instants is never negative. -/
def record (f64 : F64Secs F) (metric : TimingDeviationMetric) (now : Nat) : Option F × TimingDeviationMetric :=
  (metric.lastTick.map fun prev => f64.deviation metric.expectedInterval (now - prev),
    { metric with lastTick := some now })

end TimingDeviationMetric

/-- The metrics that the send tasks of all calls share. -/
structure RtpMetrics (F : Type) where
  rtpPacketsSent : Nat
  rtpSendErrors : Nat
  rtpSendTimingDeviation : List F
  rtpSendTimingDeviationSummary : List F

def RtpMetrics.fresh : RtpMetrics F := ⟨0, 0, [], []⟩

/-- What the answer of the socket to a packet, or the start of the send task,
makes of the shared metrics. -/
def RtpMetrics.note (f64 : F64Secs F) (metrics : RtpMetrics F) (timing : TimingDeviationMetric) (act : CallAct)
    (now : Nat) : RtpMetrics F :=
  match act with
  | .sendTask (.sent true) =>
    let samples := (timing.record f64 now).1.toList
    { metrics with
      rtpSendTimingDeviation := metrics.rtpSendTimingDeviation ++ samples
      rtpSendTimingDeviationSummary := metrics.rtpSendTimingDeviationSummary ++ samples
      rtpPacketsSent := metrics.rtpPacketsSent + 1 }
  | .sendTask (.sent false) => { metrics with rtpSendErrors := metrics.rtpSendErrors + 1 }
  | _ => metrics

/-- The metric that a send task keeps to itself. `ticks` only records when the
packets of the call were sent. -/
structure SendMeter where
  timing : TimingDeviationMetric
  ticks : List Nat

def SendMeter.note (f64 : F64Secs F) (expectedInterval : Nat) (meter : SendMeter) (act : CallAct) (now : Nat) :
    SendMeter :=
  match act with
  | .sendTask (.start _ _ _) => { meter with timing := .new expectedInterval }
  | .sendTask (.sent true) => ⟨(meter.timing.record f64 now).2, meter.ticks ++ [now]⟩
  | _ => meter

structure SendMeters (F : Type) where
  metrics : RtpMetrics F
  meter : CallId → SendMeter

namespace SendMeters

def start (expectedInterval : Nat) : SendMeters F := ⟨.fresh, fun _ => ⟨.new expectedInterval, []⟩⟩

def note (f64 : F64Secs F) (expectedInterval : Nat) (s : Answering κ) (act : RunningAct) (_ : Answering κ)
    (meters : SendMeters F) : SendMeters F :=
  match act with
  | .media id act => (s.state.state.calls.call? id).elim meters fun call =>
    { metrics := meters.metrics.note f64 (meters.meter id).timing act call.now
      meter := Function.update meters.meter id ((meters.meter id).note f64 expectedInterval act call.now) }
  | _ => meters

end SendMeters

/-- The server with the record of what its calls sent, and the metrics of it. -/
abbrev Metered (κ : Type u) (F : Type) := Recorded (Answering κ) (SendMeters F)

def meteredStep (session : CallId → MediaSession κ) (state : ServerState) (sessionId : CallId → UInt64)
    (f64 : F64Secs F) (expectedInterval : Nat) : Metered κ F → RunningAct → Option (Metered κ F) :=
  Recorded.step (answeringStep session state sessionId) (SendMeters.note f64 expectedInterval)

def Metered.start (expectedInterval : Nat) (drainToken : Bool) (range : RtpPortRange) (taken : UInt16 → Bool) :
    Metered κ F :=
  ⟨.start drainToken range taken, .start expectedInterval⟩

/-- The send task has ended because a packet could not be sent. -/
def CallState.brokeOff (call : CallState κ) : Bool :=
  match call.sendTask with
  | .ended .socketError => true
  | .unspawned | .spawned | .running _ | .ended .cancelled | .ended .channelClosed | .ended .panicked => false

/-- Each packet that was handed to the socket was answered, unless the send task
still waits for it, and an error is the end of the send task. -/
structure SendHistory.Accounts (h : SendHistory κ) : Prop where
  handed : h.record.handed.length = h.record.results.length + h.state.inHand.length
  failed : h.record.results.count false = if h.state.brokeOff then 1 else 0

theorem Sends.accounts {session : MediaSession κ} {h k : SendHistory κ} {act : CallAct} (step : Sends session h act k)
    (fresh : h.state.handleCall = .accepted → h.state.sendTask = .unspawned) (before : h.Accounts) : k.Accounts := by
  obtain ⟨handed, failed⟩ := before
  unfold CallState.inHand at handed
  unfold CallState.brokeOff at failed
  cases step with
  | leaves other leaves =>
    rcases leaves.sendTask with same | ⟨place, spawned⟩
    · constructor
      · rw [CallState.inHand, same]
        exact handed
      · rw [CallState.brokeOff, same]
        exact failed
    · rw [fresh place] at handed failed
      constructor
      · rw [CallState.inHand, spawned]
        exact handed
      · rw [CallState.brokeOff, spawned]
        exact failed
  | puts sent => exact ⟨handed, failed⟩
  | starts task | cancelled task | closes task | skips task | panics task | hands task | sent task | fails task =>
    rw [task] at handed failed
    constructor
    · simp only [List.length_append, List.length_cons, List.length_nil, CallState.inHand,
        CallState.endSend] at handed ⊢
      omega
    · simp only [List.count_append, CallState.brokeOff, CallState.endSend] at failed ⊢
      rw [failed]
      rfl

theorem accounts_of_run {session : MediaSession κ} {now : Nat} {acts : List CallAct} {last : SendHistory κ}
    (reach : run (sendHistoryStep session) (.accepted now) acts = some last) : last.Accounts := by
  have both := run_invariant (P := fun h : SendHistory κ => Outgoing session h ∧ h.Accounts)
    ⟨outgoing_accepted session now, rfl, rfl⟩ (fun _ _ _ before step =>
      ⟨(sends_of_step step).outgoing before.1, (sends_of_step step).accounts before.1.fresh before.2⟩) reach
  exact both.2

theorem CallState.spawned_of_start {session : MediaSession κ} {s t : CallState κ} {ssrc : UInt32} {sequence : UInt16}
    {timestamp : UInt32} (step : s.sendStep session (.start ssrc sequence timestamp) = some t) :
    s.sendTask = .spawned := by
  unfold CallState.sendStep at step
  cases task : s.sendTask with
  | spawned => rfl
  | unspawned | running | ended =>
    rw [task] at step
    cases step

/-- The clock of a call only goes forward. -/
theorem callStep_clock {session : MediaSession κ} {s t : CallState κ} {act : CallAct}
    (step : callStep session s act = some t) :
    s.now ≤ t.now := by
  have hears : Hears session ⟨s, .empty⟩ act ⟨t, ReceiveRecord.note s act t .empty⟩ :=
    hears_of_step (Recorded.step_eq_some_iff.mpr ⟨step, rfl⟩)
  generalize ReceiveRecord.note s act t .empty = record at hears
  cases hears with
  | leaves _ leaves => exact leaves.clock
  | arrives | starts | cancelled | timesOut | fails | skips | panics | closes | delivers => exact le_refl s.now

namespace Metered

def call? (r : Metered κ F) (id : CallId) : Option (CallState κ) := r.state.state.state.calls.call? id

def sent (r : Metered κ F) (id : CallId) : SendRecord := r.state.record id

def meter (r : Metered κ F) (id : CallId) : SendMeter := r.record.meter id

end Metered

/-- What the socket has answered to a packet. -/
def CallAct.answer? : CallAct → Option Bool
  | .sendTask (.sent ok) => some ok
  | .sendTask (.start _ _ _) | .sendTask .cancelled | .sendTask .recv | .tick _ | .peerSends _ | .socketFails |
    .dialogEnds
  | .handleCall | .receiveTask | .handlerTask _ => none

theorem SendRecord.note_results (session : MediaSession κ) (s t : CallState κ) (act : CallAct) (sent : SendRecord) :
    (note session s act t sent).results = sent.results ++ act.answer?.toList := by
  cases act with
  | sendTask act => cases act <;> simp [note, CallAct.answer?]
  | handlerTask act => cases act <;> simp [note, CallAct.answer?]
  | tick | peerSends | socketFails | dialogEnds | handleCall | receiveTask => exact (List.append_nil _).symm

/-- How the meter of a call stands to it. -/
structure Metes (expectedInterval : Nat) (call : Option (CallState κ)) (results : List Bool) (meter : SendMeter) :
    Prop where
  counted : meter.ticks.length = results.count true
  armed : meter.timing = ⟨expectedInterval, meter.ticks.getLast?⟩
  sorted : meter.ticks.Pairwise (· ≤ ·)
  past : ∀ now, call.map CallState.now = some now → ∀ tick ∈ meter.ticks, tick ≤ now

section
variable {expectedInterval : Nat}

/-- An action gives the shared metrics what it gives the meter of its call. -/
theorem RtpMetrics.note_eq (f64 : F64Secs F) (metrics : RtpMetrics F) {meter : SendMeter} (act : CallAct) (now : Nat)
    (armed : meter.timing = ⟨expectedInterval, meter.ticks.getLast?⟩) : ∃ lengths,
    metrics.note f64 meter.timing act now =
      ⟨metrics.rtpPacketsSent + act.answer?.toList.count true, metrics.rtpSendErrors + act.answer?.toList.count false,
        metrics.rtpSendTimingDeviation ++ lengths.map (f64.deviation expectedInterval),
        metrics.rtpSendTimingDeviationSummary ++ lengths.map (f64.deviation expectedInterval)⟩ ∧
      gaps (meter.note f64 expectedInterval act now).ticks = gaps meter.ticks ++ lengths := by
  have idle {metrics : RtpMetrics F} : metrics = ⟨metrics.rtpPacketsSent + ([] : List Bool).count true,
      metrics.rtpSendErrors + ([] : List Bool).count false, metrics.rtpSendTimingDeviation ++ [],
      metrics.rtpSendTimingDeviationSummary ++ []⟩ := by simp
  cases act with
  | sendTask act =>
    cases act with
    | sent ok =>
      cases ok with
      | true =>
        refine ⟨_, ?_, gaps_concat meter.ticks now⟩
        rw [armed]
        cases meter.ticks.getLast? <;> rfl
      | false => exact ⟨[], by simp [note, CallAct.answer?], (List.append_nil _).symm⟩
    | start | cancelled | recv => exact ⟨[], idle, (List.append_nil _).symm⟩
  | tick | peerSends | socketFails | dialogEnds | handleCall | receiveTask | handlerTask =>
    exact ⟨[], idle, (List.append_nil _).symm⟩

/-- One more action of the call itself. -/
theorem Metes.plays {session : MediaSession κ} {call after : CallState κ} {act : CallAct} {sent : SendRecord}
    {meter : SendMeter} (metes : Metes expectedInterval (some call) sent.results meter)
    (alone : RunsAlone session (some call) sent) (step : callStep session call act = some after) :
    Metes expectedInterval (some after) (SendRecord.note session call act after sent).results
      (meter.note f64 expectedInterval act call.now) := by
  obtain ⟨counted, armed, sorted, past⟩ := metes
  have clock := callStep_clock step
  have before : ∀ tick ∈ meter.ticks, tick ≤ call.now := past call.now rfl
  have later : ∀ now, (some after).map CallState.now = some now → ∀ tick ∈ meter.ticks, tick ≤ now := by
    intro now same tick member
    cases Option.some.inj same
    exact (before tick member).trans clock
  have unanswered : meter.ticks.length = (sent.results ++ []).count true := by rw [List.append_nil, counted]
  rw [SendRecord.note_results]
  cases act with
  | sendTask act =>
    cases act with
    | start ssrc sequence timestamp =>
      obtain ⟨now, acts, reach⟩ := alone
      obtain ⟨_, _, results⟩ := (outgoing_of_run reach).streams.idle (Or.inr (CallState.spawned_of_start step))
      rw [results] at counted
      have none : meter.ticks = [] := List.length_eq_zero_iff.mp counted
      refine ⟨?_, ?_, sorted, later⟩
      · rw [results]
        exact counted
      · change TimingDeviationMetric.new expectedInterval = ⟨expectedInterval, meter.ticks.getLast?⟩
        rw [none]
        rfl
    | sent ok =>
      cases ok with
      | true =>
        refine ⟨?_, ?_, ?_, ?_⟩
        · change (meter.ticks ++ [call.now]).length = (sent.results ++ [true]).count true
          rw [List.length_append, List.count_append, counted]
          rfl
        · change (meter.timing.record f64 call.now).2 = ⟨expectedInterval, (meter.ticks ++ [call.now]).getLast?⟩
          rw [armed, List.getLast?_concat]
          rfl
        · exact List.pairwise_append.mpr ⟨sorted, List.pairwise_singleton .., by simpa using before⟩
        · intro now same tick member
          rcases List.mem_append.mp member with old | new
          · exact later now same tick old
          · cases Option.some.inj same
            rw [List.mem_singleton.mp new]
            exact clock
      | false =>
        refine ⟨?_, armed, sorted, later⟩
        change meter.ticks.length = (sent.results ++ [false]).count true
        rw [List.count_append, counted]
        rfl
    | cancelled | recv => exact ⟨unanswered, armed, sorted, later⟩
  | tick | peerSends | socketFails | dialogEnds | handleCall | receiveTask | handlerTask =>
    exact ⟨unanswered, armed, sorted, later⟩

theorem Metes.moves (f64 : F64Secs F) {session : MediaSession κ} {id : CallId} {act : RunningAct}
    {before after : Option (CallState κ)} {sent : SendRecord} {results : List Bool} {meter next : SendMeter}
    (metes : Metes expectedInterval before sent.results meter) (alone : RunsAlone session before sent)
    (moves : CallMoves session id act before after)
    (other : (∀ own, act ≠ .media id own) → results = sent.results ∧ next = meter)
    (own : ∀ own call later, act = .media id own → before = some call → after = some later → results =
      (SendRecord.note session call own later sent).results ∧ next = meter.note f64 expectedInterval own call.now) :
    Metes expectedInterval after results next := by
  cases moves with
  | rests apart =>
    obtain ⟨rfl, rfl⟩ := other apart
    exact metes
  | begins apart =>
    obtain ⟨rfl, rfl⟩ := other apart
    have counted := metes.counted
    rw [show sent = .empty from alone] at counted
    have none : next.ticks = [] := List.length_eq_zero_iff.mp counted
    refine ⟨metes.counted, metes.armed, metes.sorted, fun now same tick member => ?_⟩
    rw [none] at member
    cases member
  | @signals _ act call later apart _ step =>
    obtain ⟨rfl, rfl⟩ := other apart
    refine ⟨metes.counted, metes.armed, metes.sorted, fun now same tick member => ?_⟩
    cases Option.some.inj same
    exact (metes.past call.now rfl tick member).trans (callStep_clock step)
  | plays step =>
    obtain ⟨rfl, rfl⟩ := own _ _ _ rfl rfl rfl
    exact metes.plays alone step

namespace Metered

/-- The calls from `n` on have not begun. -/
def Covers (r : Metered κ F) (n : Nat) : Prop := ∀ id, n ≤ id → r.call? id = none

/-- The shared metrics are the sums over the first `n` calls. -/
structure Totals (f64 : F64Secs F) (expectedInterval : Nat) (r : Metered κ F) (n : Nat) : Prop where
  sent : ((List.range n).map fun id => (r.sent id).results.count true).sum = r.record.metrics.rtpPacketsSent
  failed : ((List.range n).map fun id => (r.sent id).results.count false).sum = r.record.metrics.rtpSendErrors
  samples : ((List.range n).map fun id =>
      (((gaps (r.meter id).ticks).map (f64.deviation expectedInterval) : List F) : Multiset F)).sum =
    (r.record.metrics.rtpSendTimingDeviation : Multiset F)

structure Sound (session : CallId → MediaSession κ) (f64 : F64Secs F) (expectedInterval : Nat) (r : Metered κ F) :
    Prop where
  alone : ∀ id, RunsAlone (session id) (r.call? id) (r.sent id)
  metes : ∀ id, Metes expectedInterval (r.call? id) (r.sent id).results (r.meter id)
  alike : r.record.metrics.rtpSendTimingDeviationSummary = r.record.metrics.rtpSendTimingDeviation
  totals : ∀ n, r.Covers n → r.Totals f64 expectedInterval n

/-- What a step does to the records and the metrics: nothing, unless it is one
of the media of a call. -/
inductive Notes (session : CallId → MediaSession κ) (f64 : F64Secs F) (expectedInterval : Nat) (r q : Metered κ F) :
    RunningAct → Prop
  | rests {act} : (∀ id own, act ≠ .media id own) → q.state.record = r.state.record → q.record = r.record →
      Notes session f64 expectedInterval r q act
  | plays {id own call after} : r.call? id = some call → q.call? id = some after →
      callStep (session id) call own = some after →
      q.state.record = Function.update r.state.record id (SendRecord.note (session id) call own after (r.sent id)) →
      q.record = ⟨r.record.metrics.note f64 (r.meter id).timing own call.now,
        Function.update r.record.meter id ((r.meter id).note f64 expectedInterval own call.now)⟩ →
      Notes session f64 expectedInterval r q (.media id own)

theorem notes_of_step {r q : Metered κ F} {act : RunningAct}
    (step : meteredStep session state sessionId f64 expectedInterval r act = some q) :
    Notes session f64 expectedInterval r q act := by
  obtain ⟨answered, metered⟩ := Recorded.step_eq_some_iff.mp step
  obtain ⟨negotiated, sent⟩ := Recorded.step_eq_some_iff.mp answered
  obtain ⟨moved, _⟩ := Recorded.step_eq_some_iff.mp negotiated
  cases act with
  | media id own =>
    have moves := callMoves_of_step moved id
    generalize before : r.state.state.state.calls.call? id = call? at moves
    generalize after : q.state.state.state.calls.call? id = next? at moves
    cases moves with
    | rests apart | begins apart | signals apart => exact absurd rfl (apart own)
    | plays played =>
      refine .plays before after played ?_ ?_
      · rw [sent]
        simp only [SendRecords.note, before, after]
        rfl
      · rw [metered]
        simp only [SendMeters.note, before, Option.elim_some]
        rfl
  | signalling | handle | alloc | allocated | connect | create | accept | close | proceed =>
    exact .rests (by simp) sent metered

namespace Notes
variable {r q : Metered κ F} {act : RunningAct} {id : CallId}

theorem other (notes : Notes session f64 expectedInterval r q act) (apart : ∀ own, act ≠ .media id own) :
    q.sent id = r.sent id ∧ q.meter id = r.meter id := by
  cases notes with
  | rests _ sent meters => exact ⟨congrFun sent id, congrFun (congrArg SendMeters.meter meters) id⟩
  | @plays mover own _ _ _ _ _ sent meters =>
    have different : id ≠ mover := fun same => apart own (by rw [same])
    refine ⟨(congrFun sent id).trans (Function.update_of_ne different ..), ?_⟩
    exact (congrFun (congrArg SendMeters.meter meters) id).trans (Function.update_of_ne different ..)

theorem own {act : CallAct} {call after : CallState κ}
    (notes : Notes session f64 expectedInterval r q (.media id act)) (was : r.call? id = some call)
    (is : q.call? id = some after) :
    q.sent id = SendRecord.note (session id) call act after (r.sent id) ∧
      q.meter id = (r.meter id).note f64 expectedInterval act call.now := by
  cases notes with
  | rests apart => exact absurd rfl (apart id act)
  | plays before now _ sent meters =>
    cases before.symm.trans was
    cases now.symm.trans is
    refine ⟨(congrFun sent id).trans (Function.update_self ..), ?_⟩
    exact (congrFun (congrArg SendMeters.meter meters) id).trans (Function.update_self ..)

/-- The shared metrics remain the sums over all calls that have begun. -/
theorem totals {n : Nat} (notes : Notes session f64 expectedInterval r q act)
    (metes : ∀ id, Metes expectedInterval (r.call? id) (r.sent id).results (r.meter id)) (covers : q.Covers n)
    (before : r.Totals f64 expectedInterval n) : q.Totals f64 expectedInterval n := by
  obtain ⟨totalSent, totalFailed, totalSamples⟩ := before
  have same (id : CallId) (apart : ∀ own, act ≠ .media id own) := notes.other apart
  cases act with
  | media id act =>
    have others (other : CallId) (apart : other ≠ id) := same other (by simp [Ne.symm apart])
    have notes' := notes
    cases notes with
    | rests apart => exact absurd rfl (apart id act)
    | @plays _ _ call after was is _ _ meters =>
      obtain ⟨sent, meter⟩ := notes'.own was is
      obtain ⟨lengths, noted, more⟩ := r.record.metrics.note_eq f64 act call.now (metes id).armed
      have inside : id < n := by
        by_contra outside
        cases is.symm.trans (covers id (Nat.le_of_not_lt outside))
      have results : (q.sent id).results = (r.sent id).results ++ act.answer?.toList := by
        rw [sent, SendRecord.note_results]
      have samples : (gaps (q.meter id).ticks).map (f64.deviation expectedInterval) =
          (gaps (r.meter id).ticks).map (f64.deviation expectedInterval) ++
            lengths.map (f64.deviation expectedInterval) := by
        rw [meter, more, List.map_append]
      refine ⟨?_, ?_, ?_⟩
      · rw [sum_range_add inside (by rw [results, List.count_append])
          fun other apart => by rw [(others other apart).1],
          totalSent, meters, noted]
      · rw [sum_range_add inside (by rw [results, List.count_append])
          fun other apart => by rw [(others other apart).1],
          totalFailed, meters, noted]
      · rw [sum_range_add inside (by rw [samples, ← Multiset.coe_add])
          fun other apart => by rw [(others other apart).2],
          totalSamples, meters, noted, Multiset.coe_add]
  | signalling | handle | alloc | allocated | connect | create | accept | close | proceed =>
    have sent : q.sent = r.sent := funext fun id => (same id (by simp)).1
    have meter : q.meter = r.meter := funext fun id => (same id (by simp)).2
    cases notes with
    | rests _ _ meters =>
      refine ⟨?_, ?_, ?_⟩
      · rw [sent, meters]
        exact totalSent
      · rw [sent, meters]
        exact totalFailed
      · rw [meter, meters]
        exact totalSamples

end Notes

theorem Sound.step {r q : Metered κ F} {act : RunningAct} (before : r.Sound session f64 expectedInterval)
    (step : meteredStep session state sessionId f64 expectedInterval r act = some q) :
    q.Sound session f64 expectedInterval := by
  obtain ⟨answered, _⟩ := Recorded.step_eq_some_iff.mp step
  have moves (id : CallId) : CallMoves (session id) id act (r.call? id) (q.call? id) :=
    callMoves_of_step (Recorded.step_eq_some_iff.mp (Recorded.step_eq_some_iff.mp answered).1).1 id
  have notes := notes_of_step step
  refine ⟨Answering.runsAlone_step before.alone answered, fun id => ?_, ?_, fun n covers => ?_⟩
  · refine (before.metes id).moves f64 (before.alone id) (moves id) (fun apart => ?_)
      fun own call later same there now => ?_
    · obtain ⟨sent, meter⟩ := notes.other apart
      exact ⟨by rw [sent], meter⟩
    · subst same
      obtain ⟨sent, meter⟩ := notes.own there now
      exact ⟨by rw [sent], meter⟩
  · cases notes with
    | rests _ _ meters =>
      rw [meters]
      exact before.alike
    | @plays id own call after _ _ _ _ meters =>
      obtain ⟨samples, noted, _⟩ := r.record.metrics.note_eq f64 own call.now (before.metes id).armed
      rw [meters, noted, before.alike]
  · refine notes.totals before.metes covers (before.totals n fun id later => ?_)
    -- A call that has begun is there ever after.
    have moved := moves id
    rw [covers id later] at moved
    generalize r.call? id = call? at moved ⊢
    cases moved with
    | rests => rfl

theorem Sound.start (session : CallId → MediaSession κ) (f64 : F64Secs F) (expectedInterval : Nat) (drainToken : Bool)
    (range : RtpPortRange) (taken : UInt16 → Bool) :
    (Metered.start expectedInterval drainToken range taken : Metered κ F).Sound session f64 expectedInterval where
  alone _ := rfl
  metes _ := ⟨rfl, rfl, .nil, fun _ none => by cases none⟩
  alike := rfl
  totals n _ := by
    refine ⟨?_, ?_, ?_⟩ <;> exact List.sum_eq_zero fun entry member => by
      obtain ⟨_, _, rfl⟩ := List.mem_map.mp member
      rfl

theorem Sound.run {drainToken : Bool} {range : RtpPortRange} {taken : UInt16 → Bool} {acts : List RunningAct}
    {r : Metered κ F}
    (reach : run (meteredStep session state sessionId f64 expectedInterval)
      (.start expectedInterval drainToken range taken) acts = some r) :
    r.Sound session f64 expectedInterval :=
  run_invariant (.start session f64 expectedInterval drainToken range taken)
    (fun _ _ _ before step => before.step step) reach

/-- The number of dialogs that the server has had. -/
def dialogs (r : Metered κ F) : Nat := r.state.state.state.sip.dialogs.length

/-- A call belongs to a dialog. -/
theorem covers_dialogs {r : Metered κ F} (invariant : r.state.state.state.Invariant) : r.Covers r.dialogs := by
  intro id later
  have none : r.state.state.state.sip.phase? id = none := by
    rw [SipServer.phase?, SipServer.call?, List.getElem?_eq_none later]
    rfl
  have together := invariant.inStep id
  rw [none] at together
  rw [call?, LiveCalls.call?, together.2]

end Metered

/-- What the metrics of the RTP packets show, of all calls of the server. -/
structure SendsMetered (f64 : F64Secs F) (expectedInterval : Nat) (r : Metered κ F) : Prop where
  packetsSent : r.record.metrics.rtpPacketsSent =
    ((List.range r.dialogs).map fun id => (r.sent id).results.count true).sum
  sendErrors : r.record.metrics.rtpSendErrors =
    (List.range r.dialogs).countP fun id => (r.call? id).any CallState.brokeOff
  handed : ((List.range r.dialogs).map fun id => (r.sent id).handed.length).sum =
    r.record.metrics.rtpPacketsSent + r.record.metrics.rtpSendErrors +
      ((List.range r.dialogs).map fun id => ((r.call? id).toList.flatMap CallState.inHand).length).sum
  ticks : ∀ id, (r.meter id).ticks.length = (r.sent id).results.count true ∧ (r.meter id).ticks.Pairwise (· ≤ ·)
  alike : r.record.metrics.rtpSendTimingDeviationSummary = r.record.metrics.rtpSendTimingDeviation
  samples : r.record.metrics.rtpSendTimingDeviation.Perm
    ((List.range r.dialogs).flatMap fun id => (gaps (r.meter id).ticks).map (f64.deviation expectedInterval))
  counted : r.record.metrics.rtpSendTimingDeviation.length +
    ((List.range r.dialogs).countP fun id => (r.meter id).ticks ≠ []) =
    r.record.metrics.rtpPacketsSent
  elapsed : ∀ id, (gaps (r.meter id).ticks).sum = elapsed (r.meter id).ticks

/-- What was handed to the socket of a call, as what its metrics tell of it. -/
theorem RunsAlone.accounts {session : MediaSession κ} {call : Option (CallState κ)} {sent : SendRecord}
    (alone : RunsAlone session call sent) :
    sent.handed.length =
      sent.results.count true + sent.results.count false + (call.toList.flatMap CallState.inHand).length ∧
      sent.results.count false = if call.any CallState.brokeOff then 1 else 0 := by
  cases call with
  | none =>
    rw [show sent = .empty from alone]
    exact ⟨rfl, rfl⟩
  | some call =>
    obtain ⟨now, acts, reach⟩ := alone
    have handed : sent.handed.length = sent.results.length + call.inHand.length := (accounts_of_run reach).handed
    have answers := List.count_false_add_count_true sent.results
    refine ⟨?_, (accounts_of_run reach).failed⟩
    rw [Option.toList_some, List.flatMap_singleton]
    omega

/-- In every run of the whole server the metrics of the RTP packets add up over
all calls, however these take turns. -/
theorem sendsMetered_of_run {drainToken : Bool} {range : RtpPortRange} {taken : UInt16 → Bool}
    {acts : List RunningAct} {r : Metered κ F}
    (reach : run (meteredStep session state sessionId f64 expectedInterval)
      (.start expectedInterval drainToken range taken) acts = some r) :
    SendsMetered f64 expectedInterval r := by
  obtain ⟨alone, metes, alike, totals⟩ := Metered.Sound.run reach
  have invariant := (Negotiated.Sound.run (Recorded.run_state (Recorded.run_state reach))).invariant
  obtain ⟨sent, failed, samples⟩ := totals r.dialogs (Metered.covers_dialogs invariant)
  have accounts (id : CallId) := (alone id).accounts
  have perm : r.record.metrics.rtpSendTimingDeviation.Perm
      ((List.range r.dialogs).flatMap fun id => (gaps (r.meter id).ticks).map (f64.deviation expectedInterval)) := by
    rw [← Multiset.coe_eq_coe, ← samples, coe_flatMap]
  refine ⟨sent.symm, ?_, ?_, fun id => ⟨(metes id).counted, (metes id).sorted⟩, alike, perm, ?_,
    fun id => sum_gaps (metes id).sorted⟩
  · rw [← failed, countP_eq_sum]
    exact congrArg List.sum (List.map_congr_left fun id _ => (accounts id).2)
  · rw [← sent, ← failed, ← List.sum_map_add, ← List.sum_map_add]
    exact congrArg List.sum (List.map_congr_left fun id _ => (accounts id).1)
  · rw [perm.length_eq, List.length_flatMap, countP_eq_sum, ← List.sum_map_add, ← sent]
    refine congrArg List.sum (List.map_congr_left fun id _ => ?_)
    have gap := length_gaps (r.meter id).ticks
    rw [List.length_map, ← (metes id).counted]
    by_cases silent : (r.meter id).ticks = []
    · simpa [silent] using gap
    · simpa [silent] using gap

end

/-- `as_secs_f64` of the milliseconds of the run below: the double next to 0.02
for 20, and exactly twice that for 40. -/
def runSecs : F64Secs ℚ := ⟨fun elapsedTime => elapsedTime / 20 * (5764607523034235 / 2 ^ 58), (· - ·)⟩

/-- Two calls send, the first of them twice and 40 milliseconds apart, and the
second packet of the other one is refused. -/
def refusedPacket : List RunningAct :=
  answeredTwice ++ sendsTwice ++ [.media 1 (.sendTask (.sent true)), .media 0 (.sendTask (.sent true)),
    .media 0 (.tick 40), .media 1 (.handlerTask (.put ⟨[0, 0, 0]⟩)), .media 0 (.handlerTask (.put ⟨[0, 0, 0]⟩)),
    .media 1 (.sendTask .recv), .media 0 (.sendTask .recv), .media 1 (.sendTask (.sent false)),
    .media 0 (.sendTask (.sent true))]

theorem sendsMetered_refusedPacket : ∃ r,
    run (meteredStep answeredSession ⟨.v4 192 168 0 10, none⟩ (fun id => .ofNat (77 + id)) runSecs 20)
        (.start 20 false ⟨10000, 10098, 10000⟩ fun _ => false) refusedPacket = some r ∧
      (r.record.metrics.rtpPacketsSent, r.record.metrics.rtpSendErrors, r.record.metrics.rtpSendTimingDeviation) =
        (3, 1, [runSecs.asSecsF64 20]) ∧
      SendsMetered runSecs 20 r := by
  have shown : (run (meteredStep answeredSession ⟨.v4 192 168 0 10, none⟩ (fun id => .ofNat (77 + id)) runSecs 20)
      (.start 20 false ⟨10000, 10098, 10000⟩ fun _ => false) refusedPacket).map (fun r =>
        (r.record.metrics.rtpPacketsSent, r.record.metrics.rtpSendErrors, r.record.metrics.rtpSendTimingDeviation)) =
      some (3, 1, [runSecs.asSecsF64 20]) := by decide +kernel
  obtain ⟨r, reach, metrics⟩ := Option.map_eq_some_iff.mp shown
  exact ⟨r, reach, metrics, sendsMetered_of_run reach⟩

end RsipstackServer
