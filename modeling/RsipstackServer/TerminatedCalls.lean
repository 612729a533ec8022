import Mathlib.Algebra.Order.BigOperators.Group.List
import Mathlib.Algebra.Order.Group.Nat
import RsipstackServer.SipServerSteps

namespace RsipstackServer
open Foundation

def DialogEnd.isProcessed : DialogEnd → Bool
  | .processed _ => true
  | .live | .terminated _ => false

namespace ServerDialog

def isAccepted (dialog : ServerDialog) : Bool := (dialog.call?.map HandledCall.isAccepted).getD false

/-- Accepted, with its `handle_call` still running. -/
def isActive (dialog : ServerDialog) : Bool := (dialog.call?.map HandledCall.isActive).getD false

def CountedRightly (dialog : ServerDialog) : Prop := dialog.isAccepted = false → dialog.terminations = 0

/-- `handle_call` of the accepted call is done, and the dialog has not ended:
its BYE did not end it. -/
structure LeftOpen (dialog : ServerDialog) : Prop where
  accepted : dialog.isAccepted = true
  done : dialog.isActive = false
  live : dialog.ending = .live

/-- No event of the dialog is pending. The dialog-state loop has taken up all
that were sent, and the `handle_call` of an accepted call has nothing left to
do: it is done, or it waits for the end of a dialog that has not ended. -/
structure Settled (dialog : ServerDialog) : Prop where
  announced : dialog.task ≠ .calling
  told : ∀ reason, dialog.ending ≠ .terminated reason
  rests : ∀ call, dialog.call? = some call → call.isAccepted = true →
    call.hasReturned = true ∨ call.phase = .answered .waiting ∧ dialog.ending = .live

/-- The dialog as the metrics should have it: accepted, if it was, and since
then either active or terminated. -/
def Balanced (dialog : ServerDialog) : Prop :=
  (if dialog.isAccepted then 1 else 0) = (if dialog.isActive then 1 else 0) + dialog.terminations

end ServerDialog

/-- Only accepted calls are counted as terminated. -/
structure SipServer.TerminatesAccepted (s : SipServer) : Prop where
  contributes : s.metrics.callsTerminated.total = (s.dialogs.map ServerDialog.terminations).sum
  bounded : s.metrics.callsTerminated.total ≤ s.metrics.calls.callsAccepted.total
  once : ∀ dialog ∈ s.dialogs, dialog.isAccepted = true → dialog.terminations ≤ 1
  never : ∀ dialog ∈ s.dialogs, dialog.isAccepted = false → dialog.terminations = 0
  balanced : ∀ dialog ∈ s.dialogs, dialog.Settled → dialog.Balanced
  settled : (∀ dialog ∈ s.dialogs, dialog.Settled) →
    (s.metrics.calls.callsAccepted.total : Int) = s.metrics.calls.callsActive + s.metrics.callsTerminated.total

/-- One operation of `handle_call` moves the accepted counter with the record
of the call, and an accepted call stays accepted. -/
theorem Handles.accepted {h after : Handling} {act : HandleAct} (consistent : Consistent h.call)
    (step : Handles h act after) :
    after.metrics.callsAccepted.total + (if h.call.isAccepted then 1 else 0) =
      h.metrics.callsAccepted.total + (if after.call.isAccepted then 1 else 0) ∧
    (h.call.isAccepted = true → after.call.isAccepted = true) := by
  obtain ⟨⟨phase, outcomes, responses⟩, metrics⟩ := h
  cases step with
  | moves | proceeds | ends => exact ⟨rfl, id⟩
  | @rejects reason code text ok result undecided =>
    obtain ⟨rfl, rfl⟩ : outcomes = [] ∧ responses = [] := consistent.blank undecided
    have refused : HandledCall.isAccepted ⟨.returned result, [.rejected reason], [⟨.reject code text, ok⟩]⟩ =
        false := by
      simp [HandledCall.isAccepted]
    refine ⟨?_, nofun⟩
    simp only [Handling.enter, Handling.respond, Handling.countRejected, List.nil_append, refused]
    rfl
  | @accepts codec undecided =>
    obtain ⟨rfl, rfl⟩ : outcomes = [] ∧ responses = [] := consistent.blank undecided
    refine ⟨?_, nofun⟩
    change (metrics.callsAccepted.increment codec).total + 0 = metrics.callsAccepted.total + 1
    rw [Counter.total_increment, Nat.add_zero]
  | @loses response result undecided =>
    obtain ⟨rfl, rfl⟩ : outcomes = [] ∧ responses = [] := consistent.blank undecided
    have lost : HandledCall.isAccepted ⟨.returned result, [], [⟨response, false⟩]⟩ = false := by
      simp [HandledCall.isAccepted]
    refine ⟨?_, nofun⟩
    simp only [Handling.enter, Handling.respond, List.nil_append, lost]
    rfl

/-- The calls are accounted for, and the accepted ones are as many as the
metric says. -/
structure Tallied (s : CallServer) : Prop extends Accounted s where
  accepted : s.metrics.callsAccepted.total = s.calls.countP HandledCall.isAccepted

theorem Tallied.step {s t : CallServer} {act : ServerAct} (tallied : Tallied s) (step : serverStep s act = some t) :
    Tallied t := by
  refine ⟨tallied.toAccounted.step step, ?_⟩
  cases act with
  | invite =>
    cases Option.some.inj step
    rw [List.countP_append]
    exact tallied.accepted
  | handle i act =>
    obtain ⟨call, after, entry, handled, rfl⟩ := serverStep_handle step
    have moved := ((handles_of_step handled).accepted (tallied.consistent call (List.mem_of_getElem? entry))).1
    have counts := countP_set HandledCall.isAccepted after.call entry
    have before := tallied.accepted
    simp only at moved counts ⊢
    omega

theorem Tallied.perm {s : CallServer} {calls : List HandledCall} (tallied : Tallied s) (same : calls.Perm s.calls) :
    Tallied ⟨calls, s.metrics⟩ := by
  refine ⟨⟨?_, ?_, ?_⟩, ?_⟩
  · exact fun call member => tallied.consistent call (same.mem_iff.mp member)
  · exact tallied.counted.trans (same.map _).sum_eq.symm
  · exact tallied.active.trans (congrArg Nat.cast (same.countP_eq _).symm)
  · exact tallied.accepted.trans (same.countP_eq _).symm

theorem SipServer.CallsMove.tallied {before after : CallServer} (step : CallsMove before after)
    (tallied : Tallied before) : Tallied after := by
  cases step with
  | none => exact tallied
  | step taken same => exact (tallied.step taken).perm same

theorem ServerDialog.isAccepted_iff {dialog : ServerDialog} :
    dialog.isAccepted = true ↔ ∃ call, dialog.call? = some call ∧ call.isAccepted = true := by
  unfold isAccepted
  cases dialog.call? with
  | none => simp
  | some call => simp

theorem ServerDialog.isActive_eq {dialog : ServerDialog} {call : HandledCall} (running : dialog.call? = some call) :
    dialog.isActive = call.isActive := by
  rw [isActive, running]
  rfl

/-- In a settled dialog an accepted call is either active or terminated. -/
theorem ServerDialog.Settled.balance {dialog : ServerDialog} (settled : dialog.Settled)
    (processed : dialog.terminations = if dialog.ending.isProcessed then 1 else 0)
    (never : dialog.CountedRightly) (closed : ¬ dialog.LeftOpen) : dialog.Balanced := by
  unfold Balanced
  cases accepted : dialog.isAccepted with
  | false =>
    have idle : dialog.isActive = false := by
      unfold isActive isAccepted at *
      cases running : dialog.call? with
      | none => rfl
      | some call =>
        rw [running] at accepted
        change (call.isAccepted && !call.hasReturned) = false
        rw [show call.isAccepted = false from accepted, Bool.false_and]
    rw [idle, never accepted]
    rfl
  | true =>
    obtain ⟨call, running, answered⟩ := isAccepted_iff.mp accepted
    have active : dialog.isActive = !call.hasReturned := by
      rw [isActive_eq running, HandledCall.isActive, answered, Bool.true_and]
    rcases settled.rests call running answered with returned | ⟨waiting, live⟩
    · -- the end of the dialog has come before, and was taken up
      have idle : dialog.isActive = false := by rw [active, returned]; rfl
      have ended : dialog.ending.isProcessed = true := by
        cases ending : dialog.ending with
        | live => exact absurd ⟨accepted, idle, ending⟩ closed
        | terminated reason => exact absurd ending (settled.told reason)
        | processed reason => rfl
      rw [idle, processed, ended]
      rfl
    · have unreturned : call.hasReturned = false := by rw [HandledCall.hasReturned, waiting]
      rw [active, unreturned, processed, live]
      rfl

/-- A dialog that is left open is settled, and its call is counted nowhere. -/
theorem ServerDialog.LeftOpen.not_balanced {dialog : ServerDialog} (left : dialog.LeftOpen)
    (processed : dialog.terminations = if dialog.ending.isProcessed then 1 else 0) :
    dialog.Settled ∧ ¬ dialog.Balanced := by
  obtain ⟨call, running, answered⟩ := isAccepted_iff.mp left.accepted
  have returned : call.hasReturned = true := by
    have idle := left.done
    rw [isActive_eq running, HandledCall.isActive, answered, Bool.true_and] at idle
    exact (Bool.not_eq_false' (b := call.hasReturned)).mp idle
  refine ⟨⟨?_, ?_, ?_⟩, ?_⟩
  · intro calling
    rw [call?, calling] at running
    cases running
  · intro reason ended
    rw [left.live] at ended
    cases ended
  · intro other there _
    cases Option.some.inj (running.symm.trans there)
    exact Or.inl returned
  · rw [Balanced, left.accepted, left.done, processed, left.live]
    exact Nat.one_ne_zero

/-- Each counted termination is one dialog whose end was taken up. -/
structure EndsCounted (s : SipServer) : Prop where
  terminated : s.metrics.callsTerminated.total = (s.dialogs.map ServerDialog.terminations).sum
  processed : ∀ dialog ∈ s.dialogs, dialog.terminations = if dialog.ending.isProcessed then 1 else 0

/-- What holds of the server in every state. -/
structure Counted (s : SipServer) : Prop extends EndsCounted s where
  tallied : Tallied s.callServer

namespace Counted

theorem accepted {s : SipServer} (counted : Counted s) :
    s.metrics.calls.callsAccepted.total = s.dialogs.countP ServerDialog.isAccepted :=
  counted.tallied.accepted.trans (List.countP_filterMap ..)

theorem active {s : SipServer} (counted : Counted s) :
    s.metrics.calls.callsActive = s.dialogs.countP ServerDialog.isActive :=
  counted.tallied.active.trans (congrArg Nat.cast (List.countP_filterMap ..))

theorem terminations_le_one {s : SipServer} {dialog : ServerDialog} (counted : Counted s)
    (member : dialog ∈ s.dialogs) :
    dialog.terminations ≤ 1 := by
  rw [counted.processed dialog member]
  split
  · exact Nat.le_refl 1
  · exact Nat.zero_le 1

end Counted

/-- Every termination that was counted was one of an accepted call. -/
theorem sum_terminations_le {dialogs : List ServerDialog} (once : ∀ dialog ∈ dialogs, dialog.terminations ≤ 1)
    (never : ∀ dialog ∈ dialogs, dialog.CountedRightly) :
    (dialogs.map ServerDialog.terminations).sum ≤ dialogs.countP ServerDialog.isAccepted := by
  rw [countP_eq_sum]
  refine List.sum_le_sum fun dialog member => ?_
  cases accepted : dialog.isAccepted with
  | false => exact (never dialog member accepted).le
  | true => exact once dialog member

theorem sum_settled {dialogs : List ServerDialog} (own : ∀ dialog ∈ dialogs, dialog.Balanced) :
    dialogs.countP ServerDialog.isAccepted =
      dialogs.countP ServerDialog.isActive + (dialogs.map ServerDialog.terminations).sum := by
  rw [countP_eq_sum, countP_eq_sum, ← List.sum_map_add]
  exact congrArg List.sum (List.map_congr_left own)

/-- No dialog contributes what it should not, and none is left open. -/
structure SipServer.RightlyEnded (s : SipServer) : Prop where
  counted : ∀ dialog ∈ s.dialogs, dialog.CountedRightly
  closed : ∀ dialog ∈ s.dialogs, ¬ dialog.LeftOpen

theorem Counted.terminates_iff {s : SipServer} (counted : Counted s) : s.TerminatesAccepted ↔ s.RightlyEnded := by
  constructor
  · intro terminates
    refine ⟨terminates.never, fun dialog member left => ?_⟩
    obtain ⟨settled, unbalanced⟩ := left.not_balanced (counted.processed dialog member)
    exact unbalanced (terminates.balanced dialog member settled)
  · rintro ⟨never, closed⟩
    have once : ∀ dialog ∈ s.dialogs, dialog.terminations ≤ 1 := fun _ => counted.terminations_le_one
    have balanced : ∀ dialog ∈ s.dialogs, dialog.Settled → dialog.Balanced := fun dialog member settled =>
      settled.balance (counted.processed dialog member) (never dialog member) (closed dialog member)
    refine ⟨counted.terminated, ?_, fun dialog member _ => once dialog member, never, balanced, ?_⟩
    · rw [counted.terminated, counted.accepted]
      exact sum_terminations_le once never
    · intro settled
      have sums := sum_settled fun dialog member => balanced dialog member (settled dialog member)
      rw [counted.accepted, counted.active, counted.terminated, sums]
      exact Int.natCast_add _ _

namespace SipServer

theorem mem_setDialog {s : SipServer} {i : Nat} {dialog other : ServerDialog}
    (member : other ∈ (s.setDialog i dialog).dialogs) : other ∈ s.dialogs ∨ other = dialog :=
  List.mem_or_eq_of_mem_set member

/-- A dialog that changes without being taken up as ended. -/
theorem EndsCounted.setDialog {s : SipServer} {i : Nat} {dialog after : ServerDialog} (ends : EndsCounted s)
    (entry : s.dialogs[i]? = some dialog) (same : after.terminations = dialog.terminations)
    (unprocessed : after.ending.isProcessed = dialog.ending.isProcessed) : EndsCounted (s.setDialog i after) := by
  refine ⟨?_, ?_⟩
  · have sums := sum_map_set ServerDialog.terminations after entry
    have before := ends.terminated
    simp only [SipServer.setDialog] at sums ⊢
    omega
  · intro other member
    rcases mem_setDialog member with old | rfl
    · exact ends.processed other old
    · rw [same, unprocessed]
      exact ends.processed dialog (List.mem_of_getElem? entry)

theorem Moves.endsCounted {s t : SipServer} {act : SipAct} (step : Moves s act t) (ends : EndsCounted s) :
    EndsCounted t := by
  cases step with
  | arrives | closes | returns | drains | wakes | findsEmpty | findsDialogs | cancels | leaves =>
    exact ⟨ends.terminated, ends.processed⟩
  | @routes surroundings tx rest running queue =>
    rw [handleTransaction_eq running]
    cases (s.receive tx surroundings).route with
    | existingDialog | reply | unanswered =>
      simp only [Route.dialogs, List.append_nil]
      exact ⟨ends.terminated, ends.processed⟩
    | newDialog =>
      refine ⟨?_, ?_⟩
      · simp only [Route.dialogs, List.map_append, List.sum_append, ← ends.terminated]
        rfl
      · simp only [Route.dialogs, List.forall_mem_append, List.forall_mem_singleton]
        exact ⟨ends.processed, rfl⟩
  | @hands i dialog entry => exact EndsCounted.setDialog ends entry rfl rfl
  | @misses i dialog entry => exact EndsCounted.setDialog ends entry rfl rfl
  | @counts i dialog reason entry pending =>
    have fresh := ends.processed dialog (List.mem_of_getElem? entry)
    rw [pending] at fresh
    refine ⟨?_, ?_⟩
    · have sums := sum_map_set ServerDialog.terminations
        { dialog with inLayer := false, ending := .processed reason, terminations := dialog.terminations + 1 } entry
      have before := ends.terminated
      simp only [setDialog, Counter.total_increment] at sums ⊢
      omega
    · intro other member
      rcases mem_setDialog member with old | rfl
      · exact ends.processed other old
      · exact congrArg (· + 1) fresh
  | @ends i dialog reason entry live => exact EndsCounted.setDialog ends entry rfl (by rw [live]; rfl)
  | @handles i dialog call act after entry =>
    exact EndsCounted.setDialog (s := { s with metrics.calls := after.metrics })
      ⟨ends.terminated, ends.processed⟩ entry rfl rfl

theorem Moves.counted {s t : SipServer} {act : SipAct} (step : Moves s act t) (counted : Counted s) : Counted t :=
  ⟨step.endsCounted counted.toEndsCounted, step.callsMove.tallied counted.tallied⟩

end SipServer

/-- The dialog-state loop takes up the end of a dialog whose call is not
accepted. -/
def TerminatesUnaccepted (s : SipServer) (act : SipAct) : Prop :=
  ∃ i dialog, act = .terminated i ∧ s.dialogs[i]? = some dialog ∧ dialog.isAccepted = false

theorem countedRightly_setDialog {s : SipServer} {i : Nat} {after : ServerDialog}
    (before : ∀ dialog ∈ s.dialogs, dialog.CountedRightly) (own : after.CountedRightly) :
    ∀ dialog ∈ (s.setDialog i after).dialogs, dialog.CountedRightly := by
  intro other member
  rcases SipServer.mem_setDialog member with old | rfl
  · exact before other old
  · exact own

theorem SipServer.Moves.countedRightly {s t : SipServer} {act : SipAct} (counted : Counted s)
    (before : ∀ dialog ∈ s.dialogs, dialog.CountedRightly) (step : Moves s act t) :
    (∀ dialog ∈ t.dialogs, dialog.CountedRightly) ↔ ¬ TerminatesUnaccepted s act := by
  have elsewhere (other : ∀ i, act ≠ .terminated i) (after : ∀ dialog ∈ t.dialogs, dialog.CountedRightly) :
      (∀ dialog ∈ t.dialogs, dialog.CountedRightly) ↔ ¬ TerminatesUnaccepted s act := by
    refine iff_of_true after ?_
    rintro ⟨i, _, same, _⟩
    exact other i same
  cases step with
  | arrives | closes | returns | drains | wakes | findsEmpty | findsDialogs | cancels | leaves =>
    exact elsewhere (fun _ same => by cases same) before
  | @routes surroundings tx rest running queue =>
    refine elsewhere (fun _ same => by cases same) ?_
    rw [handleTransaction_eq running]
    cases (s.receive tx surroundings).route with
    | existingDialog | reply | unanswered =>
      simp only [Route.dialogs, List.append_nil]
      exact before
    | newDialog =>
      simp only [Route.dialogs, List.forall_mem_append, List.forall_mem_singleton]
      exact ⟨before, fun _ => rfl⟩
  | @hands i dialog entry calling =>
    have fresh : dialog.isAccepted = false := by rw [ServerDialog.isAccepted, ServerDialog.call?, calling]; rfl
    exact elsewhere (fun _ same => by cases same)
      (countedRightly_setDialog before fun _ => before dialog (List.mem_of_getElem? entry) fresh)
  | @misses i dialog entry calling =>
    have fresh : dialog.isAccepted = false := by rw [ServerDialog.isAccepted, ServerDialog.call?, calling]; rfl
    exact elsewhere (fun _ same => by cases same)
      (countedRightly_setDialog before fun _ => before dialog (List.mem_of_getElem? entry) fresh)
  | @ends i dialog reason entry live =>
    exact elsewhere (fun _ same => by cases same)
      (countedRightly_setDialog before (before dialog (List.mem_of_getElem? entry)))
  | @handles i dialog call act after entry running handled =>
    have consistent : Consistent call :=
      counted.tallied.consistent call (List.mem_filterMap.mpr ⟨dialog, List.mem_of_getElem? entry, running⟩)
    have kept := ((handles_of_step handled).accepted consistent).2
    have own : (dialog.withCall after.call).CountedRightly := by
      intro unaccepted
      refine before dialog (List.mem_of_getElem? entry) (Bool.eq_false_iff.mpr fun accepted => ?_)
      rw [ServerDialog.isAccepted, running] at accepted
      rw [ServerDialog.isAccepted] at unaccepted
      exact Bool.noConfusion (unaccepted.symm.trans (kept accepted))
    exact elsewhere (fun _ same => by cases same)
      (countedRightly_setDialog (s := { s with metrics.calls := after.metrics }) before own)
  | @counts i dialog reason entry pending =>
    constructor
    · rintro after ⟨_, _, same, there, unaccepted⟩
      cases same
      rw [entry] at there
      cases there
      cases after _ (List.mem_set (List.getElem?_eq_some_iff.mp entry).1 _) unaccepted
    · intro rightly
      refine countedRightly_setDialog (s := { s with metrics.callsTerminated := _ }) before ?_
      exact fun unaccepted => absurd ⟨i, dialog, rfl, entry, unaccepted⟩ rightly

/-- `handle_call` of an accepted call returns while its dialog has not ended:
its BYE did not end the dialog. -/
def LeavesDialogOpen (s : SipServer) (act : SipAct) : Prop :=
  ∃ i dialog call, act = .handle i .proceed ∧ s.dialogs[i]? = some dialog ∧ dialog.call? = some call ∧
    call.phase = .answered .sayingBye ∧ dialog.ending = .live

/-- Only the last operation of `handle_call` leaves an accepted call that is
no longer active. -/
theorem done_iff {h after : Handling} {act : HandleAct} (consistent : Consistent h.call)
    (step : handleStep h act = some after) :
    (after.call.isAccepted = true ∧ after.call.isActive = false) ↔ act = .proceed ∧
      h.call.phase = .answered .sayingBye := by
  obtain ⟨⟨phase, outcomes, responses⟩, metrics⟩ := h
  have undecided_other (undecided : phase.Undecided) : ¬ (act = .proceed ∧ phase = .answered .sayingBye) := by
    rintro ⟨_, rfl⟩
    exact undecided
  cases handles_of_step step with
  | moves undecided ahead =>
    obtain ⟨rfl, rfl⟩ : outcomes = [] ∧ responses = [] := consistent.blank undecided
    refine iff_of_false (fun done => ?_) (undecided_other undecided)
    cases done.1
  | rejects undecided | loses undecided =>
    obtain ⟨rfl, rfl⟩ : outcomes = [] ∧ responses = [] := consistent.blank undecided
    refine iff_of_false (fun done => ?_) (undecided_other undecided)
    have accepted := of_decide_eq_true done.1
    cases List.mem_singleton.mp accepted
  | accepts undecided =>
    obtain ⟨rfl, rfl⟩ : outcomes = [] ∧ responses = [] := consistent.blank undecided
    refine iff_of_false (fun done => ?_) (undecided_other undecided)
    cases done.2
  | @proceeds place next atPlace ahead more =>
    cases (atPlace : phase = .answered place)
    refine iff_of_false (fun done => ?_) ?_
    · cases consistent with
      | undecided undecided => exact undecided
      | answered => cases (HandledCall.isActive_answered more).symm.trans done.2
    · rintro ⟨_, same⟩
      cases same
      exact more (Option.some.inj ahead).symm
  | @ends place atPlace before =>
    cases (atPlace : phase = .answered place)
    cases consistent with
    | undecided undecided => exact undecided.elim
    | answered =>
      refine iff_of_true ⟨rfl, rfl⟩ ?_
      cases act with
      | proceed =>
        cases place with
        | sayingBye => exact ⟨rfl, rfl⟩
        | returned => exact absurd rfl before
        | accepted | started | waiting => cases step
      | parse result => cases result <;> cases step
      | allocate | connect | create | ringing | accept | reject => cases step

theorem closed_setDialog {s : SipServer} {i : Nat} {after : ServerDialog}
    (before : ∀ dialog ∈ s.dialogs, ¬ dialog.LeftOpen) (own : ¬ after.LeftOpen) :
    ∀ dialog ∈ (s.setDialog i after).dialogs, ¬ dialog.LeftOpen := by
  intro other member
  rcases SipServer.mem_setDialog member with old | rfl
  · exact before other old
  · exact own

theorem SipServer.Moves.closed {s t : SipServer} {act : SipAct} (counted : Counted s)
    (before : ∀ dialog ∈ s.dialogs, ¬ dialog.LeftOpen) (step : Moves s act t) :
    (∀ dialog ∈ t.dialogs, ¬ dialog.LeftOpen) ↔ ¬ LeavesDialogOpen s act := by
  have elsewhere (other : ∀ i, act ≠ .handle i .proceed) (after : ∀ dialog ∈ t.dialogs, ¬ dialog.LeftOpen) :
      (∀ dialog ∈ t.dialogs, ¬ dialog.LeftOpen) ↔ ¬ LeavesDialogOpen s act := by
    refine iff_of_true after ?_
    rintro ⟨i, _, _, same, _⟩
    exact other i same
  cases step with
  | arrives | closes | returns | drains | wakes | findsEmpty | findsDialogs | cancels | leaves =>
    exact elsewhere (fun _ same => by cases same) before
  | @routes surroundings tx rest running queue =>
    refine elsewhere (fun _ same => by cases same) ?_
    rw [handleTransaction_eq running]
    cases (s.receive tx surroundings).route with
    | existingDialog | reply | unanswered =>
      simp only [Route.dialogs, List.append_nil]
      exact before
    | newDialog =>
      simp only [Route.dialogs, List.forall_mem_append, List.forall_mem_singleton]
      exact ⟨before, fun left => by cases left.accepted⟩
  | hands =>
    exact elsewhere (fun _ same => by cases same) (closed_setDialog before fun left => by cases left.accepted)
  | misses =>
    exact elsewhere (fun _ same => by cases same) (closed_setDialog before fun left => by cases left.accepted)
  | counts =>
    refine elsewhere (fun _ same => by cases same)
      (closed_setDialog (s := { s with metrics.callsTerminated := _ }) before fun left => ?_)
    cases left.live
  | ends => exact elsewhere (fun _ same => by cases same) (closed_setDialog before fun left => by cases left.live)
  | @handles i dialog call act after entry running handled =>
    have consistent : Consistent call :=
      counted.tallied.consistent call (List.mem_filterMap.mpr ⟨dialog, List.mem_of_getElem? entry, running⟩)
    have own : (dialog.withCall after.call).LeftOpen ↔ LeavesDialogOpen s (.handle i act) := by
      constructor
      · rintro ⟨accepted, done, live⟩
        obtain ⟨rfl, place⟩ := (done_iff consistent handled).mp ⟨accepted, done⟩
        exact ⟨i, dialog, call, rfl, entry, running, place, live⟩
      · rintro ⟨_, _, _, same, there, waiting, place, live⟩
        cases same
        cases Option.some.inj (entry.symm.trans there)
        cases Option.some.inj (running.symm.trans waiting)
        obtain ⟨accepted, done⟩ := (done_iff consistent handled).mpr ⟨rfl, place⟩
        exact ⟨accepted, done, live⟩
    rw [← own]
    constructor
    · exact fun after => after _ (List.mem_set (List.getElem?_eq_some_iff.mp entry).1 _)
    · exact closed_setDialog (s := { s with metrics.calls := after.metrics }) before

theorem counted_start (drainToken : Bool) : Counted (.start drainToken) := by
  refine ⟨⟨Counter.total_zero, List.forall_mem_nil _⟩, ⟨⟨List.forall_mem_nil _, ?_, rfl⟩, Counter.total_zero⟩⟩
  change (Counter.zero : Counter CodecKind).total + (Counter.zero : Counter RejectReason).total = 0
  rw [Counter.total_zero, Counter.total_zero]

/-- Along a run only accepted calls are counted as terminated, and they agree
with the other metrics of the calls once nothing is pending, exactly if the
end of no dialog is taken up whose call is not accepted, and no `handle_call`
leaves a dialog that has not ended. -/
theorem terminatesAccepted_iff {drainToken : Bool} {acts : List SipAct} {last : SipServer}
    (reach : run sipStep (.start drainToken) acts = some last) :
    (∀ s, Visits sipStep (.start drainToken) acts s → s.TerminatesAccepted) ↔
      ∀ s act, Takes sipStep (.start drainToken) acts s act →
        ¬ TerminatesUnaccepted s act ∧ ¬ LeavesDialogOpen s act := by
  refine visits_iff_takes (I := Counted) (counted_start drainToken) ?_ ?_ ?_ reach
  · exact (counted_start drainToken).terminates_iff.mpr ⟨List.forall_mem_nil _, List.forall_mem_nil _⟩
  · exact fun s act t counted step => (SipServer.moves_of_step step).counted counted
  · intro s act t counted before step
    have moved := SipServer.moves_of_step step
    have ended := counted.terminates_iff.mp before
    rw [(moved.counted counted).terminates_iff, ← moved.countedRightly counted ended.counted,
      ← moved.closed counted ended.closed]
    exact ⟨fun after => ⟨after.counted, after.closed⟩, fun after => ⟨after.1, after.2⟩⟩

/-- A call that is accepted, ended by its caller and wound up. -/
def answeredCall : List SipAct :=
  [.arrive freshInvite, .request creating, .calling 0, .handle 0 (.parse (.ok plainOffer)),
    .handle 0 (.allocate true), .handle 0 (.connect true), .handle 0 (.create true), .handle 0 (.ringing true),
    .handle 0 (.accept true), .handle 0 .proceed, .handle 0 .proceed, .dialogEnds 0 .uacBye, .handle 0 .proceed,
    .handle 0 .proceed, .terminated 0]

theorem answeredCall_metrics : (run sipStep (.start false) answeredCall).map
    (fun s => (s.metrics.calls.callsAccepted.total, s.metrics.calls.callsActive, s.metrics.callsTerminated.total)) =
      some (1, 0, 1) := by
  decide +kernel

theorem terminatesAccepted_answeredCall : ∃ last, run sipStep (.start false) answeredCall = some last ∧
    last.metrics.calls.callsAccepted.total = 1 ∧ last.metrics.calls.callsActive = 0 ∧
    last.metrics.callsTerminated.total = 1 ∧
    ((∀ s, Visits sipStep (.start false) answeredCall s → s.TerminatesAccepted) ↔
      ∀ s act, Takes sipStep (.start false) answeredCall s act →
        ¬ TerminatesUnaccepted s act ∧ ¬ LeavesDialogOpen s act) := by
  refine exists_of_run (by decide +kernel) fun last reach => ?_
  have metrics := answeredCall_metrics
  rw [reach] at metrics
  obtain ⟨accepted, rest⟩ := Prod.mk.inj (Option.some.inj metrics)
  obtain ⟨active, terminated⟩ := Prod.mk.inj rest
  exact ⟨accepted, active, terminated, terminatesAccepted_iff reach⟩

/-- A call that is rejected for its offer, and its end. -/
def rejectedCall : List SipAct :=
  [.arrive freshInvite, .request creating, .calling 0, .handle 0 (.parse (.error .noSupportedCodec)),
    .handle 0 (.reject true), .dialogEnds 0 (.uasOther ⟨488, []⟩), .terminated 0]

theorem rejectedCall_metrics : (run sipStep (.start false) rejectedCall).map
    (fun s => (s.metrics.calls.callsAccepted.total, s.metrics.callsTerminated.total)) = some (0, 1) := by
  decide +kernel

/-- The loop counts a terminated call where none was accepted. -/
theorem terminatesAccepted_fails : ∃ last, run sipStep (.start false) rejectedCall = some last ∧
    last.metrics.calls.callsAccepted.total = 0 ∧ last.metrics.callsTerminated.total = 1 ∧
    ¬ last.TerminatesAccepted := by
  refine exists_of_run (by decide +kernel) fun last reach => ?_
  have metrics := rejectedCall_metrics
  rw [reach] at metrics
  obtain ⟨none, one⟩ := Prod.mk.inj (Option.some.inj metrics)
  refine ⟨none, one, fun terminates => ?_⟩
  have bounded := terminates.bounded
  omega

end RsipstackServer
