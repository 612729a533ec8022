import RsipstackServer.TerminatedCalls
import RsipstackServer.DrainMonitor
import RsipstackServer.Foundation.Potential

namespace RsipstackServer
open Foundation

/-- What draining rests on in every state: a dialog leaves the layer when its
end is taken up, and only then, and the monitor lowers the flag and raises the
gauge when it wakes. -/
structure DrainInvariant (s : SipServer) : Prop where
  layer : ∀ dialog ∈ s.dialogs, dialog.inLayer = !dialog.ending.isProcessed
  awake : s.monitor ≠ .waiting → s.respondToOptions = false ∧ s.metrics.drainActive = 1
  cancelled : s.cancelToken = true → s.monitor ≠ .waiting

/-- The drain has completed: the server is told to shut down, no dialog is in
the layer, and the end of each has been taken up and counted. -/
structure SipServer.Drained (s : SipServer) : Prop where
  cancelled : s.cancelToken = true
  empty : s.LayerEmpty
  processed : ∀ dialog ∈ s.dialogs, ∃ reason, dialog.ending = .processed reason
  counted : s.metrics.callsTerminated.total = s.dialogs.length
  shown : s.respondToOptions = false ∧ s.metrics.drainActive = 1

/-- The steps of the dialog-state loop and the drain monitor that a drain
waits for. -/
def SipAct.isDraining : SipAct → Bool
  | .terminated _ | .monitor => true
  | .arrive _ | .closeIncoming | .request _ | .calling _ | .dialogEnds _ _ | .handle _ _ | .startDrain
  | .endpointEnds => false

def SipAct.isMonitor : SipAct → Bool
  | .monitor => true
  | .arrive _ | .closeIncoming | .request _ | .calling _ | .terminated _ | .dialogEnds _ _ | .handle _ _ | .startDrain
  | .endpointEnds => false

/-- The step takes up an INVITE for which the dialog layer creates a dialog. -/
def SipAct.creates : SipAct → Bool
  | .request surroundings => surroundings.creation = .created
  | .arrive _ | .closeIncoming | .calling _ | .terminated _ | .dialogEnds _ _ | .handle _ _ | .startDrain | .monitor
  | .endpointEnds => false

namespace SipServer

/-- The steps of the monitor until it cancels, when it finds the layer empty. -/
def monitorWork (s : SipServer) : Nat :=
  if s.cancelToken then 0
  else
    match s.monitor with
    | .waiting => 3
    | .polling => 2
    | .foundEmpty => 1

/-- The dialogs that are still in the layer. -/
def undrained (s : SipServer) : Nat := s.dialogs.countP ServerDialog.inLayer

def drainWork (s : SipServer) : Nat := s.undrained + s.monitorWork

theorem layer_setDialog {s : SipServer} {i : Nat} {after : ServerDialog}
    (layer : ∀ dialog ∈ s.dialogs, dialog.inLayer = !dialog.ending.isProcessed)
    (own : after.inLayer = !after.ending.isProcessed) :
    ∀ dialog ∈ (s.setDialog i after).dialogs, dialog.inLayer = !dialog.ending.isProcessed := by
  intro other member
  rcases mem_setDialog member with old | rfl
  · exact layer other old
  · exact own

theorem Moves.drainInvariant {s t : SipServer} {act : SipAct} (step : Moves s act t) (drain : DrainInvariant s) :
    DrainInvariant t := by
  obtain ⟨layer, awake, cancelled⟩ := drain
  cases step with
  | arrives | closes | returns | drains | findsDialogs | leaves => exact ⟨layer, awake, cancelled⟩
  | @routes surroundings tx rest running queue =>
    rw [handleTransaction_eq running]
    refine ⟨?_, awake, cancelled⟩
    cases (s.receive tx surroundings).route with
    | existingDialog | reply | unanswered =>
      simp only [Route.dialogs, List.append_nil]
      exact layer
    | newDialog =>
      simp only [Route.dialogs, List.forall_mem_append, List.forall_mem_singleton]
      exact ⟨layer, rfl⟩
  | @hands i dialog entry | @misses i dialog entry =>
    exact ⟨layer_setDialog layer (layer dialog (List.mem_of_getElem? entry)), awake, cancelled⟩
  | @counts i dialog reason entry pending => exact ⟨layer_setDialog (s := s) layer rfl, awake, cancelled⟩
  | @ends i dialog reason entry live =>
    have own := layer dialog (List.mem_of_getElem? entry)
    rw [live] at own
    exact ⟨layer_setDialog layer own, awake, cancelled⟩
  | @handles i dialog call act after entry =>
    exact ⟨layer_setDialog (s := s) layer (layer dialog (List.mem_of_getElem? entry)), awake, cancelled⟩
  | wakes => exact ⟨layer, fun _ => ⟨rfl, rfl⟩, fun _ => by simp⟩
  | findsEmpty polling => exact ⟨layer, fun _ => awake (by simp [polling]), fun _ => by simp⟩
  | cancels found => exact ⟨layer, fun _ => awake (by simp [found]), fun _ => by simp⟩

end SipServer

theorem DrainInvariant.start (drainToken : Bool) : DrainInvariant (.start drainToken) :=
  ⟨List.forall_mem_nil _, fun awake => absurd rfl awake, nofun⟩

/-- The server drains, and all of its dialogs have ended. -/
structure SipServer.Draining (s : SipServer) : Prop where
  counted : Counted s
  drain : DrainInvariant s
  asked : s.drainToken = true
  running : s.finished = none
  ended : ∀ dialog ∈ s.dialogs, dialog.ending ≠ .live

namespace SipServer
variable {s t : SipServer}

theorem Draining.processed (draining : s.Draining) (empty : s.LayerEmpty) :
    ∀ dialog ∈ s.dialogs, ∃ reason, dialog.ending = .processed reason := by
  intro dialog member
  have outside := draining.drain.layer dialog member
  rw [empty dialog member] at outside
  cases ending : dialog.ending with
  | processed reason => exact ⟨reason, rfl⟩
  | live | terminated =>
    rw [ending] at outside
    cases outside

theorem Draining.drained (draining : s.Draining) (empty : s.LayerEmpty) (cancelled : s.cancelToken = true) :
    s.Drained := by
  have processed := draining.processed empty
  refine ⟨cancelled, empty, processed, ?_, draining.drain.awake (draining.drain.cancelled cancelled)⟩
  rw [draining.counted.terminated]
  have once : ∀ dialog ∈ s.dialogs, dialog.terminations = 1 := by
    intro dialog member
    obtain ⟨reason, gone⟩ := processed dialog member
    rw [draining.counted.processed dialog member, gone]
    rfl
  rw [List.map_congr_left once, List.map_const', List.sum_replicate_nat, Nat.mul_one]

/-- The dialog-state loop can take up the end of a dialog that is still in the
layer. -/
theorem Draining.takesUp (draining : s.Draining) {i : Nat} {dialog : ServerDialog}
    (entry : s.dialogs[i]? = some dialog) (inside : dialog.inLayer = true) :
    ∃ t, sipStep s (.terminated i) = some t ∧ t.Draining ∧
      t.undrained < s.undrained ∧ t.monitorWork = s.monitorWork := by
  have member := List.mem_of_getElem? entry
  obtain ⟨inLayer, task, ending, terminations⟩ := dialog
  cases inside
  cases ending with
  | live => exact absurd rfl (draining.ended _ member)
  | processed =>
    have outside := draining.drain.layer _ member
    cases outside
  | terminated reason =>
    have step : sipStep s (.terminated i) = some
        ({ s with metrics.callsTerminated := s.metrics.callsTerminated.increment reason.label }.setDialog i
          ⟨false, task, .processed reason, terminations + 1⟩) := by
      simp only [sipStep, draining.running, Option.isNone_none, if_true, takeTerminated, entry, setDialog]
    refine ⟨_, step, ⟨?_, ?_, draining.asked, draining.running, ?_⟩, ?_, rfl⟩
    · exact (moves_of_step step).counted draining.counted
    · exact (moves_of_step step).drainInvariant draining.drain
    · intro other there
      rcases mem_setDialog there with old | rfl
      · exact draining.ended other old
      · simp
    · have counts := countP_set ServerDialog.inLayer ⟨false, task, .processed reason, terminations + 1⟩ entry
      simp only [undrained, setDialog, if_true, if_false, Bool.false_eq_true] at counts ⊢
      omega

/-- On an empty layer each step of the monitor brings the cancel nearer. -/
theorem Draining.monitors (draining : s.Draining) (empty : s.LayerEmpty) (uncancelled : s.cancelToken = false) :
    ∃ t, sipStep s .monitor = some t ∧ t.Draining ∧ t.undrained = s.undrained ∧ t.monitorWork < s.monitorWork := by
  have next {t : SipServer} (step : sipStep s .monitor = some t) (asked : t.drainToken = s.drainToken)
      (running : t.finished = s.finished) (dialogs : t.dialogs = s.dialogs) : t.Draining := by
    refine ⟨(moves_of_step step).counted draining.counted, (moves_of_step step).drainInvariant draining.drain,
      ?_, ?_, ?_⟩
    · rw [asked, draining.asked]
    · rw [running, draining.running]
    · rw [dialogs]
      exact draining.ended
  cases place : s.monitor with
  | waiting =>
    have step : sipStep s .monitor =
      some { s with respondToOptions := false, metrics.drainActive := 1, monitor := .polling } := by
      simp only [sipStep, drainMonitor, place, draining.asked, if_true]
    refine ⟨_, step, next step rfl rfl rfl, rfl, ?_⟩
    simp [monitorWork, uncancelled, place]
  | polling =>
    have step : sipStep s .monitor = some { s with monitor := .foundEmpty } := by
      simp only [sipStep, drainMonitor, place, if_pos empty]
    refine ⟨_, step, next step rfl rfl rfl, rfl, ?_⟩
    simp [monitorWork, uncancelled, place]
  | foundEmpty =>
    have step : sipStep s .monitor = some { s with cancelToken := true, monitor := .polling } := by
      simp only [sipStep, drainMonitor, place]
    refine ⟨_, step, next step rfl rfl rfl, rfl, ?_⟩
    simp [monitorWork, uncancelled, place]

theorem Draining.moves (draining : s.Draining) (undone : ¬ (s.LayerEmpty ∧ s.cancelToken = true)) :
    ∃ act t, act.isDraining = true ∧ sipStep s act = some t ∧ t.Draining ∧
      t.drainWork < s.drainWork := by
  unfold drainWork
  by_cases empty : s.LayerEmpty
  · have uncancelled : s.cancelToken = false := Bool.eq_false_iff.mpr fun cancelled => undone ⟨empty, cancelled⟩
    obtain ⟨t, step, after, same, less⟩ := draining.monitors empty uncancelled
    exact ⟨.monitor, t, rfl, step, after, by omega⟩
  · obtain ⟨dialog, member, inside⟩ : ∃ dialog ∈ s.dialogs, dialog.inLayer = true := by simpa [LayerEmpty] using empty
    obtain ⟨i, entry⟩ := List.mem_iff_getElem?.mp member
    obtain ⟨t, step, after, less, same⟩ := draining.takesUp entry inside
    exact ⟨.terminated i, t, rfl, step, after, by omega⟩

end SipServer

namespace SipServer
variable {s t : SipServer}

/-- On an empty layer every step of the monitor brings the cancel nearer, and
no other step puts it off. -/
theorem Moves.spends {act : SipAct} (step : Moves s act t) (empty : s.LayerEmpty)
    (uncancelled : ¬ s.cancelToken = true) :
    t.cancelToken = true ∨ t.monitorWork + (if act.isMonitor then 1 else 0) ≤ s.monitorWork := by
  cases step with
  | arrives | closes | returns | hands | misses | counts | ends | handles | drains | leaves =>
    exact Or.inr (Nat.le_refl _)
  | routes running => exact Or.inr (by rw [handleTransaction_eq running]; exact Nat.le_refl _)
  | wakes waiting => exact Or.inr (by simp [monitorWork, uncancelled, waiting, SipAct.isMonitor])
  | findsEmpty polling => exact Or.inr (by simp [monitorWork, uncancelled, polling, SipAct.isMonitor])
  | findsDialogs polling held => exact absurd empty held
  | cancels => exact Or.inl rfl

end SipServer

variable {drainToken : Bool} {acts : List SipAct} {s : SipServer}

end RsipstackServer
