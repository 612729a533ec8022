import RsipstackServer.FixedFrames
import RsipstackServer.PacketStream

namespace RsipstackServer
open Foundation
universe u
variable {κ : Type u} {session : MediaSession κ}

/-- A call with the records of both its sides. -/
abbrev MediaHistory (κ : Type u) := Recorded (CallState κ) (ReceiveRecord × SendRecord)

def MediaHistory.accepted (now : Nat) : MediaHistory κ := ⟨.accepted now, .empty, .empty⟩

def MediaHistory.note (session : MediaSession κ) (s : CallState κ) (act : CallAct) (t : CallState κ)
    (r : ReceiveRecord × SendRecord) : ReceiveRecord × SendRecord :=
  (r.1.note s act t, r.2.note session s act t)

def mediaHistoryStep (session : MediaSession κ) : MediaHistory κ → CallAct → Option (MediaHistory κ) :=
  Recorded.step (callStep session) (MediaHistory.note session)

def MediaHistory.incoming (h : MediaHistory κ) : ReceiveHistory κ := ⟨h.state, h.record.1⟩

def MediaHistory.outgoing (h : MediaHistory κ) : SendHistory κ := ⟨h.state, h.record.2⟩

theorem mediaHistoryStep_sides {h k : MediaHistory κ} {act : CallAct}
    (step : mediaHistoryStep session h act = some k) :
    Hears session h.incoming act k.incoming ∧ Sends session h.outgoing act k.outgoing := by
  obtain ⟨taken, kept⟩ := Recorded.step_eq_some_iff.mp step
  refine ⟨hears_of_step (Recorded.step_eq_some_iff.mpr ⟨taken, ?_⟩),
    sends_of_step (Recorded.step_eq_some_iff.mpr ⟨taken, ?_⟩)⟩
  · exact congrArg Prod.fst kept
  · exact congrArg Prod.snd kept

/-- Where the loop of `EchoHandler` stands: in its select, or about to send the
frame that it has received. -/
inductive EchoPhase
  | selecting
  | echoing (frame : AudioFrame)
  deriving DecidableEq

/-- The two branches of the select, and the send at the end of the second. -/
inductive EchoBranch
  | cancelled
  | recv
  | send

def CallAct.isHandler : CallAct → Bool
  | .handlerTask _ => true
  | _ => false

/-- A call whose handler is an `EchoHandler`. -/
structure EchoCall (κ : Type u) where
  media : MediaHistory κ
  phase : EchoPhase

inductive EchoAct
  | handler (branch : EchoBranch)
  | other (act : CallAct)

/-- The loop of `EchoHandler::process`: what it does to the call next, and where
it then stands. A `break` is the end of the handler. -/
def EchoPhase.process (s : CallState κ) : EchoPhase → EchoBranch → Option (HandlerAct × EchoPhase)
  | .selecting, .cancelled => if s.tokens.isCancelled dialogToken then some (.finish, .selecting) else none
  | .selecting, .recv =>
    match s.audioIn.recv with
    | none => none
    | some (some frame, _) => some (.take, .echoing frame)
    | some (none, _) => some (.finish, .selecting)
  | .echoing frame, .send =>
    match s.audioOut.send ⟨frame.samples⟩ with
    | some _ => some (.put ⟨frame.samples⟩, .selecting)
    | none => some (.finish, .selecting)
  | .selecting, .send | .echoing _, .cancelled | .echoing _, .recv => none

namespace EchoCall

def accepted (now : Nat) : EchoCall κ := ⟨.accepted now, .selecting⟩

def step (session : MediaSession κ) (e : EchoCall κ) : EchoAct → Option (EchoCall κ)
  | .handler branch =>
    (e.phase.process e.media.state branch).bind fun (act, phase) =>
      (mediaHistoryStep session e.media (.handlerTask act)).map fun media => ⟨media, phase⟩
  | .other act =>
    if act.isHandler then none else (mediaHistoryStep session e.media act).map fun media => ⟨media, e.phase⟩

/-- The frame that the handler has received and not yet sent. -/
def holding (e : EchoCall κ) : List AudioFrame :=
  match e.phase with
  | .selecting => []
  | .echoing frame => [frame]

end EchoCall

/-- What a step of an echoing call can do: a step of another party, the end of
the handler, or a frame that it takes or sends back. -/
inductive Echoes (session : MediaSession κ) (e : EchoCall κ) : EchoCall κ → Prop
  | other {act media} : act.isHandler = false → mediaHistoryStep session e.media act = some media →
      Echoes session e ⟨media, e.phase⟩
  | finishes : (∃ task, e.media.state.handlerTask = .running task) →
      Echoes session e ⟨⟨e.media.state.endHandler .finished, e.media.record⟩, .selecting⟩
  | takes {frame later} : (∃ task, e.media.state.handlerTask = .running task) → e.phase = .selecting →
      e.media.state.audioIn.receiverAlive = true → e.media.state.audioIn.queue = frame :: later →
      Echoes session e
        ⟨⟨{ e.media.state with audioIn := { e.media.state.audioIn with queue := later } }, e.media.record⟩,
          .echoing frame⟩
  | sends {frame audioOut} : (∃ task, e.media.state.handlerTask = .running task) → e.phase = .echoing frame →
      e.media.state.audioOut.send frame = some audioOut →
      Echoes session e
        ⟨⟨{ e.media.state with audioOut }, e.media.record.1,
          { e.media.record.2 with offered := e.media.record.2.offered ++ [frame] }⟩, .selecting⟩

/-- What a running handler can do, guards included. -/
inductive ActsOn (s : CallState κ) : HandlerAct → CallState κ → Prop
  | take {taken} : s.audioIn.receiverAlive = true → s.audioIn.recv = some taken →
      ActsOn s .take { s with audioIn := taken.2 }
  | put {frame} : s.audioOut.senderAlive = true →
      ActsOn s (.put frame) { s with audioOut := (s.audioOut.send frame).getD s.audioOut }
  | dropIn : ActsOn s .dropIn { s with audioIn := s.audioIn.dropReceiver }
  | dropOut : ActsOn s .dropOut { s with audioOut := s.audioOut.dropSender }
  | cancelDialog : ActsOn s .cancelDialog (s.cancel dialogToken)
  | finish : ActsOn s .finish (s.endHandler .finished)

theorem CallState.handlerStep_eq_some_iff {s t : CallState κ} {act : HandlerAct} :
    s.handlerStep act = some t ↔ (∃ task, s.handlerTask = .running task) ∧ ActsOn s act t := by
  constructor
  · intro step
    unfold CallState.handlerStep at step
    split at step
    · rename_i task running
      refine ⟨⟨task, running⟩, ?_⟩
      cases act with
      | take =>
        obtain ⟨alive, received⟩ := Option.ite_none_right_eq_some.mp step
        obtain ⟨taken, received, same⟩ := Option.map_eq_some_iff.mp received
        rw [← same]
        exact .take alive received
      | put frame =>
        obtain ⟨alive, same⟩ := Option.ite_none_right_eq_some.mp step
        rw [← Option.some.inj same]
        exact .put alive
      | dropIn | dropOut | cancelDialog | finish =>
        rw [← Option.some.inj step]
        constructor
    all_goals cases step
  · rintro ⟨⟨task, running⟩, acts⟩
    unfold CallState.handlerStep
    rw [running]
    cases acts with
    | take alive received => simp only [alive, received, running, if_true, Option.map_some]
    | put alive => simp only [alive, running, if_true]
    | dropIn | dropOut | cancelDialog | finish => simp only [running]

theorem mediaHistoryStep_handler {h k : MediaHistory κ} {act : HandlerAct}
    (step : mediaHistoryStep session h (.handlerTask act) = some k) :
    h.state.handlerStep act = some k.state ∧
      k = ⟨k.state, h.record.1, h.record.2.note session h.state (.handlerTask act) k.state⟩ := by
  obtain ⟨moved, kept⟩ := Recorded.step_eq_some_iff.mp step
  exact ⟨moved, congrArg (Recorded.mk k.state) kept⟩

theorem EchoCall.finishes_of_step {e : EchoCall κ} {media : MediaHistory κ}
    (step : mediaHistoryStep session e.media (.handlerTask .finish) = some media) :
    Echoes session e ⟨media, .selecting⟩ := by
  obtain ⟨moved, same⟩ := mediaHistoryStep_handler step
  obtain ⟨running, ended⟩ := CallState.handlerStep_eq_some_iff.mp moved
  rw [same]
  generalize media.state = t at ended
  cases ended
  exact .finishes running

theorem EchoCall.echoes_of_step {e f : EchoCall κ} {act : EchoAct} (step : e.step session act = some f) :
    Echoes session e f := by
  cases act with
  | other act =>
    obtain ⟨other, taken⟩ := Option.ite_none_left_eq_some.mp step
    obtain ⟨media, moved, rfl⟩ := Option.map_eq_some_iff.mp taken
    exact .other (Bool.eq_false_iff.mpr other) moved
  | handler branch =>
    obtain ⟨⟨act, phase⟩, turn, taken⟩ := Option.bind_eq_some_iff.mp step
    obtain ⟨media, moved, rfl⟩ := Option.map_eq_some_iff.mp taken
    unfold EchoPhase.process at turn
    split at turn
    · obtain ⟨_, same⟩ := Option.ite_none_right_eq_some.mp turn
      cases Option.some.inj same
      exact finishes_of_step moved
    · rename_i atPhase
      split at turn
      · cases turn
      · rename_i frame audioIn received
        cases Option.some.inj turn
        obtain ⟨took, same⟩ := mediaHistoryStep_handler moved
        obtain ⟨running, acts⟩ := CallState.handlerStep_eq_some_iff.mp took
        rw [same]
        generalize media.state = t at acts
        cases acts with
        | take alive again =>
          cases received.symm.trans again
          rcases Channel.recv_cases received with ⟨first, later, queue, value, rest⟩ | ⟨_, none, _⟩
          · cases value
            rw [rest]
            exact .takes running atPhase alive queue
          · cases none
      · cases Option.some.inj turn
        exact finishes_of_step moved
    · rename_i frame atPhase
      split at turn
      · rename_i audioOut sent
        cases Option.some.inj turn
        obtain ⟨put, same⟩ := mediaHistoryStep_handler moved
        obtain ⟨running, acts⟩ := CallState.handlerStep_eq_some_iff.mp put
        rw [same]
        generalize media.state = t at acts
        cases acts
        rw [sent, Option.getD_some, SendRecord.note, Channel.drop_sent sent]
        exact .sends running atPhase sent
      · cases Option.some.inj turn
        exact finishes_of_step moved
    all_goals cases turn

/-- `handle_call` has not spawned the handler. -/
def HandleCall.Early : HandleCall → Prop
  | .accepted | .started => True
  | .waiting | .sayingBye | .returned => False

/-- What a step of another party does to the handler and to its input. -/
inductive Feeds (h k : MediaHistory κ) : Prop
  | quiet : k.state.audioIn.queue = h.state.audioIn.queue →
      k.state.audioIn.receiverAlive = h.state.audioIn.receiverAlive → k.record.1.delivered = h.record.1.delivered →
      k.state.handlerTask = h.state.handlerTask → (k.state.handleCall.Early → h.state.handleCall.Early) → Feeds h k
  | feeds {frame} : h.state.audioIn.receiverAlive = true → k.state.audioIn.queue = h.state.audioIn.queue ++ [frame] →
      k.record.1.delivered = h.record.1.delivered ++ [frame] → k.state.audioIn.receiverAlive = true →
      k.state.handlerTask = h.state.handlerTask → k.state.handleCall = h.state.handleCall → Feeds h k
  | spawns : h.state.handleCall.Early → ¬ k.state.handleCall.Early → k.state.audioIn = h.state.audioIn →
      k.record.1.delivered = h.record.1.delivered → Feeds h k
  | aborts : k.state.audioIn.receiverAlive = false → (∃ exit, k.state.handlerTask = .ended exit) →
      ¬ k.state.handleCall.Early → k.record.1.delivered = h.record.1.delivered → Feeds h k

theorem Proceeds.feeds {h k : MediaHistory κ} (step : Proceeds h.state k.state)
    (delivered : k.record.1.delivered = h.record.1.delivered) : Feeds h k := by
  obtain ⟨t, record⟩ := k
  cases step with
  | starts place => exact .quiet rfl rfl delivered rfl fun _ => by rw [place]; trivial
  | runs place => exact .spawns (by rw [place]; trivial) id rfl delivered
  | ends _ _ handler =>
    rcases handler with rfl | rfl
    · exact .quiet rfl rfl delivered rfl False.elim
    · exact .aborts rfl ⟨_, rfl⟩ id delivered
  | returns => exact .quiet rfl rfl delivered rfl False.elim

theorem Hears.feeds {h k : MediaHistory κ} (step : Hears session h.incoming .receiveTask k.incoming) : Feeds h k := by
  obtain ⟨t, record, sent⟩ := k
  change Hears session h.incoming .receiveTask ⟨t, record⟩ at step
  cases step with
  | leaves other | arrives _ other => exact absurd rfl other
  | delivers running live waits queue parsed renewed accepted =>
    obtain ⟨alive, rfl⟩ := Channel.send_eq_some_iff.mp accepted
    exact .feeds alive rfl rfl alive rfl rfl
  | _ => exact .quiet rfl rfl rfl rfl id

theorem feeds_of_step {h k : MediaHistory κ} {act : CallAct} (other : act.isHandler = false)
    (step : mediaHistoryStep session h act = some k) : Feeds h k := by
  obtain ⟨hears, _⟩ := mediaHistoryStep_sides step
  obtain ⟨moved, kept⟩ := Recorded.step_eq_some_iff.mp step
  have record : k.record.1 = h.record.1.note h.state act k.state := congrArg Prod.fst kept
  cases act with
  | receiveTask => exact hears.feeds
  | handleCall => exact (CallState.handleCallStep_cases moved).feeds (congrArg ReceiveRecord.delivered record)
  | tick | peerSends | socketFails | dialogEnds =>
    have delivered : k.record.1.delivered = h.record.1.delivered := by
      rw [record]
      rfl
    obtain ⟨t, record⟩ := k
    cases Option.some.inj moved
    exact .quiet rfl rfl delivered rfl id
  | sendTask act =>
    obtain ⟨_, _, _, same⟩ := CallState.sendStep_frame moved
    exact .quiet (by rw [same]) (by rw [same]) (congrArg ReceiveRecord.delivered record) (by rw [same])
      (by rw [same]; exact id)
  | handlerTask => cases other

theorem offered_of_step {h k : MediaHistory κ} {act : CallAct} (other : act.isHandler = false)
    (step : mediaHistoryStep session h act = some k) : k.record.2.offered = h.record.2.offered := by
  have record := congrArg Prod.snd (Recorded.step_eq_some_iff.mp step).2
  have offered : k.record.2.offered = (h.record.2.note session h.state act k.state).offered :=
    congrArg SendRecord.offered record
  rw [offered]
  cases act with
  | handlerTask => cases other
  | sendTask act => cases act <;> rfl
  | tick | peerSends | socketFails | dialogEnds | handleCall | receiveTask => rfl

/-- The frames that the handler sends back are those that the receive task has
delivered to it, in their order, and until the handler ends none is lost. -/
structure EchoCall.Relays (e : EchoCall κ) : Prop where
  place : e.media.state.handleCall.Early → e.media.state.handlerTask = .unspawned
  listens : (∃ exit, e.media.state.handlerTask = .ended exit) ∨ e.media.state.audioIn.receiverAlive = true
  order : e.media.record.2.offered <+: e.media.record.1.delivered
  whole : e.media.state.audioIn.receiverAlive = true →
    e.media.record.1.delivered = e.media.record.2.offered ++ e.holding ++ e.media.state.audioIn.queue

theorem EchoCall.relays_accepted (now : Nat) : (EchoCall.accepted now : EchoCall κ).Relays where
  place := by
    intro early
    rfl
  listens := by exact Or.inr rfl
  order := List.prefix_rfl
  whole := by
    intro alive
    rfl

/-- A handler that runs listens. -/
theorem EchoCall.Relays.alive {e : EchoCall κ} (relays : e.Relays)
    (running : ∃ task, e.media.state.handlerTask = .running task) :
    e.media.state.audioIn.receiverAlive = true := by
  obtain ⟨task, running⟩ := running
  rcases relays.listens with ⟨exit, ended⟩ | alive
  · cases running.symm.trans ended
  · exact alive

theorem EchoCall.Relays.not_early {e : EchoCall κ} (relays : e.Relays)
    (running : ∃ task, e.media.state.handlerTask = .running task) : ¬ e.media.state.handleCall.Early := by
  obtain ⟨task, running⟩ := running
  intro early
  cases running.symm.trans (relays.place early)

theorem EchoCall.Relays.other {e : EchoCall κ} {media : MediaHistory κ} (relays : e.Relays)
    (feeds : Feeds e.media media) (offered : media.record.2.offered = e.media.record.2.offered) :
    EchoCall.Relays ⟨media, e.phase⟩ := by
  cases feeds with
  | quiet queue alive delivered handler early =>
    refine ⟨fun now => ?_, ?_, ?_, fun now => ?_⟩
    · rw [handler]
      exact relays.place (early now)
    · rw [handler, alive]
      exact relays.listens
    · rw [offered, delivered]
      exact relays.order
    · rw [alive] at now
      rw [delivered, offered, queue]
      exact relays.whole now
  | feeds before queue delivered alive handler place =>
    refine ⟨?_, Or.inr alive, ?_, fun _ => ?_⟩
    · rw [handler, place]
      exact relays.place
    · rw [offered, delivered]
      exact relays.order.trans (List.prefix_append _ _)
    · rw [delivered, offered, queue, relays.whole before, List.append_assoc]
      rfl
  | spawns before after audioIn delivered =>
    have alive : e.media.state.audioIn.receiverAlive = true := by
      rcases relays.listens with ⟨exit, ended⟩ | alive
      · cases ended.symm.trans (relays.place before)
      · exact alive
    refine ⟨fun now => absurd now after, Or.inr (audioIn ▸ alive), ?_, fun _ => ?_⟩
    · rw [offered, delivered]
      exact relays.order
    · rw [delivered, offered, audioIn]
      exact relays.whole alive
  | aborts dead ended late delivered =>
    refine ⟨fun now => absurd now late, Or.inl ended, ?_, fun alive => ?_⟩
    · rw [offered, delivered]
      exact relays.order
    · cases dead.symm.trans alive

theorem EchoCall.Relays.step {e f : EchoCall κ} (relays : e.Relays) (step : Echoes session e f) : f.Relays := by
  cases step with
  | other notHandler moved => exact relays.other (feeds_of_step notHandler moved) (offered_of_step notHandler moved)
  | finishes running =>
    exact ⟨fun early => absurd early (relays.not_early running), Or.inl ⟨_, rfl⟩, relays.order, nofun⟩
  | takes running phase alive queue =>
    have whole := relays.whole alive
    refine ⟨relays.place, relays.listens, relays.order, fun _ => ?_⟩
    rw [whole, queue]
    simp [holding, phase]
  | sends running phase sent =>
    have alive := relays.alive running
    have whole := relays.whole alive
    refine ⟨relays.place, relays.listens, ?_, fun _ => ?_⟩
    · rw [whole]
      simp [holding, phase]
    · rw [whole]
      simp [holding, phase]

/-- Every step of an echoing call is a step of the call. -/
theorem EchoCall.step_media {e f : EchoCall κ} {act : EchoAct} (step : e.step session act = some f) :
    ∃ own, mediaHistoryStep session e.media own = some f.media := by
  cases act with
  | other act =>
    obtain ⟨_, taken⟩ := Option.ite_none_left_eq_some.mp step
    obtain ⟨media, moved, rfl⟩ := Option.map_eq_some_iff.mp taken
    exact ⟨act, moved⟩
  | handler branch =>
    obtain ⟨turn, _, taken⟩ := Option.bind_eq_some_iff.mp step
    obtain ⟨media, moved, rfl⟩ := Option.map_eq_some_iff.mp taken
    exact ⟨_, moved⟩

end RsipstackServer
