import RsipstackServer.AllocationRecord
import RsipstackServer.CallSteps

namespace RsipstackServer
open Foundation
universe u v
variable {κ : Type u}

def Task.hasEnded {α : Type u} {ε : Type v} : Task α ε → Bool
  | .ended _ => true
  | .unspawned | .spawned | .running _ => false

/-- Both tasks of the session have ended, and with the later one the last
reference to their socket is gone. -/
def CallState.mediaEnded (call : CallState κ) : Bool := call.receiveTask.hasEnded && call.sendTask.hasEnded

/-- Where `handle_call` stands with the sockets it was given: still in
`tryAllocateSocketPair` or about to connect them, about to make a
`MediaSession` of them, about to accept the call, closing them after one of
these has failed, or past the acceptance. -/
inductive CallLine (κ : Type u)
  | allocating
  | connected
  | created
  | closing (left : List UInt16)
  | media (call : CallState κ)

/-- All calls of a server, with the ports they share. A call that has got its
sockets keeps them in its phase. -/
structure LiveCalls (κ : Type u) where
  alloc : AllocState
  line : CallId → CallLine κ

inductive LiveAct
  | alloc (act : AllocAct)
  | connect (id : CallId) (ok : Bool)
  | create (id : CallId) (ok : Bool)
  | accept (id : CallId) (ok : Bool) (now : Nat)
  | close (id : CallId)
  | media (id : CallId) (act : CallAct)

/-- What a step of an accepted call closes: `start` moves the RTP socket out of
the pair and drops the rest of it, and the last task to end drops the RTP
socket. -/
def RtpSocketPair.closedBy (sockets : RtpSocketPair) (call after : CallState κ) : Option UInt16 :=
  if call.handleCall = .accepted ∧ after.handleCall ≠ .accepted then some sockets.rtcpSocket
  else if after.mediaEnded && !call.mediaEnded then some sockets.rtpSocket
  else none

namespace LiveCalls

def start (range : RtpPortRange) (taken : UInt16 → Bool) : LiveCalls κ := ⟨.start range taken, fun _ => .allocating⟩

def enter (s : LiveCalls κ) (id : CallId) (line : CallLine κ) : LiveCalls κ :=
  { s with line := Function.update s.line id line }

def close (s : LiveCalls κ) : Option UInt16 → LiveCalls κ
  | none => s
  | some port => { s with alloc := s.alloc.bind port none }

/-- The next stage of the setup. If it fails the pair is dropped, its fields in
their order. -/
def setUp (s : LiveCalls κ) (id : CallId) (sockets : RtpSocketPair) (ok : Bool) (next : CallLine κ) : LiveCalls κ :=
  s.enter id (if ok then next else .closing [sockets.rtpSocket, sockets.rtcpSocket])

@[simp] theorem enter_line_self (s : LiveCalls κ) (id : CallId) (line : CallLine κ) :
    (s.enter id line).line id = line := Function.update_self ..

theorem enter_line_of_ne (s : LiveCalls κ) {id other : CallId} (line : CallLine κ) (apart : other ≠ id) :
    (s.enter id line).line other = s.line other := Function.update_of_ne apart ..

@[simp] theorem enter_alloc (s : LiveCalls κ) (id : CallId) (line : CallLine κ) :
    (s.enter id line).alloc = s.alloc := rfl

@[simp] theorem close_line (s : LiveCalls κ) (port : Option UInt16) :
    (s.close port).line = s.line := by cases port <;> rfl

@[simp] theorem close_phase (s : LiveCalls κ) (port : Option UInt16) :
    (s.close port).alloc.phase = s.alloc.phase := by
  cases port <;> rfl

end LiveCalls

/-- One step of a call or of a third party. The setup does not look at the
token of the dialog. -/
def liveStep (session : CallId → MediaSession κ) (s : LiveCalls κ) : LiveAct → Option (LiveCalls κ)
  | .alloc act => (allocStep s.alloc act).map fun alloc => { s with alloc }
  | .connect id ok =>
    match s.line id, s.alloc.phase id with
    | .allocating, .returned (some sockets) => some (s.setUp id sockets ok .connected)
    | _, _ => none
  | .create id ok =>
    match s.line id, s.alloc.phase id with
    | .connected, .returned (some sockets) => some (s.setUp id sockets ok .created)
    | _, _ => none
  | .accept id ok now =>
    match s.line id, s.alloc.phase id with
    | .created, .returned (some sockets) => some (s.setUp id sockets ok (.media (.accepted now)))
    | _, _ => none
  | .close id =>
    match s.line id with
    | .closing (port :: left) => some ((s.close (some port)).enter id (.closing left))
    | _ => none
  | .media id act =>
    match s.line id, s.alloc.phase id with
    | .media call, .returned (some sockets) => do
      let after ← callStep (session id) call act
      pure ((s.close (sockets.closedBy call after)).enter id (.media after))
    | _, _ => none

/-- The stages before the media session starts. -/
def CallLine.inSetup : CallLine κ → Bool
  | .allocating | .connected | .created => true
  | .closing _ | .media _ => false

def LiveAct.setsUp : LiveAct → Bool
  | .connect _ _ | .create _ _ | .accept _ _ _ => true
  | .alloc _ | .close _ | .media _ _ => false

/-- What one step can do to the calls, guards included. -/
inductive Lives (session : CallId → MediaSession κ) (s : LiveCalls κ) : LiveAct → LiveCalls κ → Prop
  | allocates {id chosen alloc} : Advances s.alloc id alloc → s.alloc.advance id chosen = some alloc →
      Lives session s (.alloc (.advance id chosen)) { s with alloc }
  | otherBinds {port} : s.alloc.bound port = none →
      Lives session s (.alloc (.otherBinds port)) { s with alloc := s.alloc.bind port (some .other) }
  | setsUp {act id sockets next} : act.setsUp = true → (s.line id).inSetup = true →
      s.alloc.phase id = .returned (some sockets) →
      (next = .connected ∨ next = .created ∨ ∃ now, next = .media (.accepted now)) →
        Lives session s act (s.enter id next)
  | fails {act id sockets} : act.setsUp = true → (s.line id).inSetup = true →
      s.alloc.phase id = .returned (some sockets) →
      Lives session s act (s.enter id (.closing [sockets.rtpSocket, sockets.rtcpSocket]))
  | closes {id port left} : s.line id = .closing (port :: left) →
      Lives session s (.close id) ((s.close (some port)).enter id (.closing left))
  | plays {id act sockets call after} : s.line id = .media call → s.alloc.phase id = .returned (some sockets) →
      callStep (session id) call act = some after →
      Lives session s (.media id act) ((s.close (sockets.closedBy call after)).enter id (.media after))

theorem LiveCalls.setUp_lives {session : CallId → MediaSession κ} {s : LiveCalls κ} {act : LiveAct} {id : CallId}
    {sockets : RtpSocketPair} {ok : Bool} {next : CallLine κ} (setsUp : act.setsUp = true)
    (stage : (s.line id).inSetup = true) (returned : s.alloc.phase id = .returned (some sockets))
    (later : next = .connected ∨ next = .created ∨ ∃ now, next = .media (.accepted now)) :
    Lives session s act (s.setUp id sockets ok next) := by
  cases ok with
  | true => exact .setsUp setsUp stage returned later
  | false => exact .fails setsUp stage returned

theorem lives_of_step {session : CallId → MediaSession κ} {s t : LiveCalls κ} {act : LiveAct}
    (step : liveStep session s act = some t) : Lives session s act t := by
  unfold liveStep at step
  split at step
  · rename_i act
    obtain ⟨alloc, moved, rfl⟩ := Option.map_eq_some_iff.mp step
    cases act with
    | advance id chosen => exact .allocates (AllocState.advances moved) moved
    | otherBinds port =>
      obtain ⟨free, same⟩ := Option.ite_none_left_eq_some.mp moved
      rw [not_or, Bool.not_eq_true, Option.isSome_eq_false_iff, Option.isNone_iff_eq_none] at free
      cases Option.some.inj same
      exact .otherBinds free.2
  · rename_i id ok
    split at step
    · rename_i stage returned
      cases Option.some.inj step
      exact LiveCalls.setUp_lives rfl (by rw [stage]; rfl) returned (Or.inl rfl)
    · cases step
  · rename_i id ok
    split at step
    · rename_i stage returned
      cases Option.some.inj step
      exact LiveCalls.setUp_lives rfl (by rw [stage]; rfl) returned (Or.inr (Or.inl rfl))
    · cases step
  · rename_i id ok now
    split at step
    · rename_i stage returned
      cases Option.some.inj step
      exact LiveCalls.setUp_lives rfl (by rw [stage]; rfl) returned (Or.inr (Or.inr ⟨now, rfl⟩))
    · cases step
  · split at step
    · rename_i stage
      cases Option.some.inj step
      exact .closes stage
    · cases step
  · split at step
    · rename_i stage returned
      obtain ⟨after, moved, same⟩ := Option.bind_eq_some_iff.mp step
      cases Option.some.inj same
      exact .plays stage returned moved
    · cases step

end RsipstackServer
