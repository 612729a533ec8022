import RsipstackServer.PortRotation

namespace RsipstackServer
open Foundation

abbrev CallId := Nat

inductive Holder
  | other
  | call (id : CallId)
  deriving DecidableEq, Repr

/-- The UDP ports bound on the local address, with who holds each of them. -/
abbrev PortTable := UInt16 → Option Holder

/-- A pair of bound sockets, each given by its local port. -/
structure RtpSocketPair where
  rtpPortPair : RtpPortPair
  rtpSocket : UInt16
  rtcpSocket : UInt16
  deriving DecidableEq, Repr

/-- The port a socket asks for. Port 0 stands for a port that the operating
system chooses. -/
def socketPort (port chosen : UInt16) : UInt16 := if port = 0 then chosen else port

/-- `UdpSocket::bind`: the local port of the new socket. A bind fails only on a
port that is held, or where the system has no port to choose. -/
def udpBind (bound : PortTable) (port chosen : UInt16) : Option UInt16 :=
  if socketPort port chosen = 0 ∨ (bound (socketPort port chosen)).isSome then none
  else some (socketPort port chosen)

/-- Where one call of `tryAllocateSocketPair` stands. `dropping` is a failed
`RtpSocketPair::new` about to close the RTP socket it had bound. -/
inductive AllocPhase
  | idle
  | looping (numAttempts capacity : Nat)
  | bindingRtp (numAttempts capacity : Nat) (pair : RtpPortPair)
  | bindingRtcp (numAttempts capacity : Nat) (pair : RtpPortPair) (rtpSocket : UInt16)
  | dropping (numAttempts capacity : Nat) (rtpSocket : UInt16)
  | returned (result : Option RtpSocketPair)
  deriving DecidableEq

inductive AllocEvent
  | called (id : CallId)
  | drew (id : CallId) (pair : RtpPortPair)
  | foundTaken (id : CallId) (pair : RtpPortPair) (port : UInt16) (holder : Option Holder)
  | returned (id : CallId) (result : Option RtpSocketPair)
  deriving DecidableEq

def AllocEvent.caller : AllocEvent → CallId
  | .called id | .drew id _ | .foundTaken id _ _ _ | .returned id _ => id

/-- The calls that share one range and one table of ports. `history` only
records what happened, oldest first, and no step reads it. -/
structure AllocState where
  range : RtpPortRange
  bound : PortTable
  phase : CallId → AllocPhase
  history : List AllocEvent

def AllocState.start (range : RtpPortRange) (taken : UInt16 → Bool) : AllocState :=
  { range := range, bound := fun port => if taken port then some .other else none,
    phase := fun _ => .idle, history := [] }

namespace AllocState

def enter (s : AllocState) (id : CallId) (phase : AllocPhase) : AllocState :=
  { s with phase := Function.update s.phase id phase }

def record (s : AllocState) (event : AllocEvent) : AllocState :=
  { s with history := s.history ++ [event] }

def bind (s : AllocState) (port : UInt16) (holder : Option Holder) : AllocState :=
  { s with bound := Function.update s.bound port holder }

/-- The next step of one call: it enters the loop, draws a pair, binds one
socket, closes one, or returns. A `none` is a call that has returned. -/
def advance (s : AllocState) (id : CallId) (chosen : UInt16) : Option AllocState :=
  match s.phase id with
  | .idle => do
    let capacity ← s.range.capacity
    pure ((s.enter id (.looping 0 capacity.toNat)).record (.called id))
  | .looping numAttempts capacity =>
    if numAttempts < capacity then do
      let (pair, range) ← s.range.nextPortPair
      pure (({ s with range }.enter id (.bindingRtp numAttempts capacity pair)).record (.drew id pair))
    else some ((s.enter id (.returned none)).record (.returned id none))
  | .bindingRtp numAttempts capacity pair =>
    match udpBind s.bound pair.rtpPort chosen with
    | some rtpSocket =>
      some ((s.bind rtpSocket (some (.call id))).enter id (.bindingRtcp numAttempts capacity pair rtpSocket))
    | none => some ((s.enter id (.looping (numAttempts + 1) capacity)).record
        (.foundTaken id pair pair.rtpPort (s.bound pair.rtpPort)))
  | .bindingRtcp numAttempts capacity pair rtpSocket =>
    match udpBind s.bound pair.rtcpPort chosen with
    | some rtcpSocket =>
      some (((s.bind rtcpSocket (some (.call id))).enter id (.returned (some ⟨pair, rtpSocket, rtcpSocket⟩))).record
        (.returned id (some ⟨pair, rtpSocket, rtcpSocket⟩)))
    | none => some ((s.enter id (.dropping numAttempts capacity rtpSocket)).record
        (.foundTaken id pair pair.rtcpPort (s.bound pair.rtcpPort)))
  | .dropping numAttempts capacity rtpSocket =>
    some ((s.bind rtpSocket none).enter id (.looping (numAttempts + 1) capacity))
  | .returned _ => none

end AllocState

inductive AllocAct
  | advance (id : CallId) (chosen : UInt16)
  | otherBinds (port : UInt16)

/-- Calls interleave step by step, and third parties may bind more ports
meanwhile but release none. -/
def allocStep (s : AllocState) : AllocAct → Option AllocState
  | .advance id chosen => s.advance id chosen
  | .otherBinds port => if port = 0 ∨ (s.bound port).isSome then none else some (s.bind port (some .other))

/-- The ports of the sockets that a call at this point owns. -/
def AllocPhase.Holds : AllocPhase → UInt16 → Prop
  | .bindingRtcp _ _ _ rtpSocket, port | .dropping _ _ rtpSocket, port => port = rtpSocket
  | .returned (some sockets), port => port = sockets.rtpSocket ∨ port = sockets.rtcpSocket
  | _, _ => False

/-- What one step of a call can do, guards included. -/
inductive Advances (s : AllocState) (id : CallId) : AllocState → Prop
  | enter {capacity} : s.phase id = .idle → s.range.capacity = some capacity →
      Advances s id ((s.enter id (.looping 0 capacity.toNat)).record (.called id))
  | draw {numAttempts capacity pair range} : s.phase id = .looping numAttempts capacity → numAttempts < capacity →
      s.range.nextPortPair = some (pair, range) →
      Advances s id (({ s with range }.enter id (.bindingRtp numAttempts capacity pair)).record (.drew id pair))
  | exhaust {numAttempts capacity} : s.phase id = .looping numAttempts capacity → capacity ≤ numAttempts →
      Advances s id ((s.enter id (.returned none)).record (.returned id none))
  | bindRtp {numAttempts capacity pair chosen rtpSocket} : s.phase id = .bindingRtp numAttempts capacity pair →
      udpBind s.bound pair.rtpPort chosen = some rtpSocket →
      Advances s id ((s.bind rtpSocket (some (.call id))).enter id (.bindingRtcp numAttempts capacity pair rtpSocket))
  | rtpTaken {numAttempts capacity pair chosen} : s.phase id = .bindingRtp numAttempts capacity pair →
      udpBind s.bound pair.rtpPort chosen = none →
      Advances s id ((s.enter id (.looping (numAttempts + 1) capacity)).record
        (.foundTaken id pair pair.rtpPort (s.bound pair.rtpPort)))
  | bindRtcp {numAttempts capacity pair rtpSocket chosen rtcpSocket} :
      s.phase id = .bindingRtcp numAttempts capacity pair rtpSocket →
      udpBind s.bound pair.rtcpPort chosen = some rtcpSocket →
      Advances s id (((s.bind rtcpSocket (some (.call id))).enter id
        (.returned (some ⟨pair, rtpSocket, rtcpSocket⟩))).record
        (.returned id (some ⟨pair, rtpSocket, rtcpSocket⟩)))
  | rtcpTaken {numAttempts capacity pair rtpSocket chosen} :
      s.phase id = .bindingRtcp numAttempts capacity pair rtpSocket →
      udpBind s.bound pair.rtcpPort chosen = none →
      Advances s id ((s.enter id (.dropping numAttempts capacity rtpSocket)).record
        (.foundTaken id pair pair.rtcpPort (s.bound pair.rtcpPort)))
  | drop {numAttempts capacity rtpSocket} : s.phase id = .dropping numAttempts capacity rtpSocket →
      Advances s id ((s.bind rtpSocket none).enter id (.looping (numAttempts + 1) capacity))

theorem AllocState.advances {s t : AllocState} {id : CallId} {chosen : UInt16}
    (step : s.advance id chosen = some t) : Advances s id t := by
  unfold AllocState.advance at step
  split at step
  · rename_i atPhase
    obtain ⟨capacity, value, result⟩ := Option.bind_eq_some_iff.mp step
    cases Option.some.inj result
    exact .enter atPhase value
  · rename_i atPhase
    split at step
    · rename_i more
      obtain ⟨⟨pair, range⟩, drawn, result⟩ := Option.bind_eq_some_iff.mp step
      cases Option.some.inj result
      exact .draw atPhase more drawn
    · rename_i done
      cases Option.some.inj step
      exact .exhaust atPhase (Nat.not_lt.mp done)
  · rename_i atPhase
    split at step
    · rename_i bound
      cases Option.some.inj step
      exact .bindRtp atPhase bound
    · rename_i taken
      cases Option.some.inj step
      exact .rtpTaken atPhase taken
  · rename_i atPhase
    split at step
    · rename_i bound
      cases Option.some.inj step
      exact .bindRtcp atPhase bound
    · rename_i taken
      cases Option.some.inj step
      exact .rtcpTaken atPhase taken
  · rename_i atPhase
    cases Option.some.inj step
    exact .drop atPhase
  · cases step

theorem allocStep_cases {s t : AllocState} {act : AllocAct} (step : allocStep s act = some t) :
    (∃ id, Advances s id t) ∨ ∃ port, s.bound port = none ∧ t = s.bind port (some .other) := by
  cases act with
  | advance id chosen => exact Or.inl ⟨id, AllocState.advances step⟩
  | otherBinds port =>
    simp only [allocStep] at step
    split at step
    · cases step
    · rename_i free
      rw [not_or, Bool.not_eq_true, Option.isSome_eq_false_iff, Option.isNone_iff_eq_none] at free
      exact Or.inr ⟨port, free.2, (Option.some.inj step).symm⟩

theorem socketPort_of_nonzero {port : UInt16} (chosen : UInt16) (nonzero : port ≠ 0) :
    socketPort port chosen = port :=
  if_neg nonzero

theorem udpBind_eq_some {bound : PortTable} {port chosen localPort : UInt16}
    (success : udpBind bound port chosen = some localPort) :
    localPort = socketPort port chosen ∧ bound localPort = none := by
  unfold udpBind at success
  split at success
  · cases success
  · rename_i free
    rw [not_or, Bool.not_eq_true, Option.isSome_eq_false_iff, Option.isNone_iff_eq_none] at free
    cases Option.some.inj success
    exact ⟨rfl, free.2⟩

theorem udpBind_of_nonzero {bound : PortTable} {port : UInt16} (chosen : UInt16) (nonzero : port ≠ 0) :
    udpBind bound port chosen = if (bound port).isSome then none else some port := by
  simp only [udpBind, socketPort_of_nonzero chosen nonzero, nonzero, false_or]

theorem udpBind_eq_none {bound : PortTable} {port chosen : UInt16} (nonzero : port ≠ 0)
    (failure : udpBind bound port chosen = none) : ∃ holder, bound port = some holder := by
  rw [udpBind_of_nonzero chosen nonzero] at failure
  split at failure
  · rename_i taken
    exact Option.isSome_iff_exists.mp taken
  · cases failure

theorem udpBind_of_free {bound : PortTable} {port : UInt16} (chosen : UInt16) (nonzero : port ≠ 0)
    (free : bound port = none) : udpBind bound port chosen = some port := by
  rw [udpBind_of_nonzero chosen nonzero, free]
  rfl

theorem udpBind_of_taken {bound : PortTable} {port : UInt16} (chosen : UInt16) (nonzero : port ≠ 0)
    (taken : bound port ≠ none) : udpBind bound port chosen = none := by
  rw [udpBind_of_nonzero chosen nonzero, if_pos (Option.isSome_iff_ne_none.mpr taken)]

end RsipstackServer
