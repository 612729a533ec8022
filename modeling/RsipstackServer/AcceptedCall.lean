import RsipstackServer.MediaTasks
import RsipstackServer.Foundation.CancelTree
import RsipstackServer.Foundation.Run

namespace RsipstackServer
open Foundation
universe u v

inductive Task (α : Type u) (ε : Type v)
  | unspawned
  | spawned
  | running (task : α)
  | ended (exit : ε)

inductive HandlerExit
  | finished
  | aborted
  deriving DecidableEq

/-- Where `handle_call` stands once `accept` has succeeded: about to start the
session, about to spawn the handler, waiting on the dialog token, waiting for
its BYE to be sent, or done. The guard of `calls.active` lives until it is done. -/
inductive HandleCall
  | accepted
  | started
  | waiting
  | sayingBye
  | returned
  deriving DecidableEq

def HandleCall.PastWait : HandleCall → Prop
  | .sayingBye | .returned => True
  | .accepted | .started | .waiting => False

/-- One accepted call. A send task that runs with a packet waits for the
socket to take it. `timedOut` only records that the receive task cancelled its
token because of the deadline. -/
structure CallState (κ : Type u) where
  now : Nat
  tokens : CancelTree
  socket : List (Except Unit (List UInt8))
  audioIn : Channel AudioFrame
  audioOut : Channel AudioFrame
  receiveTask : Task (ReceiveLoop κ) TaskExit
  sendTask : Task (SendLoop κ × Option (List UInt8)) TaskExit
  handlerTask : Task Unit HandlerExit
  handleCall : HandleCall
  timedOut : Bool

def dialogToken : Token := []

/-- The token that `handle_call` passes to the session. -/
def sessionToken : Token := (CancelTree.empty.childToken dialogToken).1

inductive SendAct
  | start (ssrc : UInt32) (sequence : UInt16) (timestamp : UInt32)
  | cancelled
  | recv
  | sent (ok : Bool)

inductive HandlerAct
  | take
  | put (frame : AudioFrame)
  | dropIn
  | dropOut
  | cancelDialog
  | finish

/-- `dialogEnds` is a BYE of the peer or anything else that makes the SIP
stack cancel the dialog token. -/
inductive CallAct
  | tick (elapsed : Nat)
  | peerSends (datagram : List UInt8)
  | socketFails
  | dialogEnds
  | handleCall
  | receiveTask
  | sendTask (act : SendAct)
  | handlerTask (act : HandlerAct)

namespace CallState
variable {κ : Type u}

def accepted (now : Nat) : CallState κ :=
  { now := now, tokens := (CancelTree.empty.childToken dialogToken).2, socket := []
    audioIn := .unbounded, audioOut := .unbounded, receiveTask := .unspawned, sendTask := .unspawned
    handlerTask := .unspawned, handleCall := .accepted, timedOut := false }

def cancel (s : CallState κ) (token : Token) : CallState κ := { s with tokens := s.tokens.cancel token }

def endReceive (s : CallState κ) (exit : TaskExit) : CallState κ :=
  { s with receiveTask := .ended exit, audioIn := s.audioIn.dropSender }

def endSend (s : CallState κ) (exit : TaskExit) : CallState κ :=
  { s with sendTask := .ended exit, audioOut := s.audioOut.dropReceiver }

def endHandler (s : CallState κ) (exit : HandlerExit) : CallState κ :=
  { s with handlerTask := .ended exit, audioIn := s.audioIn.dropReceiver, audioOut := s.audioOut.dropSender }

def abortHandler (s : CallState κ) : CallState κ :=
  match s.handlerTask with
  | .running _ => s.endHandler .aborted
  | .unspawned | .spawned | .ended _ => s

/-- The rest of `handle_call`, which waits only for the dialog token and for
the outcome of its BYE. -/
def handleCallStep (s : CallState κ) : Option (CallState κ) :=
  match s.handleCall with
  | .accepted => some { s with receiveTask := .spawned, sendTask := .spawned, handleCall := .started }
  | .started => some { s with handlerTask := .running (), handleCall := .waiting }
  | .waiting =>
    if s.tokens.isCancelled dialogToken then some { s.abortHandler with handleCall := .sayingBye } else none
  | .sayingBye => some { s with handleCall := .returned }
  | .returned => none

def receiveStep (session : MediaSession κ) (s : CallState κ) : Option (CallState κ) :=
  match s.receiveTask with
  | .spawned => some { s with receiveTask := .running (session.receiveLoop s.now) }
  | .running task =>
    match session.rtpReceiveTask s.now (s.tokens.isCancelled sessionToken) s.audioIn s.socket task with
    | none => none
    | some (.exits exit, socket) => some ({ s with socket }.endReceive exit)
    | some (.timesOut, socket) => some { { s with socket }.cancel sessionToken with timedOut := true }
    | some (.skips, socket) => some { s with socket }
    | some (.delivers task audioIn, socket) => some { s with socket, audioIn, receiveTask := .running task }
  | .unspawned | .ended _ => none

/-- The select of the send loop is not biased, so it may take either branch
that is ready. Once it has a packet it waits for the socket alone. -/
def sendStep (session : MediaSession κ) (s : CallState κ) (act : SendAct) : Option (CallState κ) :=
  match act, s.sendTask with
  | .start ssrc sequence timestamp, .spawned =>
    some { s with sendTask := .running (session.sendLoop ssrc sequence timestamp, none) }
  | .cancelled, .running (_, none) =>
    if s.tokens.isCancelled sessionToken then some (s.endSend .cancelled) else none
  | .recv, .running (task, none) =>
    match s.audioOut.recv with
    | none => none
    | some (frame, audioOut) =>
      match session.rtpSendTask task frame with
      | .exits exit => some ({ s with audioOut }.endSend exit)
      | .skips task => some { s with audioOut, sendTask := .running (task, none) }
      | .sends task packet => some { s with audioOut, sendTask := .running (task, some packet) }
  | .sent ok, .running (task, some _) =>
    some (if ok then { s with sendTask := .running (task, none) } else s.endSend .socketError)
  | _, _ => none

/-- The handler may do anything with its ends of the channels and with the
dialog token. A frame it puts on a closed channel is lost. -/
def handlerStep (s : CallState κ) (act : HandlerAct) : Option (CallState κ) :=
  match s.handlerTask with
  | .running _ =>
    match act with
    | .take => if s.audioIn.receiverAlive then s.audioIn.recv.map fun taken => { s with audioIn := taken.2 } else none
    | .put frame =>
      if s.audioOut.senderAlive then some { s with audioOut := (s.audioOut.send frame).getD s.audioOut } else none
    | .dropIn => some { s with audioIn := s.audioIn.dropReceiver }
    | .dropOut => some { s with audioOut := s.audioOut.dropSender }
    | .cancelDialog => some (s.cancel dialogToken)
    | .finish => some (s.endHandler .finished)
  | .unspawned | .spawned | .ended _ => none

end CallState

/-- One step of a call: time passes, something arrives from outside, or one of
the four parties moves. -/
def callStep {κ : Type u} (session : MediaSession κ) (s : CallState κ) : CallAct → Option (CallState κ)
  | .tick elapsed => some { s with now := s.now + elapsed }
  | .peerSends datagram => some { s with socket := s.socket ++ [.ok datagram] }
  | .socketFails => some { s with socket := s.socket ++ [.error ()] }
  | .dialogEnds => some (s.cancel dialogToken)
  | .handleCall => s.handleCallStep
  | .receiveTask => s.receiveStep session
  | .sendTask act => s.sendStep session act
  | .handlerTask act => s.handlerStep act

end RsipstackServer
