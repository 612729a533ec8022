import RsipstackServer.CallSteps
import RsipstackServer.SdpOffer
import RsipstackServer.Foundation.Counter

namespace RsipstackServer
open Foundation
universe u

inductive RejectReason
  | sdpOfferInvalid
  | rtpPortPoolExhausted
  | udpConnectFailed
  | noSupportedCodec
  | codecInitFailed
  deriving DecidableEq

instance : Fintype RejectReason :=
  ⟨{.sdpOfferInvalid, .rtpPortPoolExhausted, .udpConnectFailed, .noSupportedCodec, .codecInitFailed},
    fun reason => by cases reason <;> decide⟩

instance : Fintype CodecKind := ⟨{.l16, .opus, .g722, .pcmu, .pcma}, fun kind => by cases kind <;> decide⟩

inductive StatusCode
  | notAcceptableHere
  | serviceUnavailable
  | serverInternalError
  deriving DecidableEq

/-- The metrics that `handle_call` moves. -/
structure CallMetrics where
  callsRejected : Counter RejectReason
  callsAccepted : Counter CodecKind
  callsActive : Int

inductive FinalResponse
  | accept
  | reject (code : StatusCode) (reason : Option Text)
  deriving DecidableEq

/-- A call of `accept` or `reject`, and whether it succeeded. -/
structure Attempt where
  response : FinalResponse
  sent : Bool
  deriving DecidableEq

inductive Outcome
  | accepted (codec : CodecKind)
  | rejected (reason : RejectReason)
  deriving DecidableEq

/-- What an exit of `handle_call` counts before it rejects the call. -/
structure Refusal where
  reason : RejectReason
  code : StatusCode
  text : Text

def portsExhausted : Refusal :=
  ⟨.rtpPortPoolExhausted, .serviceUnavailable, "No free RTP/RTCP port pair available".toList⟩

def connectFailed : Refusal := ⟨.udpConnectFailed, .serverInternalError, "Unable to connect to RTP peer".toList⟩

def codecFailed : Refusal := ⟨.codecInitFailed, .serverInternalError, "Unable to create codec".toList⟩

def SdpParseError.rejectReason : SdpParseError → RejectReason
  | .noSupportedCodec => .noSupportedCodec
  | .parseError _ | .missingConnectionAddress | .invalidAddress _ | .noAudioMedia => .sdpOfferInvalid

/-- The operation that `handle_call` comes to next. An early return says
whether it returns `Ok`. -/
inductive CallPhase
  | invited
  | unparsed (e : SdpParseError)
  | parsed (offer : SdpOffer)
  | bound (offer : SdpOffer)
  | connected (offer : SdpOffer)
  | refused (refusal : Refusal)
  | created (offer : SdpOffer)
  | rung (offer : SdpOffer)
  | answered (place : HandleCall)
  | returned (ok : Bool)

/-- One run of `handle_call`. What was counted for the call and what was sent
to its peer is only recorded. -/
structure HandledCall where
  phase : CallPhase
  outcomes : List Outcome
  responses : List Attempt

/-- One run of `handle_call` together with the metrics that all of them share. -/
structure Handling where
  call : HandledCall
  metrics : CallMetrics

namespace Handling

def enter (h : Handling) (phase : CallPhase) : Handling := { h with call.phase := phase }

def respond (h : Handling) (response : FinalResponse) (sent : Bool) : Handling :=
  { h with call.responses := h.call.responses ++ [⟨response, sent⟩] }

def countRejected (h : Handling) (reason : RejectReason) : Handling :=
  { h with
    call.outcomes := h.call.outcomes ++ [.rejected reason]
    metrics.callsRejected := h.metrics.callsRejected.increment reason }

def countAccepted (h : Handling) (codec : CodecKind) : Handling :=
  { h with
    call.outcomes := h.call.outcomes ++ [.accepted codec]
    metrics.callsAccepted := h.metrics.callsAccepted.increment codec }

/-- `ScopedGauge::new` and its drop. -/
def guardNew (h : Handling) : Handling := { h with metrics.callsActive := h.metrics.callsActive + 1 }

def guardDrop (h : Handling) : Handling := { h with metrics.callsActive := h.metrics.callsActive - 1 }

end Handling

/-- How `handle_call` goes on after `accept`. -/
def HandleCall.next : HandleCall → Option HandleCall
  | .accepted => some .started
  | .started => some .waiting
  | .waiting => some .sayingBye
  | .sayingBye => some .returned
  | .returned => none

/-- The operations of `handle_call` with their outcomes. -/
inductive HandleAct
  | parse (result : Except SdpParseError SdpOffer)
  | allocate (found : Bool)
  | connect (ok : Bool)
  | create (ok : Bool)
  | ringing (ok : Bool)
  | accept (ok : Bool)
  | reject (ok : Bool)
  | proceed

/-- One operation of `handle_call` and the code around it. The code does not
pause between a response and the bookkeeping next to it, so that both are one
step, in the order of the source. -/
def handleStep (h : Handling) (act : HandleAct) : Option Handling :=
  match act, h.call.phase with
  | .parse (.ok offer), .invited => some (h.enter (.parsed offer))
  | .parse (.error e), .invited => some (h.enter (.unparsed e))
  | .reject ok, .unparsed e =>
    let h := h.respond (.reject .notAcceptableHere none) ok
    some (if ok then (h.countRejected e.rejectReason).enter (.returned true) else h.enter (.returned false))
  | .allocate found, .parsed offer => some (h.enter (if found then .bound offer else .refused portsExhausted))
  | .connect ok, .bound offer => some (h.enter (if ok then .connected offer else .refused connectFailed))
  | .create ok, .connected offer => some (h.enter (if ok then .created offer else .refused codecFailed))
  | .reject ok, .refused refusal =>
    let h := h.countRejected refusal.reason
    some ((h.respond (.reject refusal.code (some refusal.text)) ok).enter (.returned ok))
  | .ringing _, .created offer => some (h.enter (.rung offer))
  | .accept ok, .rung offer =>
    let h := h.respond .accept ok
    some (if ok then (h.guardNew.countAccepted offer.codecKind).enter (.answered .accepted)
      else h.enter (.returned true))
  | .proceed, .answered place =>
    place.next.map fun next =>
      if next = .returned then (h.enter (.answered next)).guardDrop else h.enter (.answered next)
  | _, _ => none

/-- The server with all its runs of `handle_call`. -/
structure CallServer where
  calls : List HandledCall
  metrics : CallMetrics

def CallServer.start : CallServer := ⟨[], ⟨.zero, .zero, 0⟩⟩

inductive ServerAct
  | invite
  | handle (i : Nat) (act : HandleAct)

def serverStep (s : CallServer) : ServerAct → Option CallServer
  | .invite => some { s with calls := s.calls ++ [⟨.invited, [], []⟩] }
  | .handle i act => do
    let call ← s.calls[i]?
    let h ← handleStep ⟨call, s.metrics⟩ act
    pure ⟨s.calls.set i h.call, h.metrics⟩

/-- The accepted call of the media model moves through the same places. -/
theorem CallState.handleCallStep_next {κ : Type u} {s t : CallState κ} (step : s.handleCallStep = some t) :
    s.handleCall.next = some t.handleCall := by
  cases CallState.handleCallStep_cases step with
  | starts place | runs place | ends place | returns place =>
    rw [place]
    rfl

end RsipstackServer
