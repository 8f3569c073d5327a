-- SUMMARY: The waits of a public HTTP request handler.
import Hooshix.Lib.Stages
import Hooshix.Tunnel.Credit

/-! # Waits of an ingress handler

`handleIngress` from the moment it takes its ingress slot until its deferred calls gave it back, with
the places at which it waits: for a control frame to be written, for the client's body, for credit,
for a slot of the data queue, for the result of a data frame, for the stream, and for the client to
read. The route and device admissions are taken just before the slot, without a wait, and are given
back with it.

Beside the handler runs the session's writer loop. It works on one frame at a time, takes control
frames first, and data frames in the order in which they were queued. Which frames other streams and
the session itself send, and what the Agent and the client do, is left to the labels.

Code between two waits takes no time, and time passes no further than the next timer. Progress is a
byte that the handler gets from the client or the stream, or that is written to the tunnel or to the
client. The client keeps its connection open: what its end does is left out.
-/

namespace Hooshix.Gateway

open TunnelWindow

/-- `requestStreamChunkSize`. -/
def requestStreamChunkSize : Int := 32 * 1024

/-- The slots of `dataWrites`. -/
def dataWritesCapacity : Nat := 2

/-- What the handler reads from the stream for. -/
inductive ResponsePart where
  | head
  | body
  /-- `response.Body.Close` reads what is left -/
  | drain
  deriving DecidableEq, Repr

/-- Where a handler is. `body` says whether there is still something to read of the request body. -/
inductive IngressPlace where
  /-- has no slot yet -/
  | arriving
  /-- waits for its `stream_open` to be written -/
  | openingStream (body : Bool)
  /-- waits for its first `stream_window_update` to be written -/
  | grantingCredit (body : Bool)
  /-- runs `Request.Write` -/
  | serializing (body : Bool)
  | readingBody
  /-- waits in `Window.Take` -/
  | takingCredit (body : Bool) (size : Int)
  /-- waits for a slot of `dataWrites` -/
  | queueing (body : Bool)
  /-- waits for the result of its data frame -/
  | awaitingResult (body : Bool)
  /-- closes the request body after a failure, which reads from the client -/
  | closingBody
  /-- works on what it read of the response -/
  | handling (part : ResponsePart)
  /-- waits in `stream.Read` -/
  | reading (part : ResponsePart)
  /-- waits in `stream.Read` for its `stream_window_update` to be written -/
  | returningCredit (part : ResponsePart)
  /-- writes the response head to the client -/
  | writingHead
  /-- writes a piece of the response body to the client -/
  | writingBody
  /-- runs its deferred calls -/
  | ending
  /-- waits for its `stream_close` or `stream_error` to be written -/
  | sendingEnd
  /-- has given back its slot -/
  | returned
  deriving DecidableEq, Repr

namespace IngressPlace

/-- The handler has the slot and the admissions. -/
def holdsSlot : IngressPlace → Bool
  | .arriving | .returned => false
  | _ => true

/-- The response phase timer runs. -/
def inPhase : IngressPlace → Bool
  | .handling _ | .reading _ | .returningCredit _ | .writingHead | .writingBody => true
  | _ => false

/-- Where a failed serialization leads: `Request.Write` closes the body. -/
def failed : Bool → IngressPlace
  | true => .closingBody
  | false => .ending

/-- Where a failed read of the stream leads. -/
def afterRead : ResponsePart → IngressPlace
  | .head | .drain => .ending
  | .body => .handling .drain

end IngressPlace

/-- The frame the writer loop works on: whether it is the handler's data frame, and since when. -/
structure FrameWrite where
  mine : Bool
  since : Int
  deriving DecidableEq, Repr

structure Ingress where
  stage : Stage IngressPlace
  /-- the session grants credit, as version 2 does -/
  flowControlled : Bool
  window : Option Window
  /-- the read deadline of the public connection -/
  readDeadline : Option Int
  /-- when the response phase was last armed -/
  armed : Int
  /-- the response phase cancelled the stream's context -/
  expired : Bool
  writing : Option FrameWrite
  /-- the queued data frames, with whether each is the handler's -/
  dataWrites : List Bool
  /-- the control frames begun since the handler queued its data frame -/
  overtaken : Nat
  /-- `sess.done` is closed -/
  done : Bool
  deriving DecidableEq, Repr

/-- What a read of the request body gives. -/
inductive BodyRead where
  | bytes
  | ended
  | failed
  deriving DecidableEq, Repr

namespace Ingress

inductive RequestAct where
  | acquire (body : Bool)
  | readBody
  | bodyRead (result : BodyRead)
  /-- `requestStreamWriter.Write` sends a chunk -/
  | forward (size : Int)
  /-- the byte budget or a limit ends the serialization -/
  | abandon
  | takeCredit
  | enqueueData
  | sendFails
  | bodyClosed
  | requestWritten
  deriving DecidableEq, Repr

inductive ResponseAct where
  | readStream
  /-- `stream.Read` gets bytes, from its buffer or from a chunk that gives credit back -/
  | streamRead (chunk : Bool)
  | readFails
  | headParsed (accepted : Bool)
  | headFails
  | writePublic
  | publicWritten (bytes ok : Bool)
  | copyDone
  | responseClosed
  | endStream (attached : Bool)
  deriving DecidableEq, Repr

inductive SessionAct where
  /-- the Agent grants credit -/
  | grant (credit : Int)
  /-- the Agent or the session ends the stream -/
  | streamEnds
  /-- another stream queues a data frame -/
  | otherData
  | writerControl
  | writerData
  | frameWritten
  | frameFails
  | sessionEnds
  deriving DecidableEq, Repr

inductive Label where
  | tick (now : Int)
  | request (act : RequestAct)
  | response (act : ResponseAct)
  /-- `sendFrame` returns from a control frame of the handler -/
  | controlDone (ok : Bool)
  | phaseExpires
  | session (act : SessionAct)
  deriving DecidableEq, Repr

/-- A session at rest, and a handler that is about to take its slot. -/
def start (flowControlled : Bool) (now : Int) : Ingress where
  stage := .start now .arriving
  flowControlled
  window := none
  readDeadline := none
  armed := now
  expired := false
  writing := none
  dataWrites := []
  overtaken := 0
  done := false

def enter (s : Ingress) (place : IngressPlace) : Ingress :=
  { s with stage := s.stage.enter place }

def advance (s : Ingress) (place : IngressPlace) : Ingress :=
  { s with stage := s.stage.advance place }

/-- Bytes of the response moved, and the response phase is armed again. -/
def rearm (s : Ingress) (place : IngressPlace) : Ingress :=
  { s.advance place with armed := s.stage.now }

/-! ## Time -/

section Time

variable (limits : Limits)

/-- The timers that are set at the handler's place. -/
def placeTimers (s : Ingress) : List Int :=
  match s.stage.place with
  | .openingStream _ | .grantingCredit _ | .queueing _ | .returningCredit _ | .writingHead
  | .writingBody | .sendingEnd => [s.stage.since + limits.writeTimeout]
  | .readingBody => [s.stage.since + limits.readTimeout]
  -- the deadline of the last read of the body, if there was one
  | .closingBody => s.readDeadline.toList
  | _ => []

def phaseTimer (s : Ingress) : List Int :=
  if s.stage.place.inPhase && !s.expired then [s.armed + limits.responsePhaseTimeout] else []

/-- Every frame is written under a deadline. -/
def writeTimer (s : Ingress) : List Int :=
  match s.writing with
  | some w => [w.since + limits.writeTimeout]
  | none => []

def timers (s : Ingress) : List Int :=
  s.placeTimers limits ++ s.phaseTimer limits ++ s.writeTimer limits

/-- The writer loop has a data frame to take. -/
def writerReady (s : Ingress) : Bool :=
  !s.done && s.writing.isNone && !s.dataWrites.isEmpty

/-- The handler has something to do at once. -/
def handlerReady (s : Ingress) : Bool :=
  match s.stage.place with
  | .serializing _ | .handling _ | .ending => true
  | .takingCredit _ size => s.window.any fun window => decide (window.take size ≠ .waits)
  | .reading _ => s.expired
  | .openingStream _ | .grantingCredit _ | .queueing _ | .awaitingResult _ | .returningCredit _
  | .sendingEnd => s.done
  | _ => false

def passes (s : Ingress) (now : Int) : Bool :=
  !s.writerReady && !s.handlerReady && s.stage.passes (s.timers limits) now

end Time

/-! ## Steps -/

section Steps

variable (limits : Limits)

/-- The steps up to the end of the request. -/
def requestStep (s : Ingress) : RequestAct → Option Ingress
  | .acquire body =>
    match s.stage.place with
    | .arriving =>
      some { s.advance (.openingStream body) with
        window := if s.flowControlled then some Tunnel.CreditState.openWindow else none }
    | _ => none
  | .readBody =>
    match s.stage.place with
    | .serializing true =>
      some { s.enter .readingBody with readDeadline := some (s.stage.now + limits.readTimeout) }
    | _ => none
  | .bodyRead result =>
    match s.stage.place, result with
    | .readingBody, .bytes => some (s.advance (.serializing true))
    | .readingBody, .ended => some (s.enter (.serializing false))
    | .readingBody, .failed => some (s.enter (.failed true))
    | _, _ => none
  | .forward size =>
    match s.stage.place with
    | .serializing body =>
      if 0 < size ∧ size ≤ requestStreamChunkSize then
        some (s.enter (if s.window.isSome then .takingCredit body size else .queueing body))
      else none
    | _ => none
  | .abandon =>
    match s.stage.place with
    | .serializing body => some (s.enter (.failed body))
    | _ => none
  | .takeCredit =>
    match s.stage.place, s.window with
    | .takingCredit body size, some window =>
      match window.take size with
      | .taken window => some { s.enter (.queueing body) with window := some window }
      | .failed _ => some (s.enter (.failed body))
      | .waits => none
    | _, _ => none
  | .enqueueData =>
    match s.stage.place with
    | .queueing body =>
      if s.dataWrites.length < dataWritesCapacity then
        some { s.enter (.awaitingResult body) with
          dataWrites := s.dataWrites ++ [true], overtaken := 0 }
      else none
    | _ => none
  | .sendFails =>
    match s.stage.place with
    | .queueing body =>
      if s.done || s.stage.since + limits.writeTimeout ≤ s.stage.now then
        some (s.enter (.failed body))
      else none
    -- an accepted data frame is waited for without a deadline of its own
    | .awaitingResult body => if s.done then some (s.enter (.failed body)) else none
    | _ => none
  | .bodyClosed =>
    match s.stage.place with
    | .closingBody => some (s.enter .ending)
    | _ => none
  | .requestWritten =>
    match s.stage.place with
    | .serializing false => some { s.enter (.handling .head) with armed := s.stage.now }
    | _ => none

/-- The steps from the response on. -/
def responseStep (s : Ingress) : ResponseAct → Option Ingress
  | .readStream =>
    match s.stage.place with
    | .handling part => some (s.enter (.reading part))
    | _ => none
  | .streamRead chunk =>
    match s.stage.place with
    | .reading part =>
      -- the credit goes back before `Read` returns
      if chunk && s.window.isSome then some (s.enter (.returningCredit part))
      else some (s.rearm (.handling part))
    | _ => none
  | .readFails =>
    match s.stage.place with
    | .reading part => some (s.enter (.afterRead part))
    | _ => none
  | .headParsed accepted =>
    match s.stage.place with
    | .handling .head => some (s.enter (if accepted then .writingHead else .handling .drain))
    | _ => none
  | .headFails =>
    match s.stage.place with
    | .handling .head => some (s.enter .ending)
    | _ => none
  | .writePublic =>
    match s.stage.place with
    | .handling .body => some (s.enter .writingBody)
    | _ => none
  | .publicWritten bytes ok =>
    match s.stage.place with
    | .writingHead => some (s.enter (.handling (if ok then .body else .drain)))
    | .writingBody =>
      if bytes then some (s.rearm (.handling (if ok then .body else .drain)))
      else some (s.enter (.handling .drain))
    | _ => none
  | .copyDone =>
    match s.stage.place with
    | .handling .body => some (s.enter (.handling .drain))
    | _ => none
  | .responseClosed =>
    match s.stage.place with
    | .handling .drain => some (s.enter .ending)
    | _ => none
  | .endStream attached =>
    match s.stage.place with
    | .ending => some (s.enter (if attached then .sendingEnd else .returned))
    | _ => none

/-- `sendFrame` returns from the control frame the handler waits for. -/
def controlDone (s : Ingress) (ok : Bool) : Option Ingress :=
  match s.stage.place with
  | .openingStream body =>
    if !ok then some (s.enter .returned)
    else some (s.enter (if s.window.isSome then .grantingCredit body else .serializing body))
  | .grantingCredit body => some (s.enter (if ok then .serializing body else .returned))
  -- a failed credit return is only logged
  | .returningCredit part => some (s.rearm (.handling part))
  | .sendingEnd => some (s.enter .returned)
  | _ => none

/-- The response phase timer fires and cancels the stream's context. -/
def phaseExpires (s : Ingress) : Option Ingress :=
  if s.stage.place.inPhase && !s.expired && s.armed + limits.responsePhaseTimeout ≤ s.stage.now then
    some { s with expired := true }
  else none

/-- The writer loop wrote its frame; the handler goes on when it was its own. -/
def frameWritten (s : Ingress) : Option Ingress :=
  match s.writing, s.stage.place with
  | some ⟨true, _⟩, .awaitingResult body =>
    some { s.advance (.serializing body) with writing := none }
  | some _, _ => some { s with writing := none }
  | none, _ => none

/-- The steps of the session and its writer loop. -/
def sessionStep (s : Ingress) : SessionAct → Option Ingress
  | .grant credit =>
    match s.window with
    | some window =>
      match window.add credit with
      | .ok window => some { s with window := some window }
      | .error _ => none
    | none => none
  | .streamEnds => some { s with window := s.window.map (·.close none) }
  | .otherData =>
    if s.dataWrites.length < dataWritesCapacity then
      some { s with dataWrites := s.dataWrites ++ [false] }
    else none
  | .writerControl =>
    if !s.done && s.writing.isNone then
      some { s with writing := some ⟨false, s.stage.now⟩, overtaken := s.overtaken + 1 }
    else none
  | .writerData =>
    if !s.done && s.writing.isNone then
      match s.dataWrites with
      | mine :: rest => some { s with writing := some ⟨mine, s.stage.now⟩, dataWrites := rest }
      | [] => none
    else none
  | .frameWritten => s.frameWritten
  -- a failed write ends the session
  | .frameFails => if s.writing.isSome then some { s with writing := none, done := true } else none
  | .sessionEnds => some { s with done := true }

def step (s : Ingress) : Label → Option Ingress
  | .tick now => if s.passes limits now then some { s with stage := s.stage.wait now } else none
  | .request act => s.requestStep limits act
  | .response act => s.responseStep act
  | .controlDone ok => s.controlDone ok
  | .phaseExpires => s.phaseExpires limits
  | .session act => s.sessionStep act

end Steps

end Ingress

end Hooshix.Gateway
