-- SUMMARY: The stream table of a Gateway session under concurrent opens, ends and terminations.
import Hooshix.Contract
import Hooshix.Errors
import Hooshix.Lib.Exclusive
import Hooshix.Lib.StepSystem

/-! # The streams of a session

Calls that run at once on one session: `openStreamTarget`, the detaching calls (`finishStream`,
`closeStream`, `errorStream`) and the terminations (`failAll`, then `close`). A call moves by the
critical sections of `sess.mu` and by the channel operations of `sendFrame`; the writer loop empties
the control queue. `stream.finish` and `window.Close` are one step each. Data frames are left out: a
data write that fails is a termination. The writer loop sees `done` late, so it is not stopped by it
here.
-/

namespace Hooshix.Gateway

open Contract

/-- A stream object. It is `registered` while it stands in `sess.streams`, `finished` once its
    terminal channel is closed. -/
structure StreamObject where
  id : Nat
  /-- it has a window: a v2 session, and no datagrams -/
  windowed : Bool
  registered : Bool
  finished : Bool
  windowClosed : Bool
  deriving DecidableEq, Repr

/-- Its readers and its blocked senders are released. -/
def StreamObject.released (stream : StreamObject) : Bool :=
  stream.finished && (!stream.windowed || stream.windowClosed)

/-- The messages that end a stream at the Agent. -/
inductive EndMessage where
  | streamClose
  | streamError
  deriving DecidableEq, Repr

inductive StreamMessage where
  | streamOpen
  /-- the first grant of an open -/
  | windowUpdate
  | ending (message : EndMessage)
  /-- heartbeats, half-closes, revocations, later grants -/
  | other
  deriving DecidableEq, Repr

def StreamMessage.isEnd : StreamMessage → Bool
  | .ending _ => true
  | _ => false

inductive RequestStatus where
  /-- in the control queue -/
  | queued
  /-- the writer is past the test of the request's context -/
  | writing
  /-- the result is in its channel -/
  | answered (err : Option GoError)
  deriving DecidableEq, Repr

/-- A control request; its index is its result channel. -/
structure ControlRequest where
  streamID : Nat
  message : StreamMessage
  /-- its context is done -/
  expired : Bool
  status : RequestStatus
  /-- the frame reached the connection -/
  onWire : Bool
  deriving DecidableEq, Repr

/-- What a call does once `detachStream` returned. -/
inductive AfterDetach where
  /-- `finishStream` -/
  | finishOnly
  /-- `closeStream` or `errorStream`, if there was a stream to detach -/
  | sendEnd (streamID : Nat) (message : EndMessage)
  /-- the error paths of `openStreamTarget` -/
  | failOpen (ref : Nat) (err : GoError)
  deriving DecidableEq, Repr

/-- Where a call is. Streams are named by their index among all stream objects. -/
inductive Call where
  | allocating (datagram : Bool)
  | opening (ref : Nat)
  | opened (ref ticket : Nat)
  | granting (ref : Nat)
  | granted (ref ticket : Nat)
  /-- `openStreamTarget` returned the stream -/
  | returned (ref : Nat)
  /-- it returned an error before there was a stream -/
  | refused (err : GoError)
  /-- it returned an error and gave its stream up -/
  | failed (ref : Nat) (err : GoError)
  | detaching (streamID : Nat) (after : AfterDetach)
  | finishing (ref : Nat) (after : AfterDetach)
  | closingWindow (ref : Nat) (after : AfterDetach)
  | sendingEnd (streamID : Nat) (message : EndMessage)
  | waitingEnd (ticket : Nat)
  | swapping
  /-- `failAll` has yet to finish these streams -/
  | failing (refs : List Nat)
  | failingWindow (ref : Nat) (refs : List Nat)
  /-- `close` is about to close `done` -/
  | closing
  | ended
  deriving DecidableEq, Repr

/-- How a call goes on when `detachStream` returned; `detached` says that there was a stream. -/
def AfterDetach.next (after : AfterDetach) (detached : Bool) : Call :=
  match after with
  | .finishOnly => .ended
  | .sendEnd streamID message => if detached then .sendingEnd streamID message else .ended
  | .failOpen ref err => .failed ref err

inductive Writer where
  | idle
  | writing (ticket : Nat)
  /-- the sequence is exhausted: it terminates the session and then answers the request -/
  | exhausted (ticket : Nat) (err : GoError)
  /-- its write has failed, or it is done -/
  | stopped
  deriving DecidableEq, Repr

structure SessionStreams where
  flowControlled : Bool
  maxStreamsPerSession : Int
  nextID : Nat
  streams : List StreamObject
  calls : List Call
  requests : List ControlRequest
  controlWrites : List Nat
  writer : Writer
  /-- some `failAll` has swapped the table -/
  swapped : Bool
  done : Bool
  deriving DecidableEq, Repr

namespace SessionStreams

def start (flowControlled : Bool) (maxStreamsPerSession : Int) (nextID : Nat) : SessionStreams where
  flowControlled := flowControlled
  maxStreamsPerSession := maxStreamsPerSession
  nextID := nextID
  streams := []
  calls := []
  requests := []
  controlWrites := []
  writer := .idle
  swapped := false
  done := false

/-- Call `i` moves on. -/
def goto (s : SessionStreams) (i : Nat) (call : Call) : SessionStreams :=
  { s with calls := s.calls.set i call }

def updateStream (s : SessionStreams) (ref : Nat) (f : StreamObject → StreamObject) :
    SessionStreams :=
  { s with streams := s.streams.modify ref f }

def updateRequest (s : SessionStreams) (ticket : Nat) (f : ControlRequest → ControlRequest) :
    SessionStreams :=
  { s with requests := s.requests.modify ticket f }

/-- `sess.streams[streamID]` -/
def lookup (s : SessionStreams) (streamID : Nat) : Option Nat :=
  s.streams.findIdx? fun stream => stream.registered && stream.id == streamID

/-- The streams in the table. -/
def table (s : SessionStreams) : List Nat :=
  (List.range s.streams.length).filter fun ref => s.streams[ref]?.any (·.registered)

/-! ## Opening and detaching -/

/-- The critical section of `openStreamTarget`. -/
def allocate (s : SessionStreams) (i : Nat) (datagram : Bool) : SessionStreams :=
  if (s.table.length : Int) ≥ s.maxStreamsPerSession then
    s.goto i (.refused (errorsNew "stream limit reached"))
  else if s.nextID = 0 then
    s.goto i (.refused (errorsNew "stream ID exhausted"))
  else
    { s with
      nextID := (s.nextID + 1) % streamIDSpace
      streams := s.streams ++
        [{ id := s.nextID, windowed := s.flowControlled && !datagram, registered := true,
           finished := false, windowClosed := false }]
      calls := s.calls.set i (.opening s.streams.length) }

/-- The critical section of `detachStream`. -/
def detach (s : SessionStreams) (i streamID : Nat) (after : AfterDetach) : SessionStreams :=
  match s.lookup streamID with
  | none => s.goto i (after.next false)
  | some ref =>
    (s.updateStream ref fun stream => { stream with registered := false }).goto i
      (.finishing ref after)

def finish (s : SessionStreams) (ref : Nat) : SessionStreams :=
  s.updateStream ref fun stream => { stream with finished := true }

/-- `window.Close`, where there is a window. -/
def closeWindow (s : SessionStreams) (ref : Nat) : SessionStreams :=
  s.updateStream ref fun stream => { stream with windowClosed := stream.windowed }

/-- The critical section of `failAll`. -/
def swap (s : SessionStreams) (i : Nat) : SessionStreams :=
  { s with
    streams := s.streams.map fun stream => { stream with registered := false }
    swapped := true
    calls := s.calls.set i (.failing s.table) }

/-- A step of a call by itself. -/
def proceed (s : SessionStreams) (i : Nat) : Option SessionStreams :=
  match s.calls[i]? with
  | some (.allocating datagram) => some (s.allocate i datagram)
  | some (.detaching streamID after) => some (s.detach i streamID after)
  | some (.finishing ref after) => some ((s.finish ref).goto i (.closingWindow ref after))
  | some (.closingWindow ref after) =>
    some ((s.closeWindow ref).goto i (after.next true))
  | some .swapping => some (s.swap i)
  | some (.failing []) => some (s.goto i .closing)
  | some (.failingWindow ref refs) => some ((s.closeWindow ref).goto i (.failing refs))
  | some .closing => some { s.goto i .ended with done := true }
  | _ => none

/-- `failAll` finishes one of its streams. -/
def failOne (s : SessionStreams) (i ref : Nat) : Option SessionStreams :=
  match s.calls[i]? with
  | some (.failing refs) =>
    if ref ∈ refs then some ((s.finish ref).goto i (.failingWindow ref (refs.erase ref))) else none
  | _ => none

/-! ## Sending -/

/-- `make(chan sessionWriteRequest, 32)` -/
def controlCapacity : Nat := 32

/-- The stream ID and message that a call sends next, its state while it waits for the result, and
    how it goes on without sending. -/
def sends (s : SessionStreams) : Call → Option (Nat × StreamMessage × (Nat → Call) × (GoError → Call))
  | .opening ref => s.streams[ref]?.map fun stream =>
    (stream.id, .streamOpen, .opened ref, fun err => .detaching stream.id (.failOpen ref err))
  | .granting ref => s.streams[ref]?.map fun stream =>
    (stream.id, .windowUpdate, .granted ref, fun err => .detaching stream.id (.failOpen ref err))
  | .sendingEnd streamID message => some (streamID, .ending message, .waitingEnd, fun _ => .ended)
  | _ => none

/-- The request whose result a call waits for, and how it goes on with it. -/
def awaits (s : SessionStreams) : Call → Option (Nat × (Option GoError → Call))
  | .opened ref ticket => s.streams[ref]?.map fun stream => (ticket, fun
    | some err => .detaching stream.id (.failOpen ref err)
    | none => if stream.windowed then .granting ref else .returned ref)
  | .granted ref ticket => s.streams[ref]?.map fun stream => (ticket, fun
    | some err => .detaching stream.id (.failOpen ref err)
    | none => .returned ref)
  | .waitingEnd ticket => some (ticket, fun _ => .ended)
  | _ => none

/-- Why a call of `sendFrame` stops waiting. -/
inductive GiveUp where
  /-- its context is done, with this error -/
  | context (err : GoError)
  /-- the session is done -/
  | session
  deriving DecidableEq, Repr

abbrev errSessionWriterClosed : GoError := .sentinel .sessionWriterClosed

def GiveUp.err? (s : SessionStreams) : GiveUp → Option GoError
  | .context err => some err
  | .session => if s.done then some errSessionWriterClosed else none

/-- A request enters the control queue. -/
def enqueue (s : SessionStreams) (streamID : Nat) (message : StreamMessage) : SessionStreams :=
  { s with
    requests := s.requests ++
      [{ streamID, message, expired := false, status := .queued, onWire := false }]
    controlWrites := s.controlWrites ++ [s.requests.length] }

def send (s : SessionStreams) (i : Nat) : Option SessionStreams :=
  (s.calls[i]?.bind s.sends).bind fun (streamID, message, waiting, _) =>
    if s.controlWrites.length < controlCapacity then
      some ((s.enqueue streamID message).goto i (waiting s.requests.length))
    else none

/-- The call stops before its request is in the queue. -/
def abandonSend (s : SessionStreams) (i : Nat) (reason : GiveUp) : Option SessionStreams :=
  (s.calls[i]?.bind s.sends).bind fun (_, _, _, abandoned) =>
    (reason.err? s).map fun err => s.goto i (abandoned err)

/-- What `sendFrame` returns for a queued request: a delivered result is preferred to the reason. -/
def sendResult (s : SessionStreams) (ticket : Nat) (reason : Option GiveUp) :
    Option (Option GoError) :=
  s.requests[ticket]?.bind fun request =>
    match request.status, reason with
    | .answered err, none => some err
    | .answered err, some reason => (reason.err? s).map fun _ => err
    | _, none => none
    | _, some reason => (reason.err? s).map some

/-- `sendFrame` returns, and with it the request's context ends. -/
def receive (s : SessionStreams) (i : Nat) (reason : Option GiveUp) : Option SessionStreams :=
  (s.calls[i]?.bind s.awaits).bind fun (ticket, next) =>
    (s.sendResult ticket reason).map fun err =>
      (s.updateRequest ticket fun request => { request with expired := true }).goto i (next err)

/-! ## The writer -/

/-- How the connection takes an encoded frame; a failed write may still have reached the peer. -/
inductive Transport where
  /-- there is no next sequence -/
  | sequenceError (err : GoError)
  | encodeError (err : GoError)
  | sent
  | failed (err : GoError) (reached : Bool)
  deriving DecidableEq, Repr

/-- The writer takes a request, and answers it at once if its context is done. -/
def takeControl (s : SessionStreams) (ctxErr : GoError) : Option SessionStreams :=
  match s.writer, s.controlWrites with
  | .idle, ticket :: controlWrites =>
    let s := { s with controlWrites }
    if s.requests[ticket]?.any (·.expired) then
      some (s.updateRequest ticket fun request => { request with status := .answered (some ctxErr) })
    else
      some { s.updateRequest ticket (fun request => { request with status := .writing }) with
        writer := .writing ticket }
  | _, _ => none

/-- The rest of `writeQueued`; an exhausted sequence or a failed write begins a termination. -/
def write (s : SessionStreams) (transport : Transport) : Option SessionStreams :=
  match s.writer with
  | .writing ticket =>
    match transport with
    | .sequenceError err =>
      some { s with writer := .exhausted ticket err, calls := s.calls ++ [.swapping] }
    | .encodeError err =>
      some { s.updateRequest ticket (fun request =>
          { request with status := .answered (some err) }) with
        writer := .idle }
    | .sent =>
      some { s.updateRequest ticket (fun request =>
          { request with status := .answered none, onWire := true }) with
        writer := .idle }
    | .failed err reached =>
      some { s.updateRequest ticket (fun request =>
          { request with status := .answered (some err), onWire := reached }) with
        writer := .stopped
        calls := s.calls ++ [.swapping] }
  | _ => none

/-- Behind its termination the writer answers the request it had no sequence for. -/
def answerExhausted (s : SessionStreams) : Option SessionStreams :=
  match s.writer with
  | .exhausted ticket err =>
    if s.done then
      some { s.updateRequest ticket (fun request =>
          { request with status := .answered (some err) }) with
        writer := .stopped }
    else none
  | _ => none

/-! ## Steps -/

inductive Label where
  /-- a call of `openStreamTarget` whose request ID was generated -/
  | openStreamTarget (datagram : Bool)
  | finishStream (streamID : Nat)
  | closeStream (streamID : Nat)
  | errorStream (streamID : Nat)
  /-- a termination: the read loop, the heartbeat, an authorization, a replacement, `Gateway.Close` -/
  | terminate
  /-- the Agent half-closes: the stream is finished and stays in the table -/
  | halfClose (streamID : Nat)
  | proceed (i : Nat)
  | failOne (i ref : Nat)
  | send (i : Nat)
  | abandonSend (i : Nat) (reason : GiveUp)
  | receive (i : Nat) (reason : Option GiveUp)
  /-- another sender queues a control request -/
  | queueOther (streamID : Nat)
  /-- the deadline of a request passes -/
  | expire (ticket : Nat)
  | takeControl (ctxErr : GoError)
  | write (transport : Transport)
  | answerExhausted
  deriving DecidableEq, Repr

def begin (s : SessionStreams) (call : Call) : SessionStreams :=
  { s with calls := s.calls ++ [call] }

def step (s : SessionStreams) : Label → Option SessionStreams
  | .openStreamTarget datagram => some (s.begin (.allocating datagram))
  | .finishStream streamID => some (s.begin (.detaching streamID .finishOnly))
  | .closeStream streamID =>
    some (s.begin (.detaching streamID (.sendEnd streamID .streamClose)))
  | .errorStream streamID =>
    some (s.begin (.detaching streamID (.sendEnd streamID .streamError)))
  | .terminate => some (s.begin .swapping)
  | .halfClose streamID => (s.lookup streamID).map s.finish
  | .proceed i => s.proceed i
  | .failOne i ref => s.failOne i ref
  | .send i => s.send i
  | .abandonSend i reason => s.abandonSend i reason
  | .receive i reason => s.receive i reason
  | .queueOther streamID =>
    if s.controlWrites.length < controlCapacity then some (s.enqueue streamID .other) else none
  | .expire ticket =>
    some (s.updateRequest ticket fun request => { request with expired := true })
  | .takeControl ctxErr => s.takeControl ctxErr
  | .write transport => s.write transport
  | .answerExhausted => s.answerExhausted

/-! ## What a step can do -/

section Cases

variable {s s' : SessionStreams} {i : Nat} {reason : Option GiveUp}

theorem lookup_cases {streamID ref : Nat} (h : s.lookup streamID = some ref) :
    ∃ stream, s.streams[ref]? = some stream ∧ stream.registered = true ∧ stream.id = streamID := by
  obtain ⟨hlt, hfound, -⟩ := List.findIdx?_eq_some_iff_getElem.mp h
  refine ⟨s.streams[ref], List.getElem?_eq_getElem hlt, ?_⟩
  simpa using hfound

theorem mem_table {ref : Nat} :
    ref ∈ s.table ↔ ∃ stream, s.streams[ref]? = some stream ∧ stream.registered = true := by
  simp only [table, List.mem_filter, List.mem_range, Option.any_eq_true]
  constructor
  · rintro ⟨-, stream, hstream, hregistered⟩
    exact ⟨stream, hstream, hregistered⟩
  · rintro ⟨stream, hstream, hregistered⟩
    exact ⟨(List.getElem?_eq_some_iff.mp hstream).1, stream, hstream, hregistered⟩

/-- The context of a request ends. -/
def expire (s : SessionStreams) (ticket : Nat) : SessionStreams :=
  s.updateRequest ticket fun request => { request with expired := true }

/-- A request gets its result without reaching the connection. -/
def answer (s : SessionStreams) (ticket : Nat) (err : Option GoError) : SessionStreams :=
  s.updateRequest ticket fun request => { request with status := .answered err }

/-- A call enters a new stream into the table. -/
def enter (s : SessionStreams) (i : Nat) (windowed : Bool) : SessionStreams :=
  { s with
    nextID := (s.nextID + 1) % streamIDSpace
    streams := s.streams ++ [⟨s.nextID, windowed, true, false, false⟩]
    calls := s.calls.set i (.opening s.streams.length) }

/-- What a step does, by the operations on the session that it is made of. -/
inductive Steps (s : SessionStreams) : Label → SessionStreams → Prop where
  | opens (datagram : Bool) : Steps s (.openStreamTarget datagram) (s.begin (.allocating datagram))
  | finishes (streamID : Nat) :
    Steps s (.finishStream streamID) (s.begin (.detaching streamID .finishOnly))
  | closes (streamID : Nat) :
    Steps s (.closeStream streamID) (s.begin (.detaching streamID (.sendEnd streamID .streamClose)))
  | errors (streamID : Nat) :
    Steps s (.errorStream streamID) (s.begin (.detaching streamID (.sendEnd streamID .streamError)))
  | terminates : Steps s .terminate (s.begin .swapping)
  | halfClose {streamID ref : Nat} : Steps s (.halfClose streamID) (s.finish ref)
  | refuse {i : Nat} {datagram : Bool} {err : GoError}
      (hcall : s.calls[i]? = some (.allocating datagram)) :
    Steps s (.proceed i) (s.goto i (.refused err))
  | allocate {i : Nat} {datagram windowed : Bool}
      (hcall : s.calls[i]? = some (.allocating datagram)) (hnext : s.nextID ≠ 0)
      (hroom : (s.table.length : Int) < s.maxStreamsPerSession) :
    Steps s (.proceed i) (s.enter i windowed)
  | notFound {i streamID : Nat} {after : AfterDetach}
      (hcall : s.calls[i]? = some (.detaching streamID after)) :
    Steps s (.proceed i) (s.goto i (after.next false))
  | detach {i streamID ref : Nat} {after : AfterDetach}
      (hcall : s.calls[i]? = some (.detaching streamID after))
      (hlookup : s.lookup streamID = some ref) :
    Steps s (.proceed i) ((s.updateStream ref fun stream => { stream with registered := false }).goto i
      (.finishing ref after))
  | finish {i ref : Nat} {after : AfterDetach} (hcall : s.calls[i]? = some (.finishing ref after)) :
    Steps s (.proceed i) ((s.finish ref).goto i (.closingWindow ref after))
  | closeWindow {i ref : Nat} {after : AfterDetach}
      (hcall : s.calls[i]? = some (.closingWindow ref after)) :
    Steps s (.proceed i) ((s.closeWindow ref).goto i (after.next true))
  | swap {i : Nat} (hcall : s.calls[i]? = some .swapping) : Steps s (.proceed i) (s.swap i)
  | failedAll {i : Nat} (hcall : s.calls[i]? = some (.failing [])) :
    Steps s (.proceed i) (s.goto i .closing)
  | failWindow {i ref : Nat} {refs : List Nat}
      (hcall : s.calls[i]? = some (.failingWindow ref refs)) :
    Steps s (.proceed i) ((s.closeWindow ref).goto i (.failing refs))
  | close {i : Nat} (hcall : s.calls[i]? = some .closing) :
    Steps s (.proceed i) { s.goto i .ended with done := true }
  | failOne {i ref : Nat} {refs : List Nat} (hcall : s.calls[i]? = some (.failing refs))
      (href : ref ∈ refs) :
    Steps s (.failOne i ref) ((s.finish ref).goto i (.failingWindow ref (refs.erase ref)))
  | sendOpen {i ref : Nat} {stream : StreamObject} (hcall : s.calls[i]? = some (.opening ref))
      (hstream : s.streams[ref]? = some stream) :
    Steps s (.send i) ((s.enqueue stream.id .streamOpen).goto i (.opened ref s.requests.length))
  | sendGrant {i ref : Nat} {stream : StreamObject} (hcall : s.calls[i]? = some (.granting ref))
      (hstream : s.streams[ref]? = some stream) :
    Steps s (.send i) ((s.enqueue stream.id .windowUpdate).goto i (.granted ref s.requests.length))
  | sendEnd {i streamID : Nat} {message : EndMessage}
      (hcall : s.calls[i]? = some (.sendingEnd streamID message)) :
    Steps s (.send i) ((s.enqueue streamID (.ending message)).goto i (.waitingEnd s.requests.length))
  | abandonOpen {i ref streamID : Nat} {reason : GiveUp} {err : GoError}
      (hcall : s.calls[i]? = some (.opening ref)) :
    Steps s (.abandonSend i reason) (s.goto i (.detaching streamID (.failOpen ref err)))
  | abandonGrant {i ref streamID : Nat} {reason : GiveUp} {err : GoError}
      (hcall : s.calls[i]? = some (.granting ref)) :
    Steps s (.abandonSend i reason) (s.goto i (.detaching streamID (.failOpen ref err)))
  | abandonEnd {i streamID : Nat} {message : EndMessage} {reason : GiveUp}
      (hcall : s.calls[i]? = some (.sendingEnd streamID message)) :
    Steps s (.abandonSend i reason) (s.goto i .ended)
  | openFails {i ref ticket streamID : Nat} {reason : Option GiveUp} {err : GoError}
      (hcall : s.calls[i]? = some (.opened ref ticket))
      (hresult : s.sendResult ticket reason = some (some err)) :
    Steps s (.receive i reason)
      ((s.expire ticket).goto i (.detaching streamID (.failOpen ref err)))
  | grantFails {i ref ticket streamID : Nat} {reason : Option GiveUp} {err : GoError}
      (hcall : s.calls[i]? = some (.granted ref ticket))
      (hresult : s.sendResult ticket reason = some (some err)) :
    Steps s (.receive i reason)
      ((s.expire ticket).goto i (.detaching streamID (.failOpen ref err)))
  | opened {i ref ticket : Nat} {reason : Option GiveUp}
      (hcall : s.calls[i]? = some (.opened ref ticket)) :
    Steps s (.receive i reason) ((s.expire ticket).goto i (.granting ref))
  | returned {i ref ticket : Nat} {reason : Option GiveUp} {call : Call}
      (hcall : s.calls[i]? = some call) (hwaits : call = .opened ref ticket ∨ call = .granted ref ticket)
      (href : ref < s.streams.length) :
    Steps s (.receive i reason) ((s.expire ticket).goto i (.returned ref))
  | ended {i ticket : Nat} {reason : Option GiveUp}
      (hcall : s.calls[i]? = some (.waitingEnd ticket)) :
    Steps s (.receive i reason) ((s.expire ticket).goto i .ended)
  | queueOther (streamID : Nat) : Steps s (.queueOther streamID) (s.enqueue streamID .other)
  | expire (ticket : Nat) : Steps s (.expire ticket) (s.expire ticket)
  | takeExpired {ticket : Nat} {controlWrites : List Nat} {ctxErr : GoError}
      (hwriter : s.writer = .idle) (hcontrol : s.controlWrites = ticket :: controlWrites)
      (hexpired : s.requests[ticket]?.any (·.expired) = true) :
    Steps s (.takeControl ctxErr) { s.answer ticket (some ctxErr) with controlWrites }
  | take {ticket : Nat} {controlWrites : List Nat} {ctxErr : GoError}
      (hwriter : s.writer = .idle) (hcontrol : s.controlWrites = ticket :: controlWrites)
      (hlive : s.requests[ticket]?.any (·.expired) = false) :
    Steps s (.takeControl ctxErr)
      { s.updateRequest ticket (fun request => { request with status := .writing }) with
        controlWrites
        writer := .writing ticket }
  | exhaust {ticket : Nat} {err : GoError} (hwriter : s.writer = .writing ticket) :
    Steps s (.write (.sequenceError err)) { s.begin .swapping with writer := .exhausted ticket err }
  | encodeFails {ticket : Nat} {err : GoError} (hwriter : s.writer = .writing ticket) :
    Steps s (.write (.encodeError err)) { s.answer ticket (some err) with writer := .idle }
  | sent {ticket : Nat} (hwriter : s.writer = .writing ticket) :
    Steps s (.write .sent)
      { s.updateRequest ticket (fun request =>
          { request with status := .answered none, onWire := true }) with
        writer := .idle }
  | writeFails {ticket : Nat} {err : GoError} {reached : Bool} (hwriter : s.writer = .writing ticket) :
    Steps s (.write (.failed err reached))
      { (s.updateRequest ticket fun request =>
          { request with status := .answered (some err), onWire := reached }).begin .swapping with
        writer := .stopped }
  | answerExhausted {ticket : Nat} {err : GoError} (hwriter : s.writer = .exhausted ticket err) :
    Steps s .answerExhausted { s.answer ticket (some err) with writer := .stopped }

theorem proceed_steps (h : s.proceed i = some s') : Steps s (.proceed i) s' := by
  unfold proceed at h
  split at h
  next datagram hcall =>
    cases h
    unfold allocate
    split
    · exact .refuse hcall
    next hroom =>
      split
      · exact .refuse hcall
      next hnext => exact .allocate hcall hnext (Int.not_le.mp hroom)
  next streamID after hcall =>
    cases h
    unfold detach
    split
    next => exact .notFound hcall
    next ref hlookup => exact .detach hcall hlookup
  next hcall => cases h; exact .finish hcall
  next hcall => cases h; exact .closeWindow hcall
  next hcall => cases h; exact .swap hcall
  next hcall => cases h; exact .failedAll hcall
  next hcall => cases h; exact .failWindow hcall
  next hcall => cases h; exact .close hcall
  next => cases h

/-- A call that sends opens a stream, grants its first credit or ends it. -/
theorem send_steps (h : s.send i = some s') : Steps s (.send i) s' := by
  obtain ⟨⟨streamID, message, waiting, abandoned⟩, hbind, hsend⟩ := Option.bind_eq_some_iff.mp h
  obtain ⟨call, hcall, hsends⟩ := Option.bind_eq_some_iff.mp hbind
  obtain ⟨-, hsend⟩ := Option.ite_none_right_eq_some.mp hsend
  cases hsend
  cases call with
  | opening ref =>
    obtain ⟨stream, hstream, heq⟩ := Option.map_eq_some_iff.mp hsends
    cases heq
    exact .sendOpen hcall hstream
  | granting ref =>
    obtain ⟨stream, hstream, heq⟩ := Option.map_eq_some_iff.mp hsends
    cases heq
    exact .sendGrant hcall hstream
  | sendingEnd streamID message => cases hsends; exact .sendEnd hcall
  | _ => cases hsends

theorem abandonSend_steps {reason : GiveUp} (h : s.abandonSend i reason = some s') :
    Steps s (.abandonSend i reason) s' := by
  obtain ⟨⟨streamID, message, waiting, abandoned⟩, hbind, habandon⟩ := Option.bind_eq_some_iff.mp h
  obtain ⟨call, hcall, hsends⟩ := Option.bind_eq_some_iff.mp hbind
  obtain ⟨err, -, rfl⟩ := Option.map_eq_some_iff.mp habandon
  cases call with
  | opening ref =>
    obtain ⟨stream, -, heq⟩ := Option.map_eq_some_iff.mp hsends
    cases heq
    exact .abandonOpen hcall
  | granting ref =>
    obtain ⟨stream, -, heq⟩ := Option.map_eq_some_iff.mp hsends
    cases heq
    exact .abandonGrant hcall
  | sendingEnd streamID message => cases hsends; exact .abandonEnd hcall
  | _ => cases hsends

/-- A call that waits goes on with its stream or gives it up. -/
theorem receive_steps (h : s.receive i reason = some s') :
    Steps s (.receive i reason) s' := by
  obtain ⟨⟨ticket, next⟩, hbind, hreceive⟩ := Option.bind_eq_some_iff.mp h
  obtain ⟨call, hcall, hawaits⟩ := Option.bind_eq_some_iff.mp hbind
  obtain ⟨err, hresult, rfl⟩ := Option.map_eq_some_iff.mp hreceive
  cases call with
  | opened ref wanted =>
    obtain ⟨stream, hstream, heq⟩ := Option.map_eq_some_iff.mp hawaits
    cases heq
    cases err with
    | some err => exact .openFails hcall hresult
    | none =>
      simp only
      split
      · exact .opened hcall
      · exact .returned hcall (.inl rfl) (List.getElem?_eq_some_iff.mp hstream).1
  | granted ref wanted =>
    obtain ⟨stream, hstream, heq⟩ := Option.map_eq_some_iff.mp hawaits
    cases heq
    cases err with
    | some err => exact .grantFails hcall hresult
    | none => exact .returned hcall (.inr rfl) (List.getElem?_eq_some_iff.mp hstream).1
  | waitingEnd ticket => cases hawaits; exact .ended hcall
  | _ => cases hawaits

/-- The writer drops a request whose context is done and writes any other. -/
theorem takeControl_steps {ctxErr : GoError} (h : s.takeControl ctxErr = some s') :
    Steps s (.takeControl ctxErr) s' := by
  unfold takeControl at h
  split at h
  next ticket controlWrites hwriter hcontrol =>
    simp only at h
    split at h
    next hexpired =>
      cases h
      exact .takeExpired hwriter hcontrol hexpired
    next hexpired =>
      cases h
      exact .take hwriter hcontrol (Bool.eq_false_iff.mpr hexpired)
  next => cases h

theorem steps_of_step {l : Label} (h : s.step l = some s') : Steps s l s' := by
  cases l with
  | openStreamTarget datagram => cases h; exact .opens datagram
  | finishStream streamID => cases h; exact .finishes streamID
  | closeStream streamID => cases h; exact .closes streamID
  | errorStream streamID => cases h; exact .errors streamID
  | terminate => cases h; exact .terminates
  | halfClose streamID =>
    obtain ⟨ref, -, rfl⟩ := Option.map_eq_some_iff.mp h
    exact .halfClose
  | proceed i => exact proceed_steps h
  | failOne i ref =>
    simp only [step, failOne] at h
    repeat' split at h
    all_goals cases h
    next hcall href => exact .failOne hcall href
  | send i => exact send_steps h
  | abandonSend i reason => exact abandonSend_steps h
  | receive i reason => exact receive_steps h
  | queueOther streamID =>
    obtain ⟨-, h⟩ := Option.ite_none_right_eq_some.mp h
    cases h
    exact .queueOther streamID
  | expire ticket => cases h; exact .expire ticket
  | takeControl ctxErr => exact takeControl_steps h
  | write transport =>
    simp only [step, write] at h
    split at h
    next hwriter =>
      cases transport with
      | sequenceError err => cases h; exact .exhaust hwriter
      | encodeError err => cases h; exact .encodeFails hwriter
      | sent => cases h; exact .sent hwriter
      | failed err reached => cases h; exact .writeFails hwriter
    next => cases h
  | answerExhausted =>
    simp only [step, answerExhausted] at h
    repeat' split at h
    all_goals cases h
    next hwriter _ => exact .answerExhausted hwriter

/-- `sendFrame` returns what the writer answered; it makes an error up only when it gives up on a
    request that is not answered. -/
theorem sendResult_cases {ticket : Nat} {err : Option GoError}
    (h : s.sendResult ticket reason = some err) :
    ∃ request, s.requests[ticket]? = some request ∧
      (request.status = .answered err ∨
        ((∀ result, request.status ≠ .answered result) ∧ err.isSome = true ∧ reason.isSome = true)) := by
  obtain ⟨request, hrequest, hresult⟩ := Option.bind_eq_some_iff.mp h
  refine ⟨request, hrequest, ?_⟩
  cases hstatus : request.status with
  | answered result =>
    rw [hstatus] at hresult
    cases reason with
    | none =>
      cases hresult
      exact .inl rfl
    | some reason =>
      obtain ⟨-, -, rfl⟩ := Option.map_eq_some_iff.mp hresult
      exact .inl rfl
  | queued | writing =>
    rw [hstatus] at hresult
    cases reason with
    | none => cases hresult
    | some reason =>
      obtain ⟨-, -, rfl⟩ := Option.map_eq_some_iff.mp hresult
      exact .inr ⟨by simp, rfl, rfl⟩

/-- A call after one of them moved on is the one that moved, or another one. -/
theorem call_of_set {call call' : Call} (h : call ∈ s.calls.set i call') :
    call = call' ∨ ∃ j, i ≠ j ∧ s.calls[j]? = some call := by
  obtain ⟨j, hj⟩ := List.getElem?_of_mem h
  rcases List.of_getElem?_set hj with ⟨-, rfl⟩ | ⟨hij, hj⟩
  · exact .inl rfl
  · exact .inr ⟨j, hij, hj⟩

/-- A request after an update is the old one, changed if it is the updated one. -/
theorem request_of_updateRequest {ticket k : Nat} {f : ControlRequest → ControlRequest}
    {request : ControlRequest} (h : (s.updateRequest ticket f).requests[k]? = some request) :
    ∃ old, s.requests[k]? = some old ∧ request = if ticket = k then f old else old := by
  simp only [updateRequest, List.getElem?_modify] at h
  obtain ⟨old, hold, rfl⟩ := Option.map_eq_some_iff.mp h
  exact ⟨old, hold, rfl⟩

end Cases

end SessionStreams

end Hooshix.Gateway
