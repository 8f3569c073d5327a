-- SUMMARY: How an Agent session serves its streams.
import Hooshix.Agent.StreamOpen
import Hooshix.Lib.Exclusive
import Hooshix.Lib.StepSystem

/-! # Serving streams

Three routines work on a stream of an Agent session: `serveStream` (with `serveUDPStream`), its local
writer, and the session loop when it handles a frame of the stream. They meet in the stream's context,
in the table of streams and in the `sync.Once` that guards its terminal frame. What the local target,
the tunnel and the timers do is chosen by the label of a step. Queues, budgets and windows appear as
the outcome of the operation that uses them.
-/

namespace Hooshix.Agent

open Contract

/-! ## Terminal frames -/

structure StreamErrorMessage where
  code : String
  message : String
  retryable : Bool
  deriving DecidableEq, Repr

inductive TerminalFrame where
  | streamClose (reasonCode : String)
  | streamError (message : StreamErrorMessage)
  deriving DecidableEq, Repr

def TerminalFrame.isClose : TerminalFrame → Bool
  | .streamClose _ => true
  | .streamError _ => false

/-- How a call of `sendControl` ends; a frame that is reported as failed may have reached the wire. -/
inductive SendResult where
  | sent
  | failed (err : GoError) (reached : Bool)
  deriving DecidableEq, Repr

def SendResult.onWire : SendResult → Bool
  | .sent => true
  | .failed _ reached => reached

/-- A terminal frame that `sendControl` was called with. -/
structure IssuedFrame where
  frame : TerminalFrame
  result : SendResult
  deriving DecidableEq, Repr

/-! ## One stream -/

/-- A `sync.Once`: other callers wait while it is running. -/
inductive Once where
  | fresh
  | running
  | spent
  deriving DecidableEq, Repr

inductive LocalConn where
  | none
  | connected
  | closed
  deriving DecidableEq, Repr

/-- What `serveStream` knows behind its read loop. -/
structure ServeEnd where
  localReadErr : Option GoError
  sendErr : Option GoError
  peerClosed : Bool
  writerFinished : Bool
  deriving DecidableEq, Repr

/-- Where `serveStream` is. -/
inductive Server where
  | unstarted
  | dialing
  | reading
  /-- has bytes to send, which came with `readErr` -/
  | sending (readErr : Option GoError)
  /-- looks whether the context is done -/
  | checking
  /-- has left the read loop -/
  | leaving (localReadErr sendErr : Option GoError)
  | halfClosing
  | halfClosed
  | cancelling (serveEnd : ServeEnd)
  | closing (serveEnd : ServeEnd)
  | awaiting (serveEnd : ServeEnd)
  /-- is about to enter the terminal `Once` -/
  | reporting (frame : TerminalFrame)
  | sendingTerminal (frame : TerminalFrame)
  /-- is in `finishStream`, before the table is looked at -/
  | removing
  /-- has taken the stream out of the table -/
  | releasing
  | returned
  deriving DecidableEq, Repr

/-- Where the local writer is; `failing` and `failed` are those of UDP. -/
inductive LocalWrites where
  | unstarted
  | running
  /-- is about to cancel the stream's context -/
  | failing (err : GoError)
  /-- is about to close the connection -/
  | failed (err : GoError)
  | returned (err : Option GoError)
  deriving DecidableEq, Repr

/-- What the session loop does with the stream. -/
inductive Handler where
  | idle
  /-- is about to enter the terminal `Once` with an error -/
  | reporting (message : StreamErrorMessage)
  | sendingTerminal (message : StreamErrorMessage)
  /-- handles the peer's end of the stream -/
  | ending
  | removing
  | releasing
  deriving DecidableEq, Repr

structure ServedStream where
  id : Nat
  mode : StreamMode
  registered : Bool
  cancelled : Bool
  peerHalfClose : Bool
  terminal : Once
  conn : LocalConn
  server : Server
  writer : LocalWrites
  handler : Handler
  issued : List IssuedFrame
  /-- the Gateway ended the stream -/
  peerEnded : Bool
  /-- bytes that were read were not forwarded -/
  lost : Bool
  /-- a write to the local target failed -/
  writeFailed : Bool
  /-- the error of the last local read -/
  lastReadErr : Option GoError
  deriving DecidableEq, Repr

namespace ServedStream

/-- A stream as `handleStreamOpen` enters it into the table. -/
def new (id : Nat) (mode : StreamMode) (server : Server) : ServedStream where
  id := id
  mode := mode
  registered := true
  cancelled := false
  peerHalfClose := false
  terminal := .fresh
  conn := .none
  server := server
  writer := .unstarted
  handler := .idle
  issued := []
  peerEnded := false
  lost := false
  writeFailed := false
  lastReadErr := none

end ServedStream

def dialFailed (mode : StreamMode) : TerminalFrame :=
  .streamError
    { code := "local_target_unavailable"
      message := if mode = .udp then "approved local UDP target is unavailable"
        else "approved local target is unavailable"
      retryable := true }

/-- The frame with which `serveStream` ends a stream that the peer has not closed. -/
def serveReport (serveEnd : ServeEnd) : TerminalFrame :=
  match serveEnd.sendErr, serveEnd.localReadErr with
  | some _, _ =>
    .streamError { code := "internal_error", message := "tunneled stream send failed", retryable := false }
  | none, none => .streamClose "completed"
  | none, some err =>
    .streamError
      { code := "local_target_unavailable"
        message := if isTimeout err then "approved local target read timed out"
          else "approved local target read failed"
        retryable := true }

/-- The frame with which `serveUDPStream` ends a flow. A write error takes the place of the read error,
    and a timeout counts as a flow that has expired. -/
def serveUDPReport (readErr writeErr : Option GoError) : TerminalFrame :=
  match writeErr.or readErr with
  | none => .streamClose "completed"
  | some err =>
    if isTimeout err then .streamClose "completed"
    else .streamError
      { code := "local_target_unavailable"
        message := "approved local UDP flow failed"
        retryable := true }

/-- `net.ErrClosed`: a deadline cannot be set on a closed connection. -/
def errConnClosed : GoError := errorsNew "use of closed network connection"

def errDatagramSize : GoError := errorsNew "local UDP datagram exceeds tunnel limit"

def errHalfClosedIdle : GoError := errorsNew "TCP half-closed stream idle timeout"

/-- How `serveStream` goes on once the bytes of a read are sent. -/
def afterRead : Option GoError → Server
  | none => .checking
  | some err => .leaving (if err.is .eof then none else some err) none

/-- How it goes on when it has waited for the local writer. -/
def afterServe (mode : StreamMode) (serveEnd : ServeEnd) (writeErr : Option GoError) : Server :=
  if serveEnd.peerClosed then .removing
  else match mode with
  | .udp => .reporting (serveUDPReport serveEnd.localReadErr writeErr)
  | .http | .tcp => .reporting (serveReport serveEnd)

inductive StreamLabel where
  /-- `DialLocalTarget` or `DialLocalUDPTarget` returns -/
  | dial (err : Option GoError)
  /-- `SetReadDeadline` fails -/
  | deadlineFailed
  /-- `conn.Read` returns `n` bytes and `err` -/
  | read (n : Nat) (err : Option GoError)
  /-- `sendBytes`, or for UDP `sendFrame`, returns -/
  | sendBytes (err : Option GoError)
  /-- the next statement of the server -/
  | serve
  /-- the `stream_half_close` is sent, or not -/
  | sendHalfClose (err : Option GoError)
  /-- the half-closed server sees that the context is done -/
  | contextDone
  /-- the server receives from `writerDone` -/
  | writerDone
  /-- the timer of a waiting server fires -/
  | timer
  /-- the server's terminal frame is sent, or not -/
  | serverTerminal (result : SendResult)
  /-- the local writer sees that the context is done -/
  | writerStops
  /-- a write, its deadline or the return of its credit fails -/
  | writerFails (err : GoError)
  /-- the local writer has written all there was and closes the connection for writing -/
  | writerHalfClosed (err : Option GoError)
  /-- the next statement of a failed UDP writer -/
  | writerEnds
  /-- the next statement of the session loop -/
  | handle
  /-- the session loop's terminal frame is sent, or not -/
  | handlerTerminal (result : SendResult)
  /-- the routine that waits for the context closes the connection -/
  | closeConn
  deriving DecidableEq, Repr

namespace ServedStream

/-- The stream's context derives from that of the session. -/
def contextDone (ending : Bool) (st : ServedStream) : Bool := st.cancelled || ending

/-- `conn.Read` returned. A UDP read that fails returns no bytes. -/
def read (st : ServedStream) (n : Nat) (err : Option GoError) : Option ServedStream :=
  match st.server, st.mode with
  | .reading, .udp =>
    if n > maxUDPDatagram then
      some { st with lastReadErr := err, lost := true, server := .leaving (some errDatagramSize) none }
    else match err with
    | none => some { st with lastReadErr := err, server := .sending none }
    | some cause =>
      if n = 0 then some { st with lastReadErr := err, server := .leaving (some cause) none } else none
  | .reading, _ =>
    some { st with lastReadErr := err, server := if n > 0 then .sending err else afterRead err }
  | _, _ => none

def sendBytes (st : ServedStream) (err : Option GoError) : Option ServedStream :=
  match st.server, err with
  | .sending readErr, none =>
    some { st with server := if st.mode = .udp then .reading else afterRead readErr }
  | .sending _, some cause =>
    some { st with
      lost := true
      server := if st.mode = .udp then .leaving (some cause) none else .leaving none (some cause) }
  | _, _ => none

/-- The statements of the server that wait for nothing but the terminal `Once`. -/
def serve (ending : Bool) (st : ServedStream) : Option ServedStream :=
  match st.server with
  | .checking =>
    some { st with server := if st.contextDone ending then .leaving none none else .reading }
  | .leaving localReadErr sendErr =>
    let peerClosed := st.contextDone ending
    if st.mode = .tcp ∧ localReadErr = none ∧ sendErr = none ∧ peerClosed = false then
      some { st with server := .halfClosing }
    else
      some { st with
        server := .cancelling { localReadErr, sendErr, peerClosed, writerFinished := false } }
  | .cancelling serveEnd => some { st with cancelled := true, server := .closing serveEnd }
  | .closing serveEnd =>
    some { st with
      conn := .closed
      server := if serveEnd.writerFinished then afterServe st.mode serveEnd none else .awaiting serveEnd }
  | .reporting frame =>
    match st.terminal with
    | .fresh => some { st with terminal := .running, server := .sendingTerminal frame }
    | .running => none
    | .spent => some { st with server := .removing }
  | .removing =>
    if st.registered then some { st with registered := false, server := .releasing }
    else some { st with server := .returned }
  | .releasing => some { st with cancelled := true, server := .returned }
  | _ => none

def sendHalfClose (st : ServedStream) (err : Option GoError) : Option ServedStream :=
  match st.server, err with
  | .halfClosing, none => some { st with server := .halfClosed }
  | .halfClosing, some _ =>
    some { st with server := .cancelling ⟨err, none, false, false⟩ }
  | _, _ => none

/-- The server receives the result of the local writer. -/
def writerDone (st : ServedStream) : Option ServedStream :=
  match st.server, st.writer with
  | .halfClosed, .returned writeErr =>
    some { st with server := .cancelling ⟨writeErr, none, false, true⟩ }
  | .awaiting serveEnd, .returned writeErr =>
    some { st with server := afterServe st.mode serveEnd writeErr }
  | _, _ => none

/-- The idle timer of a half-closed server, or the bounded wait for the local writer; `serveUDPStream`
    waits for it without bound. -/
def timer (st : ServedStream) : Option ServedStream :=
  match st.server with
  | .halfClosed => some { st with server := .cancelling ⟨some errHalfClosedIdle, none, false, false⟩ }
  | .awaiting serveEnd =>
    if st.mode = .udp then none else some { st with server := afterServe st.mode serveEnd none }
  | _ => none

/-- `stream.terminal.Do` has run with this frame. -/
def issue (st : ServedStream) (frame : TerminalFrame) (result : SendResult) : ServedStream :=
  { st with issued := st.issued ++ [{ frame, result }], terminal := .spent }

def writerFails (st : ServedStream) (err : GoError) : Option ServedStream :=
  match st.writer with
  | .running =>
    some { st with
      writeFailed := true
      writer := if st.mode = .udp then .failing err else .returned (some err) }
  | _ => none

def writerEnds (st : ServedStream) : Option ServedStream :=
  match st.writer with
  | .failing err => some { st with cancelled := true, writer := .failed err }
  | .failed err => some { st with conn := .closed, writer := .returned (some err) }
  | _ => none

/-- The statements of the session loop on the stream. -/
def handle (st : ServedStream) : Option ServedStream :=
  match st.handler with
  | .reporting message =>
    match st.terminal with
    | .fresh => some { st with terminal := .running, handler := .sendingTerminal message }
    | .running => none
    | .spent => some { st with handler := .removing }
  | .ending =>
    match st.terminal with
    | .fresh | .spent => some { st with terminal := .spent, handler := .removing }
    | .running => none
  | .removing =>
    if st.registered then some { st with registered := false, handler := .releasing }
    else some { st with handler := .idle }
  | .releasing => some { st with cancelled := true, handler := .idle }
  | _ => none

def step (ending : Bool) (st : ServedStream) : StreamLabel → Option ServedStream
  | .dial err =>
    match st.server, err with
    | .dialing, none => some { st with conn := .connected, server := .reading, writer := .running }
    | .dialing, some _ => some { st with server := .reporting (dialFailed st.mode) }
    | _, _ => none
  | .deadlineFailed =>
    if st.server = .reading then some { st with server := .leaving (some errConnClosed) none } else none
  | .read n err => st.read n err
  | .sendBytes err => st.sendBytes err
  | .serve => st.serve ending
  | .sendHalfClose err => st.sendHalfClose err
  | .contextDone =>
    if st.server = .halfClosed ∧ st.contextDone ending = true then
      some { st with server := .cancelling ⟨none, none, true, false⟩ }
    else none
  | .writerDone => st.writerDone
  | .timer => st.timer
  | .serverTerminal result =>
    match st.server with
    | .sendingTerminal frame => some { st.issue frame result with server := .removing }
    | _ => none
  | .writerStops =>
    if st.writer = .running ∧ st.contextDone ending = true then
      some { st with writer := .returned none }
    else none
  | .writerFails err => st.writerFails err
  | .writerHalfClosed err =>
    if st.writer = .running ∧ st.peerHalfClose = true then
      some { st with writer := .returned err }
    else none
  | .writerEnds => st.writerEnds
  | .handle => st.handle
  | .handlerTerminal result =>
    match st.handler with
    | .sendingTerminal message => some { st.issue (.streamError message) result with handler := .removing }
    | _ => none
  | .closeConn =>
    if st.conn = .connected ∧ st.contextDone ending = true then some { st with conn := .closed } else none

/-- A stream that is not served yet waits for the session loop. -/
theorem step_unstarted {st st' : ServedStream} {ending : Bool} {l : StreamLabel}
    (hserver : st.server = .unstarted) (h : st.step ending l = some st') : st'.server = .unstarted := by
  cases l with
  | writerStops | writerFails _ | writerHalfClosed _ | writerEnds | handle | handlerTerminal _ | closeConn =>
    simp only [ServedStream.step, ServedStream.writerFails, ServedStream.writerEnds,
      ServedStream.handle] at h
    repeat' split at h
    all_goals
      cases h
      try exact hserver
  | _ =>
    simp [ServedStream.step, ServedStream.read, ServedStream.sendBytes, ServedStream.serve,
      ServedStream.sendHalfClose, ServedStream.writerDone, ServedStream.timer, hserver] at h

end ServedStream

/-! ## The session -/

/-- What the session loop does; a frame of a stream is `handled` by the steps of that stream. -/
inductive Loop where
  | idle
  | handling (ref : Nat)
  /-- sends a `stream_error` past the terminal `Once` -/
  | sendingError (streamID : Nat) (message : StreamErrorMessage)
  /-- sends the first grant of a stream -/
  | granting (ref : Nat)
  deriving DecidableEq, Repr

/-- A `stream_error` of `sendStreamError`. -/
structure UnguardedError where
  streamID : Nat
  message : StreamErrorMessage
  result : SendResult
  deriving DecidableEq, Repr

/-- A session and all streams it ever entered into its table. `ending` says that its context is done. -/
structure ServingSession where
  flowControlled : Bool
  limits : Limits
  endpoints : List Endpoint
  maxStreamID : Nat
  streams : List ServedStream
  loop : Loop
  unguarded : List UnguardedError
  ending : Bool
  deriving DecidableEq, Repr

inductive SessionLabel where
  | streamOpen (streamID : Nat) (message : StreamOpen)
  /-- a `stream_close` or `stream_error` of the Gateway -/
  | peerEnd (streamID : Nat)
  | streamHalfClose (streamID : Nat)
  /-- a `stream_window_update`; `refused` says that the window does not take it -/
  | windowUpdate (streamID : Nat) (refused : Bool)
  /-- a data frame; `accepted` is what `enqueue` answers -/
  | data (streamID size : Nat) (accepted : Bool)
  /-- the session loop's own send returns -/
  | loopSend (result : SendResult)
  /-- a step on one stream -/
  | stream (ref : Nat) (label : StreamLabel)
  /-- the session's context ends: the parent is cancelled, the loop returns, or a write fails -/
  | endSession
  | shutdown
  deriving DecidableEq, Repr

namespace ServingSession

def start (flowControlled : Bool) (limits : Limits) (endpoints : List Endpoint) : ServingSession where
  flowControlled := flowControlled
  limits := limits
  endpoints := endpoints
  maxStreamID := 0
  streams := []
  loop := .idle
  unguarded := []
  ending := false

/-- The part of the session that opening a stream looks at. -/
def agentSession (s : ServingSession) : AgentSession where
  flowControlled := s.flowControlled
  limits := s.limits
  endpoints := s.endpoints
  maxStreamID := s.maxStreamID
  streams := (s.streams.filter (·.registered)).map (·.id)

/-- `sess.streams[streamID]` -/
def lookup (s : ServingSession) (streamID : Nat) : Option Nat :=
  s.streams.findIdx? fun st => st.registered && st.id == streamID

def update (s : ServingSession) (ref : Nat) (f : ServedStream → ServedStream) : ServingSession :=
  { s with streams := s.streams.modify ref f }

/-- The session loop begins to end a stream by itself. -/
def report (s : ServingSession) (ref : Nat) (message : StreamErrorMessage) : ServingSession :=
  { s.update ref (fun st => { st with handler := .reporting message }) with loop := .handling ref }

def handleStreamOpen (s : ServingSession) (streamID : Nat) (message : StreamOpen) : ServingSession :=
  match admitStream s.agentSession streamID message with
  | (_, .fatal _) => { s with ending := true }
  | (sess, .refused code message retryable) =>
    { s with
      maxStreamID := sess.maxStreamID
      loop := .sendingError streamID { code, message, retryable } }
  | (sess, .opened opened) =>
    let granting := opened.bodyCredit.isSome
    { s with
      maxStreamID := sess.maxStreamID
      streams := s.streams ++
        [.new streamID opened.mode (if granting then .unstarted else .dialing)]
      loop := if granting then .granting s.streams.length else .idle }

/-- `finishStreamFromPeer` -/
def handlePeerEnd (s : ServingSession) (streamID : Nat) : ServingSession :=
  match s.lookup streamID with
  | none => s
  | some ref =>
    { s.update ref (fun st => { st with peerEnded := true, handler := .ending }) with
      loop := .handling ref }

def handleHalfClose (s : ServingSession) (streamID : Nat) : ServingSession :=
  match s.lookup streamID with
  | none => s
  | some ref =>
    if s.streams[ref]?.any (·.mode != .tcp) then
      { s with
        loop := .sendingError streamID
          { code := "protocol_error"
            message := "half-close is valid only for TCP streams"
            retryable := false } }
    else s.update ref fun st => { st with peerHalfClose := true }

def handleWindowUpdate (s : ServingSession) (streamID : Nat) (refused : Bool) : ServingSession :=
  if s.flowControlled = false then { s with ending := true }
  else match s.lookup streamID with
  | none => s
  | some ref =>
    if s.streams[ref]?.any (·.mode != .udp) && refused then
      s.report ref { code := "protocol_error", message := "invalid stream credit", retryable := false }
    else s

def handleData (s : ServingSession) (streamID size : Nat) (accepted : Bool) : ServingSession :=
  match s.lookup streamID with
  | none =>
    -- the tail of a stream that was ended here is dropped
    if streamID ≠ 0 ∧ streamID ≤ s.maxStreamID then s else { s with ending := true }
  | some ref =>
    if s.streams[ref]?.any (·.mode == .udp) && size > maxUDPDatagram then
      s.report ref
        { code := "resource_limit", message := "UDP datagram exceeds tunnel limit", retryable := false }
    else if accepted then s
    else
      s.report ref
        { code := "resource_limit"
          message := "stream input byte/frame budget exhausted or stalled"
          retryable := true }

/-- The session loop's own send returned; an error ends the session. -/
def loopSend (s : ServingSession) (result : SendResult) : Option ServingSession :=
  match s.loop, result with
  | .sendingError streamID message, .sent =>
    some { s with unguarded := s.unguarded ++ [⟨streamID, message, result⟩], loop := .idle }
  | .sendingError streamID message, .failed _ _ =>
    some { s with
      unguarded := s.unguarded ++ [⟨streamID, message, result⟩]
      loop := .idle
      ending := true }
  | .granting ref, .sent =>
    some { s.update ref (fun st => { st with server := .dialing }) with loop := .idle }
  | .granting ref, .failed _ _ =>
    some { s.update ref (fun st => { st with handler := .removing }) with
      loop := .handling ref
      ending := true }
  | _, _ => none

/-- A step on stream `ref`; the session loop is free again when it is through with the stream. -/
def streamStep (s : ServingSession) (ref : Nat) (label : StreamLabel) : Option ServingSession :=
  s.streams[ref]?.bind fun st =>
    (st.step s.ending label).map fun st' =>
      { s with
        streams := s.streams.set ref st'
        loop := if s.loop = .handling ref ∧ st'.handler = .idle then .idle else s.loop }

/-- `shutdown` swaps the table and ends every stream that was in it. -/
def shutdown (s : ServingSession) : ServingSession :=
  { s with
    streams := s.streams.map fun st =>
      if st.registered then { st with registered := false, cancelled := true } else st }

def step (s : ServingSession) : SessionLabel → Option ServingSession
  | .streamOpen streamID message =>
    if s.loop = .idle ∧ s.ending = false then some (s.handleStreamOpen streamID message) else none
  | .peerEnd streamID =>
    if s.loop = .idle ∧ s.ending = false then some (s.handlePeerEnd streamID) else none
  | .streamHalfClose streamID =>
    if s.loop = .idle ∧ s.ending = false then some (s.handleHalfClose streamID) else none
  | .windowUpdate streamID refused =>
    if s.loop = .idle ∧ s.ending = false then some (s.handleWindowUpdate streamID refused) else none
  | .data streamID size accepted =>
    if s.loop = .idle ∧ s.ending = false then some (s.handleData streamID size accepted) else none
  | .loopSend result => s.loopSend result
  | .stream ref label => s.streamStep ref label
  | .endSession => some { s with ending := true }
  | .shutdown => if s.ending then some s.shutdown else none

section Cases

variable {s s' : ServingSession} {f : ServedStream → ServedStream}

/-- A stream after an update is the old one, changed if it is the updated one. -/
theorem stream_of_update {ref r : Nat} {st : ServedStream}
    (h : (s.update ref f).streams[r]? = some st) :
    ∃ old, s.streams[r]? = some old ∧ st = if ref = r then f old else old := by
  simp only [update, List.getElem?_modify] at h
  obtain ⟨old, hold, rfl⟩ := Option.map_eq_some_iff.mp h
  exact ⟨old, hold, rfl⟩

theorem streamStep_cases {ref : Nat} {label : StreamLabel} (h : s.streamStep ref label = some s') :
    ∃ st st', s.streams[ref]? = some st ∧ st.step s.ending label = some st' ∧
      s' = { s with
        streams := s.streams.set ref st'
        loop := if s.loop = .handling ref ∧ st'.handler = .idle then .idle else s.loop } := by
  obtain ⟨st, hst, hstep⟩ := Option.bind_eq_some_iff.mp h
  obtain ⟨st', hst', rfl⟩ := Option.map_eq_some_iff.mp hstep
  exact ⟨st, st', hst, hst', rfl⟩

/-- The loop takes a frame when it is idle and the session is open. -/
theorem takes_frame {t : ServingSession}
    (h : (if s.loop = .idle ∧ s.ending = false then some t else none) = some s') :
    s.loop = .idle ∧ s.ending = false ∧ t = s' := by
  split at h
  next hidle => exact ⟨hidle.1, hidle.2, Option.some.inj h⟩
  next => cases h

section Touched

variable (s : ServingSession) (l : SessionLabel) (s' : ServingSession) (ref : Nat)

/-- What a step of the session can make of one of its streams. -/
inductive Touched : ServedStream → Prop
  | opened {streamID : Nat} {mode : StreamMode} {server : Server}
    (hserver : server = .unstarted ∨ server = .dialing ∧ s'.loop = .idle) :
    Touched (.new streamID mode server)
  /-- the step is about something else -/
  | same {st : ServedStream} (hst : s.streams[ref]? = some st)
    (hturned : s.loop = .handling ref → s'.loop = .handling ref)
    (hgranting : s'.loop = .granting ref → s.loop = .granting ref) : Touched st
  | report {st : ServedStream} {message : StreamErrorMessage} (hst : s.streams[ref]? = some st)
    (hidle : s.loop = .idle) (hloop : s'.loop = .handling ref) :
    Touched { st with handler := .reporting message }
  | peerEnd {st : ServedStream} (hst : s.streams[ref]? = some st) (hidle : s.loop = .idle)
    (hloop : s'.loop = .handling ref) : Touched { st with peerEnded := true, handler := .ending }
  | halfClose {st : ServedStream} (hst : s.streams[ref]? = some st) (hidle : s.loop = .idle)
    (hloop : s'.loop = .idle) (htcp : st.mode = .tcp) : Touched { st with peerHalfClose := true }
  | granted {st : ServedStream} (hst : s.streams[ref]? = some st) (hgranting : s.loop = .granting ref)
    (hloop : s'.loop = .idle) : Touched { st with server := .dialing }
  | grantFailed {st : ServedStream} (hst : s.streams[ref]? = some st)
    (hgranting : s.loop = .granting ref) (hloop : s'.loop = .handling ref) (hending : s'.ending = true) :
    Touched { st with handler := .removing }
  | step {st st' : ServedStream} {label : StreamLabel} (hst : s.streams[ref]? = some st)
    (hl : l = .stream ref label) (hstep : st.step s.ending label = some st')
    (hloop : s'.loop = if s.loop = .handling ref ∧ st'.handler = .idle then .idle else s.loop) :
    Touched st'
  | shutdown {st : ServedStream} (hst : s.streams[ref]? = some st) (hending : s.ending = true)
    (hloop : s'.loop = s.loop) : Touched { st with registered := false, cancelled := true }

end Touched

variable {l : SessionLabel} {ref : Nat} {st : ServedStream}

/-- The session loop, which was not handling a stream, has acted on one. -/
theorem touched_update {r : Nat} (hst : (s.update r f).streams[ref]? = some st)
    (htouched : ∀ old, s.streams[r]? = some old → Touched s l s' r (f old))
    (hfree : s.loop ≠ .handling ref) (hloop : s'.loop ≠ .granting ref) : Touched s l s' ref st := by
  obtain ⟨old, hold, rfl⟩ := stream_of_update hst
  split
  next heq => exact heq ▸ htouched old (heq ▸ hold)
  next => exact .same hold (absurd · hfree) (absurd · hloop)

theorem touched_streamOpen {streamID : Nat} {message : StreamOpen} (hidle : s.loop = .idle)
    (hst : (s.handleStreamOpen streamID message).streams[ref]? = some st) :
    Touched s l (s.handleStreamOpen streamID message) ref st := by
  unfold handleStreamOpen at hst ⊢
  split at hst
  · exact .same hst (by simp [hidle]) (by simp [hidle])
  · exact .same hst (by simp [hidle]) (by simp)
  next opened _ =>
    rcases List.of_getElem?_concat hst with hold | ⟨-, rfl⟩
    · have hlt := (List.getElem?_eq_some_iff.mp hold).1
      refine .same hold (by simp [hidle]) fun hgranting => ?_
      simp only at hgranting
      split at hgranting <;> cases hgranting
      omega
    · cases hcredit : opened.bodyCredit.isSome with
      | true => exact .opened (Or.inl rfl)
      | false => exact .opened (Or.inr ⟨rfl, by simp⟩)

theorem touched_of_step (h : s.step l = some s') (hst : s'.streams[ref]? = some st) :
    Touched s l s' ref st := by
  have same (hstreams : s'.streams = s.streams) (hfree : s.loop ≠ .handling ref)
      (hloop : s'.loop ≠ .granting ref) : Touched s l s' ref st :=
    .same (hstreams ▸ hst) (absurd · hfree) (absurd · hloop)
  cases l with
  | streamOpen streamID message =>
    obtain ⟨hidle, -, rfl⟩ := takes_frame h
    exact touched_streamOpen hidle hst
  | peerEnd streamID =>
    obtain ⟨hidle, -, heq⟩ := takes_frame h
    unfold handlePeerEnd at heq
    split at heq <;> subst heq
    · exact same rfl (by simp [hidle]) (by simp [hidle])
    · exact touched_update hst (fun _ hold => .peerEnd hold hidle rfl) (by simp [hidle]) (by simp)
  | streamHalfClose streamID =>
    obtain ⟨hidle, -, heq⟩ := takes_frame h
    unfold handleHalfClose at heq
    repeat' split at heq
    all_goals subst heq
    · exact same rfl (by simp [hidle]) (by simp [hidle])
    · exact same rfl (by simp [hidle]) (by simp)
    next htcp =>
      refine touched_update hst (fun old hold => ?_) (by simp [hidle]) (by simp [update, hidle])
      exact .halfClose hold hidle hidle (by simpa [hold] using htcp)
  | windowUpdate streamID refused =>
    obtain ⟨hidle, -, heq⟩ := takes_frame h
    unfold handleWindowUpdate at heq
    repeat' split at heq
    all_goals subst heq
    case h_2.isTrue =>
      exact touched_update hst (fun _ hold => .report hold hidle rfl) (by simp [hidle]) (by simp [report])
    all_goals exact same rfl (by simp [hidle]) (by simp [hidle])
  | data streamID size accepted =>
    obtain ⟨hidle, -, heq⟩ := takes_frame h
    unfold handleData at heq
    repeat' split at heq
    all_goals subst heq
    case h_2.isTrue | h_2.isFalse.isFalse =>
      exact touched_update hst (fun _ hold => .report hold hidle rfl) (by simp [hidle]) (by simp [report])
    all_goals exact same rfl (by simp [hidle]) (by simp [hidle])
  | loopSend result =>
    simp only [step, loopSend] at h
    split at h <;> cases h
    next hloop => exact same rfl (by simp [hloop]) (by simp)
    next hloop => exact same rfl (by simp [hloop]) (by simp)
    next hloop =>
      exact touched_update hst (fun _ hold => .granted hold hloop rfl) (by simp [hloop]) (by simp)
    next hloop =>
      exact touched_update hst (fun _ hold => .grantFailed hold hloop rfl rfl) (by simp [hloop]) (by simp)
  | stream r label =>
    obtain ⟨old, next, hold, hstep, rfl⟩ := streamStep_cases h
    rcases List.of_getElem?_set hst with ⟨rfl, rfl⟩ | ⟨hne, hother⟩
    · exact .step hold rfl hstep rfl
    · refine .same hother (fun hturned => ?_) fun hgranting => ?_
      · simp [hturned, Ne.symm hne]
      · simp only at hgranting
        split at hgranting
        · cases hgranting
        · exact hgranting
  | endSession =>
    cases h
    exact .same hst id id
  | shutdown =>
    obtain ⟨hending, heq⟩ := Option.ite_none_right_eq_some.mp h
    cases heq
    simp only [shutdown, List.getElem?_map] at hst
    obtain ⟨old, hold, rfl⟩ := Option.map_eq_some_iff.mp hst
    split
    · exact .shutdown hold hending rfl
    · exact .same hold id id

end Cases

end ServingSession

end Hooshix.Agent
