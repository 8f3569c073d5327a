-- SUMMARY: A running Agent session with its streams and everything that makes it send a control message.
import Hooshix.Agent.ControlMessages
import Hooshix.Agent.StreamCredit
import Hooshix.Lib.Table

/-! # Control traffic of an Agent session

The session loop, the routines of its streams and the routine that reports health, as far as they send
control messages or change what a report counts. The Gateway may send anything. What the local target,
the timers and the writer of the tunnel do is chosen by the labels, and a stream may be finished at any
time.
-/

namespace Hooshix.Agent

open Contract ContractV1 StructDecode

/-! ## Sessions -/

/-- What a session is set up with and does not change. -/
structure SessionSetup where
  flowControlled : Bool
  limits : Limits
  endpoints : List Endpoint
  agentVersion : BuildVersion

/-- A stream that was opened. It outlives its entry in the table while routines work on it. -/
structure LiveStream where
  id : Nat
  /-- the `sync.Once` of the terminal frame is spent -/
  terminal : Bool
  stream : AgentStream
  deriving DecidableEq

/-- Where `sendHealthReport` is. -/
inductive Reporter where
  | idle
  /-- has counted the streams -/
  | counted (activeStreams : Nat)
  /-- has the streams `rest` of its snapshot of the table still to count -/
  | counting (activeStreams : Nat) (rest : List Nat) (queuedFrames : Nat)
  deriving DecidableEq, Repr

/-- A message that `sendControl` was called with. -/
structure SentControl where
  streamID : Nat
  message : ControlMessage

structure LiveSession where
  /-- the loop of `run` has not returned -/
  running : Bool
  maxStreamID : Nat
  /-- the streams by their IDs, as places in `opened` -/
  table : Table Nat Nat
  opened : List LiveStream
  queueBudget : ByteBudget
  reconnectCount : Nat
  lastReconnect : Option Stamp
  reporter : Reporter
  sent : List SentControl

/-- Everything that happens to a session. -/
inductive TrafficLabel where
  /-- a control frame arrives; `now` and `stamp` are read from the clock, and `overflows` says that the
      window of its stream refuses the credit -/
  | control (streamID : Nat) (payload : Bytes) (now : Int) (stamp : Stamp) (overflows : Bool)
  /-- a data frame arrives -/
  | data (streamID : Nat) (payload : Bytes)
  /-- a routine of the stream at `ref` takes a step -/
  | work (ref : Nat) (op : AgentStream.Op)
  /-- `DialLocalTarget` or `DialLocalUDPTarget` fails -/
  | dialFailed (ref : Nat)
  /-- `serveStream` has read the end of the local target -/
  | halfClose (ref : Nat)
  /-- `serveStream` or `serveUDPStream` comes to its end -/
  | served (ref : Nat) (serveEnd : ServeEnd) (writeErr : Option GoError)
  /-- `finishStream` takes a stream out of the table -/
  | finishStream (streamID : Nat)
  /-- the streams of the next report are counted -/
  | countActive
  /-- the streams whose queues are counted are taken from the table -/
  | snapshot
  /-- the queue of one of them is counted -/
  | countQueued
  /-- the report is sent, with an ID from 32 random bytes -/
  | report (entropy : Bytes) (stamp : Stamp)
  /-- `shutdown` takes all streams out of the table -/
  | shutdown

namespace LiveSession

/-- A session as it is created. -/
def new (setup : SessionSetup) : LiveSession where
  running := true
  maxStreamID := 0
  table := ∅
  opened := []
  queueBudget := .new setup.limits.maxSessionQueueBytes
  reconnectCount := 0
  lastReconnect := none
  reporter := .idle
  sent := []

def observeReconnect (s : LiveSession) (stamp : Stamp) : LiveSession :=
  { s with reconnectCount := s.reconnectCount + 1, lastReconnect := some stamp }

/-- The session when its loop starts. The reconnect is observed once, if the Agent has reconnected. -/
def start (setup : SessionSetup) (reconnected : Option Stamp) : LiveSession :=
  match reconnected with
  | some stamp => (new setup).observeReconnect stamp
  | none => new setup

/-- `sendControl` -/
def send (s : LiveSession) (streamID : Nat) (message : ControlMessage) : LiveSession :=
  { s with sent := s.sent ++ [⟨streamID, message⟩] }

/-- The loop returns an error. -/
def stop (s : LiveSession) : LiveSession := { s with running := false }

def setStream (s : LiveSession) (ref : Nat) (st : LiveStream) : LiveSession :=
  { s with opened := s.opened.set ref st }

/-- The place of a stream in the table, with the stream. -/
def lookup (s : LiveSession) (streamID : Nat) : Option (Nat × LiveStream) := do
  let ref ← s.table.lookup streamID
  let st ← s.opened[ref]?
  return (ref, st)

/-- `sendStreamTerminalError` and `sendStreamTerminalClose` -/
def sendTerminal (s : LiveSession) (ref : Nat) (st : LiveStream) (frame : TerminalFrame) : LiveSession :=
  if st.terminal then s
  else (s.setStream ref { st with terminal := true }).send st.id frame.control

/-! ## Frames from the Gateway -/

/-- The fields that `admitStream` reads. -/
def admission (setup : SessionSetup) (s : LiveSession) : AgentSession where
  flowControlled := setup.flowControlled
  limits := setup.limits
  endpoints := setup.endpoints
  maxStreamID := s.maxStreamID
  streams := s.table.keys

def handleStreamOpen (setup : SessionSetup) (s : LiveSession) (streamID : Nat) (message : StreamOpen) :
    LiveSession :=
  match admitStream (s.admission setup) streamID message with
  | (_, .fatal _) => s.stop
  | (sess, .refused code text retryable) =>
    { s with maxStreamID := sess.maxStreamID }.send streamID (.streamError ⟨code, text, retryable⟩)
  | (sess, .opened stream) =>
    let s := { s with
      maxStreamID := sess.maxStreamID
      table := s.table.insert streamID s.opened.length
      opened := s.opened ++ [{
        id := streamID
        terminal := false
        stream := .new stream.mode stream.window.isSome stream.queueFrames.toNat stream.inputBytes }] }
    match stream.bodyCredit with
    | some credit => s.send streamID (.streamWindowUpdate (toUint32 credit))
    | none => s

/-- The stream mode of a message; no mode is that of HTTP. -/
def streamMode (mode : String) : StreamMode :=
  if mode = "tcp" then .tcp else if mode = "udp" then .udp else .http

def streamOpenMessage (message : Struct) : StreamOpen where
  endpointID := message.string "endpoint_id"
  assignmentID := message.string "assignment_id"
  localEndpointID := message.string "local_endpoint_id"
  requestID := message.string "request_id"
  mode := streamMode (message.string "mode")

/-- The stream at `streamID` is finished by the peer: its terminal frame is not sent any more. -/
def finishStreamFromPeer (s : LiveSession) (streamID : Nat) : LiveSession :=
  match s.lookup streamID with
  | some (ref, st) => s.setStream ref { st with terminal := true }
  | none => s

def handleHalfClose (s : LiveSession) (streamID : Nat) : LiveSession :=
  match s.lookup streamID with
  | none => s
  | some (ref, st) =>
    if st.stream.mode ≠ .tcp then
      s.send streamID (.streamError
        ⟨"protocol_error", "half-close is valid only for TCP streams", false⟩)
    else s.setStream ref { st with stream := { st.stream with peerHalfClose := true } }

/-- Only streams with a window look at the credit, which belongs to the model of that window. -/
def handleWindowUpdate (setup : SessionSetup) (s : LiveSession) (streamID : Nat) (overflows : Bool) :
    LiveSession :=
  if setup.flowControlled = false then s.stop
  else
    match s.lookup streamID with
    | none => s
    | some (ref, st) =>
      if st.stream.flowControlled && overflows then
        s.sendTerminal ref st (.streamError ⟨"protocol_error", "invalid stream credit", false⟩)
      else s

/-- The switch of `handleControl`. -/
def dispatchControl (setup : SessionSetup) (s : LiveSession) (streamID : Nat) (payload : Bytes)
    (stamp : Stamp) (overflows : Bool) (messageType : String) : LiveSession :=
  match MessageType.ofName? messageType with
  | some .ping =>
    match unmarshal MessageType.ping.fields payload with
    | .error _ => s.stop
    | .ok ping => s.send 0 (.pong (ping.string "ping_id") stamp)
  | some .pong => s
  | some .sessionRevoked => s.stop
  | some .streamOpen =>
    match unmarshal MessageType.streamOpen.fields payload with
    | .error _ => s.stop
    | .ok message => s.handleStreamOpen setup streamID (streamOpenMessage message)
  | some .streamClose | some .streamError => s.finishStreamFromPeer streamID
  | some .streamHalfClose => s.handleHalfClose streamID
  | some .streamWindowUpdate => s.handleWindowUpdate setup streamID overflows
  | _ => s.stop

def handleControl (setup : SessionSetup) (s : LiveSession) (streamID : Nat) (payload : Bytes) (now : Int)
    (stamp : Stamp) (overflows : Bool) : LiveSession :=
  match validateControlPayload payload streamID now with
  | .error _ => s.stop
  | .ok () =>
    match unmarshal [⟨"message_type", .string⟩] payload with
    | .error _ => s.stop
    | .ok envelope =>
      s.dispatchControl setup streamID payload stamp overflows (envelope.string "message_type")

/-- `handleData`; the loop waits while the stream is being drained. -/
def handleData (s : LiveSession) (streamID : Nat) (payload : Bytes) : Option LiveSession :=
  match s.lookup streamID with
  | none => some (if streamID ≠ 0 ∧ streamID ≤ s.maxStreamID then s else s.stop)
  | some (ref, st) =>
    if st.stream.mode = .udp ∧ maxUDPDatagram < payload.length then
      some (s.sendTerminal ref st
        (.streamError ⟨"resource_limit", "UDP datagram exceeds tunnel limit", false⟩))
    else
      (st.stream.enqueue s.queueBudget payload).map fun (queueBudget, stream, event) =>
        let st := { st with stream }
        let s := { s with queueBudget }.setStream ref st
        if event = .rejected then
          s.sendTerminal ref st (.streamError
            ⟨"resource_limit", "stream input byte/frame budget exhausted or stalled", true⟩)
        else s

/-! ## Routines of the Agent -/

/-- The steps of a stream that only the session loop takes, when it handles a frame. -/
def byLoop : AgentStream.Op → Bool
  | .enqueue _ | .halfClose => true
  | _ => false

/-- The session after a step of a stream, with the credit that the step sends. -/
def worked (s : LiveSession) (ref : Nat) (st : LiveStream) (op : AgentStream.Op)
    (result : ByteBudget × AgentStream × StreamEvent) : LiveSession :=
  let s := { s with queueBudget := result.1 }.setStream ref { st with stream := result.2.1 }
  match st.stream.credit op with
  | some size => s.send st.id (.streamWindowUpdate (toUint32 size))
  | none => s

/-- A step of a stream's own routines. -/
def work (s : LiveSession) (ref : Nat) (op : AgentStream.Op) : Option LiveSession :=
  match s.opened[ref]? with
  | some st =>
    if byLoop op then none else (st.stream.step s.queueBudget op).map (s.worked ref st op)
  | none => none

/-- `serveStream` behind its wait for the local writer. -/
def served (s : LiveSession) (ref : Nat) (st : LiveStream) (serveEnd : ServeEnd)
    (writeErr : Option GoError) : LiveSession :=
  match afterServe st.stream.mode serveEnd writeErr with
  | .reporting frame => s.sendTerminal ref st frame
  | _ => s

/-- `countActiveStreams` for a report. -/
def countActiveStreams (s : LiveSession) : Option LiveSession :=
  match s.reporter with
  | .idle => some { s with reporter := .counted s.table.size }
  | _ => none

/-- `countQueuedFrames` up to its loop. -/
def snapshotStreams (s : LiveSession) : Option LiveSession :=
  match s.reporter with
  | .counted active => some { s with reporter := .counting active s.table.values 0 }
  | _ => none

/-- One round of the loop of `countQueuedFrames`. -/
def countQueuedFrames (s : LiveSession) : Option LiveSession :=
  match s.reporter with
  | .counting active (ref :: rest) queued =>
    (s.opened[ref]?).map fun st =>
      { s with reporter := .counting active rest (queued + st.stream.incoming.length) }
  | _ => none

def sendHealthReport (setup : SessionSetup) (s : LiveSession) (entropy : Bytes) (stamp : Stamp) :
    Option LiveSession :=
  match s.reporter with
  | .counting active [] queued =>
    some ({ s with reporter := .idle }.send 0 (.healthReport {
      reportID := randomID "report" entropy
      generatedAt := stamp
      activeStreams := active
      queuedFrames := queued
      reconnectCount := s.reconnectCount
      lastReconnectAt := s.lastReconnect
      agentVersion := setup.agentVersion }))
  | _ => none

def step (setup : SessionSetup) (s : LiveSession) : TrafficLabel → Option LiveSession
  | .control streamID payload now stamp overflows =>
    if s.running then some (s.handleControl setup streamID payload now stamp overflows) else none
  | .data streamID payload =>
    if s.running ∧ payload.length ≤ maxDataPayload then s.handleData streamID payload else none
  | .work ref op => s.work ref op
  | .dialFailed ref =>
    (s.opened[ref]?).map fun st => s.sendTerminal ref st (Agent.dialFailed st.stream.mode)
  | .halfClose ref =>
    match s.opened[ref]? with
    | some st => if st.stream.mode = .tcp then some (s.send st.id .streamHalfClose) else none
    | none => none
  | .served ref serveEnd writeErr =>
    (s.opened[ref]?).map fun st => s.served ref st serveEnd writeErr
  | .finishStream streamID => some { s with table := s.table.erase streamID }
  | .countActive => s.countActiveStreams
  | .snapshot => s.snapshotStreams
  | .countQueued => s.countQueuedFrames
  | .report entropy stamp =>
    if entropy.length = 32 then s.sendHealthReport setup entropy stamp else none
  | .shutdown => some { s with running := false, table := ∅ }

end LiveSession

end Hooshix.Agent
