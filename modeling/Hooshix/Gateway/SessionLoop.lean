-- SUMMARY: The receive loop of a Gateway session.
import Hooshix.Contract.Control
import Hooshix.Contract.FrameCodec
import Hooshix.ContractV1.ControlPayload

/-! # The receive loop

`session.run` for one message. What a frame does to a stream is an action here; the streams have their
own models. A session ends with the close code of the first error.
-/

namespace Hooshix.Gateway.SessionLoop

open Contract ContractV1 StructDecode MessageType

/-! ## Close codes -/

def statusNormalClosure : Int := 1000

def statusProtocolError : Int := 1002

def statusInvalidFramePayloadData : Int := 1007

def statusMessageTooBig : Int := 1009

/-- An error that ends the session; `violation` is the close code and reason of a
    `protocolCloseError`. -/
structure SessionError where
  violation : Option (Int × String)
  err : GoError
  deriving DecidableEq

def closeViolation (code : Int) (reason : String) (err : GoError) : SessionError :=
  ⟨some (code, reason), err⟩

/-- An error without a classification. -/
def unclassified (err : GoError) : SessionError := ⟨none, err⟩

def closeCodeFor (err : SessionError) (fallback : Int) (fallbackReason : String) : Int × String :=
  err.violation.getD (fallback, fallbackReason)

/-! ## Reading a frame -/

inductive WebSocketMessage where
  | text
  | binary
  deriving DecidableEq, Repr

/-- `conn.SetReadLimit(contractv1.HeaderSize + contractv1.MaxDataPayload)` -/
def readLimit : Nat := headerSize + maxDataPayload

/-- What the WebSocket library makes of a message above the read limit. -/
structure Oversize where
  /-- the error of `conn.Read` -/
  err : GoError
  /-- `websocket.CloseStatus` of that error -/
  closeStatus : Int
  /-- the close code that the library has sent itself, which no later close replaces -/
  sent : Option Int

/-- The connection is closed with 1009 by the library, or the library's error asks the caller to. -/
def Oversize.TooBig (oversize : Oversize) : Prop :=
  oversize.sent.getD oversize.closeStatus = statusMessageTooBig

/-- `readProtocolFrame` for a message the peer has sent -/
def readProtocolFrame (oversize : Oversize) (messageType : WebSocketMessage) (payload : Bytes) :
    Except SessionError WireFrame :=
  if readLimit < payload.length then
    .error (if oversize.closeStatus = statusMessageTooBig then
        closeViolation statusMessageTooBig "frame exceeds limit" oversize.err
      else unclassified oversize.err)
  else if messageType ≠ .binary then
    .error (closeViolation statusInvalidFramePayloadData "invalid frame payload data"
      (errorsNew "protocol requires binary websocket messages"))
  else
    match decodeFrame payload with
    | .ok frame => .ok frame
    | .error err =>
      if err.framing then .error (closeViolation statusProtocolError "protocol error" err.err)
      else
        .error (closeViolation statusInvalidFramePayloadData "invalid frame payload data" err.err)

/-! ## Sessions -/

/-- What the loop reads of a stream. -/
structure StreamView where
  datagram : Bool
  window : Bool
  deriving DecidableEq, Repr

structure SessionView where
  /-- the last sequence number of `sess.inbound` -/
  inbound : Nat
  flowControlled : Bool
  streams : Nat → Option StreamView
  nextID : Nat
  /-- the ID of the armed ping, or the empty string -/
  pendingPing : String

/-- What the calls answer while a frame is handled. -/
structure Env where
  now : Int
  oversize : Oversize
  sendControl : Option GoError
  addCredit : Option GoError
  enqueue : Option GoError

inductive Action where
  | observeLatency
  | countHealthReport
  | sendPong (pingID : String)
  | finishStream (streamID : Nat) (err : GoError)
  | halfClose (streamID : Nat)
  | addCredit (streamID : Nat) (size : Int)
  | errorStream (streamID : Nat) (code message : String) (retryable : Bool) (err : GoError)
  | enqueue (streamID : Nat) (payload : Bytes)
  deriving DecidableEq

/-! ## Handling a frame -/

/-- `json.Unmarshal` of a payload; its error carries no close code. -/
def unmarshalMessage (fields : List Field) (payload : Bytes) : Except SessionError Struct :=
  (unmarshal fields payload).mapError unclassified

def typeField : List Field := [⟨"message_type", .string⟩]

/-- The switch of `handleControl` over the type of a message that was accepted. -/
def dispatchControl (env : Env) (sess : SessionView) (frame : WireFrame) (messageType : String) :
    Except SessionError (List Action) :=
  let streamID := frame.streamID.toNat
  match ofName? messageType with
  | some .pong => do
    let pong ← unmarshalMessage pong.fields frame.payload
    if sess.pendingPing ≠ "" ∧ pong.string "ping_id" = sess.pendingPing then
      return [.observeLatency]
    else return []
  | some .healthReport => do
    let _ ← unmarshalMessage healthReport.fields frame.payload
    return [.countHealthReport]
  | some .ping => do
    let ping ← unmarshalMessage ping.fields frame.payload
    match env.sendControl with
    | some err => .error (unclassified err)
    | none => return [.sendPong (ping.string "ping_id")]
  | some .streamClose => return [.finishStream streamID ioEOF]
  | some .streamHalfClose =>
    return if (sess.streams streamID).isSome then [.halfClose streamID] else []
  | some .streamError => do
    let message ← unmarshalMessage streamError.fields frame.payload
    return [.finishStream streamID (errorsNew ("agent stream error " ++ quoted (message.string "code") ++
      ": " ++ quoted (message.string "message")))]
  | some .sessionRevoked =>
    .error (unclassified (errorsNew "agent may not originate session_revoked"))
  | some .streamWindowUpdate =>
    if sess.flowControlled = false then
      .error (unclassified (errorsNew "stream_window_update outside a v2 session"))
    else do
      let message ← unmarshalMessage streamWindowUpdate.fields frame.payload
      match sess.streams streamID with
      | some ⟨_, true⟩ =>
        match env.addCredit with
        | none => return [.addCredit streamID (message.int "credit_bytes")]
        | some err =>
          return [.errorStream streamID "protocol_error" "invalid stream credit" false err]
      | _ => return []
  | _ =>
    .error (unclassified (errorsNew ("unexpected agent control message: " ++ quoted messageType)))

def handleControl (env : Env) (sess : SessionView) (frame : WireFrame) :
    Except SessionError (List Action) :=
  match validateControlPayload frame.payload frame.streamID.toNat env.now with
  | .error err =>
    .error (closeViolation statusInvalidFramePayloadData "invalid frame payload data" err)
  | .ok () => do
    let envelope ← unmarshalMessage typeField frame.payload
    dispatchControl env sess frame (envelope.string "message_type")

def handleData (env : Env) (sess : SessionView) (frame : WireFrame) :
    Except SessionError (List Action) :=
  let streamID := frame.streamID.toNat
  match sess.streams streamID with
  | none =>
    if streamID ≠ 0 ∧ streamID < sess.nextID then .ok []
    else .error (unclassified (errorsNew s!"data for unknown stream {streamID}"))
  | some stream =>
    if stream.datagram ∧ Contract.maxUDPDatagram < frame.payload.length then
      .ok [.errorStream streamID "resource_limit" "UDP datagram exceeds tunnel limit" false
        (errorsNew "oversize Agent UDP datagram")]
    else
      match env.enqueue with
      | some err =>
        .ok [.errorStream streamID "resource_limit" "stream response queue exhausted" true
          (.wrap s!"stream {streamID} inbound queue: %w" err)]
      | none => .ok [.enqueue streamID frame.payload]

/-! ## The loop -/

/-- What one message makes of a session. -/
inductive Received where
  | closed (code : Int) (reason : String)
  | handled (inbound : Nat) (actions : List Action)

/-- The close code that the library has sent when a message was read. -/
def Env.sent (env : Env) (payload : Bytes) : Option Int :=
  if readLimit < payload.length then env.oversize.sent else none

/-- One round of `session.run`. -/
def receive (env : Env) (sess : SessionView) (messageType : WebSocketMessage) (payload : Bytes) :
    Received :=
  match readProtocolFrame env.oversize messageType payload with
  | .error err =>
    let (code, reason) := closeCodeFor err statusNormalClosure "session ended"
    .closed ((env.sent payload).getD code) reason
  | .ok frame =>
    match acceptSequence sess.inbound frame.sequence.toNat with
    | .error _ => .closed statusProtocolError "sequence violation"
    | .ok inbound =>
      if frame.kind = kindControl then
        match handleControl env sess frame with
        | .error err =>
          let (code, reason) := closeCodeFor err statusPolicyViolation "control violation"
          .closed code reason
        | .ok actions => .handled inbound actions
      else if frame.kind = kindData then
        match handleData env sess frame with
        | .error _ => .closed statusPolicyViolation "data violation"
        | .ok actions => .handled inbound actions
      else .closed statusProtocolError "unknown frame kind"

def Received.code : Received → Option Int
  | closed code _ => some code
  | handled _ _ => none

/-- An environment in which every call succeeds, with the library's answer to a message that is too
    long. -/
def quietEnv : Env where
  now := 0
  oversize := ⟨errorsNew "read limited at 1048600 bytes", -1, some statusMessageTooBig⟩
  sendControl := none
  addCredit := none
  enqueue := none

end Hooshix.Gateway.SessionLoop
