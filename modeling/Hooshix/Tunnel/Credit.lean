-- SUMMARY: Credit of one flow-controlled stream between a Gateway and an Agent, in both directions.
import Hooshix.Lib.StepSystem
import Hooshix.Gateway.StreamAccounting
import Hooshix.Agent.StreamCredit
import Hooshix.Agent.StreamOpen

/-! # Stream credit

One stream of a `hooshix.tunnel.v2` session, from its `stream_open` on. Both parties send data under a
window, take data into their queues and return credit for what left them. Each session's writer merges
a queue of control and a queue of data frames and may abandon a frame, so any frame on its way may
arrive next or never. A reader loop handles one frame at a time: it looks the stream up, and acts on
it in a later step. The budgets of a session are shared with its other streams and change at any time.
-/

namespace Hooshix.Tunnel

open Contract TunnelWindow

/-- A frame of the stream, as far as its credit is concerned. -/
inductive StreamFrame where
  | streamOpen
  | data (payload : Bytes)
  | windowUpdate (creditBytes : Nat)
  deriving DecidableEq, Repr

/-- `uint32(size)` -/
def uint32 (size : Int) : Nat := (size % 2 ^ 32).toNat

/-- The frame of `sendWindowUpdate`. -/
def sendWindowUpdate (size : Int) : StreamFrame := .windowUpdate (uint32 size)

def errCreditBounds : GoError :=
  errorsNew "stream_window_update credit_bytes outside contract bounds"

/-- The bounds that `ValidateControlPayload` checks before a message is looked at. -/
def StreamFrame.violation : StreamFrame → Option GoError
  | .windowUpdate creditBytes =>
    if creditBytes < 1 ∨ (creditBytes : Int) > maxWindowCreditBytes then some errCreditBounds
    else none
  | _ => none

/-- The errors of a grant that the peer should not have made. -/
def creditError (err : GoError) : Prop :=
  err = errInvalid ∨ err = errOverGrant ∨ err = errCreditBounds

/-- An error with which a party closes the window of a stream that it ends, for another reason than
    a grant. -/
structure EndError where
  err : Option GoError
  other : ∀ e, err = some e → ¬ creditError e

/-! ## One side of the stream -/

/-- A party's stream with the window it sends under. `attached` says that the stream is in the
    session's table, and `handling` is the frame in the hand of the reader loop. -/
structure Side (σ : Type) where
  stream : σ
  window : Window
  attached : Bool
  handling : Option StreamFrame
  deriving DecidableEq, Repr

namespace Side

variable {σ : Type}

/-- One pass of the loop in `sendBytes`. Nothing is sent while `Take` waits or when it fails. -/
def sendChunk (side : Side σ) (payload : Bytes) : Option (Side σ × StreamFrame) :=
  let chunk := payload.take maxDataPayload
  match side.window.take chunk.length with
  | .taken window => some ({ side with window }, .data chunk)
  | _ => none

/-- The reader loop takes a frame. A violation ends the session, and frames for a detached stream are
    dropped. -/
def receive (side : Side σ) (frame : StreamFrame) : Option (Side σ × List GoError) :=
  if side.handling.isSome then none
  else match frame.violation with
  | some err => some ({ side with attached := false }, [err])
  | none => some (if side.attached then { side with handling := some frame } else side, [])

/-- The stream leaves the table and its window is closed. -/
def detach (side : Side σ) (err : GoError) : Side σ :=
  { side with attached := false, window := side.window.close err }

def closeWindow (side : Side σ) (cause : EndError) : Side σ :=
  { side with window := side.window.close cause.err }

/-- Applies a grant. A refused grant ends the stream; `closeErr` is what closes its window. -/
def addCredit (side : Side σ) (creditBytes : Nat) (closeErr : GoError → GoError) :
    Side σ × List GoError :=
  match side.window.add creditBytes with
  | .ok window => ({ side with window, handling := none }, [])
  | .error err => (({ side with handling := none } : Side σ).detach (closeErr err), [err])

end Side

/-! ## Both sides -/

/-- A stream of a v2 session. `firstGrant` is the credit that `openStreamTarget` has still to send,
    and `refusals` are the errors with which grants were refused. -/
structure CreditState where
  gateway : Side Gateway.Stream
  shared : Gateway.SharedBudgets
  firstGrant : Option Int
  agent : Option (Side Agent.AgentStream)
  agentBudget : Agent.ByteBudget
  toAgent : List StreamFrame
  toGateway : List StreamFrame
  refusals : List GoError
  deriving DecidableEq, Repr

namespace CreditState

/-- The window that `openStreamTarget` creates; it ignores the error of `Add`. -/
def openWindow : Window :=
  let window := Window.new (maxWindowCreditBytes + headerAllowanceBytes)
  match window.add headerAllowanceBytes with
  | .ok window => window
  | .error _ => window

/-- The Gateway has created the stream and sends its `stream_open`. -/
def start (limits : Gateway.Limits) (shared : Gateway.SharedBudgets)
    (agentBudget : Agent.ByteBudget) : CreditState where
  gateway :=
    { stream := Gateway.newStream false limits.maxStreamQueueFrames.toNat limits.maxStreamQueueBytes
      window := openWindow
      attached := true
      handling := none }
  shared := shared
  firstGrant := some (initialCredit limits.maxStreamQueueBytes)
  agent := none
  agentBudget := agentBudget
  toAgent := [.streamOpen]
  toGateway := []
  refusals := []

/-! ## The Gateway's steps -/

/-- `openStreamTarget` sends the first grant. -/
def grantFirst (s : CreditState) : Option CreditState :=
  match s.firstGrant with
  | some size =>
    some { s with firstGrant := none, toAgent := s.toAgent ++ [sendWindowUpdate size] }
  | none => none

/-- Data is sent once `openStreamTarget` has returned. -/
def gatewaySend (s : CreditState) (payload : Bytes) : Option CreditState :=
  match s.firstGrant, s.gateway.sendChunk payload with
  | none, some (gateway, frame) => some { s with gateway, toAgent := s.toAgent ++ [frame] }
  | _, _ => none

/-- `grantCredit`: the frame that returns the credit of an event. -/
def grantCredit : Gateway.StreamEvent → List StreamFrame
  | .granted size => if size ≤ 0 then [] else [sendWindowUpdate size]
  | _ => []

/-- A step of the stream itself. Data enters it through the reader loop only. -/
def gatewayStream (s : CreditState) (o : Gateway.Stream.Op) : Option CreditState :=
  match o with
  | .enqueue _ => none
  | o =>
    match s.gateway.stream.step s.shared o with
    | .next (shared, stream, ev) =>
      some { s with
        gateway := { s.gateway with stream }
        shared
        toAgent := s.toAgent ++ grantCredit ev }
    | _ => none

def gatewayReceive (s : CreditState) (i : Nat) : Option CreditState :=
  match s.toGateway[i]? with
  | some frame =>
    match s.gateway.receive frame with
    | some (gateway, errs) =>
      some { s with
        gateway
        toGateway := s.toGateway.eraseIdx i
        refusals := s.refusals ++ errs }
    | none => none
  | none => none

/-- `handleData` and the grant case of `handleControl`. -/
def gatewayHandle (s : CreditState) : Option CreditState :=
  match s.gateway.handling with
  | some (.windowUpdate creditBytes) =>
    let (gateway, errs) := s.gateway.addCredit creditBytes id
    some { s with gateway, refusals := s.refusals ++ errs }
  | some (.data payload) =>
    match s.gateway.stream.enqueue s.shared payload with
    | .next (shared, stream, .rejected err) =>
      let gateway : Side Gateway.Stream := { s.gateway with stream, handling := none }
      some { s with gateway := gateway.detach (.wrap "stream %d inbound queue: %w" err), shared }
    | .next (shared, stream, _) =>
      some { s with gateway := { s.gateway with stream, handling := none }, shared }
    | _ => none
  | _ => none

/-! ## The Agent's steps -/

/-- `handleStreamOpen` for an admitted stream: its side, and the first grant. -/
def openAgent (sess : Agent.AgentSession) (mode : StreamMode) :
    Option (Side Agent.AgentStream × List StreamFrame) :=
  let opened := Agent.openedStream sess mode
  match opened.window with
  | some window =>
    some ({ stream := Agent.AgentStream.new mode true opened.queueFrames.toNat opened.inputBytes
            window
            attached := true
            handling := none },
      (opened.bodyCredit.map sendWindowUpdate).toList)
  | none => none

def agentSend (s : CreditState) (payload : Bytes) : Option CreditState :=
  match s.agent with
  | some agent =>
    match agent.sendChunk payload with
    | some (agent, frame) => some { s with agent, toGateway := s.toGateway ++ [frame] }
    | none => none
  | none => none

/-- A step of the stream itself, which may put credit on its way. -/
def agentStream (s : CreditState) (o : Agent.AgentStream.Op) : Option CreditState :=
  match o, s.agent with
  | .enqueue _, _ => none
  | o, some agent =>
    match agent.stream.step s.agentBudget o with
    | some (agentBudget, stream, _) =>
      some { s with
        agent := some { agent with stream }
        agentBudget
        toGateway := s.toGateway ++ ((agent.stream.credit o).map sendWindowUpdate).toList }
    | none => none
  | _, none => none

/-- The reader loop takes a frame. The `stream_open` creates the stream unless it is refused; frames
    for a stream that the Agent does not have are dropped. -/
def agentReceive (sess : Agent.AgentSession) (mode : StreamMode) (s : CreditState) (i : Nat)
    (admitted : Bool) : Option CreditState :=
  let received := { s with toAgent := s.toAgent.eraseIdx i }
  match s.toAgent[i]?, s.agent with
  | some .streamOpen, none =>
    if admitted then
      (openAgent sess mode).map fun (agent, grants) =>
        { received with agent, toGateway := s.toGateway ++ grants }
    else some received
  | some frame, none => some { received with refusals := s.refusals ++ frame.violation.toList }
  | some frame, some agent =>
    (agent.receive frame).map fun (agent, errs) =>
      { received with agent, refusals := s.refusals ++ errs }
  | none, _ => none

/-- The error with which `finishStream` closes the window. -/
def errStreamClosed : GoError := errorsNew "stream closed"

/-- `handleData` and the grant case of `handleControl`. -/
def agentHandle (s : CreditState) : Option CreditState :=
  match s.agent with
  | none => none
  | some agent =>
    match agent.handling with
    | some (.windowUpdate creditBytes) =>
      let (agent, errs) := agent.addCredit creditBytes fun _ => errStreamClosed
      some { s with agent, refusals := s.refusals ++ errs }
    | some (.data payload) =>
      match agent.stream.enqueue s.agentBudget payload with
      | some (agentBudget, stream, .rejected) =>
        let agent : Side Agent.AgentStream := { agent with stream, handling := none }
        some { s with agent := agent.detach errStreamClosed, agentBudget }
      | some (agentBudget, stream, _) =>
        some { s with agent := some { agent with stream, handling := none }, agentBudget }
      | none => none
    | _ => none

/-! ## Runs -/

/-- The steps of both parties and of what is around them. -/
inductive Label where
  | grantFirst
  | gatewaySend (payload : Bytes)
  | gatewayStream (o : Gateway.Stream.Op)
  | gatewayReceive (i : Nat)
  | gatewayHandle
  /-- the Gateway takes the stream out of its table -/
  | gatewayDetach
  | gatewayCloseWindow (cause : EndError)
  | agentSend (payload : Bytes)
  | agentStream (o : Agent.AgentStream.Op)
  | agentReceive (i : Nat) (admitted : Bool)
  | agentHandle
  | agentDetach
  | agentCloseWindow (cause : EndError)
  /-- a frame to the Agent is abandoned -/
  | loseToAgent (i : Nat)
  | loseToGateway (i : Nat)
  /-- other streams use the Gateway's budgets -/
  | shareGateway (shared : Gateway.SharedBudgets)
  | shareAgent (agentBudget : Agent.ByteBudget)

def step (sess : Agent.AgentSession) (mode : StreamMode) (s : CreditState) :
    Label → Option CreditState
  | .grantFirst => s.grantFirst
  | .gatewaySend payload => s.gatewaySend payload
  | .gatewayStream o => s.gatewayStream o
  | .gatewayReceive i => s.gatewayReceive i
  | .gatewayHandle => s.gatewayHandle
  | .gatewayDetach => some { s with gateway := { s.gateway with attached := false } }
  | .gatewayCloseWindow cause => some { s with gateway := s.gateway.closeWindow cause }
  | .agentSend payload => s.agentSend payload
  | .agentStream o => s.agentStream o
  | .agentReceive i admitted => s.agentReceive sess mode i admitted
  | .agentHandle => s.agentHandle
  | .agentDetach => some { s with agent := s.agent.map fun agent => { agent with attached := false } }
  | .agentCloseWindow cause => some { s with agent := s.agent.map (·.closeWindow cause) }
  | .loseToAgent i => some { s with toAgent := s.toAgent.eraseIdx i }
  | .loseToGateway i => some { s with toGateway := s.toGateway.eraseIdx i }
  | .shareGateway shared => some { s with shared }
  | .shareAgent agentBudget => some { s with agentBudget }

end CreditState

end Hooshix.Tunnel
