-- SUMMARY: How the Agent admits a stream that the Gateway opens.
import Hooshix.TunnelWindow
import Hooshix.Agent.Limits

/-! # Opening a stream on the Agent

`agentSession.handleStreamOpen`. The decision under the session mutex is `admitStream`; the answer to
the Gateway and the error that ends the session follow from it.
-/

namespace Hooshix.Agent

open Contract TunnelWindow

inductive EndpointProtocol where
  | unset
  | tcp
  | udp
  deriving DecidableEq, Repr

structure Endpoint where
  id : String
  protocol : EndpointProtocol
  deriving DecidableEq, Repr

/-- `Config.EndpointByID` -/
def endpointByID (endpoints : List Endpoint) (id : String) : Option Endpoint :=
  endpoints.find? (·.id = id)

/-- The fields of `agentSession` that opening a stream reads or changes; `streams` are the keys of the
    stream table. -/
structure AgentSession where
  flowControlled : Bool
  limits : Limits
  endpoints : List Endpoint
  maxStreamID : Nat
  streams : List Nat
  deriving DecidableEq, Repr

/-- What the Agent sets up for an admitted stream. `bodyCredit` is the first grant it sends. -/
structure OpenedStream where
  mode : StreamMode
  inputBytes : Int
  queueFrames : Int
  window : Option Window
  bodyCredit : Option Int
  deriving DecidableEq, Repr

/-- The outcomes of `handleStreamOpen`: an error that ends the session, a `stream_error` for this
    stream only, or a new stream. -/
inductive OpenReply where
  | fatal (err : GoError)
  | refused (code message : String) (retryable : Bool)
  | opened (stream : OpenedStream)
  deriving DecidableEq, Repr

/-- The queue, window and first grant of a new stream. The Gateway already holds a header allowance,
    so only the remainder of the input budget is granted. -/
def openedStream (sess : AgentSession) (mode : StreamMode) : OpenedStream :=
  let inputBytes := streamInputBudget mode sess.limits
  let paced := sess.flowControlled && mode != .udp
  let bodyCredit := inputBytes - headerAllowanceBytes
  { mode
    inputBytes
    queueFrames := streamQueueFrames sess.limits.maxQueueFrames inputBytes
    window := if paced then some (Window.new maxWindowCreditBytes) else none
    bodyCredit := if paced && bodyCredit > 0 then some (initialCredit bodyCredit) else none }

/-- The checks of `handleStreamOpen` in their order. -/
def admitStream (sess : AgentSession) (streamID : Nat) (message : StreamOpen) :
    AgentSession × OpenReply :=
  if streamID = 0 then (sess, .fatal (errorsNew "stream_open requires non-zero stream ID"))
  else if streamID ≤ sess.maxStreamID then
    (sess, .fatal (errorsNew s!"stream ID reused or out of order: {streamID}"))
  else
    let sess := { sess with maxStreamID := streamID }
    if (sess.streams.length : Int) ≥ sess.limits.maxStreams then
      (sess, .refused "resource_limit" "active stream limit reached" true)
    else match endpointByID sess.endpoints message.localEndpointID with
    | none => (sess, .refused "route_revoked" "local endpoint is not configured" false)
    | some endpoint =>
      if (endpoint.protocol == .udp) != (message.mode == .udp) then
        (sess, .refused "protocol_error" "local endpoint protocol mismatch" false)
      else
        ({ sess with streams := sess.streams ++ [streamID] },
          .opened (openedStream sess message.mode))

/-- The error `handleStreamOpen` returns, given that of the one message it sends. A stream whose first
    grant cannot be sent is finished again. -/
def handleStreamOpen (sess : AgentSession) (streamID : Nat) (message : StreamOpen)
    (sendErr : Option GoError) : AgentSession × Option GoError :=
  match admitStream sess streamID message with
  | (sess, .fatal err) => (sess, some err)
  | (sess, .refused _ _ _) => (sess, sendErr)
  | (sess, .opened stream) =>
    match stream.bodyCredit, sendErr with
    | some _, some err => ({ sess with streams := sess.streams.erase streamID }, some err)
    | _, _ => (sess, none)

variable {sess : AgentSession} {streamID : Nat} {message : StreamOpen} {sess' : AgentSession}

/-- A stream ID above all earlier ones never ends the session. -/
theorem admitStream_of_lt (message : StreamOpen) (h : sess.maxStreamID < streamID) :
    (admitStream sess streamID message).1.maxStreamID = streamID ∧
      ∀ err, (admitStream sess streamID message).2 ≠ .fatal err := by
  have hzero : streamID ≠ 0 := by omega
  have hold : ¬ streamID ≤ sess.maxStreamID := by omega
  simp only [admitStream, hzero, hold, if_false]
  split
  · simp
  · split
    · simp
    · split
      · simp
      · simp

/-- The streams that are refused with an error of their own. -/
theorem admitStream_refused {code text : String} {retryable : Bool}
    (h : admitStream sess streamID message = (sess', .refused code text retryable)) :
    streamID ≠ 0 ∧ (code, text, retryable) ∈
      [("resource_limit", "active stream limit reached", true),
        ("route_revoked", "local endpoint is not configured", false),
        ("protocol_error", "local endpoint protocol mismatch", false)] := by
  simp only [admitStream] at h
  split at h
  · cases h
  next hzero =>
    refine ⟨hzero, ?_⟩
    repeat' split at h
    all_goals
      cases h
      try simp

/-- A stream is opened below the limit, to an endpoint of its protocol. -/
theorem admitStream_opened {stream : OpenedStream}
    (h : admitStream sess streamID message = (sess', .opened stream)) :
    streamID ≠ 0 ∧ (sess.streams.length : Int) < sess.limits.maxStreams ∧
      ∃ endpoint, endpointByID sess.endpoints message.localEndpointID = some endpoint ∧
        (endpoint.protocol = .udp ↔ message.mode = .udp) ∧
        stream = openedStream { sess with maxStreamID := streamID } message.mode := by
  simp only [admitStream] at h
  repeat' split at h
  all_goals cases h
  next hzero _ hlimit _ endpoint hendpoint hprotocol =>
    have hsame : (endpoint.protocol == .udp) = (message.mode == .udp) := by
      simpa using hprotocol
    refine ⟨hzero, by omega, endpoint, hendpoint, ?_, rfl⟩
    rw [← beq_iff_eq, hsame, beq_iff_eq]

/-- Below the limit, a new ID and an endpoint of the protocol are all that it takes. -/
theorem admitStream_eq_opened {endpoint : Endpoint} (hnew : sess.maxStreamID < streamID)
    (hroom : (sess.streams.length : Int) < sess.limits.maxStreams)
    (hendpoint : endpointByID sess.endpoints message.localEndpointID = some endpoint)
    (hprotocol : endpoint.protocol = .udp ↔ message.mode = .udp) :
    admitStream sess streamID message =
      ({ sess with maxStreamID := streamID, streams := sess.streams ++ [streamID] },
        .opened (openedStream { sess with maxStreamID := streamID } message.mode)) := by
  have hzero : streamID ≠ 0 := by omega
  have hold : ¬ streamID ≤ sess.maxStreamID := by omega
  have hlimit : ¬ (sess.streams.length : Int) ≥ sess.limits.maxStreams := by omega
  have hsame : ((endpoint.protocol == .udp) != (message.mode == .udp)) = false := by
    rw [bne_eq_false_iff_eq, Bool.eq_iff_iff, beq_iff_eq, beq_iff_eq]
    exact hprotocol
  simp [admitStream, hzero, hold, hlimit, hendpoint, hsame]

/-- The answer changes no more than the table of streams. -/
theorem handleStreamOpen_maxStreamID (sess : AgentSession) (streamID : Nat) (message : StreamOpen)
    (sendErr : Option GoError) :
    (handleStreamOpen sess streamID message sendErr).1.maxStreamID =
      (admitStream sess streamID message).1.maxStreamID := by
  unfold handleStreamOpen
  split
  next h => simp [h]
  next h => simp [h]
  next h =>
    split <;> simp [h]

end Hooshix.Agent
