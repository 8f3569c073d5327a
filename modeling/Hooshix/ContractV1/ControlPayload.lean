-- SUMMARY: The validation of control payloads.
import Hooshix.Contract
import Hooshix.ContractV1.Records

/-! # Control payloads

`ValidateControlPayload`. The branches of its switch have one form: the scope of the stream ID, the
members that must be present, the strict decoding, the envelope, and the checks of the message. What
differs is a table over the message types.
-/

namespace Hooshix.ContractV1

open StructDecode
open Contract (tokenPattern maxWindowCreditBytes)

def maxStreamsPerSessionBound : Int := 4096

def maxQueuedFramesBound : Int := 65536

def maxHealthReconnectCount : Int := 2147483647

inductive MessageType where
  | clientHello
  | serverChallenge
  | clientAuth
  | sessionReady
  | ping
  | pong
  | healthReport
  | streamOpen
  | streamHalfClose
  | streamWindowUpdate
  | streamClose
  | streamError
  | sessionRevoked
  | resumeSession
  | sessionResumed
  deriving DecidableEq, Repr

/-! ## Scopes -/

inductive Scope where
  | session
  | stream
  deriving DecidableEq, Repr

def sessionScope (streamID : Nat) : Option GoError :=
  if streamID ≠ 0 then some (errorsNew "session control message requires stream ID 0") else none

def streamScope (streamID : Nat) : Option GoError :=
  if streamID = 0 then some (errorsNew "stream control message requires non-zero stream ID") else none

def Scope.check : Scope → Nat → Option GoError
  | session => sessionScope
  | stream => streamScope

/-- A parsed time that is only checked. -/
def checkUTCTime (name value : String) : Except GoError Unit :=
  (parseUTCTime name value).map fun _ => ()

/-- A member is in the map that the object decodes to. -/
def hasMember (data : Bytes) (name : String) : Bool :=
  match jsonValue data with
  | some (.object members) => (members.map (·.1)).contains name
  | _ => false

namespace MessageType

/-! ## Names, scopes and fields -/

def name : MessageType → String
  | clientHello => "client_hello"
  | serverChallenge => "server_challenge"
  | clientAuth => "client_auth"
  | sessionReady => "session_ready"
  | ping => "ping"
  | pong => "pong"
  | healthReport => "health_report"
  | streamOpen => "stream_open"
  | streamHalfClose => "stream_half_close"
  | streamWindowUpdate => "stream_window_update"
  | streamClose => "stream_close"
  | streamError => "stream_error"
  | sessionRevoked => "session_revoked"
  | resumeSession => "resume_session"
  | sessionResumed => "session_resumed"

def all : List MessageType :=
  [clientHello, serverChallenge, clientAuth, sessionReady, ping, pong, healthReport, streamOpen,
    streamHalfClose, streamWindowUpdate, streamClose, streamError, sessionRevoked, resumeSession,
    sessionResumed]

/-- The case of the switch that a name selects. -/
def ofName? (name : String) : Option MessageType := all.find? (·.name == name)

def scope : MessageType → Scope
  | streamOpen | streamHalfClose | streamWindowUpdate | streamClose | streamError => .stream
  | _ => .session

def envelopeError : MessageType → String
  | ping | pong => "invalid heartbeat envelope"
  | type => "invalid " ++ type.name ++ " envelope"

/-- The fields that every message has. -/
def envelopeFields : List Field := [⟨"contract_version", .int⟩, ⟨"message_type", .string⟩]

/-- The fields of a message after the envelope. -/
def bodyFields : MessageType → List Field
  | clientHello =>
    [⟨"device_id", .string⟩, ⟨"authorization_id", .string⟩, ⟨"token_id", .string⟩,
      ⟨"session_token", .string⟩, ⟨"client_nonce", .string⟩]
  | serverChallenge =>
    [⟨"session_id", .string⟩, ⟨"server_nonce", .string⟩, ⟨"expires_at", .string⟩]
  | clientAuth => [⟨"session_id", .string⟩, ⟨"signature", .string⟩]
  | sessionReady =>
    [⟨"session_id", .string⟩, ⟨"heartbeat_interval_seconds", .int⟩, ⟨"idle_timeout_seconds", .int⟩,
      ⟨"resume_challenge", .string⟩]
  | ping | pong => [⟨"ping_id", .string⟩, ⟨"sent_at", .string⟩, ⟨"received_at", .string⟩]
  | healthReport =>
    [⟨"report_id", .string⟩, ⟨"generated_at", .string⟩, ⟨"active_streams", .int⟩,
      ⟨"queued_frames", .int⟩, ⟨"reconnect_count", .int⟩, ⟨"last_reconnect_at", .string⟩,
      ⟨"agent_version", .string⟩]
  | streamOpen =>
    [⟨"endpoint_id", .string⟩, ⟨"assignment_id", .string⟩, ⟨"local_endpoint_id", .string⟩,
      ⟨"request_id", .string⟩, ⟨"mode", .string⟩]
  | streamHalfClose => []
  | streamWindowUpdate => [⟨"credit_bytes", .uint 32⟩]
  | streamClose => [⟨"reason_code", .string⟩]
  | streamError => [⟨"code", .string⟩, ⟨"message", .string⟩, ⟨"retryable", .bool⟩]
  | sessionRevoked => [⟨"authorization_id", .string⟩, ⟨"reason_code", .string⟩]
  | resumeSession =>
    [⟨"device_id", .string⟩, ⟨"authorization_id", .string⟩, ⟨"token_id", .string⟩,
      ⟨"session_id", .string⟩, ⟨"resume_nonce", .string⟩, ⟨"resume_challenge", .string⟩,
      ⟨"issued_at", .string⟩, ⟨"signature", .string⟩]
  | sessionResumed =>
    [⟨"session_id", .string⟩, ⟨"next_sequence", .uint 64⟩, ⟨"resumed_at", .string⟩,
      ⟨"resume_challenge", .string⟩]

def fields (type : MessageType) : List Field := envelopeFields ++ type.bodyFields

/-- The names given to `requirePresent`; the other messages do not call it. -/
def presentNames : MessageType → List String
  | sessionReady => ["heartbeat_interval_seconds", "idle_timeout_seconds"]
  | healthReport => ["active_streams", "queued_frames", "reconnect_count"]
  | streamWindowUpdate => ["credit_bytes"]
  | streamError => ["retryable"]
  | sessionResumed => ["next_sequence", "resume_challenge"]
  | _ => []

end MessageType

/-! ## The checks of the messages -/

def checkClientHello (message : Struct) : Except GoError Unit := do
  check (validateIDs [("device_id", message.string "device_id"),
    ("authorization_id", message.string "authorization_id"), ("token_id", message.string "token_id")])
  rejectIf (tokenPattern (codes (message.string "session_token")) = false)
    "session_token must be 32..512 base64url-safe characters"
  check (validateRawBase64Length "client_nonce" (message.string "client_nonce") 32)

def checkServerChallenge (now : Int) (message : Struct) : Except GoError Unit := do
  check (validateID "session_id" (message.string "session_id"))
  check (validateRawBase64Length "server_nonce" (message.string "server_nonce") 32)
  let expiresAt ← parseUTCTime "expires_at" (message.string "expires_at")
  rejectIf (¬ now < expiresAt) "server challenge is expired"

def checkClientAuth (message : Struct) : Except GoError Unit := do
  check (validateID "session_id" (message.string "session_id"))
  check (validateRawBase64Length "signature" (message.string "signature") 64)

def checkSessionReady (data : Bytes) (ready : Struct) : Except GoError Unit := do
  check (validateID "session_id" (ready.string "session_id"))
  if hasMember data "resume_challenge" then
    check (validateRawBase64Length "resume_challenge" (ready.string "resume_challenge") 32)
  rejectIf (ready.int "heartbeat_interval_seconds" < 5 ∨ ready.int "heartbeat_interval_seconds" > 60)
    "heartbeat_interval_seconds outside 5..60"
  rejectIf (ready.int "idle_timeout_seconds" < 15 ∨ ready.int "idle_timeout_seconds" > 300 ∨
      ready.int "idle_timeout_seconds" < 2 * ready.int "heartbeat_interval_seconds")
    "idle_timeout_seconds outside contract bounds"

/-- A heartbeat has one of its two times. -/
def checkHeartbeat (time other message : String) (heartbeat : Struct) : Except GoError Unit := do
  check (validateID "ping_id" (heartbeat.string "ping_id"))
  rejectIf (heartbeat.string time = "" ∨ heartbeat.string other ≠ "") message
  checkUTCTime time (heartbeat.string time)

def checkPing : Struct → Except GoError Unit :=
  checkHeartbeat "sent_at" "received_at" "ping requires sent_at only"

def checkPong : Struct → Except GoError Unit :=
  checkHeartbeat "received_at" "sent_at" "pong requires received_at only"

def checkHealthReport (data : Bytes) (report : Struct) : Except GoError Unit := do
  check (validateID "report_id" (report.string "report_id"))
  checkUTCTime "generated_at" (report.string "generated_at")
  rejectIf (report.int "active_streams" < 0 ∨ report.int "active_streams" > maxStreamsPerSessionBound)
    "health_report active_streams outside contract bounds"
  rejectIf (report.int "queued_frames" < 0 ∨ report.int "queued_frames" > maxQueuedFramesBound)
    "health_report queued_frames outside contract bounds"
  rejectIf (report.int "reconnect_count" < 0 ∨ report.int "reconnect_count" > maxHealthReconnectCount)
    "health_report reconnect_count outside contract bounds"
  check (rejectEmptyMembers data ["last_reconnect_at"])
  if report.string "last_reconnect_at" ≠ "" then
    checkUTCTime "last_reconnect_at" (report.string "last_reconnect_at")
  rejectIf ((report.string "agent_version").length > 64)
    "health_report agent_version outside contract length"

def checkStreamOpen (message : Struct) : Except GoError Unit := do
  check (validateIDs [("endpoint_id", message.string "endpoint_id"),
    ("assignment_id", message.string "assignment_id"),
    ("local_endpoint_id", message.string "local_endpoint_id"),
    ("request_id", message.string "request_id")])
  rejectIf (message.string "mode" ≠ "" ∧
      oneOfStrings (message.string "mode") ["http", "tcp", "udp"] = false)
    "invalid stream_open mode"

def checkStreamWindowUpdate (message : Struct) : Except GoError Unit :=
  rejectIf (message.int "credit_bytes" < 1 ∨ message.int "credit_bytes" > maxWindowCreditBytes)
    "stream_window_update credit_bytes outside contract bounds"

def checkStreamClose (message : Struct) : Except GoError Unit :=
  rejectIf (oneOfStrings (message.string "reason_code") ["completed", "peer_closed", "cancelled"] = false)
    "invalid stream_close reason_code"

def checkStreamError (message : Struct) : Except GoError Unit := do
  rejectIf (oneOfStrings (message.string "code")
      ["local_target_unavailable", "route_revoked", "protocol_error", "resource_limit",
        "internal_error"] = false)
    "invalid stream_error code"
  rejectIf ((message.string "message").length = 0 ∨ (message.string "message").length > 256)
    "stream_error message outside contract length"

def checkSessionRevoked (message : Struct) : Except GoError Unit := do
  check (validateID "authorization_id" (message.string "authorization_id"))
  rejectIf (oneOfStrings (message.string "reason_code")
      ["disabled", "credential_revoked", "security_hold", "expired"] = false)
    "invalid session_revoked reason_code"

def checkResumeSession (message : Struct) : Except GoError Unit := do
  check (validateIDs [("device_id", message.string "device_id"),
    ("authorization_id", message.string "authorization_id"), ("token_id", message.string "token_id"),
    ("session_id", message.string "session_id")])
  check (validateRawBase64Length "resume_nonce" (message.string "resume_nonce") 32)
  check (validateRawBase64Length "resume_challenge" (message.string "resume_challenge") 32)
  checkUTCTime "issued_at" (message.string "issued_at")
  check (validateRawBase64Length "signature" (message.string "signature") 64)

def checkSessionResumed (message : Struct) : Except GoError Unit := do
  check (validateID "session_id" (message.string "session_id"))
  rejectIf (message.int "next_sequence" = 0) "session_resumed next_sequence must be positive"
  checkUTCTime "resumed_at" (message.string "resumed_at")
  check (validateRawBase64Length "resume_challenge" (message.string "resume_challenge") 32)

/-- The checks on a decoded message. Two of them look at the names of the members again. -/
def MessageType.checkBody (type : MessageType) (data : Bytes) (now : Int) (message : Struct) :
    Except GoError Unit :=
  match type with
  | clientHello => checkClientHello message
  | serverChallenge => checkServerChallenge now message
  | clientAuth => checkClientAuth message
  | sessionReady => checkSessionReady data message
  | ping => checkPing message
  | pong => checkPong message
  | healthReport => checkHealthReport data message
  | streamOpen => checkStreamOpen message
  | streamHalfClose => .ok ()
  | streamWindowUpdate => checkStreamWindowUpdate message
  | streamClose => checkStreamClose message
  | streamError => checkStreamError message
  | sessionRevoked => checkSessionRevoked message
  | resumeSession => checkResumeSession message
  | sessionResumed => checkSessionResumed message

/-! ## The validation -/

/-- One case of the switch. -/
def validateMessage (type : MessageType) (data : Bytes) (streamID : Nat) (now : Int) :
    Except GoError Unit := do
  check (type.scope.check streamID)
  check (requirePresent data type.presentNames)
  let message ← decodeControlStrict type.fields data
  rejectIf (message.int "contract_version" ≠ protocolVersion ∨
      message.string "message_type" ≠ type.name)
    type.envelopeError
  type.checkBody data now message

def validateControlPayload (data : Bytes) (streamID : Nat) (now : Int) : Except GoError Unit := do
  check (validateStrictJSONObject data)
  check (rejectNullMembers data)
  let envelope ← (unmarshal MessageType.envelopeFields data).mapError (.wrap "invalid control JSON: %w")
  let version := envelope.int "contract_version"
  rejectIf (version ≠ protocolVersion) s!"unsupported contract version: {version}"
  match MessageType.ofName? (envelope.string "message_type") with
  | some type => validateMessage type data streamID now
  | none =>
    .error (errorsNew ("unknown control message_type: " ++ quoted (envelope.string "message_type")))

/-! ## Names select their types -/

theorem MessageType.ofName?_eq_some_iff {name : String} {type : MessageType} :
    ofName? name = some type ↔ type.name = name := by
  constructor
  · intro h
    simpa using List.find?_some h
  · rintro rfl
    cases type <;> rfl

theorem MessageType.eq_of_name {type other : MessageType} (h : type.name = other.name) :
    type = other := by
  have htype := ofName?_eq_some_iff.mpr h
  rw [ofName?_eq_some_iff.mpr rfl] at htype
  exact (Option.some.inj htype).symm

theorem Scope.check_eq_none_iff {scope : Scope} {streamID : Nat} :
    scope.check streamID = none ↔ (streamID = 0 ↔ scope = .session) := by
  cases scope <;> simp [Scope.check, sessionScope, streamScope]

end Hooshix.ContractV1
