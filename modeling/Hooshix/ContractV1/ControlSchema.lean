-- SUMMARY: The published contract of control payloads.
import Hooshix.ContractV1.ControlPayload

/-! # The published control contract

`tunnel-control.schema.json` with the rules the protocol document adds to it, as predicates on the
members of an object. `stream_window_update` is in no definition of the schema; its rule is the one of
the code's documentation. Nothing here is taken from the validation.
-/

namespace Hooshix.ContractV1

open StructDecode
open Contract (idPattern isAlnum matchTimestamp parseTimestamp)

/-! ## Values -/

/-- The types of the schema's properties. -/
inductive Kind where
  /-- an integer literal in a range; a constant is a range of one -/
  | integer (least greatest : Int)
  | const (value : String)
  /-- `#/$defs/id` -/
  | id
  /-- the session token -/
  | token
  /-- `#/$defs/nonce32` and `#/$defs/signature64`: so many characters that encode so many bytes -/
  | base64url (characters size : Nat)
  /-- `#/$defs/timestamp` -/
  | timestamp
  | enum (values : List String)
  /-- a string with a number of code points in a range -/
  | text (least greatest : Nat)
  | boolean
  deriving DecidableEq, Repr

/-- `[A-Za-z0-9_-]` -/
def isBase64URLChar (c : Nat) : Bool := isAlnum c || c == 95 || c == 45

def Kind.Accepts : Kind → Value → Prop
  | integer least greatest, .int n => least ≤ n ∧ n ≤ greatest
  | const value, .string s => s = value
  | id, .string s => 1 ≤ s.length ∧ s.length ≤ 64 ∧ idPattern (codes s) = true
  | token, .string s => 32 ≤ s.length ∧ s.length ≤ 512 ∧ ∀ c ∈ codes s, isBase64URLChar c = true
  | base64url characters size, .string s =>
    s.length = characters ∧ (∀ c ∈ codes s, isBase64URLChar c = true) ∧
      ∃ bytes : Bytes, bytes.length = size ∧ codes s = Base64.encode bytes
  | timestamp, .string s =>
    s.length ≤ 30 ∧ ∃ t, matchTimestamp (codes s) = some t ∧ t.dateExists = true
  | enum values, .string s => s ∈ values
  | text least greatest, .string s => least ≤ s.length ∧ s.length ≤ greatest
  | boolean, .bool _ => True
  | _, _ => False

def Kind.Valid (kind : Kind) (json : Json) : Prop := ∃ value, Denotes json value ∧ kind.Accepts value

/-! ## Messages -/

structure Property where
  name : String
  kind : Kind
  required : Bool
  deriving DecidableEq, Repr

def required (name : String) (kind : Kind) : Property := ⟨name, kind, true⟩

def optional (name : String) (kind : Kind) : Property := ⟨name, kind, false⟩

def nonce32 : Kind := .base64url 43 32

def signature64 : Kind := .base64url 86 64

namespace MessageType

def bodyProperties : MessageType → List Property
  | clientHello =>
    [required "device_id" .id, required "authorization_id" .id, required "token_id" .id,
      required "session_token" .token, required "client_nonce" nonce32]
  | serverChallenge =>
    [required "session_id" .id, required "server_nonce" nonce32, required "expires_at" .timestamp]
  | clientAuth => [required "session_id" .id, required "signature" signature64]
  | sessionReady =>
    [required "session_id" .id, required "heartbeat_interval_seconds" (.integer 5 60),
      required "idle_timeout_seconds" (.integer 15 300), optional "resume_challenge" nonce32]
  | ping => [required "ping_id" .id, required "sent_at" .timestamp]
  | pong => [required "ping_id" .id, required "received_at" .timestamp]
  | healthReport =>
    [required "report_id" .id, required "generated_at" .timestamp,
      required "active_streams" (.integer 0 4096), required "queued_frames" (.integer 0 65536),
      required "reconnect_count" (.integer 0 2147483647), optional "last_reconnect_at" .timestamp,
      optional "agent_version" (.text 0 64)]
  | streamOpen =>
    [required "endpoint_id" .id, required "assignment_id" .id, required "local_endpoint_id" .id,
      required "request_id" .id, optional "mode" (.enum ["http", "tcp", "udp"])]
  | streamHalfClose => []
  | streamWindowUpdate => [required "credit_bytes" (.integer 1 8388608)]
  | streamClose => [required "reason_code" (.enum ["completed", "peer_closed", "cancelled"])]
  | streamError =>
    [required "code" (.enum ["local_target_unavailable", "route_revoked", "protocol_error",
        "resource_limit", "internal_error"]),
      required "message" (.text 1 256), required "retryable" .boolean]
  | sessionRevoked =>
    [required "authorization_id" .id,
      required "reason_code" (.enum ["disabled", "credential_revoked", "security_hold", "expired"])]
  | resumeSession =>
    [required "device_id" .id, required "authorization_id" .id, required "token_id" .id,
      required "session_id" .id, required "resume_nonce" nonce32, required "resume_challenge" nonce32,
      required "issued_at" .timestamp, required "signature" signature64]
  | sessionResumed =>
    [required "session_id" .id, required "next_sequence" (.integer 1 18446744073709551615),
      required "resumed_at" .timestamp, required "resume_challenge" nonce32]

def properties (type : MessageType) : List Property :=
  [required "contract_version" (.integer 1 1), required "message_type" (.const type.name)] ++
    type.bodyProperties

def propertyNames (type : MessageType) : List String := type.properties.map (·.name)

/-- The rules that span more than one value: the idle timeout leaves room for two heartbeats, and a
    challenge has not expired. -/
def Rule (type : MessageType) (now : Int) (given : String → Json → Prop) : Prop :=
  match type with
  | sessionReady =>
    ∀ heartbeat idle heartbeatJson idleJson, given "heartbeat_interval_seconds" heartbeatJson →
      given "idle_timeout_seconds" idleJson → Denotes heartbeatJson (.int heartbeat) →
      Denotes idleJson (.int idle) → 2 * heartbeat ≤ idle
  | serverChallenge =>
    ∀ text expiresAt, given "expires_at" (.string text) → parseTimestamp (codes text) = some expiresAt →
      now < expiresAt
  | _ => True

end MessageType

/-- The properties of a message hold of what is given under their names. -/
structure Holds (type : MessageType) (now : Int) (given : String → Json → Prop) : Prop where
  present : ∀ p ∈ type.properties, p.required = true → ∃ json, given p.name json
  valid : ∀ p ∈ type.properties, ∀ json, given p.name json → p.kind.Valid json
  rule : type.Rule now given

/-- An object conforms to the definition of a message. -/
structure Conforms (type : MessageType) (now : Int) (members : Members) : Prop where
  only : ∀ m ∈ members, m.1 ∈ type.propertyNames
  holds : Holds type now fun name json => (name, json) ∈ members

/-- Bytes that are one object without duplicate names and nulls. -/
structure IsObject (data : Bytes) (members : Members) : Prop where
  object : jsonValue data = some (.object members)
  unique : Json.UniqueNames (.object members)
  nonnull : ∀ m ∈ members, m.2 ≠ .null

/-- The payloads of the contract for a stream ID at a time. -/
def Published (data : Bytes) (streamID : Nat) (now : Int) : Prop :=
  ∃ members, IsObject data members ∧ ∃ type : MessageType, Conforms type now members ∧
    (∀ other, Conforms other now members → other = type) ∧
    (streamID = 0 ↔ type.scope = .session)

theorem IsObject.names {data : Bytes} {members : Members} (h : IsObject data members) :
    (members.map (·.1)).Nodup := by
  cases h.unique with
  | object hnames _ => exact hnames

theorem IsObject.members_unique {data : Bytes} {members members' : Members}
    (h : IsObject data members) (h' : IsObject data members') : members = members' :=
  Json.object.inj (Option.some.inj (h.object.symm.trans h'.object))

end Hooshix.ContractV1
