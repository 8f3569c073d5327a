-- SUMMARY: The authority records of contract v1: authorizations, route assignments and revocations.
import Hooshix.ContractV1.Checks
import Hooshix.ContractV1.StrictJSON

/-! # Authority records of contract v1 -/

namespace Hooshix.ContractV1

open StructDecode

def protocolVersion : Int := 1

/-! ## Device session authorizations -/

structure DeviceSessionAuthorization where
  contractVersion : Int
  authorizationID : String
  deviceID : String
  devicePublicKey : String
  tokenID : String
  tokenSHA256 : String
  issuedAt : String
  notBefore : String
  expiresAt : String
  disabled : Bool
  deriving DecidableEq, Repr

namespace DeviceSessionAuthorization

/-- The JSON names and types of the struct. -/
def fields : List Field :=
  [⟨"contract_version", .int⟩, ⟨"authorization_id", .string⟩, ⟨"device_id", .string⟩,
    ⟨"device_public_key", .string⟩, ⟨"token_id", .string⟩, ⟨"token_sha256", .string⟩,
    ⟨"issued_at", .string⟩, ⟨"not_before", .string⟩, ⟨"expires_at", .string⟩, ⟨"disabled", .bool⟩]

def ofStruct (s : Struct) : DeviceSessionAuthorization where
  contractVersion := s.int "contract_version"
  authorizationID := s.string "authorization_id"
  deviceID := s.string "device_id"
  devicePublicKey := s.string "device_public_key"
  tokenID := s.string "token_id"
  tokenSHA256 := s.string "token_sha256"
  issuedAt := s.string "issued_at"
  notBefore := s.string "not_before"
  expiresAt := s.string "expires_at"
  disabled := s.bool "disabled"

/-- The fields of a record under their JSON names. -/
def values (record : DeviceSessionAuthorization) : List (String × Value) :=
  [("contract_version", .int record.contractVersion),
    ("authorization_id", .string record.authorizationID), ("device_id", .string record.deviceID),
    ("device_public_key", .string record.devicePublicKey), ("token_id", .string record.tokenID),
    ("token_sha256", .string record.tokenSHA256), ("issued_at", .string record.issuedAt),
    ("not_before", .string record.notBefore), ("expires_at", .string record.expiresAt),
    ("disabled", .bool record.disabled)]

/-- The checks of `ParseDeviceSessionAuthorizationRecord` on the decoded record. -/
def validate (record : DeviceSessionAuthorization) : Except GoError Unit := do
  rejectIf (record.contractVersion ≠ protocolVersion)
    s!"unsupported contract version: {record.contractVersion}"
  check (validateIDs [("authorization_id", record.authorizationID), ("device_id", record.deviceID),
    ("token_id", record.tokenID)])
  check (validateRawBase64Length "device_public_key" record.devicePublicKey 32)
  rejectIf (isDigest record.tokenSHA256 = false)
    "token_sha256 must be 32 bytes encoded as lower-case hex"
  let issuedAt ← parseUTCTime "issued_at" record.issuedAt
  let notBefore ← parseUTCTime "not_before" record.notBefore
  let expiresAt ← parseUTCTime "expires_at" record.expiresAt
  rejectIf (issuedAt > notBefore ∨ ¬ notBefore < expiresAt)
    "authorization timestamps must satisfy issued_at <= not_before < expires_at"

end DeviceSessionAuthorization

def parseDeviceSessionAuthorizationRecord (data : Bytes) :
    Except GoError DeviceSessionAuthorization := do
  check (validateStrictJSONObject data)
  check (rejectNullMembers data)
  check (requirePresent data ["disabled"])
  let record := DeviceSessionAuthorization.ofStruct
    (← decodeStrict DeviceSessionAuthorization.fields data)
  record.validate
  return record

/-! ## Endpoint route assignments -/

structure EndpointRouteAssignment where
  contractVersion : Int
  assignmentID : String
  endpointID : String
  publicHostname : String
  deviceID : String
  localEndpointID : String
  enabled : Bool
  notBefore : String
  expiresAt : String
  deriving DecidableEq, Repr

namespace EndpointRouteAssignment

def fields : List Field :=
  [⟨"contract_version", .int⟩, ⟨"assignment_id", .string⟩, ⟨"endpoint_id", .string⟩,
    ⟨"public_hostname", .string⟩, ⟨"device_id", .string⟩, ⟨"local_endpoint_id", .string⟩,
    ⟨"enabled", .bool⟩, ⟨"not_before", .string⟩, ⟨"expires_at", .string⟩]

def ofStruct (s : Struct) : EndpointRouteAssignment where
  contractVersion := s.int "contract_version"
  assignmentID := s.string "assignment_id"
  endpointID := s.string "endpoint_id"
  publicHostname := s.string "public_hostname"
  deviceID := s.string "device_id"
  localEndpointID := s.string "local_endpoint_id"
  enabled := s.bool "enabled"
  notBefore := s.string "not_before"
  expiresAt := s.string "expires_at"

def values (record : EndpointRouteAssignment) : List (String × Value) :=
  [("contract_version", .int record.contractVersion),
    ("assignment_id", .string record.assignmentID), ("endpoint_id", .string record.endpointID),
    ("public_hostname", .string record.publicHostname), ("device_id", .string record.deviceID),
    ("local_endpoint_id", .string record.localEndpointID), ("enabled", .bool record.enabled),
    ("not_before", .string record.notBefore), ("expires_at", .string record.expiresAt)]

/-- The checks of `ParseEndpointRouteAssignmentRecord` on the decoded record. -/
def validate (record : EndpointRouteAssignment) : Except GoError Unit := do
  rejectIf (record.contractVersion ≠ protocolVersion)
    s!"unsupported contract version: {record.contractVersion}"
  check (validateIDs [("assignment_id", record.assignmentID), ("endpoint_id", record.endpointID),
    ("device_id", record.deviceID), ("local_endpoint_id", record.localEndpointID)])
  check (validateHostname record.publicHostname)
  let notBefore ← parseUTCTime "not_before" record.notBefore
  let expiresAt ← parseUTCTime "expires_at" record.expiresAt
  rejectIf (¬ notBefore < expiresAt) "route timestamps must satisfy not_before < expires_at"

end EndpointRouteAssignment

def parseEndpointRouteAssignmentRecord (data : Bytes) : Except GoError EndpointRouteAssignment := do
  check (validateStrictJSONObject data)
  check (rejectNullMembers data)
  check (requirePresent data ["enabled"])
  let record := EndpointRouteAssignment.ofStruct (← decodeStrict EndpointRouteAssignment.fields data)
  record.validate
  return record

/-! ## Revocation signals -/

structure RevocationSignal where
  contractVersion : Int
  eventID : String
  subjectKind : String
  subjectID : String
  effectiveAt : String
  reasonCode : String
  deriving DecidableEq, Repr

namespace RevocationSignal

def fields : List Field :=
  [⟨"contract_version", .int⟩, ⟨"event_id", .string⟩, ⟨"subject_kind", .string⟩,
    ⟨"subject_id", .string⟩, ⟨"effective_at", .string⟩, ⟨"reason_code", .string⟩]

def ofStruct (s : Struct) : RevocationSignal where
  contractVersion := s.int "contract_version"
  eventID := s.string "event_id"
  subjectKind := s.string "subject_kind"
  subjectID := s.string "subject_id"
  effectiveAt := s.string "effective_at"
  reasonCode := s.string "reason_code"

/-- The checks of `ParseRevocationSignal` on the decoded signal. -/
def validate (signal : RevocationSignal) : Except GoError Unit := do
  rejectIf (signal.contractVersion ≠ protocolVersion)
    s!"unsupported contract version: {signal.contractVersion}"
  check (validateID "event_id" signal.eventID)
  check (validateID "subject_id" signal.subjectID)
  rejectIf (oneOfStrings signal.subjectKind
    ["device_session_authorization", "endpoint_route_assignment", "device"] = false)
    "invalid revocation subject_kind"
  rejectIf (oneOfStrings signal.reasonCode
    ["disabled", "credential_revoked", "assignment_revoked", "security_hold", "expired"] = false)
    "invalid revocation reason_code"
  let _ ← parseUTCTime "effective_at" signal.effectiveAt

end RevocationSignal

def parseRevocationSignal (data : Bytes) : Except GoError RevocationSignal := do
  check (validateStrictJSONObject data)
  check (rejectNullMembers data)
  let signal := RevocationSignal.ofStruct (← decodeStrict RevocationSignal.fields data)
  signal.validate
  return signal

end Hooshix.ContractV1
