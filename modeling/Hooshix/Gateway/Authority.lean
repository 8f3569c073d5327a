-- SUMMARY: The Gateway's snapshot of authority records.
import Hooshix.Lib.Index
import Hooshix.Contract.TimeParse
import Hooshix.ContractV1.Records
import Hooshix.ContractV2.Records
import Hooshix.Gateway.Metadata

/-! # Authority snapshots

`SnapshotMetadata` with all its tables, filled from the bytes of records. A record is read first, which
does not depend on the snapshot, and then put into its table. Times are nanoseconds.
-/

namespace Hooshix.Gateway.Authority

open Contract (parseRFC3339)
open ContractV1 (DeviceSessionAuthorization EndpointRouteAssignment RevocationSignal codes quoted
  parseDeviceSessionAuthorizationRecord parseEndpointRouteAssignmentRecord parseRevocationSignal)
open ContractV2 (ServiceEndpoint ConnectorGrant parseServiceEndpoint parseConnectorGrant)

/-! ## Host names -/

/-- `unicode.IsSpace` -/
def isSpace (c : Char) : Bool :=
  [9, 10, 11, 12, 13, 32, 0x85, 0xA0, 0x1680, 0x2028, 0x2029, 0x202f, 0x205f, 0x3000].contains
    c.toNat || (0x2000 ≤ c.toNat && c.toNat ≤ 0x200a)

/-- `strings.TrimSpace` -/
def trimSpace (s : List Char) : List Char :=
  ((s.dropWhile isSpace).reverse.dropWhile isSpace).reverse

/-- `unicode.ToLower`; `table` is what it does beyond ASCII. -/
def toLower (table : Char → Char) (c : Char) : Char :=
  if c.toNat < 128 then c.toLower else table c

def canonicalHostname (table : Char → Char) (value : String) : String :=
  let value := trimSpace (value.toList.map (toLower table))
  let value := value.takeWhile (· != ':')
  String.ofList (if value.getLast? = some '.' then value.dropLast else value)

/-! ## The snapshot -/

structure AuthorizationSnapshot where
  record : DeviceSessionAuthorization
  notBefore : Int
  expiresAt : Int
  deriving DecidableEq, Repr

structure RouteSnapshot where
  record : EndpointRouteAssignment
  notBefore : Int
  expiresAt : Int
  deriving DecidableEq, Repr

structure RevocationSubject where
  kind : String
  id : String
  deriving DecidableEq, Repr

structure SnapshotMetadata where
  authorizations : Table String AuthorizationSnapshot
  routes : Table String RouteSnapshot
  revocations : Table RevocationSubject Int
  revocationReasons : Table RevocationSubject String
  serviceEndpoints : Table String ServiceEndpoint
  publicPorts : Table Int String
  connectorGrants : Table String ConnectorGrant
  readyErr : Option GoError

/-- `NewSnapshotMetadata` -/
def SnapshotMetadata.new : SnapshotMetadata := ⟨∅, ∅, ∅, ∅, ∅, ∅, ∅, none⟩

/-- The directories of a snapshot. -/
inductive Category where
  | authorizations
  | routes
  | revocations
  | serviceEndpoints
  | connectorGrants
  deriving DecidableEq, Repr

/-! ## Reading records -/

/-- What one record declares. -/
inductive Declared where
  | authorization (entry : AuthorizationSnapshot)
  | route (host : String) (entry : RouteSnapshot)
  | revocation (subject : RevocationSubject) (effectiveAt : Int) (reason : String)
  | serviceEndpoint (record : ServiceEndpoint)
  | connectorGrant (record : ConnectorGrant)
  deriving DecidableEq, Repr

/-- `time.Parse(time.RFC3339, value)` under the text of its error. -/
def timeParse (what value : String) : Except GoError Int :=
  match parseRFC3339 (codes value) with
  | some instant => .ok instant
  | none => .error (.wrap ("parse " ++ what ++ ": %w") (errorsNew "parsing time"))

def readAuthorization (data : Bytes) : Except GoError Declared := do
  let record ← parseDeviceSessionAuthorizationRecord data
  let notBefore ← timeParse "authorization not_before" record.notBefore
  let expiresAt ← timeParse "authorization expires_at" record.expiresAt
  return .authorization ⟨record, notBefore, expiresAt⟩

def readRoute (table : Char → Char) (data : Bytes) : Except GoError Declared := do
  let record ← parseEndpointRouteAssignmentRecord data
  let host := canonicalHostname table record.publicHostname
  rejectIf (host = "") "public_hostname is required"
  let notBefore ← timeParse "route not_before" record.notBefore
  let expiresAt ← timeParse "route expires_at" record.expiresAt
  return .route host ⟨record, notBefore, expiresAt⟩

def readRevocation (data : Bytes) : Except GoError Declared := do
  let signal ← parseRevocationSignal data
  let effectiveAt ← timeParse "revocation effective_at" signal.effectiveAt
  return .revocation ⟨signal.subjectKind, signal.subjectID⟩ effectiveAt signal.reasonCode

/-- The part of the functions that add a record which does not look at the snapshot. -/
def Category.read (table : Char → Char) : Category → Bytes → Except GoError Declared
  | .authorizations, data => readAuthorization data
  | .routes, data => readRoute table data
  | .revocations, data => readRevocation data
  | .serviceEndpoints, data => return .serviceEndpoint (← parseServiceEndpoint data)
  | .connectorGrants, data => return .connectorGrant (← parseConnectorGrant data)

/-! ## Adding records -/

namespace SnapshotMetadata

def ready (source : SnapshotMetadata) : Option GoError :=
  source.readyErr.map (.wrap "external metadata snapshot is unusable: %w")

/-- `invalidate`, which keeps the first error -/
def invalidate (source : SnapshotMetadata) (err : GoError) : SnapshotMetadata :=
  { source with readyErr := source.readyErr <|> some err }

def putAuthorization (source : SnapshotMetadata) (entry : AuthorizationSnapshot) :
    Except GoError SnapshotMetadata := do
  rejectIf ((source.authorizations.lookup entry.record.authorizationID).isSome)
    ("duplicate authorization_id " ++ quoted entry.record.authorizationID)
  return { source with
    authorizations := source.authorizations.insert entry.record.authorizationID entry }

def putRoute (source : SnapshotMetadata) (host : String) (entry : RouteSnapshot) :
    Except GoError SnapshotMetadata := do
  rejectIf ((source.routes.lookup host).isSome) ("duplicate public_hostname " ++ quoted host)
  return { source with routes := source.routes.insert host entry }

/-- Of several revocations of a subject the earliest is kept. -/
def putRevocation (source : SnapshotMetadata) (subject : RevocationSubject) (effectiveAt : Int)
    (reason : String) : SnapshotMetadata :=
  match source.revocations.lookup subject with
  | some current =>
    if effectiveAt < current then
      { source with
        revocations := source.revocations.insert subject effectiveAt
        revocationReasons := source.revocationReasons.insert subject reason }
    else source
  | none =>
    { source with
      revocations := source.revocations.insert subject effectiveAt
      revocationReasons := source.revocationReasons.insert subject reason }

def putServiceEndpoint (source : SnapshotMetadata) (record : ServiceEndpoint) :
    Except GoError SnapshotMetadata := do
  rejectIf ((source.serviceEndpoints.lookup record.endpointID).isSome)
    ("duplicate service endpoint " ++ quoted record.endpointID)
  let serviceEndpoints := source.serviceEndpoints.insert record.endpointID record
  if record.publicPort ≠ 0 then
    match source.publicPorts.lookup record.publicPort with
    | some endpointID =>
      .error (errorsNew (s!"public port {record.publicPort} is assigned to both " ++
        quoted endpointID ++ " and " ++ quoted record.endpointID))
    | none =>
      return { source with
        publicPorts := source.publicPorts.insert record.publicPort record.endpointID
        serviceEndpoints }
  else return { source with serviceEndpoints }

def putConnectorGrant (source : SnapshotMetadata) (record : ConnectorGrant) :
    Except GoError SnapshotMetadata := do
  rejectIf ((source.connectorGrants.lookup record.grantID).isSome)
    ("duplicate connector grant " ++ quoted record.grantID)
  return { source with connectorGrants := source.connectorGrants.insert record.grantID record }

def put (source : SnapshotMetadata) : Declared → Except GoError SnapshotMetadata
  | .authorization entry => source.putAuthorization entry
  | .route host entry => source.putRoute host entry
  | .revocation subject effectiveAt reason => .ok (source.putRevocation subject effectiveAt reason)
  | .serviceEndpoint record => source.putServiceEndpoint record
  | .connectorGrant record => source.putConnectorGrant record

/-- `addAuthorizationJSON`, `addRouteJSON`, `addRevocationJSON`, `addServiceEndpointJSON` and
    `addConnectorGrantJSON`, with the error they return. -/
def addJSON (table : Char → Char) (source : SnapshotMetadata) (category : Category) (data : Bytes) :
    SnapshotMetadata × Option GoError :=
  match category.read table data >>= source.put with
  | .ok added => (added, none)
  | .error err => (source.invalidate err, some err)

/-- Adds records until one is refused. -/
def load (table : Char → Char) :
    SnapshotMetadata → List (Category × Bytes) → SnapshotMetadata × Option GoError
  | source, [] => (source, none)
  | source, (category, data) :: rest =>
    match source.addJSON table category data with
    | (added, none) => load table added rest
    | (invalid, some err) => (invalid, some err)

/-! ## Lookups -/

def revokedAt (source : SnapshotMetadata) (subject : RevocationSubject) (at_ : Int) : Bool :=
  match source.revocations.lookup subject with
  | some effectiveAt => effectiveAt ≤ at_
  | none => false

def authorization (source : SnapshotMetadata) (authorizationID deviceID tokenID : String)
    (at_ : Int) : Except GoError DeviceSessionAuthorization :=
  match source.authorizations.lookup authorizationID with
  | none => .error errMetadataNotFound
  | some entry => do
    let record := entry.record
    rejectIf record.disabled "authorization is disabled"
    rejectIf (at_ < entry.notBefore ∨ ¬ at_ < entry.expiresAt)
      "authorization is not active at evaluation time"
    rejectIf (record.deviceID ≠ deviceID ∨ record.tokenID ≠ tokenID)
      "authorization subject mismatch"
    rejectIf (source.revokedAt ⟨"device_session_authorization", record.authorizationID⟩ at_ ∨
      source.revokedAt ⟨"device", record.deviceID⟩ at_) "authorization subject is revoked"
    return record

/-- A stored authorization that is in force: enabled, within its time bounds and not revoked. -/
structure InForce (source : SnapshotMetadata) (authorizationID : String)
    (entry : AuthorizationSnapshot) (at_ : Int) : Prop where
  stored : source.authorizations.lookup authorizationID = some entry
  enabled : entry.record.disabled = false
  active : entry.notBefore ≤ at_ ∧ at_ < entry.expiresAt
  unrevoked : source.revokedAt
    ⟨"device_session_authorization", entry.record.authorizationID⟩ at_ = false
  deviceUnrevoked : source.revokedAt ⟨"device", entry.record.deviceID⟩ at_ = false

theorem authorization_eq_ok_iff {source : SnapshotMetadata}
    {authorizationID deviceID tokenID : String} {at_ : Int} {record : DeviceSessionAuthorization} :
    source.authorization authorizationID deviceID tokenID at_ = .ok record ↔
      ∃ entry, source.InForce authorizationID entry at_ ∧ entry.record = record ∧
        record.deviceID = deviceID ∧ record.tokenID = tokenID := by
  unfold authorization
  constructor
  · intro hok
    split at hok
    next => cases hok
    next entry hlookup =>
      simp only [bind_eq_ok, rejectIf_eq_ok, not_or, not_not, Bool.not_eq_true] at hok
      obtain ⟨_, henabled, _, htime, _, hsubject, _, hrevoked, hrecord⟩ := hok
      cases hrecord
      exact ⟨entry, ⟨hlookup, henabled, by omega, hrevoked.1, hrevoked.2⟩, rfl, hsubject⟩
  · rintro ⟨entry, hforce, rfl, rfl, rfl⟩
    have htime := hforce.active
    rw [hforce.stored]
    simp only [bind_eq_ok, rejectIf_eq_ok]
    exact ⟨(), by simp [hforce.enabled], (), by omega, (), by simp, (),
      by simp [hforce.unrevoked, hforce.deviceUnrevoked], rfl⟩

def toSource (source : SnapshotMetadata) : MetadataSource where
  authorization := source.authorization
  Active := fun record at_ => ∃ authorizationID entry,
    source.InForce authorizationID entry at_ ∧ entry.record = record
  active := fun h =>
    let ⟨entry, hforce, hrecord, _⟩ := authorization_eq_ok_iff.mp h
    ⟨_, entry, hforce, hrecord⟩

def routeByHostname (table : Char → Char) (source : SnapshotMetadata) (hostname : String)
    (at_ : Int) : Except GoError EndpointRouteAssignment :=
  match source.routes.lookup (canonicalHostname table hostname) with
  | none => .error errMetadataNotFound
  | some entry => do
    let record := entry.record
    rejectIf (record.enabled = false) "route assignment is disabled"
    rejectIf (at_ < entry.notBefore ∨ ¬ at_ < entry.expiresAt)
      "route assignment is not active at evaluation time"
    rejectIf (source.revokedAt ⟨"endpoint_route_assignment", record.assignmentID⟩ at_ ∨
      source.revokedAt ⟨"device", record.deviceID⟩ at_) "route subject is revoked"
    return record

def serviceEndpoint (source : SnapshotMetadata) (endpointID : String) (at_ : Int) :
    Except GoError ServiceEndpoint :=
  match source.serviceEndpoints.lookup endpointID with
  | none => .error errMetadataNotFound
  | some record => do
    rejectIf (record.enabled = false) "service endpoint is disabled"
    rejectIf (source.revokedAt ⟨"device", record.ownerDeviceID⟩ at_)
      "service endpoint owner is revoked"
    return record

/-- The body of the loop over the public ports: the endpoint, unless it is skipped. -/
def publicEndpoint (source : SnapshotMetadata) (at_ : Int) (protocol endpointID : String) :
    Option ServiceEndpoint :=
  match source.serviceEndpoint endpointID at_ with
  | .ok record => if record.protocol ≠ protocol then none else some record
  | .error _ => none

/-- A Go map is ranged over in any order; `order` is the one taken. -/
def publicEndpoints (source : SnapshotMetadata) (order : List String) (at_ : Int)
    (protocol : String) : List ServiceEndpoint :=
  order.filterMap (source.publicEndpoint at_ protocol)

def connectorGrant (source : SnapshotMetadata) (grantID : String) (at_ : Int) :
    Except GoError ConnectorGrant :=
  match source.connectorGrants.lookup grantID with
  | none => .error errMetadataNotFound
  | some record => do
    rejectIf record.disabled "connector grant is disabled"
    match parseRFC3339 (codes record.notBefore) with
    | none => .error (errorsNew "connector grant not_before is invalid")
    | some notBefore =>
      match parseRFC3339 (codes record.expiresAt) with
      | none => .error (errorsNew "connector grant expires_at is invalid")
      | some expiresAt =>
        rejectIf (at_ < notBefore ∨ ¬ at_ < expiresAt)
          "connector grant is not active at evaluation time"
        return record

/-- `RevocationReason`: the reason of a revocation in force. -/
def revocationReason (source : SnapshotMetadata) (subject : RevocationSubject) (at_ : Int) :
    Option String :=
  if source.revokedAt subject at_ then
    match source.revocationReasons.lookup subject with
    | some reason => if reason = "" then some "credential_revoked" else some reason
    | none => some "credential_revoked"
  else none

end SnapshotMetadata

end Hooshix.Gateway.Authority
