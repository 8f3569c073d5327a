-- SUMMARY: The authority records of contract v2: service endpoints and connector grants.
import Hooshix.ContractV1.Checks
import Hooshix.ContractV1.StrictJSON

/-! # Authority records of contract v2 -/

namespace Hooshix.ContractV2

open StructDecode ContractV1
open Contract (idPattern isDigit isMonth isDay isHour isSixty isLeap daysIn civilDays number)

def protocolVersion : Int := 2

/-! ## Strict JSON

`consumeObject` walks an object as the helper of contract v1 does; it returns the members as well. -/

/-- The package's own `validateStrictJSONObject` is that of contract v1, error texts included. -/
def validateStrictJSONObject (data : Bytes) : Option GoError :=
  ContractV1.validateStrictJSONObject data

def requireMembers (data : Bytes) (names : List String) : Option GoError :=
  match jsonValue data with
  | some (.object members) =>
    match consumeJSONObject [] members with
    | some err => some err
    | none => requireEach members.reverse names
  | _ => some errSyntax

/-- The strict decoder of a record, under the text of its errors. -/
def decodeRecord (what : String) (fields : List Field) (data : Bytes) : Except GoError Struct :=
  match jsonValue data with
  | some (.object members) => (decode fields true members).mapError fun err =>
      .wrap (what ++ ": %w") (decodeError err)
  | some .null => .ok (zero fields)
  | some _ => .error (.wrap (what ++ ": %w") (decodeError (.typeMismatch "")))
  | none => .error (.wrap (what ++ ": %w") errSyntax)

/-! ## Timestamps -/

/-- A time zone: `Z`, or an offset that is not zero, in minutes. -/
def zone : List Nat → Option Int
  | [90] => some 0
  | [sign, h1, h2, 58, m1, m2] =>
    let hours := number [h1, h2]
    let minutes := number [m1, m2]
    if (sign = 43 ∨ sign = 45) ∧ isDigit h1 ∧ isDigit h2 ∧ isDigit m1 ∧ isDigit m2 ∧ hours ≤ 24 ∧
        minutes ≤ 59 ∧ hours * 60 + minutes ≠ 0 then
      some (if sign = 43 then (hours * 60 + minutes : Nat) else -((hours * 60 + minutes : Nat) : Int))
    else none
  | _ => none

/-- The fraction of a second, without trailing zeros, and the zone after it. -/
def fractionAndZone : List Nat → Option (List Nat × Int)
  | 46 :: rest =>
    let digits := rest.takeWhile isDigit
    if 1 ≤ digits.length ∧ digits.length ≤ 9 ∧ digits.getLast? ≠ some 48 then
      (zone (rest.dropWhile isDigit)).map fun offset => (digits, offset)
    else none
  | tail => (zone tail).map fun offset => ([], offset)

/-- An instant that `time.Parse(time.RFC3339Nano, value)` reads and its `Format` writes back as it was,
    in nanoseconds, and whether its location is UTC. -/
def canonicalTime (value : String) : Option (Int × Bool) :=
  match codes value with
  | y1 :: y2 :: y3 :: y4 :: 45 :: m1 :: m2 :: 45 :: d1 :: d2 :: 84 :: h1 :: h2 :: 58 :: n1 :: n2 ::
      58 :: s1 :: s2 :: tail =>
    let year := number [y1, y2, y3, y4]
    let month := number [m1, m2]
    let day := number [d1, d2]
    if [y1, y2, y3, y4].all isDigit ∧ isMonth m1 m2 ∧ isDay d1 d2 ∧ isHour h1 h2 ∧ isSixty n1 n2 ∧
        isSixty s1 s2 ∧ day ≤ daysIn month year then
      (fractionAndZone tail).map fun (digits, offset) =>
        let seconds := civilDays year month day * 86400 +
          (number [h1, h2] * 3600 + number [n1, n2] * 60 + number [s1, s2] : Nat) - offset * 60
        (seconds * 1000000000 + (number digits * 10 ^ (9 - digits.length) : Nat), tail.getLast? = some 90)
    else none
  | _ => none

def canonicalTimestamp (value : String) : Except GoError Int :=
  match canonicalTime value with
  | some (instant, true) => .ok instant
  | _ => .error (errorsNew "must be a canonical UTC RFC3339 timestamp")

/-! ## Service endpoints -/

structure ServiceEndpoint where
  kind : String
  contractVersion : Int
  endpointID : String
  ownerDeviceID : String
  protocol : String
  applicationProtocol : String
  localEndpointID : String
  publicPort : Int
  allowedSourceCIDRs : List String
  exposure : String
  enabled : Bool
  createdAt : String
  revision : Int
  deriving DecidableEq, Repr

/-- `strconv.Atoi`, which takes a plus sign as well. -/
def atoi : List Char → Option Int
  | '+' :: digits => parseUint 63 digits
  | text => parseInt text

/-- `strconv.Itoa` -/
def itoa : Int → List Char
  | .ofNat n => Nat.toDigits 10 n
  | .negSucc n => '-' :: Nat.toDigits 10 (n + 1)

/-- A number from zero up to a limit, as `strconv.Itoa` writes it. -/
def canonicalNumber (limit : Nat) (text : List Char) : Option Nat :=
  ((atoi text).filter fun value : Int => 0 ≤ value ∧ value ≤ limit ∧ itoa value = text).map
    Int.toNat

/-- The address of four octets. -/
def addressOf (number : List Char → Option Nat) (octets : List (List Char)) : Option (BitVec 32) :=
  if octets.length ≠ 4 then none
  else octets.foldlM (fun address octet =>
    (number octet).map fun value => address <<< 8 ||| BitVec.ofNat 32 value) 0

/-- The address and the prefix length of a text `a.b.c.d/p`. -/
def readCIDR (octet length : List Char → Option Nat) (text : List Char) :
    Option (BitVec 32 × Nat) :=
  match text.splitOn '/' with
  | [address, bits] =>
    (addressOf octet (address.splitOn '.')).bind fun address => (length bits).map (address, ·)
  | _ => none

def canonicalIPv4CIDR (value : String) : Bool :=
  match readCIDR (canonicalNumber 255) (canonicalNumber 32) value.toList with
  | some (address, length) =>
    if length = 0 then address == 0 else address &&& ~~~0#32 <<< (32 - length) == address
  | none => false

namespace ServiceEndpoint

def fields : List Field :=
  [⟨"kind", .string⟩, ⟨"contract_version", .int⟩, ⟨"endpoint_id", .string⟩,
    ⟨"owner_device_id", .string⟩, ⟨"protocol", .string⟩, ⟨"application_protocol", .string⟩,
    ⟨"local_endpoint_id", .string⟩, ⟨"public_port", .int⟩, ⟨"allowed_source_cidrs", .strings⟩,
    ⟨"exposure", .string⟩, ⟨"enabled", .bool⟩, ⟨"created_at", .string⟩, ⟨"revision", .uint 64⟩]

def ofStruct (s : Struct) : ServiceEndpoint where
  kind := s.string "kind"
  contractVersion := s.int "contract_version"
  endpointID := s.string "endpoint_id"
  ownerDeviceID := s.string "owner_device_id"
  protocol := s.string "protocol"
  applicationProtocol := s.string "application_protocol"
  localEndpointID := s.string "local_endpoint_id"
  publicPort := s.int "public_port"
  allowedSourceCIDRs := s.strings "allowed_source_cidrs"
  exposure := s.string "exposure"
  enabled := s.bool "enabled"
  createdAt := s.string "created_at"
  revision := s.int "revision"

def values (record : ServiceEndpoint) : List (String × Value) :=
  [("kind", .string record.kind), ("contract_version", .int record.contractVersion),
    ("endpoint_id", .string record.endpointID), ("owner_device_id", .string record.ownerDeviceID),
    ("protocol", .string record.protocol),
    ("application_protocol", .string record.applicationProtocol),
    ("local_endpoint_id", .string record.localEndpointID), ("public_port", .int record.publicPort),
    ("allowed_source_cidrs", .strings record.allowedSourceCIDRs),
    ("exposure", .string record.exposure), ("enabled", .bool record.enabled),
    ("created_at", .string record.createdAt), ("revision", .int record.revision)]

end ServiceEndpoint

/-- The first entry that is not canonical, or was there before. -/
def validateCIDRs (seen : List String) : List String → Option GoError
  | [] => none
  | raw :: rest =>
    if !canonicalIPv4CIDR raw then
      some (errorsNew ("allowed_source_cidrs entry " ++ quoted raw ++
        " must be a canonical IPv4 network CIDR"))
    else if raw ∈ seen then
      some (errorsNew ("allowed_source_cidrs entry " ++ quoted raw ++ " is duplicated"))
    else validateCIDRs (raw :: seen) rest

/-- The rules of `ValidateServiceEndpoint` for `public_port` and `allowed_source_cidrs`. -/
def validatePublicAccess (record : ServiceEndpoint) : Option GoError :=
  if (record.protocol = "tcp" ∨ record.protocol = "udp") ∧
      (record.exposure = "public" ∨ record.exposure = "both") then
    if record.publicPort < 1024 ∨ record.publicPort > 65535 then
      some (errorsNew "public TCP/UDP endpoints require public_port between 1024 and 65535")
    else if record.allowedSourceCIDRs.length < 1 ∨ record.allowedSourceCIDRs.length > 16 then
      some (errorsNew "public TCP/UDP endpoints require 1..16 allowed_source_cidrs")
    else validateCIDRs [] record.allowedSourceCIDRs
  else if record.publicPort ≠ 0 ∨ record.allowedSourceCIDRs.length ≠ 0 then
    some (errorsNew
      "public_port and allowed_source_cidrs are valid only for public TCP/UDP endpoints")
  else none

/-- The loop over identifiers; see `ContractV1.validateIDs` for its order. -/
def validateIdentifiers (values : List (String × String)) : Option GoError :=
  values.findSome? fun (name, value) =>
    if idPattern (codes value) then none else some (errorsNew (name ++ " is invalid"))

def validateApplicationProtocol (record : ServiceEndpoint) : Option GoError :=
  if record.applicationProtocol = "" ∨ record.applicationProtocol = "generic" then none
  else if record.applicationProtocol = "rdp" then
    if record.protocol ≠ "tcp" ∨ record.exposure ≠ "private" then
      some (errorsNew "rdp endpoints must use tcp with private exposure")
    else none
  else some (errorsNew ("application_protocol " ++ quoted record.applicationProtocol ++
    " is unsupported"))

def validateServiceEndpoint (record : ServiceEndpoint) : Except GoError Unit := do
  rejectIf (record.kind ≠ "service_endpoint") "kind must be service_endpoint"
  rejectIf (record.contractVersion ≠ protocolVersion) s!"contract_version must be {protocolVersion}"
  check (validateIdentifiers [("endpoint_id", record.endpointID),
    ("owner_device_id", record.ownerDeviceID), ("local_endpoint_id", record.localEndpointID)])
  rejectIf (oneOfStrings record.protocol ["http", "tcp", "udp"] = false)
    ("protocol " ++ quoted record.protocol ++ " is unsupported")
  rejectIf (oneOfStrings record.exposure ["private", "public", "both"] = false)
    ("exposure " ++ quoted record.exposure ++ " is unsupported")
  check (validateApplicationProtocol record)
  check (validatePublicAccess record)
  rejectIf ((canonicalTime record.createdAt).isNone)
    "created_at must be a canonical UTC RFC3339 timestamp"
  rejectIf (record.revision = 0 ∨ record.revision > 2 ^ 53 - 1)
    "revision must be between 1 and 9007199254740991"

def parseServiceEndpoint (data : Bytes) : Except GoError ServiceEndpoint := do
  check (validateStrictJSONObject data)
  let record := ServiceEndpoint.ofStruct
    (← decodeRecord "decode service endpoint" ServiceEndpoint.fields data)
  check (requireMembers data ["kind", "contract_version", "endpoint_id", "owner_device_id",
    "protocol", "local_endpoint_id", "exposure", "enabled", "created_at", "revision"])
  validateServiceEndpoint record
  return record

/-! ## Connector grants -/

structure ConnectorGrant where
  kind : String
  contractVersion : Int
  grantID : String
  endpointID : String
  tokenID : String
  tokenSHA256 : String
  notBefore : String
  expiresAt : String
  disabled : Bool
  maxConnections : Int
  deriving DecidableEq, Repr

namespace ConnectorGrant

def fields : List Field :=
  [⟨"kind", .string⟩, ⟨"contract_version", .int⟩, ⟨"grant_id", .string⟩, ⟨"endpoint_id", .string⟩,
    ⟨"token_id", .string⟩, ⟨"token_sha256", .string⟩, ⟨"not_before", .string⟩,
    ⟨"expires_at", .string⟩, ⟨"disabled", .bool⟩, ⟨"max_connections", .int⟩]

def ofStruct (s : Struct) : ConnectorGrant where
  kind := s.string "kind"
  contractVersion := s.int "contract_version"
  grantID := s.string "grant_id"
  endpointID := s.string "endpoint_id"
  tokenID := s.string "token_id"
  tokenSHA256 := s.string "token_sha256"
  notBefore := s.string "not_before"
  expiresAt := s.string "expires_at"
  disabled := s.bool "disabled"
  maxConnections := s.int "max_connections"

def values (record : ConnectorGrant) : List (String × Value) :=
  [("kind", .string record.kind), ("contract_version", .int record.contractVersion),
    ("grant_id", .string record.grantID), ("endpoint_id", .string record.endpointID),
    ("token_id", .string record.tokenID), ("token_sha256", .string record.tokenSHA256),
    ("not_before", .string record.notBefore), ("expires_at", .string record.expiresAt),
    ("disabled", .bool record.disabled), ("max_connections", .int record.maxConnections)]

end ConnectorGrant

def maxConnectorGrantConnections : Int := 16

def validateConnectorGrant (record : ConnectorGrant) : Except GoError Unit := do
  rejectIf (record.kind ≠ "connector_grant") "kind must be connector_grant"
  rejectIf (record.contractVersion ≠ protocolVersion) s!"contract_version must be {protocolVersion}"
  check (validateIdentifiers [("grant_id", record.grantID), ("endpoint_id", record.endpointID),
    ("token_id", record.tokenID)])
  rejectIf (isDigest record.tokenSHA256 = false)
    "token_sha256 must be 64 lowercase hexadecimal characters"
  let notBefore ← (canonicalTimestamp record.notBefore).mapError (.wrap "not_before: %w")
  let expiresAt ← (canonicalTimestamp record.expiresAt).mapError (.wrap "expires_at: %w")
  rejectIf (¬ notBefore < expiresAt) "not_before must be earlier than expires_at"
  rejectIf (record.maxConnections < 1 ∨ record.maxConnections > maxConnectorGrantConnections)
    s!"max_connections must be between 1 and {maxConnectorGrantConnections}"

def parseConnectorGrant (data : Bytes) : Except GoError ConnectorGrant := do
  check (validateStrictJSONObject data)
  let record := ConnectorGrant.ofStruct
    (← decodeRecord "decode connector grant" ConnectorGrant.fields data)
  check (requireMembers data ["kind", "contract_version", "grant_id", "endpoint_id", "token_id",
    "token_sha256", "not_before", "expires_at", "disabled", "max_connections"])
  validateConnectorGrant record
  return record

/-! ## What the helpers accept -/

section Accepted

variable {data : Bytes} {members : Members}

theorem validateStrictJSONObject_eq :
    validateStrictJSONObject data = ContractV1.validateStrictJSONObject data :=
  rfl

theorem decodeRecord_ok_iff (h : jsonValue data = some (.object members)) {what : String}
    {fields : List Field} {struct : Struct} :
    decodeRecord what fields data = .ok struct ↔ decode fields true members = .ok struct := by
  simp only [decodeRecord, h]
  cases decode fields true members <;> simp [Except.mapError]

theorem mem_of_requireMembers (h : jsonValue data = some (.object members))
    (hnames : (members.map (·.1)).Nodup) {names : List String}
    (hrequire : requireMembers data names = none) {name : String} (hname : name ∈ names) :
    name ∈ members.map (·.1) := by
  simp only [requireMembers, h] at hrequire
  split at hrequire
  next => cases hrequire
  next =>
    obtain ⟨json, hjson, -⟩ :=
      (requireEach_iff (nodup_reverse_names hnames)).mp hrequire name hname
    exact List.mem_map.mpr ⟨_, List.mem_reverse.mp hjson, rfl⟩

theorem validateCIDRs_iff {seen cidrs : List String} (h : validateCIDRs seen cidrs = none) :
    ∀ raw ∈ cidrs, canonicalIPv4CIDR raw = true := by
  induction cidrs generalizing seen with
  | nil => simp
  | cons raw rest ih =>
    rw [validateCIDRs] at h
    split at h
    · cases h
    next hcanonical =>
      split at h
      · cases h
      exact List.forall_mem_cons.mpr ⟨by simpa using hcanonical, ih h⟩

/-- Every entry of an accepted endpoint is canonical. -/
theorem canonical_of_validatePublicAccess {record : ServiceEndpoint}
    (h : validatePublicAccess record = none) :
    ∀ raw ∈ record.allowedSourceCIDRs, canonicalIPv4CIDR raw = true := by
  unfold validatePublicAccess at h
  split at h
  · split at h
    · cases h
    split at h
    · cases h
    exact validateCIDRs_iff h
  · split at h
    · cases h
    next hnone =>
      have hlength : record.allowedSourceCIDRs.length = 0 :=
        not_not.mp fun hne => hnone (.inr hne)
      rw [List.eq_nil_of_length_eq_zero hlength]
      exact fun _ hraw => absurd hraw List.not_mem_nil

end Accepted

end Hooshix.ContractV2
