-- SUMMARY: Authority records mean what their exactly named members say, unless a name varies in case.
import Hooshix.ContractV1.Records
import Hooshix.ContractV2.Records

/-! # The members of authority records

The duplicate check and the required members are compared byte for byte, but the decoder takes a name
in any case. A record means what its members say exactly when every name is spelled as its field is and
no member is null.
-/

namespace Hooshix.AuthorityRecords

open StructDecode ContractV1 ContractV2
open Json (UniqueNames)

/-- The value of a field that no member sets. -/
def isZero (value : Value) : Bool :=
  value == .int 0 || value == .bool false || value == .string "" || value == .strings []

/-- The members say what the fields hold: a field has the value of the member with its name, or is
    optional, zero and has no member, and there are no other members. -/
structure Says (optional : List String) (members : Members) (values : List (String × Value)) : Prop where
  field : ∀ entry ∈ values, (∃ json, (entry.1, json) ∈ members ∧ Denotes json entry.2) ∨
    entry.1 ∈ optional ∧ entry.1 ∉ members.map (·.1) ∧ isZero entry.2 = true
  only : ∀ m ∈ members, m.1 ∈ values.map (·.1)

/-- No member is null or has a name that only the case keeps from that of a field. -/
def Spelled (fields : List Field) (members : Members) : Prop :=
  ∀ m ∈ members, m.2 ≠ .null ∧ ∀ f ∈ fields, foldName f.name = foldName m.1 → f.name = m.1

/-- The text is an object that says what the fields hold exactly when its members are spelled as they
    are. -/
def Means (optional : List String) (data : Bytes) (values : List (String × Value))
    (fields : List Field) : Prop :=
  ∃ members, jsonValue data = some (.object members) ∧
    (Says optional members values ↔ Spelled fields members)

/-- The fields of a decoded struct under their names. -/
def structValues (fields : List Field) (struct : Struct) : List (String × Value) :=
  fields.map fun f => (f.name, struct f.name)

section Decoded

variable {fields : List Field} {optional : List String} {members : Members} {struct : Struct}

/-- A name that no case variant of a field can be goes to the field it names. -/
theorem exact_of_spelled (hspelled : Spelled fields members)
    (hdecode : decode fields true members = .ok struct) :
    ∀ m ∈ members, ∃ f ∈ fields, f.name = m.1 := by
  intro m hm
  obtain ⟨f, hmatch⟩ := matchField_of_decode hdecode hm
  refine ⟨f, mem_of_matchField hmatch, ?_⟩
  rcases Option.or_eq_some_iff.mp hmatch with hfind | ⟨-, hfind⟩
  · simpa using List.find?_some hfind
  · exact (hspelled m hm).2 f (List.mem_of_find?_eq_some hfind) (by simpa using List.find?_some hfind)

theorem isZero_zero (type : FieldType) : isZero type.zero = true := by
  cases type <;> rfl

/-- The decoded fields are what the members say exactly when every member is spelled as its field. -/
theorem says_iff_spelled (hfold : (fields.map fun f => foldName f.name).Nodup)
    (hunique : UniqueNames (.object members)) (hdecode : decode fields true members = .ok struct)
    (hpresent : ∀ f ∈ fields, f.name ∈ optional ∨ f.name ∈ members.map (·.1) ∨
      isZero (struct f.name) = false)
    (hitems : ∀ f ∈ fields, ∀ l, struct f.name = .strings l → "" ∉ l) :
    Says optional members (structValues fields struct) ↔ Spelled fields members := by
  have hnames := nodup_names_of_fold hfold
  obtain ⟨hmembers, -⟩ : (members.map (·.1)).Nodup ∧ ∀ m ∈ members, UniqueNames m.2 := by
    cases hunique with
    | object hnames h => exact ⟨hnames, h⟩
  constructor
  · intro hgiven m hm
    obtain ⟨entry, hentry, hname⟩ := List.mem_map.mp (hgiven.only m hm)
    obtain ⟨g, hg, rfl⟩ := List.mem_map.mp hentry
    constructor
    · -- the member is the only one of its name, so it denotes a value
      intro hnull
      rcases hgiven.field _ hentry with ⟨json, hjson, hdenotes⟩ | ⟨-, hnone, -⟩
      · have hsame : json = m.2 := by
          have hpair := List.inj_on_of_nodup_map hmembers hjson hm hname
          rw [← hpair]
        rw [hsame, hnull] at hdenotes
        cases hdenotes
      · exact hnone (List.mem_map.mpr ⟨m, hm, hname.symm⟩)
    · intro f hf hsame
      rw [← hname] at hsame
      rw [List.inj_on_of_nodup_map hfold hf hg hsame]
      exact hname
  · intro hspelled
    have hexact := exact_of_spelled hspelled hdecode
    refine ⟨?_, ?_⟩
    · intro entry hentry
      obtain ⟨f, hf, rfl⟩ := List.mem_map.mp hentry
      obtain ⟨hvalue, habsent⟩ := decode_exact hnames hf hmembers hexact hdecode
      by_cases hname : f.name ∈ members.map (·.1)
      · obtain ⟨⟨name, json⟩, hm, rfl⟩ := List.mem_map.mp hname
        have hdenotes := denotes_of_value? (hvalue json hm) (hspelled _ hm).1 (hitems f hf)
        exact .inl ⟨json, hm, hdenotes⟩
      · have hzero : isZero (struct f.name) = true := by
          rw [habsent hname]
          exact isZero_zero f.type
        rcases hpresent f hf with hoptional | hthere | hnonzero
        · exact .inr ⟨hoptional, hname, hzero⟩
        · exact absurd hthere hname
        · rw [hzero] at hnonzero
          cases hnonzero
    · intro m hm
      obtain ⟨f, hf, hname⟩ := hexact m hm
      exact List.mem_map.mpr ⟨(f.name, struct f.name), List.mem_map.mpr ⟨f, hf, rfl⟩, hname⟩

end Decoded

/-! ## The four records -/

variable {fields : List Field} {struct : Struct} {members : Members}

theorem structValues_eq (hnames : (fields.map (·.name)).Nodup)
    (hdecode : decode fields true members = .ok struct) :
    structValues fields struct = fields.map fun f => (f.name, struct.read f) := by
  refine List.map_congr_left fun f hf => ?_
  rw [Struct.read_eq (hasType_of_decode hnames hf hdecode)]

/-- What is left of an accepted record: its object, and the struct it was decoded into. -/
structure Accepted (fields : List Field) (data : Bytes) (members : Members) (struct : Struct) : Prop where
  object : jsonValue data = some (.object members)
  unique : UniqueNames (.object members)
  decoded : decode fields true members = .ok struct

variable {data : Bytes} {record : ContractV1.DeviceSessionAuthorization}

theorem Accepted.names (h : Accepted fields data members struct) : (members.map (·.1)).Nodup := by
  cases h.unique with
  | object hnames _ => exact hnames

/-- A field of an accepted record is present, or its value is not the zero of its type. -/
theorem Accepted.says_iff {optional : List String} {values : List (String × Value)}
    (h : Accepted fields data members struct) (hfold : (fields.map fun f => foldName f.name).Nodup)
    (hvalues : values = fields.map fun f => (f.name, struct.read f))
    (hpresent : ∀ entry ∈ values, entry.1 ∈ optional ∨ entry.1 ∈ members.map (·.1) ∨ isZero entry.2 = false)
    (hitems : ∀ entry ∈ values, ∀ l, entry.2 = .strings l → "" ∉ l) :
    Says optional members values ↔ Spelled fields members := by
  have hstruct : values = structValues fields struct := by
    rw [hvalues, structValues_eq (nodup_names_of_fold hfold) h.decoded]
  subst hstruct
  have hentry : ∀ f ∈ fields, (f.name, struct f.name) ∈ structValues fields struct :=
    fun f hf => List.mem_map.mpr ⟨f, hf, rfl⟩
  exact says_iff_spelled hfold h.unique h.decoded (fun f hf => hpresent _ (hentry f hf))
    fun f hf => hitems _ (hentry f hf)

variable {values : List (String × Value)} (hfold : (fields.map fun f => foldName f.name).Nodup)
  (hvalues : values = fields.map fun f => (f.name, struct.read f))
  (hitems : ∀ entry ∈ values, ∀ l, entry.2 = .strings l → "" ∉ l)

include hfold hvalues hitems

/-- An accepted record of version 1 has one member that may be the zero of its type. -/
theorem means_of_decodeStrict {name : String}
    (hstrict : ContractV1.validateStrictJSONObject data = none)
    (hpresent : requirePresent data [name] = none) (hdecode : decodeStrict fields data = .ok struct)
    (hnonzero : ∀ entry ∈ values, entry.1 = name ∨ isZero entry.2 = false) :
    Means [] data values fields := by
  obtain ⟨members, hobject, hunique⟩ := validateStrictJSONObject_iff.mp hstrict
  have haccepted : Accepted fields data members struct :=
    ⟨hobject, hunique, (decodeStrict_ok_iff hobject).mp hdecode⟩
  obtain ⟨json, hjson, -⟩ := (requirePresent_iff hobject haccepted.names).mp hpresent name (by simp)
  refine ⟨members, hobject, haccepted.says_iff hfold hvalues (fun entry hentry => ?_) hitems⟩
  rcases hnonzero entry hentry with hname | hzero
  · exact .inr (.inl (List.mem_map.mpr ⟨_, hjson, hname.symm⟩))
  · exact .inr (.inr hzero)

/-- An accepted record of version 2 has every member but the optional ones. -/
theorem means_of_decodeRecord {what : String} {optional names : List String}
    (hstrict : ContractV1.validateStrictJSONObject data = none)
    (hdecode : decodeRecord what fields data = .ok struct) (hrequire : requireMembers data names = none)
    (hnames : ∀ entry ∈ values, entry.1 ∈ optional ∨ entry.1 ∈ names) :
    Means optional data values fields := by
  obtain ⟨members, hobject, hunique⟩ := validateStrictJSONObject_iff.mp hstrict
  have haccepted : Accepted fields data members struct :=
    ⟨hobject, hunique, (decodeRecord_ok_iff hobject).mp hdecode⟩
  refine ⟨members, hobject, haccepted.says_iff hfold hvalues (fun entry hentry => ?_) hitems⟩
  exact (hnames entry hentry).imp_right fun hname =>
    .inl (mem_of_requireMembers hobject haccepted.names hrequire hname)

omit hfold hvalues hitems

theorem deviceSessionAuthorization_nonzero (h : record.validate = .ok ()) :
    ∀ entry ∈ record.values, entry.1 = "disabled" ∨ isZero entry.2 = false := by
  simp only [DeviceSessionAuthorization.validate, bind_eq_ok, rejectIf_eq_ok, check_eq_ok,
    validateIDs_iff, validateRawBase64Length_iff, parseUTCTime_ok_iff, List.forall_mem_cons,
    Bool.not_eq_false] at h
  obtain ⟨_, hversion, _, ⟨hauthorization, hdevice, htoken, -⟩, _, hkey, _, hdigest, _, hissued, _,
    hnotBefore, _, hexpires, -⟩ := h
  simp [DeviceSessionAuthorization.values, isZero, not_not.mp hversion, ContractV1.protocolVersion,
    ne_empty_of_idPattern hauthorization, ne_empty_of_idPattern hdevice,
    ne_empty_of_idPattern htoken, ne_empty_of_isRawBase64 (by decide) hkey,
    ne_empty_of_isDigest hdigest, ne_empty_of_parseTimestamp hissued,
    ne_empty_of_parseTimestamp hnotBefore, ne_empty_of_parseTimestamp hexpires]

theorem endpointRouteAssignment_nonzero {record : EndpointRouteAssignment}
    (h : record.validate = .ok ()) :
    ∀ entry ∈ record.values, entry.1 = "enabled" ∨ isZero entry.2 = false := by
  simp only [EndpointRouteAssignment.validate, bind_eq_ok, rejectIf_eq_ok, check_eq_ok,
    validateIDs_iff, parseUTCTime_ok_iff, List.forall_mem_cons] at h
  obtain ⟨_, hversion, _, ⟨hassignment, hendpoint, hdevice, hlocal, -⟩, _, hhostname, _, hnotBefore,
    _, hexpires, -⟩ := h
  simp [EndpointRouteAssignment.values, isZero, not_not.mp hversion, ContractV1.protocolVersion,
    ne_empty_of_idPattern hassignment, ne_empty_of_idPattern hendpoint,
    ne_empty_of_validateHostname hhostname, ne_empty_of_idPattern hdevice,
    ne_empty_of_idPattern hlocal, ne_empty_of_parseTimestamp hnotBefore,
    ne_empty_of_parseTimestamp hexpires]

theorem deviceSessionAuthorization_means
    (h : parseDeviceSessionAuthorizationRecord data = .ok record) :
    Means [] data record.values DeviceSessionAuthorization.fields := by
  simp only [parseDeviceSessionAuthorizationRecord, bind_eq_ok, check_eq_ok] at h
  obtain ⟨_, hstrict, _, -, _, hpresent, struct, hdecode, _, hvalidate, hreturn⟩ := h
  cases hreturn
  exact means_of_decodeStrict (by decide) rfl (by simp [DeviceSessionAuthorization.values]) hstrict hpresent
    hdecode (deviceSessionAuthorization_nonzero hvalidate)

theorem endpointRouteAssignment_means {record : EndpointRouteAssignment}
    (h : parseEndpointRouteAssignmentRecord data = .ok record) :
    Means [] data record.values EndpointRouteAssignment.fields := by
  simp only [parseEndpointRouteAssignmentRecord, bind_eq_ok, check_eq_ok] at h
  obtain ⟨_, hstrict, _, -, _, hpresent, struct, hdecode, _, hvalidate, hreturn⟩ := h
  cases hreturn
  exact means_of_decodeStrict (by decide) rfl (by simp [EndpointRouteAssignment.values]) hstrict hpresent
    hdecode (endpointRouteAssignment_nonzero hvalidate)

theorem serviceEndpoint_means {record : ServiceEndpoint} (h : parseServiceEndpoint data = .ok record) :
    Means ["application_protocol", "public_port", "allowed_source_cidrs"] data record.values
      ServiceEndpoint.fields := by
  simp only [parseServiceEndpoint, bind_eq_ok, check_eq_ok, validateStrictJSONObject_eq] at h
  obtain ⟨_, hstrict, struct, hdecode, _, hrequire, _, hvalidate, hreturn⟩ := h
  cases hreturn
  simp only [validateServiceEndpoint, bind_eq_ok, rejectIf_eq_ok, check_eq_ok] at hvalidate
  obtain ⟨_, -, _, -, _, -, _, -, _, -, _, -, _, haccess, -⟩ := hvalidate
  refine means_of_decodeRecord (by decide) (by rfl) ?_ hstrict hdecode hrequire
    (by simp [ServiceEndpoint.values])
  intro entry hentry l hl
  have hcidrs : entry.2 = .strings (ServiceEndpoint.ofStruct struct).allowedSourceCIDRs := by
    simp only [ServiceEndpoint.values, List.mem_cons, List.not_mem_nil, or_false] at hentry
    rcases hentry with rfl | rfl | rfl | rfl | rfl | rfl | rfl | rfl | rfl | rfl | rfl | rfl | rfl
    all_goals first | rfl | cases hl
  rw [Value.strings.inj (hl.symm.trans hcidrs)]
  intro hempty
  exact absurd (canonical_of_validatePublicAccess haccess "" hempty) (by decide)

theorem connectorGrant_means {record : ConnectorGrant} (h : parseConnectorGrant data = .ok record) :
    Means [] data record.values ConnectorGrant.fields := by
  simp only [parseConnectorGrant, bind_eq_ok, check_eq_ok, validateStrictJSONObject_eq] at h
  obtain ⟨_, hstrict, struct, hdecode, _, hrequire, _, -, hreturn⟩ := h
  cases hreturn
  exact means_of_decodeRecord (by decide) (by rfl) (by simp [ConnectorGrant.values]) hstrict hdecode
    hrequire (by simp [ConnectorGrant.values])

/-- An accepted record means what its exactly named members say if and only if no member is null or
    has a name that only the case keeps from that of a field. -/
theorem records_say_members (data : Bytes) :
    (∀ {record}, parseDeviceSessionAuthorizationRecord data = .ok record →
      ∃ members, jsonValue data = some (.object members) ∧
        (Says [] members record.values ↔ Spelled DeviceSessionAuthorization.fields members)) ∧
    (∀ {record}, parseEndpointRouteAssignmentRecord data = .ok record →
      ∃ members, jsonValue data = some (.object members) ∧
        (Says [] members record.values ↔ Spelled EndpointRouteAssignment.fields members)) ∧
    (∀ {record}, parseServiceEndpoint data = .ok record →
      ∃ members, jsonValue data = some (.object members) ∧
        (Says ["application_protocol", "public_port", "allowed_source_cidrs"] members
          record.values ↔ Spelled ServiceEndpoint.fields members)) ∧
    (∀ {record}, parseConnectorGrant data = .ok record →
      ∃ members, jsonValue data = some (.object members) ∧
        (Says [] members record.values ↔ Spelled ConnectorGrant.fields members)) :=
  ⟨deviceSessionAuthorization_means, endpointRouteAssignment_means, serviceEndpoint_means,
    connectorGrant_means⟩

/-! ## A record that is read in another case -/

/-- The members of an authorization that is disabled. -/
def disabledMembers : Members :=
  [("contract_version", .number ⟨['1'], rfl⟩), ("authorization_id", .string "auth-1"),
    ("device_id", .string "device-1"),
    ("device_public_key", .string "AAAAAAAAAAAAAAAAAAAAAAAAAAAAAAAAAAAAAAAAAAA"),
    ("token_id", .string "token-1"),
    ("token_sha256", .string "0000000000000000000000000000000000000000000000000000000000000000"),
    ("issued_at", .string "2026-01-01T00:00:00Z"), ("not_before", .string "2026-01-01T00:00:00Z"),
    ("expires_at", .string "2027-01-01T00:00:00Z"), ("disabled", .bool true)]

/-- The authorization with these members, and with the value of `disabled` that was stored last. -/
def storedRecord (disabled : Bool) : ContractV1.DeviceSessionAuthorization where
  contractVersion := 1
  authorizationID := "auth-1"
  deviceID := "device-1"
  devicePublicKey := "AAAAAAAAAAAAAAAAAAAAAAAAAAAAAAAAAAAAAAAAAAA"
  tokenID := "token-1"
  tokenSHA256 := "0000000000000000000000000000000000000000000000000000000000000000"
  issuedAt := "2026-01-01T00:00:00Z"
  notBefore := "2026-01-01T00:00:00Z"
  expiresAt := "2027-01-01T00:00:00Z"
  disabled := disabled

/-- The member for `disabled` that is stored last gives the record its value. -/
theorem parseDeviceSessionAuthorizationRecord_disabledMembers {data : Bytes} :
    (jsonValue data = some (.object disabledMembers) →
      parseDeviceSessionAuthorizationRecord data = .ok (storedRecord true)) ∧
    (jsonValue data = some (.object (disabledMembers ++ [("Disabled", .bool false)])) →
      parseDeviceSessionAuthorizationRecord data = .ok (storedRecord false)) := by
  constructor <;>
  · intro hobject
    simp only [parseDeviceSessionAuthorizationRecord, validateStrictJSONObject_object hobject,
      rejectNullMembers, requirePresent, scanTopLevelMembers, decodeStrict, hobject]
    decide +kernel

attribute [local simp] disabledMembers

theorem records_say_members_disabled :
    parseDeviceSessionAuthorizationRecord (Json.object disabledMembers).bytes =
        .ok (storedRecord true) ∧
      Says [] disabledMembers (storedRecord true).values := by
  have hparse : parseDeviceSessionAuthorizationRecord (Json.object disabledMembers).bytes =
      .ok (storedRecord true) :=
    parseDeviceSessionAuthorizationRecord_disabledMembers.1 (jsonValue_bytes _)
  refine ⟨hparse, ?_⟩
  obtain ⟨members, hobject, hiff⟩ := (records_say_members _).1 hparse
  rw [jsonValue_bytes] at hobject
  cases hobject
  refine hiff.mpr fun m hm => ⟨?_, ?_⟩
  · revert m
    simp
  · have hspelled : ∀ name ∈ disabledMembers.map (·.1), ∀ f ∈ DeviceSessionAuthorization.fields,
        foldName f.name = foldName name → f.name = name := by decide +kernel
    exact hspelled m.1 (List.mem_map.mpr ⟨m, hm, rfl⟩)

/-- The record's own member says that it is disabled, and it is loaded as enabled. -/
theorem disabledRecord_loaded_enabled :
    jsonValue (Json.object (disabledMembers ++ [("Disabled", .bool false)])).bytes =
        some (.object (disabledMembers ++ [("Disabled", .bool false)])) ∧
      ("disabled", Json.bool true) ∈ disabledMembers ++ [("Disabled", .bool false)] ∧
      parseDeviceSessionAuthorizationRecord
        (Json.object (disabledMembers ++ [("Disabled", .bool false)])).bytes =
          .ok (storedRecord false) :=
  ⟨jsonValue_bytes _, by simp,
    parseDeviceSessionAuthorizationRecord_disabledMembers.2 (jsonValue_bytes _)⟩

end Hooshix.AuthorityRecords
