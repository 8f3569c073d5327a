-- SUMMARY: A loaded snapshot answers exactly as the set of records it was loaded from.
import Hooshix.Gateway.ValidRecords
import Mathlib.Data.List.Perm.Basic

/-! # The authority that records declare

Lookups are described over the records alone, as a set: which record is in force and what is revoked.
A snapshot that was loaded without an error answers so, whatever the order of the records was.
-/

namespace Hooshix.Gateway.Authority

open SnapshotMetadata

open Contract (parseRFC3339)
open ContractV1 (DeviceSessionAuthorization EndpointRouteAssignment codes)
open ContractV2 (ServiceEndpoint ConnectorGrant)

/-! ## What records declare -/

/-- A revocation of the subject is in force. -/
def Revokes (declared : List Declared) (kind id : String) (at_ : Int) : Prop :=
  ∃ effectiveAt reason, .revocation ⟨kind, id⟩ effectiveAt reason ∈ declared ∧ effectiveAt ≤ at_

structure Authorizes (declared : List Declared) (authorizationID deviceID tokenID : String)
    (at_ : Int) (entry : AuthorizationSnapshot) : Prop where
  mem : .authorization entry ∈ declared
  id : entry.record.authorizationID = authorizationID
  enabled : entry.record.disabled = false
  device : entry.record.deviceID = deviceID
  token : entry.record.tokenID = tokenID
  active : entry.notBefore ≤ at_ ∧ at_ < entry.expiresAt
  unrevoked : ¬ Revokes declared "device_session_authorization" authorizationID at_
  deviceUnrevoked : ¬ Revokes declared "device" deviceID at_

structure Routes (table : Char → Char) (declared : List Declared) (hostname : String) (at_ : Int)
    (entry : RouteSnapshot) : Prop where
  mem : .route (canonicalHostname table hostname) entry ∈ declared
  enabled : entry.record.enabled = true
  active : entry.notBefore ≤ at_ ∧ at_ < entry.expiresAt
  unrevoked : ¬ Revokes declared "endpoint_route_assignment" entry.record.assignmentID at_
  deviceUnrevoked : ¬ Revokes declared "device" entry.record.deviceID at_

structure Serves (declared : List Declared) (at_ : Int) (record : ServiceEndpoint) : Prop where
  mem : .serviceEndpoint record ∈ declared
  enabled : record.enabled = true
  ownerUnrevoked : ¬ Revokes declared "device" record.ownerDeviceID at_

structure Grants (declared : List Declared) (at_ : Int) (record : ConnectorGrant) : Prop where
  mem : .connectorGrant record ∈ declared
  enabled : record.disabled = false
  active : ∃ notBefore expiresAt, parseRFC3339 (codes record.notBefore) = some notBefore ∧
    parseRFC3339 (codes record.expiresAt) = some expiresAt ∧ notBefore ≤ at_ ∧ at_ < expiresAt

/-! ## The tables of a loaded snapshot -/

namespace Declared

def authorizationEntry : Declared → Option (String × AuthorizationSnapshot)
  | .authorization entry => some (entry.record.authorizationID, entry)
  | _ => none

def routeEntry : Declared → Option (String × RouteSnapshot)
  | .route host entry => some (host, entry)
  | _ => none

def revocationEntry : Declared → Option (RevocationSubject × Int)
  | .revocation subject effectiveAt _ => some (subject, effectiveAt)
  | _ => none

def serviceEndpointEntry : Declared → Option (String × ServiceEndpoint)
  | .serviceEndpoint record => some (record.endpointID, record)
  | _ => none

def publicPortEntry : Declared → Option (Int × String)
  | .serviceEndpoint record =>
    if record.publicPort ≠ 0 then some (record.publicPort, record.endpointID) else none
  | _ => none

def connectorGrantEntry : Declared → Option (String × ConnectorGrant)
  | .connectorGrant record => some (record.grantID, record)
  | _ => none

variable {d : Declared} {id : String}

theorem authorizationEntry_eq_some {entry : AuthorizationSnapshot} :
    d.authorizationEntry = some (id, entry) ↔
      d = .authorization entry ∧ entry.record.authorizationID = id := by
  cases d <;> simp [authorizationEntry]
  constructor <;> (rintro ⟨rfl, rfl⟩; exact ⟨rfl, rfl⟩)

theorem routeEntry_eq_some {host : String} {entry : RouteSnapshot} :
    d.routeEntry = some (host, entry) ↔ d = .route host entry := by
  cases d <;> simp [routeEntry]

theorem serviceEndpointEntry_eq_some {record : ServiceEndpoint} :
    d.serviceEndpointEntry = some (id, record) ↔
      d = .serviceEndpoint record ∧ record.endpointID = id := by
  cases d <;> simp [serviceEndpointEntry]
  constructor <;> (rintro ⟨rfl, rfl⟩; exact ⟨rfl, rfl⟩)

theorem publicPortEntry_eq_some {port : Int} :
    d.publicPortEntry = some (port, id) ↔ ∃ record, d = .serviceEndpoint record ∧
      record.publicPort = port ∧ port ≠ 0 ∧ record.endpointID = id := by
  cases d <;> simp [publicPortEntry]
  exact ⟨fun h => ⟨h.2.1, h.2.1 ▸ h.1, h.2.2⟩, fun h => ⟨h.1 ▸ h.2.1, h.1, h.2.2⟩⟩

theorem connectorGrantEntry_eq_some {record : ConnectorGrant} :
    d.connectorGrantEntry = some (id, record) ↔
      d = .connectorGrant record ∧ record.grantID = id := by
  cases d <;> simp [connectorGrantEntry]
  constructor <;> (rintro ⟨rfl, rfl⟩; exact ⟨rfl, rfl⟩)

end Declared

/-- The tables hold what the records declare. -/
structure Represents (declared : List Declared) (source : SnapshotMetadata) : Prop where
  authorizations : Table.Indexes Declared.authorizationEntry declared source.authorizations
  routes : Table.Indexes Declared.routeEntry declared source.routes
  revocations : Table.Least Declared.revocationEntry declared source.revocations
  serviceEndpoints : Table.Indexes Declared.serviceEndpointEntry declared source.serviceEndpoints
  publicPorts : Table.Indexes Declared.publicPortEntry declared source.publicPorts
  connectorGrants : Table.Indexes Declared.connectorGrantEntry declared source.connectorGrants
  ready : source.readyErr = none

theorem represents_new : Represents [] .new where
  authorizations := .nil
  routes := .nil
  revocations := .nil
  serviceEndpoints := .nil
  publicPorts := .nil
  connectorGrants := .nil
  ready := rfl

theorem Represents.congr {declared declared' : List Declared} {source : SnapshotMetadata}
    (h : Represents declared source) (hsame : ∀ d, d ∈ declared ↔ d ∈ declared') :
    Represents declared' source where
  authorizations := h.authorizations.congr hsame
  routes := h.routes.congr hsame
  revocations := h.revocations.congr hsame
  serviceEndpoints := h.serviceEndpoints.congr hsame
  publicPorts := h.publicPorts.congr hsame
  connectorGrants := h.connectorGrants.congr hsame
  ready := h.ready

section Lookups

variable {declared : List Declared} {source : SnapshotMetadata} (h : Represents declared source)
  {id : String}
include h

theorem Represents.lookup_authorization {entry : AuthorizationSnapshot} :
    source.authorizations.lookup id = some entry ↔
      .authorization entry ∈ declared ∧ entry.record.authorizationID = id := by
  simp [h.authorizations id entry, Declared.authorizationEntry_eq_some, ← and_assoc]

theorem Represents.lookup_route {host : String} {entry : RouteSnapshot} :
    source.routes.lookup host = some entry ↔ .route host entry ∈ declared := by
  simp [h.routes host entry, Declared.routeEntry_eq_some]

theorem Represents.lookup_serviceEndpoint {record : ServiceEndpoint} :
    source.serviceEndpoints.lookup id = some record ↔
      .serviceEndpoint record ∈ declared ∧ record.endpointID = id := by
  simp [h.serviceEndpoints id record, Declared.serviceEndpointEntry_eq_some, ← and_assoc]

theorem Represents.lookup_publicPort {port : Int} :
    source.publicPorts.lookup port = some id ↔ ∃ record, .serviceEndpoint record ∈ declared ∧
      record.publicPort = port ∧ port ≠ 0 ∧ record.endpointID = id := by
  rw [h.publicPorts port id]
  simp only [Declared.publicPortEntry_eq_some]
  exact ⟨fun ⟨d, hd, record, heq, hrest⟩ => ⟨record, heq ▸ hd, hrest⟩,
    fun ⟨record, hd, hrest⟩ => ⟨_, hd, record, rfl, hrest⟩⟩

theorem Represents.lookup_connectorGrant {record : ConnectorGrant} :
    source.connectorGrants.lookup id = some record ↔
      .connectorGrant record ∈ declared ∧ record.grantID = id := by
  simp [h.connectorGrants id record, Declared.connectorGrantEntry_eq_some, ← and_assoc]

end Lookups

/-- Two declarations that one snapshot cannot hold. -/
def Clash : Declared → Declared → Prop
  | .authorization a, .authorization b => a.record.authorizationID = b.record.authorizationID
  | .route host _, .route host' _ => host = host'
  | .serviceEndpoint a, .serviceEndpoint b =>
    a.endpointID = b.endpointID ∨ a.publicPort ≠ 0 ∧ a.publicPort = b.publicPort
  | .connectorGrant a, .connectorGrant b => a.grantID = b.grantID
  | _, _ => False

theorem Clash.symm {a b : Declared} (h : Clash a b) : Clash b a := by
  cases a <;> cases b <;> simp only [Clash] at h ⊢
  case serviceEndpoint.serviceEndpoint a b =>
    rcases h with h | ⟨hport, h⟩
    · exact .inl h.symm
    · exact .inr ⟨h ▸ hport, h.symm⟩
  all_goals exact h.symm

variable {table : Char → Char} {declared declared' : List Declared}
  {source source' : SnapshotMetadata} {category : Category} {data : Bytes}
  {records records' : List (Category × Bytes)} {d : Declared} {rest : List (Category × Bytes)}

/-! ### What adding a record does -/

attribute [local simp] rejectIf_eq_ok Except.pure bind_eq_ok

theorem putAuthorization_ok_iff {entry : AuthorizationSnapshot} :
    source.putAuthorization entry = .ok source' ↔
      source.authorizations.lookup entry.record.authorizationID = none ∧
      { source with
        authorizations := source.authorizations.insert entry.record.authorizationID entry } =
        source' := by
  simp [putAuthorization, pure]

theorem putRoute_ok_iff {host : String} {entry : RouteSnapshot} :
    source.putRoute host entry = .ok source' ↔
      source.routes.lookup host = none ∧
      { source with routes := source.routes.insert host entry } = source' := by
  simp [putRoute, pure]

theorem putConnectorGrant_ok_iff {record : ConnectorGrant} :
    source.putConnectorGrant record = .ok source' ↔
      source.connectorGrants.lookup record.grantID = none ∧
      { source with
        connectorGrants := source.connectorGrants.insert record.grantID record } = source' := by
  simp [putConnectorGrant, pure]

/-- The public ports after an endpoint was added. -/
def withPort (ports : Table Int String) (record : ServiceEndpoint) : Table Int String :=
  if record.publicPort ≠ 0 then ports.insert record.publicPort record.endpointID else ports

theorem putServiceEndpoint_ok_iff {record : ServiceEndpoint} :
    source.putServiceEndpoint record = .ok source' ↔
      source.serviceEndpoints.lookup record.endpointID = none ∧
      (record.publicPort ≠ 0 → source.publicPorts.lookup record.publicPort = none) ∧
      { source with
        serviceEndpoints := source.serviceEndpoints.insert record.endpointID record
        publicPorts := withPort source.publicPorts record } = source' := by
  unfold putServiceEndpoint withPort
  by_cases hport : record.publicPort = 0
  · simp [pure, hport]
  · cases hlookup : source.publicPorts.lookup record.publicPort <;>
      simp [pure, hport]

theorem putRevocation_eq (source : SnapshotMetadata) (subject : RevocationSubject)
    (effectiveAt : Int) (reason : String) :
    ∃ reasons, source.putRevocation subject effectiveAt reason =
      { source with
        revocations := source.revocations.insertLeast subject effectiveAt
        revocationReasons := reasons } := by
  unfold putRevocation Table.insertLeast
  cases source.revocations.lookup subject with
  | none => exact ⟨_, rfl⟩
  | some current =>
    by_cases h : effectiveAt < current
    · exact ⟨source.revocationReasons.insert subject reason, by simp only [h, if_true]⟩
    · exact ⟨source.revocationReasons, by simp only [h, if_false]⟩

/-- No table has an entry for a key that no declaration has. -/
theorem lookup_eq_none_iff {K V : Type} [DecidableEq K] {entry : Declared → Option (K × V)}
    {t : Table K V} (h : Table.Indexes entry declared t) {k : K} :
    t.lookup k = none ↔ ∀ d ∈ declared, ∀ v, entry d ≠ some (k, v) := by
  rw [← Option.not_isSome_iff_eq_none, h.lookup_isSome_iff]
  simp

/-- A declaration is put into the snapshot unless it clashes with one that is there. -/
theorem put_ok_iff (h : Represents declared source) (d : Declared) :
    (∃ added, source.put d = .ok added) ↔ ∀ d' ∈ declared, ¬ Clash d' d := by
  cases d with
  | authorization | route | connectorGrant =>
    simp only [put, putAuthorization_ok_iff, putRoute_ok_iff, putConnectorGrant_ok_iff,
      exists_and_left, exists_eq', and_true, lookup_eq_none_iff h.authorizations,
      lookup_eq_none_iff h.routes, lookup_eq_none_iff h.connectorGrants]
    refine forall₂_congr fun d' _ => ?_
    cases d' <;> simp [Declared.authorizationEntry, Declared.routeEntry,
      Declared.connectorGrantEntry, Clash]
  | revocation subject effectiveAt reason =>
    refine iff_of_true ⟨_, rfl⟩ fun d' _ => ?_
    cases d' <;> exact id
  | serviceEndpoint record =>
    simp only [put, putServiceEndpoint_ok_iff, exists_and_left, exists_eq', and_true,
      lookup_eq_none_iff h.serviceEndpoints, lookup_eq_none_iff h.publicPorts]
    simp only [ne_eq, Declared.serviceEndpointEntry_eq_some, Declared.publicPortEntry_eq_some]
    constructor
    · rintro ⟨hid, hport⟩ d' hd' hclash
      cases d' <;> try exact hclash
      case serviceEndpoint other =>
        rcases hclash with hsame | ⟨hother, hsame⟩
        · exact hid _ hd' other ⟨rfl, hsame⟩
        · have hport' : record.publicPort ≠ 0 := hsame ▸ hother
          exact hport hport' _ hd' _ ⟨other, rfl, hsame, hport', rfl⟩
    · refine fun hfree => ⟨?_, fun hport => ?_⟩
      · rintro _ hd' other ⟨rfl, hid⟩
        exact hfree _ hd' (.inl hid)
      · rintro _ hd' _ ⟨other, rfl, hsame, -, rfl⟩
        exact hfree _ hd' (.inr ⟨hsame ▸ hport, hsame⟩)

/-- The snapshot then represents that declaration as well. -/
theorem Represents.put (h : Represents declared source) (hput : source.put d = .ok source') :
    Represents (d :: declared) source' := by
  cases d with
  | authorization entry =>
    obtain ⟨hfree, rfl⟩ := putAuthorization_ok_iff.mp hput
    exact ⟨h.authorizations.insert rfl hfree, h.routes.skip rfl, h.revocations.skip rfl,
      h.serviceEndpoints.skip rfl, h.publicPorts.skip rfl, h.connectorGrants.skip rfl, h.ready⟩
  | route host entry =>
    obtain ⟨hfree, rfl⟩ := putRoute_ok_iff.mp hput
    exact ⟨h.authorizations.skip rfl, h.routes.insert rfl hfree, h.revocations.skip rfl,
      h.serviceEndpoints.skip rfl, h.publicPorts.skip rfl, h.connectorGrants.skip rfl, h.ready⟩
  | revocation subject effectiveAt reason =>
    obtain ⟨reasons, heq⟩ := putRevocation_eq source subject effectiveAt reason
    cases hput
    rw [heq]
    exact ⟨h.authorizations.skip rfl, h.routes.skip rfl, h.revocations.insert rfl,
      h.serviceEndpoints.skip rfl, h.publicPorts.skip rfl, h.connectorGrants.skip rfl, h.ready⟩
  | serviceEndpoint record =>
    obtain ⟨hfree, hport, rfl⟩ := putServiceEndpoint_ok_iff.mp hput
    have hports : Table.Indexes Declared.publicPortEntry (.serviceEndpoint record :: declared)
        (withPort source.publicPorts record) := by
      unfold withPort
      split
      next hne => exact h.publicPorts.insert (by simp [Declared.publicPortEntry, hne]) (hport hne)
      next heq => exact h.publicPorts.skip (by simp [Declared.publicPortEntry, heq])
    exact ⟨h.authorizations.skip rfl, h.routes.skip rfl, h.revocations.skip rfl,
      h.serviceEndpoints.insert rfl hfree, hports, h.connectorGrants.skip rfl, h.ready⟩
  | connectorGrant record =>
    obtain ⟨hfree, rfl⟩ := putConnectorGrant_ok_iff.mp hput
    exact ⟨h.authorizations.skip rfl, h.routes.skip rfl, h.revocations.skip rfl,
      h.serviceEndpoints.skip rfl, h.publicPorts.skip rfl, h.connectorGrants.insert rfl hfree,
      h.ready⟩

/-! ## Loading -/

/-- What the records that can be read declare. -/
def declaredBy (table : Char → Char) (records : List (Category × Bytes)) : List Declared :=
  records.filterMap fun record => (record.1.read table record.2).toOption

/-- Every record can be read. -/
def Readable (table : Char → Char) (records : List (Category × Bytes)) : Prop :=
  ∀ record ∈ records, ∃ d, record.1.read table record.2 = .ok d

theorem addJSON_ok_iff :
    source.addJSON table category data = (source', none) ↔
      ∃ d, category.read table data = .ok d ∧ source.put d = .ok source' := by
  unfold addJSON
  rw [← bind_eq_ok]
  cases category.read table data >>= source.put <;> simp

theorem load_cons_ok_iff :
    source.load table ((category, data) :: rest) = (source', none) ↔
      ∃ d added, category.read table data = .ok d ∧ source.put d = .ok added ∧
        added.load table rest = (source', none) := by
  rw [load]
  cases hadd : source.addJSON table category data with
  | mk added err =>
    cases err with
    | none =>
      obtain ⟨d, hread, hput⟩ := addJSON_ok_iff.mp hadd
      constructor
      · exact fun h => ⟨d, added, hread, hput, h⟩
      · rintro ⟨d', added', hread', hput', h⟩
        have hadd' := addJSON_ok_iff.mpr ⟨d', hread', hput'⟩
        rw [hadd] at hadd'
        cases hadd'
        exact h
    | some err =>
      refine iff_of_false (by simp) ?_
      rintro ⟨d, added', hread, hput, -⟩
      rw [addJSON_ok_iff.mpr ⟨d, hread, hput⟩] at hadd
      cases hadd

theorem declaredBy_cons (hread : category.read table data = .ok d) :
    declaredBy table ((category, data) :: rest) = d :: declaredBy table rest := by
  simp [declaredBy, hread, Except.toOption]

theorem mem_declaredBy (d : Declared) :
    d ∈ declaredBy table records ↔ ∃ record ∈ records, record.1.Declares table record.2 d := by
  simp only [declaredBy, List.mem_filterMap, ← read_eq_ok_iff]
  refine exists_congr fun record => and_congr_right fun _ => ?_
  cases record.1.read table record.2 <;> simp [Except.toOption]

theorem declaredBy_perm (hperm : records.Perm records') :
    (declaredBy table records).Perm (declaredBy table records') :=
  hperm.filterMap _

/-- A load that is not refused leaves a snapshot of what was declared before and by the records. -/
theorem Represents.load (h : Represents declared source)
    (hload : source.load table records = (source', none)) :
    Represents ((declaredBy table records).reverse ++ declared) source' := by
  induction records generalizing declared source with
  | nil =>
    cases hload
    exact h
  | cons record rest ih =>
    obtain ⟨d, added, hread, hput, hrest⟩ := load_cons_ok_iff.mp hload
    have hadded := ih (h.put hput) hrest
    rwa [declaredBy_cons hread, List.reverse_cons, List.append_assoc]

/-- Records are loaded when all can be read and no two declare what clashes. -/
theorem load_ok_iff (h : Represents declared source) :
    (∃ loaded, source.load table records = (loaded, none)) ↔
      Readable table records ∧ (declaredBy table records).Pairwise (fun a b => ¬ Clash a b) ∧
      ∀ d ∈ declared, ∀ d' ∈ declaredBy table records, ¬ Clash d d' := by
  induction records generalizing declared source with
  | nil => simp [load, Readable, declaredBy]
  | cons record rest ih =>
    obtain ⟨category, data⟩ := record
    simp only [load_cons_ok_iff]
    constructor
    · rintro ⟨loaded, d, added, hread, hput, hrest⟩
      obtain ⟨hreadable, hpairwise, hfree⟩ := (ih (h.put hput)).mp ⟨loaded, hrest⟩
      have hnew := (put_ok_iff h d).mp ⟨added, hput⟩
      rw [declaredBy_cons hread]
      refine ⟨List.forall_mem_cons.mpr ⟨⟨d, hread⟩, hreadable⟩,
        List.pairwise_cons.mpr ⟨hfree d List.mem_cons_self, hpairwise⟩, ?_⟩
      intro d' hd'
      exact List.forall_mem_cons.mpr ⟨hnew d' hd', hfree d' (List.mem_cons_of_mem d hd')⟩
    · rintro ⟨hreadable, hpairwise, hfree⟩
      obtain ⟨⟨d, hread⟩, hreadable⟩ := List.forall_mem_cons.mp hreadable
      rw [declaredBy_cons hread] at hpairwise hfree
      obtain ⟨hhead, hpairwise⟩ := List.pairwise_cons.mp hpairwise
      obtain ⟨added, hput⟩ := (put_ok_iff h d).mpr
        fun d' hd' => hfree d' hd' d List.mem_cons_self
      obtain ⟨loaded, hrest⟩ := (ih (h.put hput)).mpr ⟨hreadable, hpairwise,
        List.forall_mem_cons.mpr
          ⟨hhead, fun d' hd' e he => hfree d' hd' e (List.mem_cons_of_mem d he)⟩⟩
      exact ⟨loaded, d, added, hread, hput, hrest⟩

theorem represents_of_load (hload : new.load table records = (source, none)) :
    Represents (declaredBy table records) source :=
  (represents_new.load hload).congr fun d => by simp

/-- The order of the records does not decide whether they are loaded. -/
theorem load_perm (hperm : records.Perm records')
    (hload : new.load table records = (source, none)) :
    ∃ loaded, new.load table records' = (loaded, none) := by
  obtain ⟨hreadable, hpairwise, -⟩ := (load_ok_iff represents_new).mp ⟨source, hload⟩
  refine (load_ok_iff represents_new).mpr ⟨fun record hr => hreadable record (hperm.mem_iff.mpr hr),
    ?_, by simp⟩
  exact ((declaredBy_perm hperm).pairwise_iff fun hclash h => hclash h.symm).mp hpairwise

/-! ## Answers -/

section Answers

variable {at_ : Int} {record : ServiceEndpoint}

variable (h : Represents declared source) {kind id : String}

include h

theorem revokedAt_iff :
    source.revokedAt ⟨kind, id⟩ at_ = true ↔ Revokes declared kind id at_ := by
  have hlookup : source.revokedAt ⟨kind, id⟩ at_ = true ↔
      ∃ v, source.revocations.lookup ⟨kind, id⟩ = some v ∧ v ≤ at_ := by
    unfold revokedAt
    cases source.revocations.lookup ⟨kind, id⟩ <;> simp
  rw [hlookup, h.revocations.exists_le_iff]
  constructor
  · rintro ⟨d, hd, effectiveAt, hentry, hle⟩
    cases d <;> simp only [Declared.revocationEntry, reduceCtorEq] at hentry
    case revocation subject time reason =>
      cases hentry
      exact ⟨effectiveAt, reason, hd, hle⟩
  · rintro ⟨effectiveAt, reason, hd, hle⟩
    exact ⟨_, hd, effectiveAt, rfl, hle⟩

theorem revokedAt_eq_false_iff :
    source.revokedAt ⟨kind, id⟩ at_ = false ↔ ¬ Revokes declared kind id at_ := by
  rw [← revokedAt_iff h, Bool.not_eq_true]

theorem authorization_ok_iff {authorizationID deviceID tokenID : String}
    {record : DeviceSessionAuthorization} :
    source.authorization authorizationID deviceID tokenID at_ = .ok record ↔
      ∃ entry, Authorizes declared authorizationID deviceID tokenID at_ entry ∧
        entry.record = record := by
  rw [authorization_eq_ok_iff]
  constructor
  · rintro ⟨entry, hforce, rfl, rfl, rfl⟩
    obtain ⟨hmem, rfl⟩ := h.lookup_authorization.mp hforce.stored
    exact ⟨entry, ⟨hmem, rfl, hforce.enabled, rfl, rfl, hforce.active,
      (revokedAt_eq_false_iff h).mp hforce.unrevoked,
      (revokedAt_eq_false_iff h).mp hforce.deviceUnrevoked⟩, rfl⟩
  · rintro ⟨entry, hauthorizes, rfl⟩
    obtain ⟨hmem, rfl, henabled, rfl, rfl, hactive, hunrevoked, hdevice⟩ := hauthorizes
    exact ⟨entry, ⟨h.lookup_authorization.mpr ⟨hmem, rfl⟩, henabled, hactive,
      (revokedAt_eq_false_iff h).mpr hunrevoked, (revokedAt_eq_false_iff h).mpr hdevice⟩, rfl, rfl, rfl⟩

theorem routeByHostname_ok_iff {hostname : String} {record : EndpointRouteAssignment} :
    source.routeByHostname table hostname at_ = .ok record ↔
      ∃ entry, Routes table declared hostname at_ entry ∧ entry.record = record := by
  unfold routeByHostname
  constructor
  · intro hok
    split at hok
    next => cases hok
    next entry hlookup =>
      simp only [bind_eq_ok, rejectIf_eq_ok, revokedAt_iff h, not_or] at hok
      obtain ⟨_, henabled, _, htime, _, hrevoked, hrecord⟩ := hok
      cases hrecord
      exact ⟨entry, ⟨h.lookup_route.mp hlookup, by simpa using henabled, by omega, hrevoked.1,
        hrevoked.2⟩, rfl⟩
  · rintro ⟨entry, hroutes, rfl⟩
    rw [h.lookup_route.mpr hroutes.mem]
    have htime := hroutes.active
    simp only [bind_eq_ok, rejectIf_eq_ok, revokedAt_iff h]
    exact ⟨(), by simp [hroutes.enabled], (), by omega, (),
      not_or.mpr ⟨hroutes.unrevoked, hroutes.deviceUnrevoked⟩, rfl⟩

theorem serviceEndpoint_ok_iff {endpointID : String} :
    source.serviceEndpoint endpointID at_ = .ok record ↔
      record.endpointID = endpointID ∧ Serves declared at_ record := by
  unfold serviceEndpoint
  constructor
  · intro hok
    split at hok
    next => cases hok
    next stored hlookup =>
      simp only [bind_eq_ok, rejectIf_eq_ok, revokedAt_iff h] at hok
      obtain ⟨_, henabled, _, hrevoked, hrecord⟩ := hok
      cases hrecord
      obtain ⟨hmem, hid⟩ := h.lookup_serviceEndpoint.mp hlookup
      exact ⟨hid, hmem, by simpa using henabled, hrevoked⟩
  · rintro ⟨hid, hserves⟩
    rw [h.lookup_serviceEndpoint.mpr ⟨hserves.mem, hid⟩]
    simp only [bind_eq_ok, rejectIf_eq_ok, revokedAt_iff h]
    exact ⟨(), by simp [hserves.enabled], (), hserves.ownerUnrevoked, rfl⟩

theorem connectorGrant_ok_iff {grantID : String} {record : ConnectorGrant} :
    source.connectorGrant grantID at_ = .ok record ↔
      record.grantID = grantID ∧ Grants declared at_ record := by
  unfold connectorGrant
  constructor
  · intro hok
    split at hok
    · cases hok
    rename_i hlookup
    simp only [bind_eq_ok, rejectIf_eq_ok] at hok
    obtain ⟨_, henabled, hok⟩ := hok
    split at hok
    · cases hok
    rename_i hnotBefore
    split at hok
    · cases hok
    rename_i hexpiresAt
    simp only [bind_eq_ok, rejectIf_eq_ok] at hok
    obtain ⟨_, htime, ⟨⟩⟩ := hok
    obtain ⟨hmem, hid⟩ := h.lookup_connectorGrant.mp hlookup
    exact ⟨hid, hmem, by simpa using henabled, _, _, hnotBefore, hexpiresAt, by omega, by omega⟩
  · rintro ⟨hid, hgrants⟩
    obtain ⟨notBefore, expiresAt, hnotBefore, hexpiresAt, hlow, hhigh⟩ := hgrants.active
    rw [h.lookup_connectorGrant.mpr ⟨hgrants.mem, hid⟩]
    simp only [bind_eq_ok, rejectIf_eq_ok, hnotBefore, hexpiresAt]
    exact ⟨(), by simp [hgrants.enabled], (), by omega, rfl⟩

/-- An endpoint is declared once under its identifier. -/
theorem serviceEndpoint_unique {other : ServiceEndpoint}
    (hrecord : .serviceEndpoint record ∈ declared) (hother : .serviceEndpoint other ∈ declared)
    (hid : other.endpointID = record.endpointID) : other = record := by
  have hlookup := h.lookup_serviceEndpoint.mpr ⟨hrecord, rfl⟩
  exact Option.some.inj ((h.lookup_serviceEndpoint.mpr ⟨hother, hid⟩).symm.trans hlookup)

/-- The identifiers in the table of public ports are those of the endpoints with a port, each once. -/
theorem publicPorts_values :
    source.publicPorts.values.Nodup ∧ ∀ endpointID, endpointID ∈ source.publicPorts.values ↔
      ∃ record, .serviceEndpoint record ∈ declared ∧ record.publicPort ≠ 0 ∧
        record.endpointID = endpointID := by
  constructor
  · apply Table.nodup_values
    intro port port' endpointID hlookup hlookup'
    obtain ⟨record, hrecord, rfl, -, rfl⟩ := h.lookup_publicPort.mp hlookup
    obtain ⟨other, hother, rfl, -, hid⟩ := h.lookup_publicPort.mp hlookup'
    rw [serviceEndpoint_unique h hrecord hother hid]
  · intro endpointID
    rw [Table.mem_values]
    constructor
    · rintro ⟨port, hlookup⟩
      obtain ⟨record, hrecord, rfl, hne, hid⟩ := h.lookup_publicPort.mp hlookup
      exact ⟨record, hrecord, hne, hid⟩
    · rintro ⟨record, hrecord, hne, hid⟩
      exact ⟨record.publicPort, h.lookup_publicPort.mpr ⟨record, hrecord, rfl, hne, hid⟩⟩

omit h in
theorem publicEndpoint_iff {endpointID protocol : String} :
    source.publicEndpoint at_ protocol endpointID = some record ↔
      source.serviceEndpoint endpointID at_ = .ok record ∧ record.protocol = protocol := by
  unfold publicEndpoint
  cases source.serviceEndpoint endpointID at_ with
  | error err => simp
  | ok found =>
    by_cases hprotocol : found.protocol = protocol
    · simp only [hprotocol, ne_eq, not_true_eq_false, if_false, Option.some.injEq, Except.ok.injEq]
      exact ⟨fun heq => ⟨heq, heq ▸ hprotocol⟩, fun heq => heq.1⟩
    · simp only [ne_eq, hprotocol, not_false_eq_true, if_true, Except.ok.injEq]
      exact iff_of_false (by simp) fun heq => hprotocol (heq.1 ▸ heq.2)

/-- Each endpoint with a public port that is served is listed once, in any order of the map. -/
theorem publicEndpoints_iff {order : List String} (horder : order.Perm source.publicPorts.values)
    (at_ : Int) (protocol : String) :
    (source.publicEndpoints order at_ protocol).Nodup ∧
      ∀ record, record ∈ source.publicEndpoints order at_ protocol ↔
        Serves declared at_ record ∧ record.publicPort ≠ 0 ∧ record.protocol = protocol := by
  obtain ⟨hnodup, hmem⟩ := publicPorts_values h
  constructor
  · refine (horder.nodup_iff.mpr hnodup).filterMap ?_
    intro endpointID endpointID' record hlisted hlisted'
    have hid := (serviceEndpoint_ok_iff h).mp (publicEndpoint_iff.mp hlisted).1
    have hid' := (serviceEndpoint_ok_iff h).mp (publicEndpoint_iff.mp hlisted').1
    exact hid.1.symm.trans hid'.1
  · intro record
    simp only [publicEndpoints, List.mem_filterMap, publicEndpoint_iff,
      serviceEndpoint_ok_iff h, horder.mem_iff, hmem]
    constructor
    · rintro ⟨endpointID, ⟨stored, hstored, hport, hid⟩, ⟨hsame, hserves⟩, hprotocol⟩
      cases serviceEndpoint_unique h hserves.mem hstored (hid.trans hsame.symm)
      exact ⟨hserves, hport, hprotocol⟩
    · rintro ⟨hserves, hport, hprotocol⟩
      exact ⟨record.endpointID, ⟨record, hserves.mem, hport, rfl⟩, ⟨rfl, hserves⟩, hprotocol⟩

end Answers

/-! ## The declared authority -/

/-- The lookups answer as the declarations say. -/
structure Answers (table : Char → Char) (declared : List Declared) (source : SnapshotMetadata) :
    Prop where
  authorization : ∀ authorizationID deviceID tokenID at_ record,
    source.authorization authorizationID deviceID tokenID at_ = .ok record ↔
      ∃ entry, Authorizes declared authorizationID deviceID tokenID at_ entry ∧ entry.record = record
  routeByHostname : ∀ hostname at_ record,
    source.routeByHostname table hostname at_ = .ok record ↔
      ∃ entry, Routes table declared hostname at_ entry ∧ entry.record = record
  serviceEndpoint : ∀ endpointID at_ record, source.serviceEndpoint endpointID at_ = .ok record ↔
    record.endpointID = endpointID ∧ Serves declared at_ record
  connectorGrant : ∀ grantID at_ record, source.connectorGrant grantID at_ = .ok record ↔
    record.grantID = grantID ∧ Grants declared at_ record
  publicEndpoints : ∀ order at_ protocol, order.Perm source.publicPorts.values →
    (source.publicEndpoints order at_ protocol).Nodup ∧
      ∀ record, record ∈ source.publicEndpoints order at_ protocol ↔
        Serves declared at_ record ∧ record.publicPort ≠ 0 ∧ record.protocol = protocol
  revoked : ∀ kind id at_, source.revokedAt ⟨kind, id⟩ at_ = true ↔ Revokes declared kind id at_

theorem Represents.answers (h : Represents declared source) : Answers table declared source where
  authorization _ _ _ _ _ := authorization_ok_iff h
  routeByHostname _ _ _ := routeByHostname_ok_iff h
  serviceEndpoint _ _ _ := serviceEndpoint_ok_iff h
  connectorGrant _ _ _ := connectorGrant_ok_iff h
  publicEndpoints _ at_ protocol horder := publicEndpoints_iff h horder at_ protocol
  revoked _ _ _ := revokedAt_iff h

/-- Two snapshots give the same answers, errors included. Lists of endpoints have the same elements.
    The reason of a revocation is not among the answers: of several revocations of a subject at one
    time, the first that was loaded gives it. -/
structure SameAnswers (table : Char → Char) (source source' : SnapshotMetadata) : Prop where
  authorization : source.authorization = source'.authorization
  routeByHostname : source.routeByHostname table = source'.routeByHostname table
  serviceEndpoint : source.serviceEndpoint = source'.serviceEndpoint
  connectorGrant : source.connectorGrant = source'.connectorGrant
  publicEndpoints : ∀ order order' at_ protocol, order.Perm source.publicPorts.values →
    order'.Perm source'.publicPorts.values →
    (source.publicEndpoints order at_ protocol).Perm (source'.publicEndpoints order' at_ protocol)
  revoked : source.revokedAt = source'.revokedAt

theorem Represents.sameAnswers (h : Represents declared source) (h' : Represents declared source') :
    SameAnswers table source source' := by
  have hrevoked : source.revokedAt = source'.revokedAt := by
    funext ⟨kind, id⟩ at_
    rw [Bool.eq_iff_iff, revokedAt_iff h, revokedAt_iff h']
  have hserviceEndpoint : source.serviceEndpoint = source'.serviceEndpoint := by
    funext endpointID at_
    simp only [serviceEndpoint, hrevoked,
      h.serviceEndpoints.lookup_eq h'.serviceEndpoints]
  constructor
  · funext authorizationID deviceID tokenID at_
    simp only [authorization, hrevoked,
      h.authorizations.lookup_eq h'.authorizations]
  · funext hostname at_
    simp only [routeByHostname, hrevoked, h.routes.lookup_eq h'.routes]
  · exact hserviceEndpoint
  · funext grantID at_
    simp only [connectorGrant, h.connectorGrants.lookup_eq h'.connectorGrants]
  · intro order order' at_ protocol horder horder'
    obtain ⟨hnodup, hmem⟩ := publicEndpoints_iff h horder at_ protocol
    obtain ⟨hnodup', hmem'⟩ := publicEndpoints_iff h' horder' at_ protocol
    exact (List.perm_ext_iff_of_nodup hnodup hnodup').mpr fun record =>
      (hmem record).trans (hmem' record).symm
  · exact hrevoked

/-- Whatever the second snapshot allows, the first does as well. -/
structure NoNewAnswers (table : Char → Char) (source source' : SnapshotMetadata) : Prop where
  authorization : ∀ authorizationID deviceID tokenID at_ record,
    source'.authorization authorizationID deviceID tokenID at_ = .ok record →
    source.authorization authorizationID deviceID tokenID at_ = .ok record
  routeByHostname : ∀ hostname at_ record,
    source'.routeByHostname table hostname at_ = .ok record →
    source.routeByHostname table hostname at_ = .ok record
  serviceEndpoint : ∀ endpointID at_ record,
    source'.serviceEndpoint endpointID at_ = .ok record →
    source.serviceEndpoint endpointID at_ = .ok record
  connectorGrant : ∀ grantID at_ record,
    source'.connectorGrant grantID at_ = .ok record → source.connectorGrant grantID at_ = .ok record
  publicEndpoints : ∀ order order' at_ protocol, order.Perm source.publicPorts.values →
    order'.Perm source'.publicPorts.values →
    ∀ record ∈ source'.publicEndpoints order' at_ protocol,
      record ∈ source.publicEndpoints order at_ protocol

/-- The second list has more revocations and nothing else. -/
structure MoreRevocations (declared declared' : List Declared) : Prop where
  kept : ∀ d ∈ declared, d ∈ declared'
  added : ∀ d ∈ declared', d ∈ declared ∨ d.revocationEntry.isSome

theorem MoreRevocations.mem (h : MoreRevocations declared declared') (hd : d ∈ declared')
    (hnone : d.revocationEntry = none) : d ∈ declared :=
  (h.added d hd).resolve_right (by simp [hnone])

theorem Revokes.mono (h : MoreRevocations declared declared') {kind id : String} {at_ : Int}
    (hrevokes : Revokes declared kind id at_) : Revokes declared' kind id at_ := by
  obtain ⟨effectiveAt, reason, hd, hle⟩ := hrevokes
  exact ⟨effectiveAt, reason, h.kept _ hd, hle⟩

theorem MoreRevocations.noNewAnswers (hmore : MoreRevocations declared declared')
    (h : Represents declared source) (h' : Represents declared' source') :
    NoNewAnswers table source source' := by
  have hserves : ∀ at_ record, Serves declared' at_ record → Serves declared at_ record := by
    intro at_ record hserves
    exact ⟨hmore.mem hserves.mem rfl, hserves.enabled, fun hr => hserves.ownerUnrevoked (hr.mono hmore)⟩
  constructor
  · intro authorizationID deviceID tokenID at_ record hok
    obtain ⟨entry, hauthorizes, hrecord⟩ := (authorization_ok_iff h').mp hok
    exact (authorization_ok_iff h).mpr ⟨entry, { hauthorizes with
      mem := hmore.mem hauthorizes.mem rfl
      unrevoked := fun hr => hauthorizes.unrevoked (hr.mono hmore)
      deviceUnrevoked := fun hr => hauthorizes.deviceUnrevoked (hr.mono hmore) }, hrecord⟩
  · intro hostname at_ record hok
    obtain ⟨entry, hroutes, hrecord⟩ := (routeByHostname_ok_iff h').mp hok
    exact (routeByHostname_ok_iff h).mpr ⟨entry, { hroutes with
      mem := hmore.mem hroutes.mem rfl
      unrevoked := fun hr => hroutes.unrevoked (hr.mono hmore)
      deviceUnrevoked := fun hr => hroutes.deviceUnrevoked (hr.mono hmore) }, hrecord⟩
  · intro endpointID at_ record hok
    obtain ⟨hid, hendpoint⟩ := (serviceEndpoint_ok_iff h').mp hok
    exact (serviceEndpoint_ok_iff h).mpr ⟨hid, hserves at_ record hendpoint⟩
  · intro grantID at_ record hok
    obtain ⟨hid, hgrants⟩ := (connectorGrant_ok_iff h').mp hok
    exact (connectorGrant_ok_iff h).mpr ⟨hid, { hgrants with mem := hmore.mem hgrants.mem rfl }⟩
  · intro order order' at_ protocol horder horder' record hrecord
    obtain ⟨hendpoint, hport⟩ := ((publicEndpoints_iff h' horder' at_ protocol).2 record).mp hrecord
    exact ((publicEndpoints_iff h horder at_ protocol).2 record).mpr
      ⟨hserves at_ record hendpoint, hport⟩

/-- What is revoked stays so. -/
theorem revokedAt_mono {subject : RevocationSubject} {at_ later : Int} (hle : at_ ≤ later)
    (h : source.revokedAt subject at_ = true) : source.revokedAt subject later = true := by
  unfold revokedAt at h ⊢
  split at h
  · simp only [decide_eq_true_eq] at h ⊢
    exact le_trans h hle
  · cases h

/-- Records in the directory of revocations declare nothing else. -/
theorem revocationEntry_of_read (hread : Category.revocations.read table data = .ok d) :
    d.revocationEntry.isSome := by
  simp only [Category.read, readRevocation, bind_eq_ok] at hread
  obtain ⟨signal, -, effectiveAt, -, hd⟩ := hread
  cases hd
  rfl

theorem moreRevocations_of_perm {revocations : List (Category × Bytes)}
    (hrevocations : ∀ record ∈ revocations, record.1 = .revocations)
    (hperm : records'.Perm (records ++ revocations)) :
    MoreRevocations (declaredBy table records) (declaredBy table records') := by
  have hmem : ∀ d, d ∈ declaredBy table records' ↔
      d ∈ declaredBy table records ∨ d ∈ declaredBy table revocations := by
    intro d
    rw [(declaredBy_perm hperm).mem_iff, declaredBy, List.filterMap_append, List.mem_append]
    rfl
  refine ⟨fun d hd => (hmem d).mpr (.inl hd), fun d hd => ((hmem d).mp hd).imp_right ?_⟩
  intro hd
  obtain ⟨⟨category, data⟩, hrecord, hread⟩ := List.mem_filterMap.mp hd
  obtain rfl : category = .revocations := hrevocations _ hrecord
  cases hresult : Category.revocations.read table data with
  | error err => simp [hresult, Except.toOption] at hread
  | ok d' =>
    simp only [hresult, Except.toOption, Option.some.injEq] at hread
    exact revocationEntry_of_read (hread ▸ hresult)

/-- A loaded snapshot answers as the texts of its records declare. Another order of the records loads as
    well and gives the same answers, more revocations allow nothing more, and what is revoked stays so. -/
theorem snapshot_answers_declared (table : Char → Char) (records : List (Category × Bytes))
    (source : SnapshotMetadata) (hload : new.load table records = (source, none)) :
    (∀ d, d ∈ declaredBy table records ↔ ∃ record ∈ records, record.1.Declares table record.2 d) ∧
      Answers table (declaredBy table records) source ∧
      (∀ records', records.Perm records' → ∃ source',
        new.load table records' = (source', none) ∧
          SameAnswers table source source') ∧
      (∀ revocations records' source', (∀ record ∈ revocations, record.1 = .revocations) →
        records'.Perm (records ++ revocations) →
        new.load table records' = (source', none) →
        NoNewAnswers table source source') ∧
      ∀ subject at_ later, at_ ≤ later → source.revokedAt subject at_ = true →
        source.revokedAt subject later = true := by
  have hrepresents := represents_of_load hload
  refine ⟨mem_declaredBy, hrepresents.answers, ?_, ?_, fun _ _ _ => revokedAt_mono⟩
  · intro records' hperm
    obtain ⟨source', hload'⟩ := load_perm hperm hload
    have hrepresents' := (represents_of_load hload').congr
      fun d => (declaredBy_perm hperm).symm.mem_iff
    exact ⟨source', hload', hrepresents.sameAnswers hrepresents'⟩
  · intro revocations records' source' hrevocations hperm hload'
    exact (moreRevocations_of_perm hrevocations hperm).noNewAnswers hrepresents
      (represents_of_load hload')

section Collection

open ContractV1 ContractV2

/-- 2026-05-15T00:00:00Z -/
def may : Int := 1778803200000000000

def contractVersion (digit : Char) (h : Json.isNumber [digit] = true) : String × Json :=
  ("contract_version", .number ⟨[digit], h⟩)

def tokenMembers : Members :=
  [("token_id", .string "token-1"),
    ("token_sha256", .string "0000000000000000000000000000000000000000000000000000000000000000"),
    ("disabled", .bool false)]

def validity : Members :=
  [("not_before", .string "2026-01-01T00:00:00Z"), ("expires_at", .string "2027-01-01T00:00:00Z")]

def authorizationMembers : Members :=
  [contractVersion '1' (@rfl _ true), ("authorization_id", .string "auth-1"),
    ("device_id", .string "device-1"),
    ("device_public_key", .string "AAAAAAAAAAAAAAAAAAAAAAAAAAAAAAAAAAAAAAAAAAA"),
    ("issued_at", .string "2026-01-01T00:00:00Z")] ++ tokenMembers ++ validity

def routeMembers : Members :=
  [contractVersion '1' (@rfl _ true), ("assignment_id", .string "assignment-1"),
    ("endpoint_id", .string "endpoint-1"), ("public_hostname", .string "app.example.com"),
    ("device_id", .string "device-1"), ("local_endpoint_id", .string "local-1"),
    ("enabled", .bool true)] ++ validity

def revocationMembers (event effectiveAt : String) : Members :=
  [contractVersion '1' (@rfl _ true), ("event_id", .string event), ("subject_kind", .string "device"),
    ("subject_id", .string "device-2"), ("effective_at", .string effectiveAt),
    ("reason_code", .string "security_hold")]

def endpointMembers : Members :=
  [contractVersion '2' (@rfl _ true), ("kind", .string "service_endpoint"),
    ("endpoint_id", .string "endpoint-2"), ("owner_device_id", .string "device-1"),
    ("protocol", .string "tcp"), ("local_endpoint_id", .string "local-2"),
    ("public_port", .number ⟨['2', '0', '2', '2'], @rfl _ true⟩),
    ("allowed_source_cidrs", .array [.string "198.51.100.0/24"]), ("exposure", .string "public"),
    ("enabled", .bool true), ("created_at", .string "2026-01-01T00:00:00Z"),
    ("revision", .number ⟨['1'], @rfl _ true⟩)]

def grantMembers : Members :=
  [contractVersion '2' (@rfl _ true), ("kind", .string "connector_grant"), ("grant_id", .string "grant-1"),
    ("endpoint_id", .string "endpoint-2"), ("max_connections", .number ⟨['1'], @rfl _ true⟩)] ++
    tokenMembers ++ validity

def laterRevocation : Bytes :=
  (Json.object (revocationMembers "event-1" "2026-06-01T00:00:00Z")).bytes

/-- One record of each category, and a second revocation that takes effect earlier. -/
def collection : List (Category × Bytes) :=
  [(.revocations, laterRevocation),
    (.revocations, (Json.object (revocationMembers "event-2" "2026-05-01T00:00:00Z")).bytes),
    (.authorizations, (Json.object authorizationMembers).bytes),
    (.routes, (Json.object routeMembers).bytes),
    (.serviceEndpoints, (Json.object endpointMembers).bytes),
    (.connectorGrants, (Json.object grantMembers).bytes)]

theorem isOk_iff {ε α : Type} {x : Except ε α} : x.isOk = true ↔ ∃ a, x = .ok a := by
  cases x <;> simp [Except.isOk, Except.toBool]

/-- In May each record of the collection has its answer. -/
def answersInMay (source : SnapshotMetadata) : Bool :=
  (source.authorization "auth-1" "device-1" "token-1" may).isOk &&
    (source.routeByHostname id "app.example.com" may).isOk &&
    (source.serviceEndpoint "endpoint-2" may).isOk && (source.connectorGrant "grant-1" may).isOk &&
    source.revokedAt ⟨"device", "device-2"⟩ may

def loadedInMay (loaded : SnapshotMetadata × Option GoError) : Bool :=
  loaded.2.isNone && answersInMay loaded.1

theorem loadedInMay_objects {authorization route first second endpoint grant : Bytes}
    (hauthorization : jsonValue authorization = some (.object authorizationMembers))
    (hroute : jsonValue route = some (.object routeMembers))
    (hfirst : jsonValue first = some (.object (revocationMembers "event-1" "2026-06-01T00:00:00Z")))
    (hsecond : jsonValue second = some (.object (revocationMembers "event-2" "2026-05-01T00:00:00Z")))
    (hendpoint : jsonValue endpoint = some (.object endpointMembers))
    (hgrant : jsonValue grant = some (.object grantMembers)) :
    loadedInMay (new.load id [(.revocations, first), (.revocations, second),
      (.authorizations, authorization), (.routes, route), (.serviceEndpoints, endpoint),
      (.connectorGrants, grant)]) = true := by
  -- the readers look at the objects, not at the texts, so that the rest is about members
  simp only [load, addJSON, Category.read, readAuthorization, readRoute, readRevocation,
    parseDeviceSessionAuthorizationRecord, parseEndpointRouteAssignmentRecord, parseRevocationSignal,
    parseServiceEndpoint, parseConnectorGrant, ContractV2.validateStrictJSONObject_eq,
    validateStrictJSONObject_object hauthorization, validateStrictJSONObject_object hroute,
    validateStrictJSONObject_object hfirst, validateStrictJSONObject_object hsecond,
    validateStrictJSONObject_object hendpoint, validateStrictJSONObject_object hgrant,
    rejectNullMembers, requirePresent, scanTopLevelMembers, decodeStrict, decodeRecord,
    requireMembers, hauthorization, hroute, hfirst, hsecond, hendpoint, hgrant]
  decide +kernel

theorem load_collection :
    ∃ source, new.load id collection = (source, none) ∧ answersInMay source = true := by
  have hmay : loadedInMay (new.load id collection) = true :=
    loadedInMay_objects (jsonValue_bytes _) (jsonValue_bytes _) (jsonValue_bytes _)
      (jsonValue_bytes _) (jsonValue_bytes _) (jsonValue_bytes _)
  rcases hload : new.load id collection with ⟨source, err⟩
  rw [hload, loadedInMay, Bool.and_eq_true, Option.isNone_iff_eq_none] at hmay
  obtain ⟨rfl, hmay⟩ := hmay
  exact ⟨source, rfl, hmay⟩

theorem load_laterRevocation : ∃ source, new.load id [(.revocations, laterRevocation)] = (source, none) := by
  obtain ⟨source, hload, -⟩ := load_collection
  obtain ⟨d, added, hread, hput, -⟩ := load_cons_ok_iff.mp hload
  exact ⟨added, load_cons_ok_iff.mpr ⟨d, added, hread, hput, rfl⟩⟩

/-- The collection and its reverse give the same answers, among them one from each of its records. -/
theorem snapshot_answers_declared_collection :
    ∃ source source', new.load id collection = (source, none) ∧
      new.load id collection.reverse = (source', none) ∧ SameAnswers id source source' ∧
      (∃ entry, Authorizes (declaredBy id collection) "auth-1" "device-1" "token-1" may entry) ∧
      (∃ entry, Routes id (declaredBy id collection) "app.example.com" may entry) ∧
      (∃ record, Serves (declaredBy id collection) may record) ∧
      (∃ record, Grants (declaredBy id collection) may record) ∧
      Revokes (declaredBy id collection) "device" "device-2" may := by
  obtain ⟨source, hload, hmay⟩ := load_collection
  simp only [answersInMay, Bool.and_eq_true, isOk_iff] at hmay
  obtain ⟨⟨⟨⟨⟨record, hauthorization⟩, route, hroute⟩, endpoint, hendpoint⟩, grant, hgrant⟩,
    hrevoked⟩ := hmay
  obtain ⟨-, hanswers, hperm, -, -⟩ := snapshot_answers_declared id collection source hload
  obtain ⟨source', hload', hsame⟩ := hperm _ collection.reverse_perm.symm
  obtain ⟨entry, hentry, -⟩ := (hanswers.authorization _ _ _ _ _).mp hauthorization
  obtain ⟨routed, hrouted, -⟩ := (hanswers.routeByHostname _ _ _).mp hroute
  exact ⟨source, source', hload, hload', hsame, ⟨entry, hentry⟩, ⟨routed, hrouted⟩,
    ⟨endpoint, ((hanswers.serviceEndpoint _ _ _).mp hendpoint).2⟩,
    ⟨grant, ((hanswers.connectorGrant _ _ _).mp hgrant).2⟩, (hanswers.revoked _ _ _).mp hrevoked⟩

end Collection

end Hooshix.Gateway.Authority
