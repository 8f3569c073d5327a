-- SUMMARY: Live authority never rolls back and is never served past its deadline.
import Hooshix.Gateway.LiveMetadata

/-! # Live authority

What holds of the live source after any history of refreshes: whatever the disk holds at each call and
whatever the clock shows, also when it goes back.
-/

namespace Hooshix.Gateway.Authority

open LiveMetadata

open Prog (Always)

variable {Digest : Type} [DecidableEq Digest] {hash : Hash Digest} {table : Char → Char}
  {source source' : LiveMetadata Digest} {r : Refresh} {manifest : ParsedMetadataManifest}
  {active : Generation Digest}

/-! ## Manifests -/

theorem deadlineOf_eq (publishedAt validUntil now maxSnapshotAge : Int) :
    deadlineOf publishedAt validUntil now maxSnapshotAge =
      min validUntil (min (publishedAt + maxSnapshotAge) (now + maxSnapshotAge)) := by
  simp only [deadlineOf]
  omega

theorem deadline_of_loadMetadataManifest {read : Except GoError Bytes} {now maxSnapshotAge : Int}
    (h : loadMetadataManifest read now maxSnapshotAge = .ok manifest) :
    manifest.deadline =
      min manifest.validUntil (min (manifest.publishedAt + maxSnapshotAge) (now + maxSnapshotAge)) := by
  simp only [loadMetadataManifest, MetadataGenerationManifest.accept, bind_eq_ok] at h
  obtain ⟨_, -, _, -, _, -, _, -, _, -, publishedAt, -, validUntil, -, _, -, _, -, _, -, hmanifest⟩ := h
  cases hmanifest
  exact deadlineOf_eq _ _ _ _

/-! ## What a refresh can do -/

theorem always_within {α : Type} {post : α → Prop} {generation : String} {p : GenerationProg α}
    (h : Always post p) : Always post (within generation p) := by
  induction p with
  | done value => exact h
  | act c next ih => exact fun r => ih r (h r)

/-- A loaded snapshot is usable. -/
theorem loadLiveGeneration_ready :
    Always (fun result => ∀ snapshot hashed, result = .ok (snapshot, hashed) → snapshot.ready = none)
      (loadLiveGeneration table) := by
  refine Always.bind (Always.trivial _) fun invalid _ => ?_
  cases invalid with
  | some err => intro _ _ h; cases h
  | none =>
    refine Always.bind (Always.trivial _) fun result _ => ?_
    cases result with
    | error err => intro _ _ h; cases h
    | ok l =>
      dsimp only
      split
      · intro _ _ h; cases h
      · intro _ _ h; cases h; assumption

/-- The generation that a manifest announces, with a usable snapshot. -/
structure Announces (manifest : ParsedMetadataManifest) (candidate : Generation Digest) : Prop where
  revision : candidate.revision = manifest.revision
  generation : candidate.generation = manifest.generation
  publishedAt : candidate.publishedAt = manifest.publishedAt
  validUntil : candidate.validUntil = manifest.validUntil
  deadline : candidate.deadline = manifest.deadline
  ready : candidate.snapshot.ready = none

omit [DecidableEq Digest] in
theorem activate_announces :
    Always (fun result => ∀ candidate, result = .ok candidate →
      ∃ g, candidate = some g ∧ Announces manifest g) (activate hash table manifest) := by
  refine Always.bind loadLiveGeneration_ready fun result hready => ?_
  cases result with
  | error err => intro _ h; cases h
  | ok loaded =>
    refine Always.bind (Always.trivial _) fun stat _ => ?_
    intro _ h
    cases h
    exact ⟨_, rfl, rfl, rfl, rfl, rfl, rfl, hready _ _ rfl⟩

theorem verifyUnchanged_keeps :
    Always (fun result => ∀ candidate, result = .ok candidate → candidate = none)
      (verifyUnchanged hash table active manifest) := by
  refine Always.bind (Always.trivial _) fun result _ => ?_
  cases result with
  | error err => intro _ h; cases h
  | ok loaded =>
    dsimp only
    split
    · intro _ h; cases h
    · intro _ h; cases h; rfl

theorem recheck_keeps :
    Always (fun result => ∀ candidate, result = .ok candidate → candidate = none)
      (recheck hash table active manifest) := by
  unfold recheck
  split
  · refine Always.bind (Always.trivial _) fun result _ => ?_
    cases result with
    | error err => exact verifyUnchanged_keeps
    | ok hashed =>
      dsimp only
      split
      · intro _ h; cases h; rfl
      · exact verifyUnchanged_keeps
  · exact verifyUnchanged_keeps

/-- A refresh keeps the active generation, under a manifest with its revision, or replaces it by one
    with a higher revision. -/
inductive Advances (active : Option (Generation Digest)) (manifest : ParsedMetadataManifest) :
    Option (Generation Digest) → Prop
  | keep {g} (hactive : active = some g) (hrevision : manifest.revision = g.revision) :
      Advances active manifest none
  | replace {candidate} (hnewer : ∀ g, active = some g → g.revision < manifest.revision)
      (hannounces : Announces manifest candidate) : Advances active manifest (some candidate)

theorem refreshGeneration_advances {active : Option (Generation Digest)} :
    Always (fun result => ∀ candidate, result = .ok candidate → Advances active manifest candidate)
      (refreshGeneration hash table active manifest) := by
  have hactivate (hnewer : ∀ g, active = some g → g.revision < manifest.revision) :
      Always (fun result => ∀ candidate, result = .ok candidate → Advances active manifest candidate)
        (activate hash table manifest) := by
    refine activate_announces.mono fun result hannounces candidate hok => ?_
    obtain ⟨g, rfl, hg⟩ := hannounces candidate hok
    exact .replace hnewer hg
  unfold refreshGeneration
  cases active with
  | none => exact hactivate fun g h => by cases h
  | some g =>
    dsimp only
    split
    · intro _ h; cases h
    · split
      · rename_i hrevision
        refine recheck_keeps.mono fun result hkeeps candidate hok => ?_
        obtain rfl := hkeeps candidate hok
        exact .keep rfl hrevision
      · rename_i hlow hne
        refine hactivate fun g' h => ?_
        cases h
        omega

/-- What a refresh that succeeds returns, whatever its calls are answered. -/
theorem refreshProg_advances {now : Int} :
    Always (fun result => ∀ refreshed, result = .ok refreshed →
      ∃ read, loadMetadataManifest read now source.maxSnapshotAge = .ok refreshed.manifest ∧
        Advances source.active refreshed.manifest refreshed.candidate)
      (refreshProg hash table source now) := by
  rintro (_ | err)
  · intro read
    dsimp only
    split
    · intro _ h; cases h
    · rename_i manifest hmanifest
      refine Always.bind (always_within refreshGeneration_advances) fun result hadvances => ?_
      cases result with
      | error err => intro _ h; cases h
      | ok candidate =>
        intro _ h
        cases h
        exact ⟨read, hmanifest, hadvances candidate rfl⟩
  · intro _ h; cases h

theorem refreshResult_ok {refreshed : Refreshed Digest}
    (h : refreshResult hash table source r = .ok refreshed) :
    ∃ read, loadMetadataManifest read r.now source.maxSnapshotAge = .ok refreshed.manifest ∧
      Advances source.active refreshed.manifest refreshed.candidate :=
  refreshProg_advances.exec r.handle 0 refreshed h

/-- A generation with the deadline it gets when it is accepted at that time. -/
structure AcceptedAt (maxSnapshotAge acceptedAt : Int) (g : Generation Digest) : Prop where
  deadline : g.deadline = min g.validUntil (min (g.publishedAt + maxSnapshotAge)
    (acceptedAt + maxSnapshotAge))
  ready : g.snapshot.ready = none

/-- One refresh leaves the source as it was, or makes a higher revision active. -/
theorem refreshAt_cases (hash : Hash Digest) (table : Char → Char) (source : LiveMetadata Digest)
    (r : Refresh) :
    refreshAt hash table source r = source ∨
      ∃ manifest g, refreshResult hash table source r = .ok ⟨manifest, some g⟩ ∧
        refreshAt hash table source r = { source with active := some g } ∧
        (∀ old, source.active = some old → old.revision < g.revision) ∧
        Announces manifest g ∧ AcceptedAt source.maxSnapshotAge r.now g := by
  unfold refreshAt
  cases hresult : refreshResult hash table source r with
  | error err => exact .inl rfl
  | ok refreshed =>
    obtain ⟨manifest, candidate⟩ := refreshed
    obtain ⟨read, hmanifest, hadvances⟩ := refreshResult_ok hresult
    cases hadvances with
    | keep => exact .inl rfl
    | replace hnewer hannounces =>
      refine .inr ⟨manifest, _, rfl, rfl, fun old hold => hannounces.revision ▸ hnewer old hold,
        hannounces, ?_, hannounces.ready⟩
      rw [hannounces.deadline, hannounces.validUntil, hannounces.publishedAt]
      exact deadline_of_loadMetadataManifest hmanifest

theorem refreshAt_of_error {err : GoError} (h : refreshResult hash table source r = .error err) :
    refreshAt hash table source r = source := by
  rw [refreshAt, h]

theorem maxSnapshotAge_refreshAt :
    (refreshAt hash table source r).maxSnapshotAge = source.maxSnapshotAge := by
  rcases refreshAt_cases hash table source r with heq | ⟨_, _, -, heq, -⟩ <;> rw [heq]

/-! ## Histories -/

/-- The source after a history of refreshes. -/
def history (hash : Hash Digest) (table : Char → Char) (source : LiveMetadata Digest)
    (refreshes : List Refresh) : LiveMetadata Digest :=
  refreshes.foldl (refreshAt hash table) source

theorem history_concat (refreshes : List Refresh) (r : Refresh) :
    history hash table source (refreshes ++ [r]) =
      refreshAt hash table (history hash table source refreshes) r :=
  List.foldl_concat ..

theorem maxSnapshotAge_history (refreshes : List Refresh) :
    (history hash table source refreshes).maxSnapshotAge = source.maxSnapshotAge := by
  induction refreshes using List.reverseRecOn with
  | nil => rfl
  | append_singleton refreshes r ih => rw [history_concat, maxSnapshotAge_refreshAt, ih]

/-- The later source has the same generation or one with a higher revision. -/
def NotBefore (source later : LiveMetadata Digest) : Prop :=
  ∀ g, source.active = some g → ∃ g', later.active = some g' ∧ (g' = g ∨ g.revision < g'.revision)

theorem notBefore_history (source : LiveMetadata Digest) (refreshes : List Refresh) :
    NotBefore source (history hash table source refreshes) := by
  intro g hg
  induction refreshes using List.reverseRecOn with
  | nil => exact ⟨g, hg, .inl rfl⟩
  | append_singleton refreshes r ih =>
    obtain ⟨g', hg', hle⟩ := ih
    rw [history_concat]
    rcases refreshAt_cases hash table (history hash table source refreshes) r with
      heq | ⟨_, new, -, heq, hnewer, -⟩
    · exact ⟨g', by rw [heq]; exact hg', hle⟩
    · refine ⟨new, by rw [heq], .inr ?_⟩
      have hlt := hnewer g' hg'
      rcases hle with rfl | hle
      · exact hlt
      · exact lt_trans hle hlt

/-- One of the refreshes made the generation active, at the time its clock showed. -/
structure Activated (hash : Hash Digest) (table : Char → Char) (source : LiveMetadata Digest)
    (refreshes : List Refresh) (acceptedAt : Int) (g : Generation Digest) : Prop where
  refresh : ∃ before r after manifest, refreshes = before ++ r :: after ∧ r.now = acceptedAt ∧
    refreshResult hash table (history hash table source before) r = .ok ⟨manifest, some g⟩ ∧
    Announces manifest g
  accepted : AcceptedAt source.maxSnapshotAge acceptedAt g

theorem exists_activated {maxSnapshotAge : Int} {refreshes : List Refresh} {g : Generation Digest}
    (h : (history hash table (.new Digest maxSnapshotAge) refreshes).active = some g) :
    ∃ acceptedAt, Activated hash table (.new Digest maxSnapshotAge) refreshes acceptedAt g := by
  induction refreshes using List.reverseRecOn with
  | nil => cases h
  | append_singleton refreshes r ih =>
    rw [history_concat] at h
    rcases refreshAt_cases hash table (history hash table (.new Digest maxSnapshotAge) refreshes) r
      with heq | ⟨manifest, new, hresult, heq, -, hannounces, haccepted⟩
    · rw [heq] at h
      obtain ⟨acceptedAt, ⟨before, r', after, manifest, rfl, hactivated⟩, haccepted⟩ := ih h
      exact ⟨acceptedAt, ⟨before, r', after ++ [r], manifest, by simp, hactivated⟩, haccepted⟩
    · rw [heq] at h
      cases h
      rw [maxSnapshotAge_history] at haccepted
      exact ⟨r.now, ⟨refreshes, r, [], manifest, rfl, rfl, hresult, hannounces⟩, haccepted⟩

/-! ## Lookups -/

/-- Every lookup at the time is one in the snapshot. -/
structure ServedFrom (table : Char → Char) (source : LiveMetadata Digest) (at_ : Int)
    (snapshot : SnapshotMetadata) : Prop where
  authorization : ∀ authorizationID deviceID tokenID,
    source.authorization authorizationID deviceID tokenID at_ =
      snapshot.authorization authorizationID deviceID tokenID at_
  routeByHostname : ∀ hostname,
    source.routeByHostname table hostname at_ = snapshot.routeByHostname table hostname at_
  serviceEndpoint : ∀ endpointID,
    source.serviceEndpoint endpointID at_ = snapshot.serviceEndpoint endpointID at_
  connectorGrant : ∀ grantID, source.connectorGrant grantID at_ = snapshot.connectorGrant grantID at_
  revoked : ∀ subject, source.revoked subject at_ = .ok (snapshot.revokedAt subject at_)

/-- Every lookup at the time fails with the error. -/
structure RefusedWith (table : Char → Char) (source : LiveMetadata Digest) (at_ : Int)
    (err : GoError) : Prop where
  authorization : ∀ authorizationID deviceID tokenID,
    source.authorization authorizationID deviceID tokenID at_ = .error err
  routeByHostname : ∀ hostname, source.routeByHostname table hostname at_ = .error err
  serviceEndpoint : ∀ endpointID, source.serviceEndpoint endpointID at_ = .error err
  connectorGrant : ∀ grantID, source.connectorGrant grantID at_ = .error err
  revoked : ∀ subject, source.revoked subject at_ = .error err

section Lookups

omit [DecidableEq Digest]

variable {at_ : Int}

theorem servedFrom_of_activeSnapshot {snapshot : SnapshotMetadata}
    (h : source.activeSnapshot at_ = .ok snapshot) : ServedFrom table source at_ snapshot where
  authorization _ _ _ := by rw [authorization, h]; rfl
  routeByHostname _ := by rw [routeByHostname, h]; rfl
  serviceEndpoint _ := by rw [serviceEndpoint, h]; rfl
  connectorGrant _ := by rw [connectorGrant, h]; rfl
  revoked _ := by rw [revoked, h]; rfl

theorem refusedWith_of_activeSnapshot {err : GoError}
    (h : source.activeSnapshot at_ = .error err) : RefusedWith table source at_ err where
  authorization _ _ _ := by rw [authorization, h]; rfl
  routeByHostname _ := by rw [routeByHostname, h]; rfl
  serviceEndpoint _ := by rw [serviceEndpoint, h]; rfl
  connectorGrant _ := by rw [connectorGrant, h]; rfl
  revoked _ := by rw [revoked, h]; rfl

end Lookups

/-- The authority of a source is bounded: it is served from one generation before the end of that
    generation, counted from the refresh that accepted it, or refused as stale or unavailable. -/
def Bounded (hash : Hash Digest) (table : Char → Char) (maxSnapshotAge : Int)
    (refreshes : List Refresh) (source : LiveMetadata Digest) (at_ : Int) : Prop :=
  (∃ g acceptedAt, source.active = some g ∧
    Activated hash table (.new Digest maxSnapshotAge) refreshes acceptedAt g ∧
    at_ < min g.validUntil (min (g.publishedAt + maxSnapshotAge) (acceptedAt + maxSnapshotAge)) ∧
    ServedFrom table source at_ g.snapshot) ∨
  ∃ err : GoError, (err.is .metadataStale = true ∨ err.is .metadataUnavailable = true) ∧
    RefusedWith table source at_ err

theorem bounded_history (maxSnapshotAge : Int) (refreshes : List Refresh) (at_ : Int) :
    Bounded hash table maxSnapshotAge refreshes
      (history hash table (.new Digest maxSnapshotAge) refreshes) at_ := by
  cases hactive : (history hash table (.new Digest maxSnapshotAge) refreshes).active with
  | none =>
    refine .inr ⟨errMetadataUnavailable, .inr rfl, refusedWith_of_activeSnapshot ?_⟩
    rw [activeSnapshot, hactive]
  | some g =>
    obtain ⟨acceptedAt, hactivated⟩ := exists_activated hactive
    by_cases hfresh : at_ < g.deadline
    · refine .inl ⟨g, acceptedAt, hactive, hactivated, ?_, servedFrom_of_activeSnapshot ?_⟩
      · exact lt_of_lt_of_eq hfresh hactivated.accepted.deadline
      · simp only [activeSnapshot, hactive, hfresh, not_true_eq_false, if_false,
          hactivated.accepted.ready]
    · have hstale : (history hash table (.new Digest maxSnapshotAge) refreshes).activeSnapshot at_ =
          .error (.wrap s!"%w: revision {g.revision} expired at {g.deadline}" errMetadataStale) := by
        simp only [activeSnapshot, hactive, hfresh, not_false_eq_true, if_true]
      exact .inr ⟨_, .inl rfl, refusedWith_of_activeSnapshot hstale⟩

/-- After every history of refreshes: a refresh that fails changes nothing, later sources never go back
    to a lower revision nor change the generation of the same one, and authority is bounded. -/
theorem live_authority_bounded (hash : Hash Digest) (table : Char → Char) (maxSnapshotAge : Int)
    (refreshes : List Refresh) :
    let source := history hash table (.new Digest maxSnapshotAge) refreshes
    (∀ r err, refreshResult hash table source r = .error err →
      refreshAt hash table source r = source) ∧
    (∀ later, NotBefore source (history hash table source later)) ∧
    ∀ at_, Bounded hash table maxSnapshotAge refreshes source at_ :=
  ⟨fun _ _ => refreshAt_of_error, fun later => notBefore_history _ later,
    fun at_ => bounded_history maxSnapshotAge refreshes at_⟩

end Hooshix.Gateway.Authority
