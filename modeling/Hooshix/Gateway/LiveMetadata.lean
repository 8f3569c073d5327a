-- SUMMARY: The live metadata source.
import Hooshix.Lib.Delimited
import Hooshix.Lib.Program
import Hooshix.Gateway.Authority

/-! # Live metadata

`refreshAt` as a program of file-system calls, so that a publisher can act between any two of them. The
calls of one refresh see the disk at one moment each. Refreshes hold a mutex, so there is one at a time,
and a lookup loads one pointer. Times are nanoseconds. The counters and log lines are left out.
-/

namespace Hooshix.Gateway.Authority

open ContractV1 (quoted validateStrictJSONObject decodeStrict)
open StructDecode (Field Struct)

/-! ## Hashes -/

/-- SHA-256, and the value of a digest that was never computed. -/
structure Hash (Digest : Type) where
  sum : Bytes → Digest
  zero : Digest

/-- Different data have different digests, and none is zero. -/
structure Hash.CollisionFree {Digest : Type} (hash : Hash Digest) : Prop where
  injective : Function.Injective hash.sum
  sum_ne_zero : ∀ data, hash.sum data ≠ hash.zero

/-! ## Manifests -/

structure MetadataGenerationManifest where
  contractVersion : Int
  revision : Int
  generation : String
  publishedAt : String
  validUntil : String
  deriving DecidableEq, Repr

namespace MetadataGenerationManifest

def fields : List Field :=
  [⟨"contract_version", .int⟩, ⟨"revision", .uint 64⟩, ⟨"generation", .string⟩,
    ⟨"published_at", .string⟩, ⟨"valid_until", .string⟩]

def ofStruct (s : Struct) : MetadataGenerationManifest where
  contractVersion := s.int "contract_version"
  revision := s.int "revision"
  generation := s.string "generation"
  publishedAt := s.string "published_at"
  validUntil := s.string "valid_until"

end MetadataGenerationManifest

structure ParsedMetadataManifest where
  revision : Int
  generation : String
  publishedAt : Int
  validUntil : Int
  deadline : Int
  deriving DecidableEq, Repr

def validGenerationName (value : String) : Bool :=
  !(value == "" || value == "." || value == ".." || 128 < value.utf8ByteSize) &&
    value.toList.all fun c => c.isLower || c.isUpper || c.isDigit || c == '-' || c == '_' || c == '.'

/-- `maxMetadataFutureSkew` -/
def maxMetadataFutureSkew : Int := 30 * 1000000000

/-- The earliest of the three ends of a generation accepted at `now`. -/
def deadlineOf (publishedAt validUntil now maxSnapshotAge : Int) : Int :=
  let localDeadline := publishedAt + maxSnapshotAge
  let acceptedDeadline := now + maxSnapshotAge
  let deadline := validUntil
  let deadline := if localDeadline < deadline then localDeadline else deadline
  if acceptedDeadline < deadline then acceptedDeadline else deadline

/-- The checks of `loadMetadataManifest` on the decoded manifest. -/
def MetadataGenerationManifest.accept (manifest : MetadataGenerationManifest)
    (now maxSnapshotAge : Int) : Except GoError ParsedMetadataManifest := do
  rejectIf (manifest.contractVersion ≠ ContractV1.protocolVersion)
    s!"unsupported metadata manifest contract_version {manifest.contractVersion}"
  rejectIf (manifest.revision = 0) "metadata manifest revision must be greater than zero"
  rejectIf (validGenerationName manifest.generation = false)
    "metadata manifest generation is invalid"
  let publishedAt ← timeParse "metadata published_at" manifest.publishedAt
  let validUntil ← timeParse "metadata valid_until" manifest.validUntil
  rejectIf (¬ publishedAt < validUntil) "metadata valid_until must be after published_at"
  rejectIf (publishedAt > now + maxMetadataFutureSkew)
    "metadata published_at is too far in the future"
  let deadline := deadlineOf publishedAt validUntil now maxSnapshotAge
  rejectIf (¬ now < deadline) s!"metadata candidate is already stale at {deadline}"
  return ⟨manifest.revision, manifest.generation, publishedAt, validUntil, deadline⟩

/-- `decodeStrictJSONObject` into a manifest, as `decodeStrict` after the check of the object -/
def parseManifest (data : Bytes) : Except GoError MetadataGenerationManifest := do
  check (validateStrictJSONObject data)
  return .ofStruct (← decodeStrict MetadataGenerationManifest.fields data)

/-- `loadMetadataManifest`, given what was read from `current.json`. -/
def loadMetadataManifest (read : Except GoError Bytes) (now maxSnapshotAge : Int) :
    Except GoError ParsedMetadataManifest := do
  let data ← read.mapError (.wrap "read current metadata manifest: %w")
  let manifest ← (parseManifest data).mapError (.wrap "parse current metadata manifest: %w")
  manifest.accept now maxSnapshotAge

/-! ## The disk -/

/-- The name of a file, which has no zero byte. -/
structure FileName where
  bytes : Bytes
  nonzero : 0 ∉ bytes
  deriving DecidableEq

inductive FileKind where
  | regular
  | directory
  | symlink
  | other
  deriving DecidableEq, Repr

/-- A file, with the errors that reading it or asking for its attributes would give. -/
structure File where
  name : FileName
  kind : FileKind
  data : Bytes
  modTime : Int
  readErr : Option GoError
  statErr : Option GoError

/-- A directory that exists, in the order in which `os.ReadDir` returns its entries. -/
structure Directory where
  entries : List File
  sorted : entries.Pairwise fun a b => a.name.bytes < b.name.bytes
  /-- the error of `validateTrustedMetadataDirectory`, such as for a symlink on the path -/
  untrusted : Option GoError
  readErr : Option GoError

def Directory.find (dir : Directory) (name : FileName) : Option File :=
  dir.entries.find? fun file => file.name = name

/-- The directory of one generation. -/
structure GenerationDir where
  untrusted : Option GoError
  category : Category → Option Directory

structure FileSystem where
  /-- the error of validating the metadata root -/
  untrusted : Option GoError
  /-- `current.json` -/
  manifest : Option File
  generation : String → GenerationDir

/-- `ENOENT` -/
def errNoEntry : GoError := errorsNew "no such file or directory"

def errNotRegular : GoError := errorsNew "metadata path must be a regular non-symlink file"

def maxMetadataManifestBytes : Nat := 16 * 1024

def maxMetadataRecordBytes : Nat := 1024 * 1024

def maxLiveMetadataRecords : Nat := 100000

def maxLiveGenerationBytes : Nat := 64 * 1024 * 1024

def readTrustedMetadataFile (file : Option File) (maxBytes : Nat) : Except GoError Bytes :=
  match file with
  | none => .error errNoEntry
  | some file =>
    if file.kind = .symlink then .error errNotRegular
    else match file.readErr with
      | some err => .error err
      | none =>
        if file.kind ≠ .regular then .error errNotRegular
        else if file.data.length > maxBytes then
          .error (errorsNew s!"metadata file exceeds {maxBytes} bytes")
        else .ok file.data

/-- An entry as `os.ReadDir` returns it. -/
structure DirEntry where
  name : FileName
  kind : FileKind

def File.entry (file : File) : DirEntry := ⟨file.name, file.kind⟩

inductive Listing where
  | missing
  | failed (err : GoError)
  | entries (list : List DirEntry)

/-- What `entry.Info()` tells. -/
structure FileInfo where
  size : Nat
  modTime : Int

def File.info (file : File) : FileInfo := ⟨file.data.length, file.modTime⟩

/-! ## File-system calls -/

/-- Calls below the directory of one generation. -/
inductive GenerationCall where
  | validateRoot
  | validateCategory (category : Category) (allowMissing : Bool)
  | readDir (category : Category)
  | readFile (category : Category) (name : FileName)
  | info (category : Category) (name : FileName)

abbrev GenerationAnswer : GenerationCall → Type
  | .validateRoot | .validateCategory _ _ => Option GoError
  | .readDir _ => Listing
  | .readFile _ _ => Except GoError Bytes
  | .info _ _ => Except GoError FileInfo

def GenerationDir.answer (dir : GenerationDir) : (call : GenerationCall) → GenerationAnswer call
  | .validateRoot => dir.untrusted
  | .validateCategory category allowMissing =>
    match dir.category category with
    | none => if allowMissing then none else some errNoEntry
    | some directory => directory.untrusted
  | .readDir category =>
    match dir.category category with
    | none => .missing
    | some directory =>
      match directory.readErr with
      | some err => .failed err
      | none => .entries (directory.entries.map File.entry)
  | .readFile category name =>
    readTrustedMetadataFile ((dir.category category).bind (·.find name)) maxMetadataRecordBytes
  | .info category name =>
    match (dir.category category).bind (·.find name) with
    | none => .error errNoEntry
    | some file =>
      match file.statErr with
      | some err => .error err
      | none => .ok file.info

inductive FileCall where
  | validateRoot
  | readManifest
  | inGeneration (generation : String) (call : GenerationCall)

abbrev FileAnswer : FileCall → Type
  | .validateRoot => Option GoError
  | .readManifest => Except GoError Bytes
  | .inGeneration _ call => GenerationAnswer call

def FileSystem.answer (fs : FileSystem) : (call : FileCall) → FileAnswer call
  | .validateRoot => fs.untrusted
  | .readManifest => readTrustedMetadataFile fs.manifest maxMetadataManifestBytes
  | .inGeneration generation call => (fs.generation generation).answer call

abbrev GenerationProg := Prog GenerationCall GenerationAnswer

abbrev FileProg := Prog FileCall FileAnswer

def call (c : GenerationCall) : GenerationProg (GenerationAnswer c) := .act c .done

/-- A program on the directory of the named generation. -/
def within {α : Type} (generation : String) : GenerationProg α → FileProg α
  | .done value => .done value
  | .act c next => .act (.inGeneration generation c) fun r => within generation (next r)

/-! ## Loading a generation -/

namespace Category

/-- The categories in the order in which they are loaded. -/
def all : List Category :=
  [.authorizations, .routes, .revocations, .serviceEndpoints, .connectorGrants]

def directoryName : Category → String
  | .authorizations => "authorizations"
  | .routes => "routes"
  | .revocations => "revocations"
  | .serviceEndpoints => "service_endpoints"
  | .connectorGrants => "connector_grants"

def required : Category → Bool
  | .authorizations | .routes | .revocations => true
  | .serviceEndpoints | .connectorGrants => false

/-- The directory name as it is hashed. -/
def bytes (category : Category) : Bytes :=
  category.directoryName.toList.map fun c => UInt8.ofNat c.toNat

end Category

/-- The name as text, for a name in ASCII. -/
def FileName.text (name : FileName) : String :=
  String.ofList (name.bytes.map fun b => Char.ofNat b.toNat)

def lowerByte (b : UInt8) : UInt8 := if 65 ≤ b ∧ b ≤ 90 then b + 32 else b

/-- `strings.HasSuffix(strings.ToLower(name), ".json")`; no letter beyond ASCII becomes one of these. -/
def FileName.isJSON (name : FileName) : Bool :=
  [46, 106, 115, 111, 110].isSuffixOf (name.bytes.map lowerByte)

def DirEntry.unexpected (entry : DirEntry) : Bool :=
  entry.kind = .directory || entry.kind = .symlink || !entry.name.isJSON

def errUnexpectedEntry (category : Category) (entry : DirEntry) : GoError :=
  errorsNew ("unexpected metadata generation entry " ++ category.directoryName ++ "/" ++
    entry.name.text)

/-- What is hashed of a record file. -/
def contentWords (category : Category) (name : FileName) (data : Bytes) : List Bytes :=
  [category.bytes, name.bytes, data]

/-- The part of a loop over the categories that lists one and goes through its entries; the errors of
    the two calls are reported through `validateErr` and `readErr`. -/
def walkCategory {γ : Type} (validateErr readErr : GoError → GoError)
    (body : DirEntry → γ → GenerationProg (Except GoError γ)) (category : Category) (state : γ) :
    GenerationProg (Except GoError γ) := do
  match ← call (.validateCategory category (!category.required)) with
  | some err => return .error (validateErr err)
  | none =>
    match ← call (.readDir category) with
    | .missing => if category.required then return .error (readErr errNoEntry) else return .ok state
    | .failed err => return .error (readErr err)
    | .entries list => Prog.loop body list state

/-- The loop variables of `loadLiveGeneration`. -/
structure Loading where
  snapshot : SnapshotMetadata
  hashed : Bytes
  recordCount : Nat
  generationBytes : Nat

def Loading.start : Loading := ⟨.new, [], 0, 0⟩

section Load

variable (table : Char → Char)

def loadEntry (category : Category) (entry : DirEntry) (l : Loading) :
    GenerationProg (Except GoError Loading) :=
  let l := { l with recordCount := l.recordCount + 1 }
  let path := category.directoryName ++ "/" ++ entry.name.text
  if l.recordCount > maxLiveMetadataRecords then
    .done (.error (errorsNew s!"metadata generation exceeds {maxLiveMetadataRecords} records"))
  else if entry.unexpected then .done (.error (errUnexpectedEntry category entry))
  else do
    match ← call (.readFile category entry.name) with
    | .error err => return .error (.wrap ("read metadata record " ++ path ++ ": %w") err)
    | .ok data =>
      let l := { l with generationBytes := l.generationBytes + data.length }
      if l.generationBytes > maxLiveGenerationBytes then
        return .error (errorsNew s!"metadata generation exceeds {maxLiveGenerationBytes} bytes")
      else
        let hashed := l.hashed ++ Delimited.terminate 0 (contentWords category entry.name data)
        match l.snapshot.addJSON table category data with
        | (_, some err) => return .error (.wrap ("validate metadata record " ++ path ++ ": %w") err)
        | (snapshot, none) => return .ok { l with snapshot, hashed }

def loadCategory (category : Category) : Loading → GenerationProg (Except GoError Loading) :=
  walkCategory (.wrap ("validate metadata category " ++ category.directoryName ++ ": %w"))
    (.wrap ("read metadata category " ++ category.directoryName ++ ": %w")) (loadEntry table category)
    category

/-- The snapshot of a generation and the bytes that its digest is the hash of. -/
def loadLiveGeneration : GenerationProg (Except GoError (SnapshotMetadata × Bytes)) := do
  match ← call .validateRoot with
  | some err => return .error (.wrap "validate generation path: %w" err)
  | none =>
    match ← Prog.loop (loadCategory table) Category.all .start with
    | .error err => return .error err
    | .ok l =>
      match l.snapshot.ready with
      | some err => return .error err
      | none => return .ok (l.snapshot, l.hashed)

end Load

/-! ## The stat fingerprint -/

/-- A number as `%d` prints it. -/
def decimal (n : Nat) : Bytes := (Nat.toDigits 10 n).map fun c => UInt8.ofNat c.toNat

def signedDecimal (n : Int) : Bytes := if n < 0 then 45 :: decimal n.natAbs else decimal n.natAbs

/-- What is hashed of the attributes of a record file. -/
def statWords (category : Category) (name : FileName) (info : FileInfo) : List Bytes :=
  [category.bytes, name.bytes, decimal info.size ++ 58 :: signedDecimal info.modTime]

def statEntry (category : Category) (entry : DirEntry) (hashed : Bytes) :
    GenerationProg (Except GoError Bytes) :=
  if entry.unexpected then .done (.error (errUnexpectedEntry category entry))
  else do
    match ← call (.info category entry.name) with
    | .error err => return .error err
    | .ok info =>
      return .ok (hashed ++ Delimited.terminate 0 (statWords category entry.name info))

def statCategory (category : Category) : Bytes → GenerationProg (Except GoError Bytes) :=
  walkCategory id id (statEntry category) category

/-- The bytes that the fingerprint is the hash of. -/
def statGenerationFingerprint : GenerationProg (Except GoError Bytes) := do
  match ← call .validateRoot with
  | some err => return .error err
  | none => Prog.loop statCategory Category.all []

/-! ## Refreshes -/

/-- `liveMetadataGeneration` -/
structure Generation (Digest : Type) where
  snapshot : SnapshotMetadata
  revision : Int
  generation : String
  publishedAt : Int
  validUntil : Int
  deadline : Int
  digest : Digest
  statFingerprint : Digest

structure LiveMetadata (Digest : Type) where
  maxSnapshotAge : Int
  active : Option (Generation Digest)

/-- The source before its first refresh. -/
def LiveMetadata.new (Digest : Type) (maxSnapshotAge : Int) : LiveMetadata Digest :=
  ⟨maxSnapshotAge, none⟩

section Refresh

variable {Digest : Type} [DecidableEq Digest] (hash : Hash Digest) (table : Char → Char)

/-- A fingerprint, which is zero when it could not be taken. -/
def Hash.fingerprint (stat : Except GoError Bytes) : Digest :=
  match stat with
  | .ok hashed => hash.sum hashed
  | .error _ => hash.zero

def errLoad (manifest : ParsedMetadataManifest) (err : GoError) : GoError :=
  .wrap ("load metadata generation " ++ quoted manifest.generation ++ ": %w") err

/-- The part of `refreshAt` that checks a manifest with the active revision in full. -/
def verifyUnchanged (active : Generation Digest) (manifest : ParsedMetadataManifest) :
    GenerationProg (Except GoError (Option (Generation Digest))) := do
  match ← loadLiveGeneration table with
  | .error err => return .error (errLoad manifest err)
  | .ok (_, hashed) =>
    if active.generation ≠ manifest.generation ∨ active.publishedAt ≠ manifest.publishedAt ∨
        active.validUntil ≠ manifest.validUntil ∨ active.digest ≠ hash.sum hashed then
      return .error (errorsNew s!"metadata revision {manifest.revision} was republished with different manifest or content")
    else return .ok none

/-- The part of `refreshAt` that loads a new revision. -/
def activate (manifest : ParsedMetadataManifest) :
    GenerationProg (Except GoError (Option (Generation Digest))) := do
  match ← loadLiveGeneration table with
  | .error err => return .error (errLoad manifest err)
  | .ok (snapshot, hashed) =>
    let stat ← statGenerationFingerprint
    return .ok (some
      { snapshot
        revision := manifest.revision
        generation := manifest.generation
        publishedAt := manifest.publishedAt
        validUntil := manifest.validUntil
        deadline := manifest.deadline
        digest := hash.sum hashed
        statFingerprint := hash.fingerprint stat })

/-- A manifest with the active revision: the cheap path first, if it names the active generation. -/
def recheck (active : Generation Digest) (manifest : ParsedMetadataManifest) :
    GenerationProg (Except GoError (Option (Generation Digest))) :=
  if manifest.generation = active.generation then do
    match ← statGenerationFingerprint with
    | .error _ => verifyUnchanged hash table active manifest
    | .ok hashed =>
      if hash.sum hashed = active.statFingerprint then return .ok none
      else verifyUnchanged hash table active manifest
  else verifyUnchanged hash table active manifest

/-- What `refreshAt` does with a manifest it has read: the new generation, or `none` when the active one
    stays. -/
def refreshGeneration (active : Option (Generation Digest)) (manifest : ParsedMetadataManifest) :
    GenerationProg (Except GoError (Option (Generation Digest))) :=
  match active with
  | none => activate hash table manifest
  | some active =>
    if manifest.revision < active.revision then
      .done (.error (errorsNew s!"metadata revision rollback rejected: candidate={manifest.revision} active={active.revision}"))
    else if manifest.revision = active.revision then recheck hash table active manifest
    else activate hash table manifest

/-- A refresh that succeeded, with the manifest it read. -/
structure Refreshed (Digest : Type) where
  manifest : ParsedMetadataManifest
  candidate : Option (Generation Digest)

/-- The calls of `refreshAt`. -/
def refreshProg (source : LiveMetadata Digest) (now : Int) :
    FileProg (Except GoError (Refreshed Digest)) :=
  .act .validateRoot fun
    | some err => .done (.error (.wrap "validate live metadata root: %w" err))
    | none => .act .readManifest fun read =>
      match loadMetadataManifest read now source.maxSnapshotAge with
      | .error err => .done (.error err)
      | .ok manifest =>
        within manifest.generation (refreshGeneration hash table source.active manifest) >>= fun
          | .error err => .done (.error err)
          | .ok candidate => .done (.ok ⟨manifest, candidate⟩)

/-- A refresh: its clock, and the disk as each of its calls sees it. -/
structure Refresh where
  now : Int
  moments : Nat → FileSystem

/-- The answers of the calls, counted from the first. -/
def Refresh.handle (r : Refresh) (n : Nat) (c : FileCall) : Nat × FileAnswer c :=
  (n + 1, (r.moments n).answer c)

/-- What `refreshAt` returns. -/
def refreshResult (source : LiveMetadata Digest) (r : Refresh) :
    Except GoError (Refreshed Digest) :=
  (Prog.exec r.handle 0 (refreshProg hash table source r.now)).2

/-- The source after `refreshAt`. -/
def refreshAt (source : LiveMetadata Digest) (r : Refresh) : LiveMetadata Digest :=
  match refreshResult hash table source r with
  | .ok ⟨_, some candidate⟩ => { source with active := some candidate }
  | _ => source

end Refresh

/-! ## Lookups -/

namespace LiveMetadata

variable {Digest : Type}

def activeSnapshot (source : LiveMetadata Digest) (at_ : Int) : Except GoError SnapshotMetadata :=
  match source.active with
  | none => .error errMetadataUnavailable
  | some active =>
    if ¬ at_ < active.deadline then
      .error (.wrap s!"%w: revision {active.revision} expired at {active.deadline}" errMetadataStale)
    else match active.snapshot.ready with
      | some err => .error err
      | none => .ok active.snapshot

def authorization (source : LiveMetadata Digest) (authorizationID deviceID tokenID : String)
    (at_ : Int) : Except GoError ContractV1.DeviceSessionAuthorization := do
  let active ← source.activeSnapshot at_
  active.authorization authorizationID deviceID tokenID at_

/-- What is in force in a published snapshot that is fresh is in force. -/
def toSource (source : LiveMetadata Digest) : MetadataSource where
  authorization := source.authorization
  Active := fun record at_ =>
    ∃ snapshot, source.activeSnapshot at_ = .ok snapshot ∧ snapshot.toSource.Active record at_
  active := fun h =>
    let ⟨snapshot, hsnapshot, hrecord⟩ := bind_eq_ok.mp h
    ⟨snapshot, hsnapshot, snapshot.toSource.active hrecord⟩

def routeByHostname (table : Char → Char) (source : LiveMetadata Digest) (hostname : String)
    (at_ : Int) : Except GoError ContractV1.EndpointRouteAssignment := do
  let active ← source.activeSnapshot at_
  active.routeByHostname table hostname at_

def revoked (source : LiveMetadata Digest) (subject : RevocationSubject) (at_ : Int) :
    Except GoError Bool := do
  let active ← source.activeSnapshot at_
  return active.revokedAt subject at_

def serviceEndpoint (source : LiveMetadata Digest) (endpointID : String) (at_ : Int) :
    Except GoError ContractV2.ServiceEndpoint := do
  let active ← source.activeSnapshot at_
  active.serviceEndpoint endpointID at_

def connectorGrant (source : LiveMetadata Digest) (grantID : String) (at_ : Int) :
    Except GoError ContractV2.ConnectorGrant := do
  let active ← source.activeSnapshot at_
  active.connectorGrant grantID at_

end LiveMetadata

end Hooshix.Gateway.Authority
