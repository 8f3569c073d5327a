-- SUMMARY: The Agent's state mutations as file-system programs.
import Hooshix.Errors
import Hooshix.Lib.CrashProgram
import Hooshix.Payload
import Mathlib.Logic.Function.Basic

/-! # State transactions

`withConfigLock`, `runStateTransaction` and `recoverStateTransaction` as programs of single
file-system calls on the state directory of one process after another. A crash keeps the calls made so
far; calls after the last completed directory sync that it may lose are a crash at an earlier call.
Calls on temporary files of `writeStateFile` touch nothing that is modelled: its rename is the call
that counts. Calls do not fail.
-/

namespace Hooshix.Agent.StateTransaction

/-- The files that a transaction covers. -/
inductive Target where
  | config
  | secret
  deriving DecidableEq, Repr

structure Manifest where
  version : Nat
  configExists : Bool
  secretExists : Bool
  deriving DecidableEq, Repr

def Manifest.exists (m : Manifest) : Target → Bool
  | .config => m.configExists
  | .secret => m.secretExists

/-- The entries of the journal directory. -/
inductive Entry where
  /-- `config.before` and `secret.before` -/
  | backup (target : Target)
  /-- the temporary file of the manifest -/
  | temp
  /-- `manifest.json` -/
  | manifest
  deriving DecidableEq, Repr

/-- The directory `.state-transaction`. -/
structure Journal where
  backup : Target → Option Bytes
  /-- a temporary file is empty before it is written -/
  temp : Option (Option Manifest)
  manifest : Option Manifest

def Journal.empty : Journal := ⟨fun _ => none, none, none⟩

/-- The names in the journal directory. -/
def Journal.entries (j : Journal) : List Entry :=
  (if (j.backup .config).isSome then [.backup .config] else []) ++
    ((if (j.backup .secret).isSome then [.backup .secret] else []) ++
      ((if j.temp.isSome then [.temp] else []) ++ (if j.manifest.isSome then [.manifest] else [])))

def Journal.unlink (j : Journal) : Entry → Journal
  | .backup target => { j with backup := Function.update j.backup target none }
  | .temp => { j with temp := none }
  | .manifest => { j with manifest := none }

/-- A lock file: just created, or with the record of its owner. -/
inductive Lock where
  | blank
  | record (pid : Nat)
  deriving DecidableEq, Repr

/-- What a crash leaves. -/
structure Disk where
  marker : Option Bytes
  lock : Option Lock
  file : Target → Option Bytes
  journal : Option Journal

/-- `stateMarkerContents` -/
def stateMarkerContents : Bytes := "hooshix-agent-state-v1\n".toUTF8.toList

/-! ## File-system calls -/

inductive Call where
  | readMarker
  | createMarker
  | writeMarker
  | createLock
  | writeLock (pid : Nat)
  | readLock
  | removeLock
  | lstatJournal
  | mkdirJournal
  | readFile (target : Target)
  /-- the rename that replaces a state file -/
  | replaceFile (target : Target) (data : Bytes)
  | removeFile (target : Target)
  | createBackup (target : Target)
  | writeBackup (target : Target) (data : Bytes)
  | readBackup (target : Target)
  | createTemp
  | writeTemp (manifest : Manifest)
  | renameTemp
  | readManifest
  /-- the names that `os.RemoveAll` reads -/
  | listJournal
  | unlink (entry : Entry)
  | rmdirJournal
  | syncDirectory
  deriving DecidableEq, Repr

abbrev Answer : Call → Type
  | .readMarker | .readFile _ | .readBackup _ => Option Bytes
  | .createLock | .lstatJournal | .rmdirJournal => Bool
  | .readLock => Option Lock
  | .readManifest => Option Manifest
  | .listJournal => List Entry
  | _ => Unit

def Disk.onJournal (d : Disk) (change : Journal → Journal) : Disk :=
  { d with journal := d.journal.map change }

/-- The disk after a call, and its answer. The order in which a directory is listed is free. -/
def perform (d : Disk) : (call : Call) → Answer call → Disk → Prop
  | .readMarker, answer, d' => answer = d.marker ∧ d' = d
  | .createMarker, _, d' => d' = { d with marker := some [] }
  | .writeMarker, _, d' => d' = { d with marker := some stateMarkerContents }
  | .createLock, answer, d' =>
    answer = d.lock.isNone ∧ d' = if d.lock.isNone then { d with lock := some .blank } else d
  | .writeLock pid, _, d' => d' = { d with lock := some (.record pid) }
  | .readLock, answer, d' => answer = d.lock ∧ d' = d
  | .removeLock, _, d' => d' = { d with lock := none }
  | .lstatJournal, answer, d' => answer = d.journal.isSome ∧ d' = d
  | .mkdirJournal, _, d' => d' = { d with journal := some .empty }
  | .readFile target, answer, d' => answer = d.file target ∧ d' = d
  | .replaceFile target data, _, d' =>
    d' = { d with file := Function.update d.file target (some data) }
  | .removeFile target, _, d' => d' = { d with file := Function.update d.file target none }
  | .createBackup target, _, d' =>
    d' = d.onJournal fun j => { j with backup := Function.update j.backup target (some []) }
  | .writeBackup target data, _, d' =>
    d' = d.onJournal fun j => { j with backup := Function.update j.backup target (some data) }
  | .readBackup target, answer, d' => answer = d.journal.bind (·.backup target) ∧ d' = d
  | .createTemp, _, d' => d' = d.onJournal fun j => { j with temp := some none }
  | .writeTemp manifest, _, d' => d' = d.onJournal fun j => { j with temp := some (some manifest) }
  | .renameTemp, _, d' =>
    d' = d.onJournal fun j => { j with manifest := j.temp.join, temp := none }
  | .readManifest, answer, d' => answer = d.journal.bind (·.manifest) ∧ d' = d
  | .listJournal, answer, d' => answer.Perm (d.journal.elim [] (·.entries)) ∧ d' = d
  | .unlink entry, _, d' => d' = d.onJournal (·.unlink entry)
  | .rmdirJournal, answer, d' =>
    answer = d.journal.all (·.entries.isEmpty) ∧
      d' = if d.journal.all (·.entries.isEmpty) then { d with journal := none } else d
  | .syncDirectory, _, d' => d' = d

/-- Programs of file-system calls. -/
abbrev FsProg := Prog Call Answer

def call (c : Call) : FsProg (Answer c) := .act c .done

/-! ## The programs of the source -/

/-- `ensureStateMarker`; the names that an unmarked directory may hold are not modelled. -/
def ensureStateMarker : FsProg (Option GoError) := do
  match ← call .readMarker with
  | some data =>
    if data ≠ stateMarkerContents then
      return some (errorsNew "Agent state marker contents are invalid")
    else return none
  | none =>
    call .createMarker
    call .writeMarker
    return none

def errLockTimeout : GoError := errorsNew "timed out waiting for live config lock"

/-- A process, with what it learns when it polls a lock; polls are counted down. -/
structure Process where
  pid : Nat
  /-- `processAlive` -/
  alive : (poll pid : Nat) → Bool
  /-- an empty lock file is older than `legacyLockStaleAfter` -/
  aged : (poll : Nat) → Bool

/-- Whether `inspectConfigLockWithProcessCheck` reclaims a lock. -/
def Process.reclaims (p : Process) (poll : Nat) : Lock → Bool
  | .blank => p.aged poll
  | .record pid => !(pid == p.pid || p.alive poll pid)

/-- Creates the lock file and writes the record of the process, unless there is one. -/
def Process.createConfigLock (p : Process) (contended : FsProg (Option GoError)) :
    FsProg (Option GoError) := do
  if ← call .createLock then
    call (.writeLock p.pid)
    return none
  else contended

/-- The loop of `withConfigLock` up to its lock file. A lock that is not reclaimed at the last poll is
    waited for no longer; after one that is, the loop goes on. -/
def acquireConfigLock (p : Process) : Nat → FsProg (Option GoError)
  | 0 => p.createConfigLock (return some errLockTimeout)
  | polls + 1 => p.createConfigLock do
    match ← call .readLock with
    | none => acquireConfigLock p polls
    | some lock =>
      if p.reclaims polls lock then
        call .removeLock
        acquireConfigLock p polls
      else if polls = 0 then return some errLockTimeout
      else acquireConfigLock p polls

def releaseOwnedConfigLock (p : Process) : FsProg (Option GoError) := do
  match ← call .readLock with
  | none => return none
  | some lock =>
    if lock ≠ .record p.pid then
      return some (errorsNew "config lock ownership changed before release")
    else
      call .removeLock
      return none

/-- `os.RemoveAll` of the journal directory. -/
def removeAllJournal : FsProg (Option GoError) := do
  let names ← call .listJournal
  names.forM fun entry => call (.unlink entry)
  if ← call .rmdirJournal then return none
  else return some (errorsNew "directory not empty")

def restoreStateFile (target : Target) (existed : Bool) : FsProg (Option GoError) := do
  if existed then
    match ← call (.readBackup target) with
    | none => return some (errorsNew "no such file or directory")
    | some data =>
      call (.replaceFile target data)
      return none
  else
    match ← call (.readFile target) with
    | none => return none
    | some _ =>
      call (.removeFile target)
      return none

def stateTransactionVersion : Nat := 1

def recoverStateTransaction : FsProg (Option GoError) := do
  if ← call .lstatJournal then
    match ← call .readManifest with
    | none =>
      match ← removeAllJournal with
      | some err => return some (.wrap "remove incomplete Agent state transaction: %w" err)
      | none =>
        call .syncDirectory
        return none
    | some manifest =>
      if manifest.version ≠ stateTransactionVersion then
        return some (errorsNew "Agent state transaction manifest is invalid")
      else
        match ← restoreStateFile .config manifest.configExists with
        | some err => return some (.wrap "restore config from Agent state transaction: %w" err)
        | none =>
          match ← restoreStateFile .secret manifest.secretExists with
          | some err => return some (.wrap "restore secrets from Agent state transaction: %w" err)
          | none =>
            call .syncDirectory
            match ← removeAllJournal with
            | some err => return some (.wrap "remove recovered Agent state transaction: %w" err)
            | none =>
              call .syncDirectory
              return none
  else return none

def snapshotStateFile (target : Target) : FsProg Bool := do
  match ← call (.readFile target) with
  | none => return false
  | some data =>
    call (.createBackup target)
    call (.writeBackup target data)
    return true

def errStateTransactionPending : GoError :=
  errorsNew "Agent state transaction recovery required"

def beginStateTransaction : FsProg (Option GoError) := do
  if ← call .lstatJournal then return some errStateTransactionPending
  else
    call .mkdirJournal
    let configExists ← snapshotStateFile .config
    let secretExists ← snapshotStateFile .secret
    call .createTemp
    call (.writeTemp ⟨stateTransactionVersion, configExists, secretExists⟩)
    call .renameTemp
    call .syncDirectory
    call .syncDirectory
    return none

/-- One execution of a protected operation: its calls that change a state file, and its result. -/
structure Operation where
  writes : List (Target × Option Bytes)
  result : Option GoError
  deriving DecidableEq, Repr

/-- A call of an operation: a state file is replaced or removed. -/
def writeFile : Target × Option Bytes → FsProg PUnit
  | (target, some data) => call (.replaceFile target data)
  | (target, none) => call (.removeFile target)

/-- The state files after the calls of an operation. -/
def Operation.applied (op : Operation) (before : Target → Option Bytes) : Target → Option Bytes :=
  op.writes.foldl (fun file write => Function.update file write.1 write.2) before

def commit : FsProg (Option GoError) := do
  call .syncDirectory
  match ← removeAllJournal with
  | some err => return some (.wrap "commit Agent state transaction: %w" err)
  | none =>
    call .syncDirectory
    return none

def runStateTransaction (op : Operation) : FsProg (Option GoError) := do
  match ← beginStateTransaction with
  | some err => return some err
  | none =>
    op.writes.forM writeFile
    match op.result with
    | some err =>
      match ← recoverStateTransaction with
      | some rollbackErr =>
        return some (.join "%w" err (.wrap "rollback Agent state transaction: %w" rollbackErr))
      | none => return some err
    | none => commit

/-- The polls that fit into the bounded wait. -/
def lockPolls : Nat := 500

/-- `withConfigLock` around an operation on the state directory. -/
def withConfigLock (p : Process) (operation : FsProg (Option GoError)) : FsProg (Option GoError) := do
  match ← ensureStateMarker with
  | some err => return some err
  | none =>
    match ← acquireConfigLock p lockPolls with
    | some err => return some err
    | none =>
      match ← recoverStateTransaction with
      | some err =>
        match ← releaseOwnedConfigLock p with
        | some releaseErr => return some (.join "%w" err releaseErr)
        | none => return some err
      | none =>
        let operationErr ← operation
        let releaseErr ← releaseOwnedConfigLock p
        match operationErr, releaseErr with
        | some err, some releaseErr => return some (.join "%w" err releaseErr)
        | some err, none => return some err
        | none, releaseErr => return releaseErr

/-- A mutation of the state: `init`, `configure`, `rotate` or `unpair`. -/
def mutateState (p : Process) (op : Operation) : FsProg (Option GoError) :=
  withConfigLock p (runStateTransaction op)

/-- `RecoverState` -/
def recoverState (p : Process) : FsProg (Option GoError) := withConfigLock p (return none)

end Hooshix.Agent.StateTransaction
