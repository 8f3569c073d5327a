-- SUMMARY: The config lock: every file-system call of withConfigLock, for any number of processes.
import Hooshix.Lib.StepSystem
import Mathlib.Logic.Function.Basic

/-! # The config lock

`withConfigLock` on one state directory. Each call on the lock path is one step, and a process is
where its next call stands. A process is named by its PID; within a process the callers wait for each
other before the file is touched. A file keeps an identity and the process that created it, which the
code does not see. Times are nanoseconds.
-/

namespace Hooshix.Agent.ConfigLock

open StepSystem

def configLockWait : Nat := 5000000000

def legacyLockStaleAfter : Nat := 30000000000

/-- The bytes of a lock file, as far as the code tells them apart. -/
inductive Content where
  /-- only white space; a file that was just created has size zero -/
  | blank (size : Nat)
  /-- a record that `decodeConfigLockRecord` accepts -/
  | record (pid createdAt : Nat)
  /-- anything else -/
  | invalid (tag : Nat)
  deriving DecidableEq, Repr

structure LockFile where
  id : Nat
  content : Content
  modTime : Nat
  creator : Option Nat
  deriving DecidableEq, Repr

/-- What a waiting process has seen of the lock. -/
inductive Observation where
  | none
  | legacy (modTime size : Nat)
  | record (data : Content)
  deriving DecidableEq, Repr

/-- The next call of a process in `withConfigLock`. -/
inductive Place where
  | idle
  /-- `os.OpenFile` with `O_EXCL` -/
  | creating
  /-- `os.Lstat` after a create that failed otherwise than with `os.ErrExist` -/
  | createFailed
  /-- the record is to be written to the file just created -/
  | created (id : Nat)
  /-- `os.Remove` after the record could not be written -/
  | abandon (id : Nat)
  /-- in `recoverStateTransaction` -/
  | recovering (id : Nat) (data : Content)
  /-- in the protected operation -/
  | operating (id : Nat) (data : Content)
  /-- `os.ReadFile` of `releaseOwnedConfigLock` -/
  | releaseRead (id : Nat) (data : Content) (deadline : Nat)
  /-- `os.Remove` of `releaseOwnedConfigLock` -/
  | releaseRemove (id : Nat) (data : Content) (deadline : Nat)
  /-- `os.Lstat` of `inspectConfigLockWithProcessCheck` -/
  | lstat (now : Nat)
  /-- its `os.ReadFile` -/
  | read (now modTime : Nat)
  /-- its decision, with the question whether the recorded process is alive -/
  | judge (now modTime : Nat) (data : Content)
  /-- `os.Lstat` of `removeUnchangedLock` -/
  | recheck (expected : Content) (modTime : Nat)
  /-- its `os.ReadFile`; `seen` is the file of the `os.Lstat` -/
  | reread (expected : Content) (seen : Nat)
  /-- its `os.Remove` -/
  | remove (seen : Nat)
  deriving DecidableEq, Repr

structure Process where
  alive : Bool
  place : Place
  lastObservation : Observation
  deadline : Nat
  deriving DecidableEq, Repr

/-- A removed lock file: who removed it, who had created it and whether that process was alive. -/
structure Removal where
  remover : Nat
  creator : Option Nat
  creatorAlive : Bool
  deriving DecidableEq, Repr

structure System where
  now : Nat
  file : Option LockFile
  nextID : Nat
  procs : Nat → Process
  removals : List Removal

namespace System

variable (s : System) (p : Nat)

def set (proc : Process) : System := { s with procs := Function.update s.procs p proc }

def goto (place : Place) : System := s.set p { s.procs p with place }

/-- The process that created the file is alive. -/
def creatorAlive (f : LockFile) : Bool :=
  match f.creator with
  | some q => (s.procs q).alive
  | none => false

def create : System :=
  System.goto { s with file := some ⟨s.nextID, .blank 0, s.now, some p⟩, nextID := s.nextID + 1 } p
    (.created s.nextID)

/-- `os.Remove` of the lock path; the process goes on at `place` whether or not there is a file. -/
def unlink (place : Place) : System :=
  match s.file with
  | none => s.goto p place
  | some f =>
    System.goto { s with
      file := none
      removals := s.removals ++ [⟨p, f.creator, s.creatorAlive f⟩] } p place

/-- The lock was not reclaimed: a new observation renews the bounded wait. -/
def wait (observation : Observation) : System :=
  let proc := s.procs p
  let deadline :=
    if observation ≠ proc.lastObservation then s.now + configLockWait else proc.deadline
  s.set p { proc with
    place := if deadline < s.now then .idle else .creating
    lastObservation := observation
    deadline }

/-- The decision of `inspectConfigLockWithProcessCheck` over the data it has read. -/
def judge (now modTime : Nat) : Content → System
  | .blank size =>
    if now < modTime + legacyLockStaleAfter then s.wait p (.legacy modTime size)
    else s.goto p (.recheck (.blank size) modTime)
  | .record pid createdAt =>
    if pid = p ∨ (s.procs pid).alive then s.wait p (.record (.record pid createdAt))
    else s.goto p (.recheck (.record pid createdAt) modTime)
  | .invalid _ => s.goto p .idle

/-- The next call of a process; `fails` makes it fail with an error of its own. -/
def call (fails : Bool) : Option System :=
  match (s.procs p).place with
  | .creating =>
    if fails then some (s.goto p .createFailed)
    else match s.file with
    | none => some (s.create p)
    | some _ => some (s.goto p (.lstat s.now))
  | .createFailed =>
    match s.file with
    | none => some (s.goto p .idle)
    | some _ => some (s.goto p (.lstat s.now))
  | .lstat now =>
    if fails then some (s.goto p .idle)
    else match s.file with
    | none => some (s.goto p .creating)
    | some f => some (s.goto p (.read now f.modTime))
  | .read now modTime =>
    if fails then some (s.goto p .idle)
    else match s.file with
    | none => some (s.goto p .creating)
    | some f => some (s.goto p (.judge now modTime f.content))
  | .judge now modTime data => some (s.judge p now modTime data)
  | .recheck expected modTime =>
    if fails then some (s.goto p .idle)
    else match s.file with
    | none => some (s.goto p .creating)
    | some f =>
      if f.modTime ≠ modTime then some (s.wait p .none)
      else some (s.goto p (.reread expected f.id))
  | .reread expected seen =>
    if fails then some (s.goto p .idle)
    else match s.file with
    | none => some (s.goto p .creating)
    | some f =>
      if f.content ≠ expected then some (s.wait p .none) else some (s.goto p (.remove seen))
  | .remove _ => if fails then some (s.goto p .idle) else some (s.unlink p .creating)
  | .abandon _ => if fails then some (s.goto p .idle) else some (s.unlink p .idle)
  | .releaseRead id data deadline =>
    if fails then some (s.goto p .idle)
    else match s.file with
    | none => some (s.goto p .idle)
    | some f =>
      if f.content ≠ data then some (s.goto p .idle)
      else some (s.goto p (.releaseRemove id data deadline))
  | .releaseRemove id data deadline =>
    if fails then
      some (s.goto p (if deadline < s.now then .idle else .releaseRead id data deadline))
    else some (s.unlink p .idle)
  | .idle | .created _ | .recovering _ _ | .operating _ _ => none

/-- What a write to the file `id` does to the lock path; a file that was removed is not there. -/
def overwrite (id : Nat) (content : Content) : System :=
  { s with file := s.file.map fun f =>
      if f.id = id then { f with content, modTime := s.now } else f }

end System

/-- The record of a process is written, or the write or its sync fails and leaves something. -/
inductive WriteOutcome where
  | done
  | failed (left : Content)
  deriving DecidableEq, Repr

inductive Label where
  /-- a process enters `withConfigLock` -/
  | enter (p : Nat)
  | call (p : Nat) (fails : Bool)
  | write (p : Nat) (outcome : WriteOutcome)
  /-- recovery or the operation returns -/
  | finish (p : Nat) (succeeds : Bool)
  | crash (p : Nat)
  | advance (duration : Nat)
  deriving DecidableEq, Repr

/-- What a failed write of the process `p` can leave: nothing, a part, or the record without a sync. -/
def Content.leftBy (p now : Nat) : Content → Bool
  | .blank size => size = 0
  | .record pid createdAt => pid = p ∧ createdAt = now
  | .invalid _ => true

/-- One step of a live process, of a crash, or of time. -/
def step (s : System) : Label → Option System
  | .enter p =>
    if (s.procs p).alive ∧ (s.procs p).place = .idle then
      some (s.set p ⟨true, .creating, .none, s.now + configLockWait⟩)
    else none
  | .call p fails => if (s.procs p).alive then s.call p fails else none
  | .write p outcome =>
    if (s.procs p).alive then
      match (s.procs p).place with
      | .created id =>
        match outcome with
        | .done =>
          some ((s.overwrite id (.record p s.now)).goto p (.recovering id (.record p s.now)))
        | .failed left =>
          if left.leftBy p s.now then some ((s.overwrite id left).goto p (.abandon id)) else none
      | _ => none
    else none
  | .finish p succeeds =>
    if (s.procs p).alive then
      match (s.procs p).place with
      | .recovering id data =>
        some (s.goto p (if succeeds then .operating id data
          else .releaseRead id data (s.now + configLockWait)))
      | .operating id data => some (s.goto p (.releaseRead id data (s.now + configLockWait)))
      | _ => none
    else none
  | .crash p =>
    if (s.procs p).alive then some (s.set p { s.procs p with alive := false }) else none
  | .advance duration => some { s with now := s.now + duration }

/-- A lock path before any process enters: no file, or one that no live process created and whose
    record, if it has one, is of a process that is gone. -/
structure Start (s : System) : Prop where
  places : ∀ p, (s.procs p).place = .idle
  file : ∀ {f}, s.file = some f → f.id < s.nextID ∧ s.creatorAlive f = false
  record : ∀ {f pid createdAt}, s.file = some f → f.content = .record pid createdAt →
    (s.procs pid).alive = false
  removals : s.removals = []

/-- Inside the section that the lock protects. -/
def Place.inside : Place → Bool
  | .recovering _ _ | .operating _ _ => true
  | _ => false

/-- No two live processes are inside, and no lock file of another live process was removed. -/
structure Excludes (s : System) : Prop where
  alone : ∀ {p q}, (s.procs p).alive = true → (s.procs q).alive = true →
    (s.procs p).place.inside = true → (s.procs q).place.inside = true → p = q
  removals : ∀ r ∈ s.removals, r.creator = some r.remover ∨ r.creatorAlive = false

/-- The condition on steps: a process that removes a lock as stale finds the file that it has
    reinspected, and no lock file of a live process stays blank until it counts as stale. -/
def undisturbed (s : System) : Label → Bool
  | .call p false =>
    match (s.procs p).place, s.file with
    | .remove seen, some f => f.id = seen
    | _, _ => true
  | .advance duration =>
    match s.file with
    | some ⟨id, .blank size, modTime, creator⟩ =>
      !s.creatorAlive ⟨id, .blank size, modTime, creator⟩ ||
        decide (s.now + duration < modTime + legacyLockStaleAfter)
    | _ => true
  | _ => true

/-! ## The invariant -/

/-- The file that a process believes to be its own lock. -/
def Place.owned : Place → Option Nat
  | .created id | .abandon id | .recovering id _ | .operating id _ => some id
  | .releaseRead id _ _ | .releaseRemove id _ _ => some id
  | _ => none

def Content.isBlank : Content → Bool
  | .blank _ => true
  | _ => false

/-- A content that speaks for no live process. -/
def Gone (s : System) : Content → Prop
  | .blank _ => True
  | .record pid _ => (s.procs pid).alive = false
  | .invalid _ => False

/-- A lock that may be reclaimed: of a process that is gone, or blank and old. -/
structure Reclaimable (s : System) (expected : Content) (modTime : Nat) : Prop where
  gone : Gone s expected
  old : expected.isBlank = true → modTime + legacyLockStaleAfter ≤ s.now

/-- What a process that inspects the lock knows at its place. -/
def Knows (s : System) : Place → Prop
  | .lstat now | .read now _ | .judge now _ _ => now ≤ s.now
  | .recheck expected modTime => Reclaimable s expected modTime
  | .reread expected seen =>
    seen < s.nextID ∧ Gone s expected ∧
      ∀ {f}, s.file = some f → f.id = seen → expected.isBlank = true → f.content.isBlank = true →
        s.creatorAlive f = false
  | .remove seen =>
    seen < s.nextID ∧ ∀ {f}, s.file = some f → f.id = seen → s.creatorAlive f = false
  | _ => True

/-- The lock path holds the file that a live process believes to own. -/
structure Owns (s : System) (p : Nat) (place : Place) : Prop where
  file : ∀ {id}, place.owned = some id → ∃ f, s.file = some f ∧ f.id = id ∧ f.creator = some p
  blank : ∀ {id f}, place = .created id → s.file = some f → f.content.isBlank = true

variable {s : System}

theorem Owns.creator {p id : Nat} {place : Place} {f : LockFile} (h : Owns s p place)
    (hid : place.owned = some id) (hf : s.file = some f) : f.creator = some p := by
  obtain ⟨g, hg, -, hcreator⟩ := h.file hid
  rw [hf] at hg
  cases hg
  exact hcreator

structure Sound (s : System) : Prop where
  fresh : ∀ {f}, s.file = some f → f.id < s.nextID
  /-- the record in a lock file names its creator, unless that one is gone -/
  record : ∀ {f pid createdAt}, s.file = some f → f.content = .record pid createdAt →
    f.creator = some pid ∨ s.creatorAlive f = false
  young : ∀ {f}, s.file = some f → f.content.isBlank = true → s.creatorAlive f = true →
    s.now < f.modTime + legacyLockStaleAfter
  owns : ∀ {p}, (s.procs p).alive = true → Owns s p (s.procs p).place
  knows : ∀ {p}, (s.procs p).alive = true → Knows s (s.procs p).place
  removals : ∀ r ∈ s.removals, r.creator = some r.remover ∨ r.creatorAlive = false

theorem Start.sound (h : Start s) : Sound s where
  fresh hf := (h.file hf).1
  record hf _ := .inr (h.file hf).2
  young hf _ halive := by
    rw [(h.file hf).2] at halive
    cases halive
  owns {p} _ := by
    rw [h.places p]
    exact ⟨fun hid => (by cases hid), fun hplace => by cases hplace⟩
  knows {p} _ := by
    rw [h.places p]
    trivial
  removals := by simp [h.removals]

/-- Two live processes that own the file are one. -/
theorem Sound.excludes (h : Sound s) : Excludes s where
  alone {p q} hp hq hinp hinq := by
    have howned : ∀ {place : Place}, place.inside = true → ∃ id, place.owned = some id := by
      intro place hinside
      cases place with
      | recovering id data | operating id data => exact ⟨id, rfl⟩
      | _ => cases hinside
    obtain ⟨i, hi⟩ := howned hinp
    obtain ⟨j, hj⟩ := howned hinq
    obtain ⟨f, hf, -, hcreator⟩ := (h.owns hp).file hi
    obtain ⟨g, hg, -, hcreator'⟩ := (h.owns hq).file hj
    rw [hf] at hg
    cases hg
    rw [hcreator] at hcreator'
    exact Option.some.inj hcreator'
  removals := h.removals

/-! ## Moves of one process -/

section Moves

variable {s : System} {p : Nat} {t : System} {place : Place} {proc : Process}

@[simp] theorem procs_set (proc : Process) (q : Nat) :
    (s.set p proc).procs q = if q = p then proc else s.procs q := by
  simp [System.set, Function.update_apply]

/-- A change of one process that does not raise it from the dead keeps what is alive. -/
theorem alive_set (halive : proc.alive = (s.procs p).alive) (q : Nat) :
    ((s.set p proc).procs q).alive = (s.procs q).alive := by
  rw [procs_set]
  split
  next hq => rw [hq, halive]
  · rfl

theorem goto_goto (first second : Place) : (s.goto p first).goto p second = s.goto p second := by
  simp [System.goto, System.set]

theorem creatorAlive_goto (place : Place) (f : LockFile) :
    (s.goto p place).creatorAlive f = s.creatorAlive f := by
  simp only [System.creatorAlive]
  split
  · exact alive_set (rfl : ({ s.procs p with place } : Process).alive = _) _
  · rfl

theorem creatorAlive_mono {f : LockFile} (h : t.creatorAlive f = true)
    (halive : ∀ {q}, (t.procs q).alive = true → (s.procs q).alive = true) :
    s.creatorAlive f = true := by
  simp only [System.creatorAlive] at h ⊢
  split at h
  · exact halive h
  · cases h

theorem Gone.mono {content : Content} (h : Gone s content)
    (hgone : ∀ {q}, (s.procs q).alive = false → (t.procs q).alive = false) : Gone t content := by
  cases content with
  | blank size => trivial
  | record pid createdAt => exact hgone h
  | invalid tag => exact h

/-- What is known stays true as time passes, processes die and files come, as long as a file that was
    there is at most filled. -/
theorem Knows.mono (h : Knows s place) (hnow : s.now ≤ t.now) (hnext : s.nextID ≤ t.nextID)
    (hgone : ∀ {q}, (s.procs q).alive = false → (t.procs q).alive = false)
    (hfile : ∀ {g}, t.file = some g → g.id < s.nextID → t.creatorAlive g = true →
      ∃ f, s.file = some f ∧ f.id = g.id ∧ s.creatorAlive f = true ∧
        (g.content.isBlank = true → f.content.isBlank = true)) :
    Knows t place := by
  cases place with
  | lstat now | read now modTime | judge now modTime data => exact Nat.le_trans h hnow
  | recheck expected modTime =>
    exact ⟨h.gone.mono hgone, fun hblank => Nat.le_trans (h.old hblank) hnow⟩
  | reread expected seen =>
    obtain ⟨hseen, hrecord, hblank⟩ := h
    refine ⟨Nat.lt_of_lt_of_le hseen hnext, hrecord.mono hgone, ?_⟩
    intro g hg hid hexpected hcontent
    rw [← Bool.not_eq_true]
    intro halive
    obtain ⟨f, hf, hsame, hlive, hfilled⟩ := hfile hg (hid ▸ hseen) halive
    rw [hblank hf (hsame.trans hid) hexpected (hfilled hcontent)] at hlive
    cases hlive
  | remove seen =>
    obtain ⟨hseen, hfree⟩ := h
    refine ⟨Nat.lt_of_lt_of_le hseen hnext, ?_⟩
    intro g hg hid
    rw [← Bool.not_eq_true]
    intro halive
    obtain ⟨f, hf, hsame, hlive, -⟩ := hfile hg (hid ▸ hseen) halive
    rw [hfree hf (hsame.trans hid)] at hlive
    cases hlive
  | _ => trivial

/-- The file stays while processes move on or die and time passes. -/
theorem Sound.sameFile (h : Sound s) (hfile : t.file = s.file) (hnext : t.nextID = s.nextID)
    (hnow : s.now ≤ t.now) (hremovals : t.removals = s.removals)
    (hyoung : ∀ {f}, s.file = some f → f.content.isBlank = true → s.creatorAlive f = true →
      t.now < f.modTime + legacyLockStaleAfter)
    (halive : ∀ {q}, (t.procs q).alive = true →
      (s.procs q).alive = true ∧ Owns s q (t.procs q).place ∧ Knows s (t.procs q).place) :
    Sound t := by
  have hcreator : ∀ {f}, t.creatorAlive f = true → s.creatorAlive f = true :=
    fun hlive => creatorAlive_mono hlive fun hq => (halive hq).1
  constructor
  · rw [hfile, hnext]
    exact h.fresh
  · intro f pid createdAt hf hcontent
    rcases h.record (hfile ▸ hf) hcontent with hcreated | hgone
    · exact .inl hcreated
    · right
      rw [← Bool.not_eq_true] at hgone ⊢
      exact fun hlive => hgone (hcreator hlive)
  · rw [hfile]
    exact fun hf hblank hlive => hyoung hf hblank (hcreator hlive)
  · intro q hq
    obtain ⟨-, howns, -⟩ := halive hq
    exact ⟨hfile ▸ howns.file, hfile ▸ howns.blank⟩
  · intro q hq
    refine (halive hq).2.2.mono hnow (Nat.le_of_eq hnext.symm) ?_ ?_
    · intro r hgone
      rw [← Bool.not_eq_true] at hgone ⊢
      exact fun hr => hgone (halive hr).1
    · intro g hg _ hlive
      exact ⟨g, hfile ▸ hg, rfl, hcreator hlive, fun hblank => hblank⟩
  · rw [hremovals]
    exact h.removals

/-- One live process moves on. -/
theorem Sound.set (h : Sound s) (halive : proc.alive = (s.procs p).alive)
    (howns : Owns s p proc.place) (hknows : Knows s proc.place) : Sound (s.set p proc) := by
  refine h.sameFile rfl rfl (Nat.le_refl _) rfl h.young ?_
  intro q hq
  rw [alive_set halive] at hq
  rw [procs_set]
  split
  next heq =>
    subst heq
    exact ⟨hq, howns, hknows⟩
  · exact ⟨hq, h.owns hq, h.knows hq⟩

theorem Sound.goto (h : Sound s) (howns : Owns s p place)
    (hknows : Knows s place) : Sound (s.goto p place) :=
  h.set rfl howns hknows

/-- A process that owns nothing at its place. -/
theorem owns_nothing (h : place.owned = none) : Owns s p place where
  file hid := by rw [h] at hid; cases hid
  blank hplace := by rw [hplace] at h; cases h

theorem Sound.idle (h : Sound s) : Sound (s.goto p .idle) := h.goto (owns_nothing rfl) trivial

theorem Sound.creating (h : Sound s) : Sound (s.goto p .creating) :=
  h.goto (owns_nothing rfl) trivial

theorem Sound.wait (h : Sound s) (observation : Observation) : Sound (s.wait p observation) := by
  simp only [System.wait]
  generalize (if observation ≠ (s.procs p).lastObservation then s.now + configLockWait
    else (s.procs p).deadline) = deadline
  refine h.set ?_ ?_ ?_
  · rfl
  · split <;> exact owns_nothing rfl
  · split
    · trivial
    · trivial

end Moves

/-! ## Changes of the file -/

section File

variable {s : System} {p : Nat} {f : LockFile} {content : Content}

theorem creatorAlive_of_creator (hcreator : f.creator = some p)
    (halive : (s.procs p).alive = true) : s.creatorAlive f = true := by
  simp only [System.creatorAlive, hcreator]
  exact halive

/-- A process creates the lock file where there is none. -/
theorem Sound.create (h : Sound s) (hnone : s.file = none) : Sound (s.create p) := by
  have hfile : Sound { s with
      file := some ⟨s.nextID, .blank 0, s.now, some p⟩, nextID := s.nextID + 1 } := by
    constructor
    · rintro f hf
      cases hf
      exact Nat.lt_succ_self _
    · rintro f pid createdAt hf hcontent
      cases hf
      cases hcontent
    · rintro f hf - -
      cases hf
      exact Nat.lt_add_of_pos_right (by decide)
    · intro q hq
      -- without a file nobody owns one
      apply owns_nothing
      cases howned : (s.procs q).place.owned with
      | none => rfl
      | some id =>
        obtain ⟨f, hf, -⟩ := (h.owns hq).file howned
        cases hnone.symm.trans hf
    · intro q hq
      refine (h.knows hq).mono (Nat.le_refl _) (Nat.le_succ _) (fun hgone => hgone) ?_
      intro g hg hlt
      cases hg
      exact absurd hlt (Nat.lt_irrefl _)
    · exact h.removals
  refine hfile.goto ⟨?_, ?_⟩ trivial
  · intro id hid
    cases hid
    exact ⟨_, rfl, rfl, rfl⟩
  · intro id f hplace hf
    cases hf
    rfl

/-- The lock file goes while nobody owns it. -/
theorem Sound.withoutFile (h : Sound s)
    (howned : ∀ {q}, (s.procs q).alive = true → (s.procs q).place.owned = none) {r : Removal}
    (hr : r.creator = some r.remover ∨ r.creatorAlive = false) :
    Sound { s with file := none, removals := s.removals ++ [r] } where
  fresh hg := by cases hg
  record hg := by cases hg
  young hg := by cases hg
  owns hq := owns_nothing (howned hq)
  knows hq := (h.knows hq).mono (Nat.le_refl _) (Nat.le_refl _) (fun hgone => hgone)
    fun hg => by cases hg
  removals := List.forall_mem_append.mpr ⟨h.removals, List.forall_mem_singleton.mpr hr⟩

/-- Only the creator of the file owns it. -/
theorem Sound.unowned (h : Sound s) (hf : s.file = some f)
    (hfree : f.creator = some p ∨ s.creatorAlive f = false)
    (hmine : (s.procs p).place.owned = none) {q : Nat} (hq : (s.procs q).alive = true) :
    (s.procs q).place.owned = none := by
  cases howned : (s.procs q).place.owned with
  | none => rfl
  | some id =>
    have hcreator := (h.owns hq).creator howned hf
    rcases hfree with hcreated | hgone
    · cases hcreated.symm.trans hcreator
      cases hmine.symm.trans howned
    · cases hgone.symm.trans (creatorAlive_of_creator hcreator hq)

/-- The lock file is removed by its creator, or its creator is gone. -/
theorem Sound.unlink (h : Sound s) {place : Place} (hplace : place = .idle ∨ place = .creating)
    (hfree : ∀ {f}, s.file = some f → f.creator = some p ∨ s.creatorAlive f = false) :
    Sound (s.unlink p place) := by
  have hgoto : Sound (s.goto p place) := by
    rcases hplace with rfl | rfl
    · exact h.idle
    · exact h.creating
  have hmine : ((s.goto p place).procs p).place.owned = none := by
    rcases hplace with rfl | rfl <;> simp [System.goto, Place.owned]
  simp only [System.unlink]
  split
  · exact hgoto
  next f hf =>
    refine hgoto.withoutFile (hgoto.unowned hf ?_ hmine) (hfree hf)
    rw [creatorAlive_goto]
    exact hfree hf

/-- A blank lock file that nobody owns any more is filled. -/
theorem Sound.fill (h : Sound s) (hf : s.file = some f) (hblank : f.content.isBlank = true)
    (howned : ∀ {q}, (s.procs q).alive = true → (s.procs q).place.owned = none)
    (hcontent : ∀ {pid createdAt}, content = .record pid createdAt → f.creator = some pid) :
    Sound { s with file := some { f with content, modTime := s.now } } where
  fresh := by
    rintro _ ⟨⟩
    exact (h.fresh hf : f.id < s.nextID)
  record := by
    rintro _ pid createdAt ⟨⟩ hrecord
    exact .inl (hcontent hrecord)
  young := by
    rintro _ ⟨⟩ - -
    exact Nat.lt_add_of_pos_right (by decide)
  owns hq := owns_nothing (howned hq)
  knows hq := by
    refine (h.knows hq).mono (Nat.le_refl _) (Nat.le_refl _) (fun hgone => hgone) ?_
    rintro _ ⟨⟩ - hlive
    exact ⟨f, hf, rfl, hlive, fun _ => hblank⟩
  removals := h.removals

/-- The creator of a blank lock file writes to it. -/
theorem Sound.overwrite (h : Sound s) (halive : (s.procs p).alive = true) {id : Nat}
    (hplace : (s.procs p).place = .created id)
    (hcontent : ∀ {pid createdAt}, content = .record pid createdAt → pid = p) :
    Sound ((s.overwrite id content).goto p .idle) ∧
      ∃ f, (s.overwrite id content).file = some f ∧ f.id = id ∧ f.creator = some p := by
  have hholds : (s.procs p).place.owned = some id := by rw [hplace]; rfl
  obtain ⟨f, hf, hid, hcreator⟩ := (h.owns halive).file hholds
  have hfile : (s.overwrite id content).file = some { f with content, modTime := s.now } := by
    simp [System.overwrite, hf, hid]
  refine ⟨?_, _, hfile, hid, hcreator⟩
  have hidle : Sound (s.goto p .idle) := h.idle
  have hmine : ((s.goto p .idle).procs p).place.owned = none := by simp [System.goto, Place.owned]
  have heq : (s.overwrite id content).goto p .idle =
      { s.goto p .idle with file := some { f with content, modTime := s.now } } := by
    rw [← hfile]
    rfl
  rw [heq]
  exact hidle.fill hf ((h.owns halive).blank hplace hf) (hidle.unowned hf (.inl hcreator) hmine)
    fun hrecord => hcontent hrecord ▸ hcreator

end File

/-! ## Runs -/

section Runs

variable {s s' : System} {p : Nat} (h : Sound s) {place : Place} {fails : Bool} {f : LockFile}
  {id : Nat}

include h

/-- A place in the section of a process or on its way out keeps the file of the one before. -/
theorem Sound.keep (halive : (s.procs p).alive = true)
    (howned : ∀ {id}, place.owned = some id → (s.procs p).place.owned = some id)
    (hknows : Knows s place) (hcreated : ∀ {id}, place ≠ .created id) : Sound (s.goto p place) :=
  h.goto ⟨fun hid => (h.owns halive).file (howned hid), fun hplace => absurd hplace hcreated⟩ hknows

/-- The decision of an inspection. -/
theorem Sound.judge {now modTime : Nat} (hnow : now ≤ s.now) (data : Content) :
    Sound (s.judge p now modTime data) := by
  cases data with
  | blank size =>
    simp only [System.judge]
    split
    · exact h.wait _
    next hold =>
      refine h.goto (owns_nothing rfl) ⟨trivial, fun _ => ?_⟩
      omega
  | record pid createdAt =>
    simp only [System.judge]
    split
    · exact h.wait _
    next hgone =>
      refine h.goto (owns_nothing rfl) ⟨?_, fun hblank => by cases hblank⟩
      simpa [Gone] using (not_or.mp hgone).2
  | invalid tag => exact h.idle

/-- A call that looks at the lock file fails, finds none, or goes on with the file. -/
theorem Sound.inspect {found : LockFile → Option System}
    (hfound : ∀ {f}, s.file = some f → found f = some s' → Sound s')
    (hcall : (if fails = true then some (s.goto p .idle)
      else match s.file with
        | none => some (s.goto p .creating)
        | some f => found f) = some s') : Sound s' := by
  split at hcall
  · cases hcall; exact h.idle
  split at hcall
  · cases hcall; exact h.creating
  next hf => exact hfound hf hcall

/-- The file to remove has still the time it was judged by. -/
theorem Sound.recheck {expected : Content}
    (hknown : Knows s (.recheck expected f.modTime)) (hf : s.file = some f) :
    Sound (s.goto p (.reread expected f.id)) := by
  refine h.goto (owns_nothing rfl) ⟨h.fresh hf, hknown.gone, ?_⟩
  intro g hg _ hexpected hblank
  cases hf.symm.trans hg
  -- a blank file of a live process would be too young
  rw [← Bool.not_eq_true]
  intro hlive
  have hyoung := h.young hf hblank hlive
  have hold := hknown.old hexpected
  omega

/-- The file to remove has still the content it was judged by. -/
theorem Sound.reread {seen : Nat} (hknown : Knows s (.reread f.content seen))
    (hf : s.file = some f) : Sound (s.goto p (.remove seen)) := by
  obtain ⟨hseen, hrecord, hblank⟩ := hknown
  refine h.goto (owns_nothing rfl) ⟨hseen, ?_⟩
  intro g hg hid
  cases hf.symm.trans hg
  cases hcontent : f.content with
  | blank size =>
    exact hblank hf hid (by rw [hcontent]; rfl) (by rw [hcontent]; rfl)
  | record pid createdAt =>
    rw [hcontent] at hrecord
    rcases h.record hf hcontent with hcreator | hgone
    · simp only [System.creatorAlive, hcreator]
      exact hrecord
    · exact hgone
  | invalid tag =>
    rw [hcontent] at hrecord
    exact hrecord.elim

/-- The creator of the file removes it. -/
theorem Sound.unlinkOwn (halive : (s.procs p).alive = true)
    (howned : (s.procs p).place.owned = some id) : Sound (s.unlink p .idle) :=
  h.unlink (.inl rfl) fun hf => .inl ((h.owns halive).creator howned hf)

/-- The file that is removed as stale is the one that was reinspected. -/
theorem Sound.call (halive : (s.procs p).alive = true)
    (hguard : undisturbed s (.call p fails) = true) (hcall : s.call p fails = some s') :
    Sound s' := by
  have hknown := h.knows halive
  simp only [System.call] at hcall
  split at hcall
  next hplace =>  -- creating
    split at hcall
    · cases hcall
      exact h.goto (owns_nothing rfl) trivial
    split at hcall <;> cases hcall
    next hnone => exact h.create hnone
    next => exact h.goto (owns_nothing rfl) (Nat.le_refl _)
  next hplace =>  -- createFailed
    split at hcall <;> cases hcall
    · exact h.idle
    · exact h.goto (owns_nothing rfl) (Nat.le_refl _)
  next now hplace =>  -- lstat
    rw [hplace] at hknown
    refine h.inspect (fun _ hnext => ?_) hcall
    cases hnext
    exact h.goto (owns_nothing rfl) hknown
  next now modTime hplace =>  -- read
    rw [hplace] at hknown
    refine h.inspect (fun _ hnext => ?_) hcall
    cases hnext
    exact h.goto (owns_nothing rfl) hknown
  next now modTime data hplace =>  -- judge
    rw [hplace] at hknown
    cases hcall
    exact h.judge hknown data
  next expected modTime hplace =>  -- recheck
    rw [hplace] at hknown
    refine h.inspect (fun hf hnext => ?_) hcall
    split at hnext <;> cases hnext
    · exact h.wait _
    next hsame =>
      obtain rfl := not_not.mp hsame
      exact h.recheck hknown hf
  next expected seen hplace =>  -- reread
    rw [hplace] at hknown
    refine h.inspect (fun hf hnext => ?_) hcall
    split at hnext <;> cases hnext
    · exact h.wait _
    next hequal =>
      obtain rfl := not_not.mp hequal
      exact h.reread hknown hf
  next seen hplace =>  -- remove
    rw [hplace] at hknown
    split at hcall <;> cases hcall
    · exact h.idle
    next hok =>
      apply h.unlink (.inr rfl)
      intro f hf
      rw [Bool.not_eq_true] at hok
      simp only [undisturbed, hok, hplace, hf, decide_eq_true_eq] at hguard
      exact .inr (hknown.2 hf hguard)
  next id hplace =>  -- abandon
    split at hcall <;> cases hcall
    · exact h.idle
    · exact h.unlinkOwn halive (by rw [hplace]; rfl)
  next id data deadline hplace =>  -- releaseRead
    split at hcall
    · cases hcall; exact h.idle
    split at hcall
    · cases hcall; exact h.idle
    split at hcall <;> cases hcall
    · exact h.idle
    · exact h.keep halive (fun hid => by rw [hplace]; exact hid) trivial (by simp)
  next id data deadline hplace =>  -- releaseRemove
    split at hcall <;> cases hcall
    · split
      · exact h.idle
      · exact h.keep halive (fun hid => by rw [hplace]; exact hid) trivial (by simp)
    · exact h.unlinkOwn halive (by rw [hplace]; rfl)
  all_goals cases hcall

theorem Sound.write (halive : (s.procs p).alive = true)
    (hplace : (s.procs p).place = .created id) {content : Content}
    (hcontent : ∀ {pid createdAt}, content = .record pid createdAt → pid = p)
    (howned : place.owned = some id) (hknows : ∀ t, Knows t place)
    (hcreated : ∀ {id}, place ≠ .created id) : Sound ((s.overwrite id content).goto p place) := by
  obtain ⟨hsound, f, hf, hid, hcreator⟩ := h.overwrite halive hplace hcontent
  rw [← goto_goto .idle place]
  refine hsound.goto ⟨?_, fun hp => absurd hp hcreated⟩ (hknows _)
  intro id' hid'
  rw [howned] at hid'
  cases hid'
  exact ⟨f, hf, hid, hcreator⟩

theorem Sound.crash : Sound (s.set p { s.procs p with alive := false }) := by
  refine h.sameFile rfl rfl (Nat.le_refl _) rfl h.young ?_
  intro q hq
  rw [procs_set] at hq ⊢
  split at hq
  · cases hq
  next hne =>
    rw [if_neg hne]
    exact ⟨hq, h.owns hq, h.knows hq⟩

theorem Sound.advance {duration : Nat} (hguard : undisturbed s (.advance duration) = true) :
    Sound { s with now := s.now + duration } := by
  refine h.sameFile rfl rfl (Nat.le_add_right _ _) rfl ?_ fun hq => ⟨hq, h.owns hq, h.knows hq⟩
  rintro ⟨id, content, modTime, creator⟩ hf hblank hlive
  cases content with
  | blank size =>
    simp only [undisturbed, hf, hlive, Bool.not_true, Bool.false_or, decide_eq_true_eq] at hguard
    exact hguard
  | record pid createdAt => cases hblank
  | invalid tag => cases hblank

theorem Sound.step {label : Label} (hguard : undisturbed s label = true)
    (hstep : step s label = some s') : Sound s' := by
  cases label with
  | enter p =>
    obtain ⟨hidle, ⟨⟩⟩ := Option.ite_none_right_eq_some.mp hstep
    exact h.set hidle.1.symm (owns_nothing rfl) trivial
  | call p fails =>
    obtain ⟨halive, hcall⟩ := Option.ite_none_right_eq_some.mp hstep
    exact h.call halive hguard hcall
  | write p outcome =>
    obtain ⟨halive, hwrite⟩ := Option.ite_none_right_eq_some.mp hstep
    split at hwrite
    next id hplace =>
      split at hwrite
      · cases hwrite
        exact h.write halive hplace (fun hr => by cases hr; rfl) rfl (fun _ => trivial) (by simp)
      next left =>
        obtain ⟨hleft, ⟨⟩⟩ := Option.ite_none_right_eq_some.mp hwrite
        refine h.write halive hplace ?_ rfl (fun _ => trivial) (by simp)
        rintro pid createdAt rfl
        simp only [Content.leftBy, decide_eq_true_eq] at hleft
        exact hleft.1
    · cases hwrite
  | finish p succeeds =>
    obtain ⟨halive, hfinish⟩ := Option.ite_none_right_eq_some.mp hstep
    split at hfinish <;> cases hfinish
    next hplace =>
      cases succeeds <;>
        exact h.keep halive (fun hid => by rw [hplace]; exact hid) trivial (by simp)
    next hplace => exact h.keep halive (fun hid => by rw [hplace]; exact hid) trivial (by simp)
  | crash p =>
    obtain ⟨-, ⟨⟩⟩ := Option.ite_none_right_eq_some.mp hstep
    exact h.crash
  | advance duration =>
    cases hstep
    exact h.advance hguard

omit h

/-- In every undisturbed run the lock excludes, from any lock file that was left behind. -/
theorem lock_excludes {labels : List Label} (hstart : Start s)
    (hguard : Along step (fun s label => undisturbed s label = true) s labels)
    (hrun : run step s labels = some s') : Excludes s' :=
  Sound.excludes (invariant_along (fun h hguard hstep => h.step hguard hstep) hstart.sound
    hguard hrun)

end Runs

/-- The lock file of the process 9, which has crashed, and any other processes. -/
def leftBehind : System where
  now := 100
  file := some ⟨0, .record 9 5, 5, some 9⟩
  nextID := 1
  procs p := ⟨p ≠ 9, .idle, .none, 0⟩
  removals := []

theorem start_leftBehind : Start leftBehind where
  places _ := rfl
  file hf := by cases hf; exact ⟨by decide, rfl⟩
  record hf hcontent := by cases hf; cases hcontent; rfl
  removals := rfl

/-- A process enters and inspects the lock up to the call that removes it. -/
def inspect (p : Nat) : List Label := .enter p :: List.replicate 6 (.call p false)

/-- It removes the lock, creates its own and writes its record. -/
def takeOver (p : Nat) : List Label := [.call p false, .call p false, .write p .done]

/-- A process reclaims the lock while another one waits for it. -/
theorem lock_excludes_reclaimed : ∃ t,
    run step leftBehind (inspect 1 ++ takeOver 1 ++ [.enter 2, .call 2 false]) = some t ∧
      (t.procs 1).place.inside = true ∧ (t.procs 2).place = .lstat 100 ∧ Excludes t := by
  refine exists_run rfl fun hrun => ?_
  have hexcludes := lock_excludes start_leftBehind (by decide +kernel) hrun
  cases hrun
  exact ⟨rfl, rfl, hexcludes⟩

/-- Two processes have inspected the same stale lock. The second removes the new lock of the first, and
    both are inside. -/
theorem stale_lock_shared : Start leftBehind ∧ ∃ t,
    run step leftBehind (inspect 1 ++ inspect 2 ++ takeOver 1 ++ takeOver 2) = some t ∧
      (t.procs 1).alive = true ∧ (t.procs 2).alive = true ∧
      (t.procs 1).place.inside = true ∧ (t.procs 2).place.inside = true ∧
      ⟨2, some 1, true⟩ ∈ t.removals :=
  ⟨start_leftBehind, _, rfl, rfl, rfl, rfl, rfl, List.mem_of_getElem? (i := 1) rfl⟩

end Hooshix.Agent.ConfigLock
