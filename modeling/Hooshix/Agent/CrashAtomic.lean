-- SUMMARY: Crash atomicity of state mutations.
import Hooshix.Agent.StateTransaction
import Mathlib.Data.List.Perm.Basic

/-! # Crash atomicity

Between two calls a mutation leaves either no manifest and the state files of one side, or a journal
that holds everything to go back. The exception is the removal of the journal: while the manifest is
there and a backup it lists is gone, nothing can be recovered. So is a state marker that was created
and not written.
-/

namespace Hooshix.Agent.StateTransaction

open Prog Journal

/-- The contents of the state files. -/
abbrev Files := Target → Option Bytes

/-! ## What a crash leaves -/

/-- The manifest tells which of the files `before` existed. -/
structure Manifest.Describes (m : Manifest) (before : Files) : Prop where
  version : m.version = stateTransactionVersion
  exists_eq : ∀ t, m.exists t = (before t).isSome

/-- The journal holds everything that is needed to go back to `before`. -/
structure Journalled (before : Files) (j : Journal) (m : Manifest) : Prop where
  manifest : j.manifest = some m
  describes : m.Describes before
  backup : ∀ {t data}, before t = some data → j.backup t = some data

/-- Recovery leads to `before`, or stays at one of `before` and `after`. -/
def Recoverable (before after : Files) (d : Disk) : Prop :=
  d.journal.bind (·.manifest) = none ∧ (d.file = before ∨ d.file = after) ∨
    ∃ j m, d.journal = some j ∧ Journalled before j m

/-- The state marker is absent or complete. -/
def Disk.marked (d : Disk) : Prop := d.marker = none ∨ d.marker = some stateMarkerContents

/-- The condition on the disk that a crash leaves: the marker is not torn, and a manifest still has
    the backups it lists. -/
structure Intact (d : Disk) : Prop where
  marked : d.marked
  backups : ∀ {j m t}, d.journal = some j → j.manifest = some m → m.exists t = true →
    j.backup t ≠ none

/-- Every crash that leaves an intact disk leaves a recoverable one. -/
def Survives (before after : Files) (d : Disk) : Prop :=
  Intact d → Recoverable before after d

/-- The disk while a process works on it. -/
structure Ready (before after : Files) (d : Disk) : Prop where
  marker : d.marker = some stateMarkerContents
  recoverable : Recoverable before after d

variable {before after : Files} {d : Disk} {m : Manifest}

theorem Recoverable.survives (h : Recoverable before after d) : Survives before after d :=
  fun _ => h

theorem Recoverable.mono (h : Recoverable before before d) : Recoverable before after d := by
  rcases h with ⟨hnone, hfile⟩ | hjournalled
  · exact .inl ⟨hnone, .inl (or_self_iff.mp hfile)⟩
  · exact .inr hjournalled

theorem Ready.survives (h : Ready before after d) : Survives before after d :=
  h.recoverable.survives

variable {j : Journal} {C : Disk → Prop}

theorem Journalled.recoverable (h : Journalled before j m) (hj : d.journal = some j) :
    Recoverable before after d :=
  .inr ⟨j, m, hj, h⟩

/-- A call, and then the rest of the program from each of its outcomes. -/
theorem call_bind {α : Type} {Q : α → Disk → Prop} {c : Call} {rest : Answer c → FsProg α}
    (hC : C d) (hrest : ∀ answer d', perform d c answer d' → CrashSafe perform C Q (rest answer) d') :
    CrashSafe perform C Q (call c >>= rest) d :=
  ⟨hC, hrest⟩

/-! ## Removing the journal -/

/-- An entry is in the journal directory. -/
def Journal.has (j : Journal) : Entry → Bool
  | .backup target => (j.backup target).isSome
  | .temp => j.temp.isSome
  | .manifest => j.manifest.isSome

theorem Journal.mem_entries {e : Entry} : e ∈ j.entries ↔ j.has e = true := by
  have hif : ∀ (b : Bool) (x : Entry), e ∈ (if b then [x] else []) ↔ b = true ∧ e = x := by
    intro b x
    cases b <;> simp
  simp only [entries, List.mem_append, hif]
  cases e with
  | backup target => cases target <;> simp [has]
  | temp | manifest => simp [has]

theorem Journal.has_unlink {e e' : Entry} :
    (j.unlink e).has e' = true ↔ e' ≠ e ∧ j.has e' = true := by
  cases e <;> cases e' <;>
    simp [Journal.unlink, has, Function.update_apply, Option.isSome_iff_ne_none]

/-- A journal of which entries may be gone, over the state files of one side. -/
structure Removing (before : Files) (d d' : Disk) (j : Journal) : Prop where
  disk : d' = { d with journal := some j }
  describes : ∀ {m}, j.manifest = some m → m.Describes before
  backup : ∀ {m t data}, j.manifest = some m → before t = some data →
    j.backup t = some data ∨ j.backup t = none

theorem Removing.survives {d' : Disk} (h : Removing before d d' j)
    (hfile : d.file = before ∨ d.file = after) : Survives before after d' := by
  intro hintact
  cases hmanifest : j.manifest with
  | none =>
    left
    rw [h.disk]
    exact ⟨by simpa using hmanifest, hfile⟩
  | some m =>
    right
    refine ⟨j, m, by rw [h.disk], hmanifest, h.describes hmanifest, ?_⟩
    intro t data hdata
    have hexists : m.exists t = true := by
      rw [(h.describes hmanifest).exists_eq, hdata]
      rfl
    have hthere := hintact.backups (by rw [h.disk]) hmanifest hexists
    exact (h.backup hmanifest hdata).resolve_right hthere

theorem Removing.unlink {d' : Disk} (h : Removing before d d' j) (e : Entry) :
    Removing before d (d'.onJournal (·.unlink e)) (j.unlink e) where
  disk := by rw [h.disk]; rfl
  describes {m} hm := by
    apply h.describes
    cases e <;> simp_all [Journal.unlink]
  backup {m t data} hm hdata := by
    have hold : j.manifest = some m := by cases e <;> simp_all [Journal.unlink]
    cases e with
    | backup target =>
      simp only [Journal.unlink, Function.update_apply]
      split
      · exact .inr rfl
      · exact h.backup hold hdata
    | temp | manifest => exact h.backup hold hdata

theorem Journalled.removing (h : Journalled before j m) (hj : d.journal = some j) :
    Removing before d d j where
  disk := by rw [← hj]
  describes hm := by
    rw [h.manifest] at hm
    cases hm
    exact h.describes
  backup _ hdata := .inl (h.backup hdata)

/-- `os.RemoveAll` in any order of the directory. -/
theorem removeAllJournal_safe (h : Removing before d d j)
    (hfile : d.file = before ∨ d.file = after) :
    CrashSafe perform (Survives before after)
      (fun v d' => v = none ∧ d' = { d with journal := none }) removeAllJournal d := by
  refine call_bind (h.survives hfile) ?_
  rintro names d₁ ⟨hperm, rfl⟩
  -- what is left of the directory is among the names still to be unlinked
  refine CrashSafe.bind (CrashSafe.forM
    (I := fun rest d' => ∃ j, Removing before d₁ d' j ∧ ∀ e, j.has e = true → e ∈ rest) ?_ ?_ ?_) ?_
  · rintro rest d' ⟨j', h', -⟩
    exact h'.survives hfile
  · rintro e rest d' ⟨j', h', hrest⟩
    refine ⟨h'.survives hfile, ?_⟩
    rintro - d₂ rfl
    refine ⟨(h'.unlink e).survives hfile, j'.unlink e, h'.unlink e, ?_⟩
    intro e' he'
    obtain ⟨hne, hhas⟩ := has_unlink.mp he'
    exact (List.mem_cons.mp (hrest e' hhas)).resolve_left hne
  · refine ⟨j, h, fun e he => ?_⟩
    have hmem : e ∈ d₁.journal.elim [] (·.entries) := by
      have hj : d₁.journal = some j := by rw [h.disk]
      rw [hj]
      exact mem_entries.mpr he
    exact hperm.mem_iff.mpr hmem
  · rintro - d' ⟨j', h', hrest⟩
    have hempty : j'.entries = [] := by
      apply List.eq_nil_iff_forall_not_mem.mpr
      intro e he
      exact absurd (hrest e (mem_entries.mp he)) (by simp)
    have hall : d'.journal.all (·.entries.isEmpty) = true := by
      rw [h'.disk]
      simp [hempty]
    refine call_bind (h'.survives hfile) ?_
    rintro answer d₂ ⟨hanswer, hd₂⟩
    rw [hall] at hanswer hd₂
    subst hanswer
    have hgone : d₂ = { d₁ with journal := none } := by rw [hd₂, h'.disk]; rfl
    refine ⟨?_, rfl, hgone⟩
    rw [hgone]
    exact fun _ => .inl ⟨rfl, hfile⟩

/-! ## Recovery -/

/-- A state file is put back, whatever it holds. -/
theorem restoreStateFile_safe (h : Journalled before j m) (hj : d.journal = some j) (t : Target) :
    CrashSafe perform (Survives before after)
      (fun v d' => v = none ∧ d' = { d with file := Function.update d.file t (before t) })
      (restoreStateFile t (m.exists t)) d := by
  have hC : ∀ file, Survives before after { d with file } :=
    fun file => (h.recoverable (d := { d with file }) hj).survives
  rw [h.describes.exists_eq]
  cases hbefore : before t with
  | none =>
    refine call_bind (hC d.file) ?_
    rintro answer d' ⟨rfl, rfl⟩
    cases hfile : d'.file t with
    | none =>
      refine ⟨hC _, rfl, ?_⟩
      rw [Function.update_eq_self_iff.mpr hfile.symm]
    | some old =>
      refine call_bind (hC _) ?_
      rintro - d₁ rfl
      exact ⟨hC _, rfl, rfl⟩
  | some data =>
    refine call_bind (hC d.file) ?_
    rintro answer d' ⟨rfl, rfl⟩
    have hread : d'.journal.bind (·.backup t) = some data := by
      rw [hj]
      exact h.backup hbefore
    rw [hread]
    refine call_bind (hC _) ?_
    rintro - d₁ rfl
    exact ⟨hC _, rfl, rfl⟩

theorem update_both (file : Files) :
    Function.update (Function.update file .config (before .config)) .secret (before .secret) =
      before := by
  funext t
  cases t <;> simp

/-- Recovery ends without error, without a journal and with the state files of one side. -/
theorem recoverStateTransaction_safe (h : Ready before after d) :
    CrashSafe perform (Survives before after)
      (fun v d' => v = none ∧ d'.journal = none ∧ d'.marker = some stateMarkerContents ∧
        d'.lock = d.lock ∧ (d'.file = before ∨ d'.file = after)) recoverStateTransaction d := by
  refine call_bind h.survives ?_
  rintro answer d₁ ⟨rfl, rfl⟩
  cases hjournal : d₁.journal with
  | none =>
    rcases h.recoverable with ⟨-, hfile⟩ | ⟨j, m, hj, -⟩
    · exact ⟨h.survives, rfl, hjournal, h.marker, rfl, hfile⟩
    · rw [hjournal] at hj
      cases hj
  | some j =>
    refine call_bind h.survives ?_
    rintro answer d₂ ⟨rfl, rfl⟩
    rcases h.recoverable with ⟨hnone, hfile⟩ | ⟨j', m, hj, hjournalled⟩
    · rw [hnone]
      rw [hjournal] at hnone
      have hmanifest : j.manifest = none := hnone
      have hremoving : Removing before d₂ d₂ j :=
        ⟨by rw [← hjournal], fun hm => (by rw [hmanifest] at hm; cases hm),
          fun hm => by rw [hmanifest] at hm; cases hm⟩
      refine (removeAllJournal_safe hremoving hfile).bind ?_
      rintro v d₃ ⟨rfl, rfl⟩
      have hend : Survives before after { d₂ with journal := none } := fun _ => .inl ⟨rfl, hfile⟩
      refine call_bind hend ?_
      rintro - d₄ rfl
      exact ⟨hend, rfl, rfl, h.marker, rfl, hfile⟩
    · have hread : d₂.journal.bind (·.manifest) = some m := by rw [hj]; exact hjournalled.manifest
      rw [hread]
      simp only [hjournalled.describes.version, ne_eq, not_true_eq_false, if_false]
      refine (restoreStateFile_safe hjournalled hj .config).bind ?_
      rintro v d₃ ⟨rfl, rfl⟩
      refine (restoreStateFile_safe
        (d := { d₂ with file := Function.update d₂.file .config (before .config) })
        hjournalled hj .secret).bind ?_
      rintro v d₄ ⟨rfl, rfl⟩
      simp only [update_both]
      have hrestored : Survives before after { d₂ with file := before } :=
        (hjournalled.recoverable (d := { d₂ with file := before }) hj).survives
      refine call_bind hrestored ?_
      rintro - d₅ rfl
      refine (removeAllJournal_safe (d := { d₂ with file := before }) (hjournalled.removing hj)
        (.inl rfl)).bind ?_
      rintro v d₆ ⟨rfl, rfl⟩
      have hend : Survives before after { d₂ with file := before, journal := none } :=
        fun _ => .inl ⟨rfl, .inl rfl⟩
      refine call_bind hend ?_
      rintro - d₇ rfl
      exact ⟨hend, rfl, rfl, h.marker, rfl, .inl rfl⟩

/-! ## Transactions -/

/-- A journal without a manifest over unchanged files. -/
theorem survives_unpublished (hfile : d.file = before) (hmanifest : j.manifest = none) :
    Survives before after { d with journal := some j } :=
  fun _ => .inl ⟨by simpa using hmanifest, .inl hfile⟩

theorem snapshotStateFile_safe (hj : d.journal = some j) (hmanifest : j.manifest = none)
    (hfile : d.file = before) {t : Target} (hbackup : j.backup t = none) :
    CrashSafe perform (Survives before after)
      (fun v d' => v = (before t).isSome ∧ d' = { d with
        journal := some { j with backup := Function.update j.backup t (before t) } })
      (snapshotStateFile t) d := by
  subst hfile
  have hC : ∀ backup, Survives d.file after { d with journal := some { j with backup } } :=
    fun backup => survives_unpublished rfl hmanifest
  have hstart : Survives d.file after d := by
    have hunchanged := hC j.backup
    rwa [← hj] at hunchanged
  refine call_bind hstart ?_
  rintro answer d₁ ⟨rfl, rfl⟩
  cases hbefore : d₁.file t with
  | none =>
    refine ⟨hstart, rfl, ?_⟩
    rw [Function.update_eq_self_iff.mpr hbackup.symm, ← hj]
  | some data =>
    refine call_bind hstart ?_
    rintro - d₂ rfl
    simp only [Disk.onJournal, hj, Option.map_some]
    refine call_bind (hC _) ?_
    rintro - d₃ rfl
    simp only [Disk.onJournal, Option.map_some, Function.update_idem]
    exact ⟨hC _, rfl, rfl⟩

/-- A transaction is begun: the journal is complete when its manifest appears. -/
theorem beginStateTransaction_safe (hjournal : d.journal = none) (hfile : d.file = before) :
    CrashSafe perform (Survives before after)
      (fun v d' => v = none ∧ ∃ j m, Journalled before j m ∧ d' = { d with journal := some j })
      beginStateTransaction d := by
  have hstart : Survives before after d := fun _ => .inl ⟨by rw [hjournal]; rfl, .inl hfile⟩
  refine call_bind hstart ?_
  rintro answer d₁ ⟨rfl, rfl⟩
  rw [hjournal]
  refine call_bind hstart ?_
  rintro - d₂ rfl
  refine (snapshotStateFile_safe (d := { d₁ with journal := some .empty }) rfl rfl hfile rfl).bind ?_
  rintro configExists d₃ ⟨rfl, rfl⟩
  refine (snapshotStateFile_safe (d := ⟨d₁.marker, d₁.lock, d₁.file,
    some ⟨Function.update empty.backup .config (before .config), none, none⟩⟩)
    rfl rfl hfile (by simp [empty])).bind ?_
  rintro secretExists d₄ ⟨rfl, rfl⟩
  simp only [update_both]
  refine call_bind (survives_unpublished hfile rfl) ?_
  rintro - d₅ rfl
  refine call_bind (survives_unpublished hfile rfl) ?_
  rintro - d₆ rfl
  refine call_bind (survives_unpublished hfile rfl) ?_
  rintro - d₇ rfl
  have hjournalled : Journalled before
      ⟨before, none,
        some ⟨stateTransactionVersion, (before .config).isSome, (before .secret).isSome⟩⟩
      ⟨stateTransactionVersion, (before .config).isSome, (before .secret).isSome⟩ :=
    ⟨rfl, ⟨rfl, fun t => by cases t <;> rfl⟩, fun hdata => hdata⟩
  have hpublished : Survives before after ⟨d₁.marker, d₁.lock, d₁.file, some ⟨before, none,
      some ⟨stateTransactionVersion, (before .config).isSome, (before .secret).isSome⟩⟩⟩ :=
    (hjournalled.recoverable rfl).survives
  refine call_bind hpublished ?_
  rintro - d₈ rfl
  refine call_bind hpublished ?_
  rintro - d₉ rfl
  exact ⟨hpublished, rfl, _, _, hjournalled, rfl⟩

/-- The calls of an operation under the journal. -/
theorem writes_safe (h : Journalled before j m) (hj : d.journal = some j)
    (writes : List (Target × Option Bytes)) :
    CrashSafe perform (Survives before after)
      (fun _ d' => d' = { d with
        file := writes.foldl (fun file write => Function.update file write.1 write.2) d.file })
      (writes.forM writeFile) d := by
  have hC : ∀ file, Survives before after { d with file } :=
    fun file => (h.recoverable (d := { d with file }) hj).survives
  -- the files so far, and what the rest of the writes makes of them
  refine (CrashSafe.forM (I := fun rest d' => ∃ file, d' = { d with file } ∧
      rest.foldl (fun file write => Function.update file write.1 write.2) file =
        writes.foldl (fun file write => Function.update file write.1 write.2) d.file)
    ?_ ?_ ⟨d.file, rfl, rfl⟩).mono (fun _ hd => hd) ?_
  · rintro rest d' ⟨file, rfl, -⟩
    exact hC file
  · rintro ⟨t, data⟩ rest d' ⟨file, rfl, hrest⟩
    cases data with
    | none | some data =>
      refine ⟨hC file, ?_⟩
      rintro - d'' rfl
      exact ⟨hC _, _, rfl, hrest⟩
  · rintro - d' ⟨file, rfl, hfile⟩
    rw [← hfile]
    rfl

theorem commit_safe (h : Journalled before j m) (hj : d.journal = some j) (hfile : d.file = after) :
    CrashSafe perform (Survives before after)
      (fun v d' => v = none ∧ d' = { d with journal := none }) commit d := by
  have hstart : Survives before after d := (h.recoverable hj).survives
  have hend : Survives before after { d with journal := none } := fun _ => .inl ⟨rfl, .inr hfile⟩
  refine call_bind hstart ?_
  rintro - d₁ rfl
  refine (removeAllJournal_safe (h.removing hj) (.inr hfile)).bind ?_
  rintro v d₂ ⟨rfl, rfl⟩
  refine call_bind hend ?_
  rintro - d₃ rfl
  exact ⟨hend, rfl, rfl⟩

/-- The disk after a call that ended without its lock being missed. -/
structure Closed (before after : Files) (d d' : Disk) : Prop where
  journal : d'.journal = none
  marker : d'.marker = some stateMarkerContents
  lock : d'.lock = d.lock
  file : d'.file = before ∨ d'.file = after

theorem Closed.survives {d' : Disk} (h : Closed before after d d') : Survives before after d' :=
  fun _ => .inl ⟨by rw [h.journal]; rfl, h.file⟩

theorem runStateTransaction_safe {op : Operation} (hjournal : d.journal = none)
    (hmarker : d.marker = some stateMarkerContents) (hfile : d.file = before) :
    CrashSafe perform (Survives before (op.applied before))
      (fun v d' => Closed before (op.applied before) d d' ∧
        (v = none → d'.file = op.applied before)) (runStateTransaction op) d := by
  refine (beginStateTransaction_safe hjournal hfile).bind ?_
  rintro v d₁ ⟨rfl, j, m, hjournalled, rfl⟩
  refine (writes_safe (d := { d with journal := some j }) hjournalled rfl op.writes).bind ?_
  rintro - d₂ rfl
  rw [hfile]
  change CrashSafe perform _ _ _ { d with journal := some j, file := op.applied before }
  cases op.result with
  | none =>
    refine (commit_safe (d := { d with journal := some j, file := op.applied before }) hjournalled
      rfl rfl).mono (fun _ h => h) ?_
    rintro v d₃ ⟨rfl, rfl⟩
    exact ⟨⟨rfl, hmarker, rfl, .inr rfl⟩, fun _ => rfl⟩
  | some err =>
    have hready : Ready before (op.applied before)
        { d with journal := some j, file := op.applied before } :=
      ⟨hmarker, hjournalled.recoverable rfl⟩
    refine (recoverStateTransaction_safe hready).bind ?_
    rintro v d₃ ⟨rfl, hnone, hmarker₃, hlock, hfile₃⟩
    have hclosed : Closed before (op.applied before) d d₃ := ⟨hnone, hmarker₃, hlock, hfile₃⟩
    exact ⟨hclosed.survives, hclosed, fun h => by cases h⟩

/-! ## Under the lock -/

/-- The marker is found, written or refused. -/
theorem ensureStateMarker_safe (hd : C d)
    (hcreate : d.marker = none →
      C { d with marker := some [] } ∧ C { d with marker := some stateMarkerContents }) :
    CrashSafe perform C
      (fun v d' => v = none ∧ d.marked ∧ d' = { d with marker := some stateMarkerContents } ∨
        v ≠ none ∧ ¬ d.marked ∧ d' = d)
      ensureStateMarker d := by
  refine call_bind hd ?_
  rintro answer d₁ ⟨rfl, rfl⟩
  cases hmarker : d₁.marker with
  | none =>
    obtain ⟨hempty, hfull⟩ := hcreate hmarker
    refine call_bind hd ?_
    rintro - d₂ rfl
    refine call_bind hempty ?_
    rintro - d₃ rfl
    exact ⟨hfull, .inl ⟨rfl, .inl hmarker, rfl⟩⟩
  | some data =>
    by_cases hdata : data = stateMarkerContents
    · subst hdata
      simp only [ne_eq, not_true_eq_false, if_false]
      exact ⟨hd, .inl ⟨rfl, .inr hmarker, by rw [← hmarker]⟩⟩
    · simp only [ne_eq, hdata, not_false_eq_true, if_true]
      refine ⟨hd, .inr ⟨by simp, ?_, rfl⟩⟩
      simp only [Disk.marked, hmarker, reduceCtorEq, Option.some.injEq, hdata, or_self,
        not_false_eq_true]

/-- A marker that is created and not written is torn. -/
theorem not_marked_empty : ¬ Disk.marked { d with marker := some [] } := by
  have hcontents : (some [] : Option Bytes) ≠ some stateMarkerContents := by decide +kernel
  rintro (hempty | hempty)
  · cases hempty
  · exact hcontents hempty

/-! `C` is any property of a disk that its lock file does not change. -/

section Locking

variable {C : Disk → Prop} {p : Process}

/-- At one of so many polls the process reclaims the lock that it finds. -/
def Process.Takes (p : Process) (polls : Nat) (lock : Option Lock) : Prop :=
  ∀ l ∈ lock, ∃ poll < polls, p.reclaims poll l = true

theorem createConfigLock_free {contended : FsProg (Option GoError)} (hC : ∀ lock, C { d with lock })
    (hfree : d.lock = none) :
    CrashSafe perform C (fun v d' => v = none ∧ d' = { d with lock := some (.record p.pid) })
      (p.createConfigLock contended) d := by
  refine call_bind (hC d.lock) ?_
  rintro answer d₁ ⟨rfl, rfl⟩
  simp only [hfree, Option.isNone_none, if_true]
  refine call_bind (hC _) ?_
  rintro - d₂ rfl
  exact ⟨hC _, rfl, rfl⟩

theorem createConfigLock_held {contended : FsProg (Option GoError)} {l : Lock}
    {Q : Option GoError → Disk → Prop} (hd : C d) (hlock : d.lock = some l)
    (hcontended : CrashSafe perform C Q contended d) :
    CrashSafe perform C Q (p.createConfigLock contended) d := by
  refine call_bind hd ?_
  rintro answer d₁ ⟨rfl, rfl⟩
  simpa [hlock] using hcontended

theorem acquireConfigLock_free (polls : Nat) (hC : ∀ lock, C { d with lock })
    (hfree : d.lock = none) :
    CrashSafe perform C (fun v d' => v = none ∧ d' = { d with lock := some (.record p.pid) })
      (acquireConfigLock p polls) d := by
  cases polls with
  | zero | succ polls => exact createConfigLock_free hC hfree

/-- A lock that a crash left is reclaimed at one of the polls, or missed. -/
theorem acquireConfigLock_safe (polls : Nat) (hC : ∀ lock, C { d with lock }) :
    CrashSafe perform C
      (fun v d' => v = none ∧ p.Takes polls d.lock ∧ d' = { d with lock := some (.record p.pid) } ∨
        v = some errLockTimeout ∧ ¬ p.Takes polls d.lock ∧ d' = d)
      (acquireConfigLock p polls) d := by
  have hd : C d := hC d.lock
  cases hlock : d.lock with
  | none =>
    refine (acquireConfigLock_free polls hC hlock).mono (fun _ hd => hd) ?_
    rintro v d' ⟨rfl, rfl⟩
    exact .inl ⟨rfl, nofun, rfl⟩
  | some l =>
    have htakes : ∀ n, p.Takes n (some l) ↔ ∃ poll < n, p.reclaims poll l = true := by
      simp [Process.Takes]
    simp only [htakes]
    induction polls with
    | zero => exact createConfigLock_held hd hlock ⟨hd, .inr ⟨rfl, by simp, rfl⟩⟩
    | succ polls ih =>
      refine createConfigLock_held hd hlock (call_bind hd ?_)
      rintro answer d₁ ⟨rfl, rfl⟩
      rw [hlock]
      cases hreclaims : p.reclaims polls l with
      | true =>
        simp only [hreclaims, if_true]
        refine call_bind hd ?_
        rintro - d₂ rfl
        refine (acquireConfigLock_free (d := { d₁ with lock := none }) polls hC rfl).mono
          (fun _ hd => hd) ?_
        rintro v d' ⟨rfl, rfl⟩
        exact .inl ⟨rfl, ⟨polls, Nat.lt_succ_self polls, hreclaims⟩, rfl⟩
      | false =>
        have hlater : (∃ poll < polls + 1, p.reclaims poll l = true) ↔
            ∃ poll < polls, p.reclaims poll l = true := by
          rw [Nat.exists_lt_succ_right]
          simp [hreclaims]
        simp only [hreclaims, Bool.false_eq_true, if_false, hlater]
        split
        next hzero => exact ⟨hd, .inr ⟨rfl, by simp [hzero], rfl⟩⟩
        next => exact ih

theorem releaseOwnedConfigLock_safe (hC : ∀ lock, C { d with lock })
    (hlock : d.lock = some (.record p.pid)) :
    CrashSafe perform C (fun v d' => v = none ∧ d' = { d with lock := none })
      (releaseOwnedConfigLock p) d := by
  have hd : C d := hC d.lock
  refine call_bind hd ?_
  rintro answer d₁ ⟨rfl, rfl⟩
  simp only [hlock, ne_eq, not_true_eq_false, if_false]
  refine call_bind hd ?_
  rintro - d₂ rfl
  exact ⟨hC _, rfl, rfl⟩

end Locking

/-- The disk after a whole call: the lock was missed, or the call is closed and `K` holds. -/
def CallEnd (taken : Prop) (before after : Files) (K : Option GoError → Disk → Prop)
    (v : Option GoError) (d' : Disk) : Prop :=
  Ready before after d' ∧
    (v = some errLockTimeout ∧ ¬ taken ∨ taken ∧ d'.journal = none ∧ K v d')

/-- A call that takes the lock, recovers and runs an operation over the recovered files. -/
theorem withConfigLock_safe {p : Process} {start : Files} {operation : FsProg (Option GoError)}
    {K : Option GoError → Disk → Prop} (hmarked : d.marked) (h : Recoverable before start d)
    (hwiden : ∀ {d}, Recoverable before start d → Recoverable before after d)
    (hK : ∀ {v d lock}, K v d → K v { d with lock })
    (hoperation : ∀ {d}, d.journal = none → d.marker = some stateMarkerContents →
      (d.file = before ∨ d.file = start) →
      CrashSafe perform (Survives before after) (fun v d' => Closed before after d d' ∧ K v d')
        operation d) :
    CrashSafe perform (Survives before after) (CallEnd (p.Takes lockPolls d.lock) before after K)
      (withConfigLock p operation) d := by
  have hsurvives : ∀ d, Survives before start d → Survives before after d :=
    fun d hd hintact => hwiden (hd hintact)
  refine (ensureStateMarker_safe (hwiden h).survives fun _ => ⟨?_, fun _ => hwiden h⟩).bind ?_
  · exact fun hintact => absurd hintact.marked not_marked_empty
  rintro v d₁ (⟨rfl, -, rfl⟩ | ⟨-, hnot, -⟩)
  swap
  · exact absurd hmarked hnot
  refine (acquireConfigLock_safe (d := { d with marker := some stateMarkerContents }) lockPolls
    fun _ _ => hwiden h).bind ?_
  rintro v d₂ (⟨rfl, htaken, rfl⟩ | ⟨rfl, hmissed, rfl⟩)
  · have hready : Ready before start
        { d with marker := some stateMarkerContents, lock := some (.record p.pid) } := ⟨rfl, h⟩
    refine ((recoverStateTransaction_safe hready).mono hsurvives fun _ _ hd => hd).bind ?_
    rintro v d₃ ⟨rfl, hjournal, hmarker, hlock, hfile⟩
    refine (hoperation hjournal hmarker hfile).bind ?_
    rintro v d₄ ⟨hclosed, hv⟩
    have hrecoverable : Recoverable before after d₄ := .inl ⟨by rw [hclosed.journal]; rfl, hclosed.file⟩
    refine (releaseOwnedConfigLock_safe (fun _ _ => hrecoverable) (hclosed.lock.trans hlock)).bind ?_
    rintro - d₅ ⟨rfl, rfl⟩
    have hend : CallEnd (p.Takes lockPolls d.lock) before after K v { d₄ with lock := none } :=
      ⟨⟨hclosed.marker, hrecoverable⟩, .inr ⟨htaken, hclosed.journal, hK hv⟩⟩
    cases v with
    | none | some err => exact ⟨hend.1.survives, hend⟩
  · have hend : CallEnd (p.Takes lockPolls d.lock) before after K (some errLockTimeout)
        { d with marker := some stateMarkerContents } := ⟨⟨rfl, hwiden h⟩, .inl ⟨rfl, hmissed⟩⟩
    exact ⟨hend.1.survives, hend⟩

/-- A mutation from files without a journal. -/
theorem mutateState_safe {p : Process} {op : Operation} (hmarked : d.marked)
    (hjournal : d.journal = none) :
    CrashSafe perform (Survives d.file (op.applied d.file))
      (CallEnd (p.Takes lockPolls d.lock) d.file (op.applied d.file)
        fun v d' => v = none → d'.file = op.applied d.file) (mutateState p op) d := by
  have hstart : Recoverable d.file d.file d := .inl ⟨by rw [hjournal]; rfl, .inl rfl⟩
  refine withConfigLock_safe hmarked hstart Recoverable.mono (fun hK => hK) ?_
  intro d' hjournal' hmarker' hfile'
  exact runStateTransaction_safe hjournal' hmarker' (or_self_iff.mp hfile')

theorem recoverState_safe {p : Process} (hmarked : d.marked) (h : Recoverable before after d) :
    CrashSafe perform (Survives before after)
      (CallEnd (p.Takes lockPolls d.lock) before after
        fun v d' => v = none ∧ (d'.file = before ∨ d'.file = after)) (recoverState p) d := by
  refine withConfigLock_safe hmarked h (fun hd => hd) (fun hK => hK) ?_
  intro d' hjournal' hmarker' hfile'
  have hclosed : Closed before after d' d' := ⟨hjournal', hmarker', rfl, hfile'⟩
  exact ⟨hclosed.survives, hclosed, rfl, hfile'⟩

/-! ## Disks that are not intact -/

/-- A manifest lists a backup that is gone. -/
def MissingBackup (d : Disk) : Prop :=
  ∃ j m t, d.journal = some j ∧ j.manifest = some m ∧ m.exists t = true ∧ j.backup t = none

/-- The marker is torn, or a backup is missing. -/
def Lost (d : Disk) : Prop := ¬ d.marked ∨ MissingBackup d

/-- Restoring a file fails when its backup is gone, and never changes the journal. -/
theorem restoreStateFile_missing {target : Target} {existed : Bool} (hC : ∀ file, C { d with file }) :
    CrashSafe perform C
      (fun v d' => (∃ file, d' = { d with file }) ∧
        (existed = true → d.journal.bind (·.backup target) = none → v ≠ none))
      (restoreStateFile target existed) d := by
  have hd : C d := hC d.file
  cases existed with
  | true =>
    refine call_bind hd ?_
    rintro answer d₁ ⟨rfl, rfl⟩
    cases hbackup : d₁.journal.bind (·.backup target) with
    | none => exact ⟨hd, ⟨d₁.file, rfl⟩, fun _ _ => by simp⟩
    | some data =>
      refine call_bind hd ?_
      rintro - d₂ rfl
      exact ⟨hC _, ⟨_, rfl⟩, fun _ h => by cases h⟩
  | false =>
    refine call_bind hd ?_
    rintro answer d₁ ⟨rfl, rfl⟩
    cases hfile : d₁.file target with
    | none => exact ⟨hd, ⟨d₁.file, rfl⟩, fun h => by cases h⟩
    | some data =>
      refine call_bind hd ?_
      rintro - d₂ rfl
      exact ⟨hC _, ⟨_, rfl⟩, fun h => by cases h⟩

theorem recoverStateTransaction_missing (h : MissingBackup d) :
    CrashSafe perform MissingBackup (fun v d' => v ≠ none ∧ ∃ file, d' = { d with file })
      recoverStateTransaction d := by
  have hC : ∀ file, MissingBackup { d with file } := fun _ => h
  obtain ⟨j, m, t, hj, hm, hexists, hgone⟩ := id h
  have hpresent : d.journal.isSome = true := by rw [hj]; rfl
  have hmanifest : d.journal.bind (·.manifest) = some m := by rw [hj]; exact hm
  have hbackup : d.journal.bind (·.backup t) = none := by rw [hj]; exact hgone
  refine call_bind h ?_
  rintro answer d₁ ⟨rfl, rfl⟩
  rw [hpresent]
  refine call_bind h ?_
  rintro answer d₂ ⟨rfl, rfl⟩
  simp only [hmanifest]
  split
  · exact ⟨h, by simp, d₂.file, rfl⟩
  · refine (restoreStateFile_missing hC).bind ?_
    rintro (_ | err) d₃ ⟨⟨file, rfl⟩, hconfig⟩
    · -- the config was restored, so the missing backup is that of the secrets
      cases t with
      | config => exact absurd rfl (hconfig hexists hbackup)
      | secret =>
        refine (restoreStateFile_missing (d := { d₂ with file }) fun _ => h).bind ?_
        rintro (_ | err) d₄ ⟨⟨file', rfl⟩, hsecret⟩
        · exact absurd rfl (hsecret hexists hbackup)
        · exact ⟨hC _, by simp, file', rfl⟩
    · exact ⟨hC _, by simp, file, rfl⟩

/-- Every `RecoverState` fails on a lost disk and leaves a lost disk, wherever it is cut off. -/
theorem recoverState_lost {p : Process} (h : Lost d) :
    CrashSafe perform Lost (fun v d' => v ≠ none ∧ Lost d') (recoverState p) d := by
  have hcreate : d.marker = none →
      Lost { d with marker := some [] } ∧ Lost { d with marker := some stateMarkerContents } := by
    intro hnone
    have hmissing : MissingBackup d := h.resolve_left (not_not.mpr (.inl hnone))
    exact ⟨.inr hmissing, .inr hmissing⟩
  refine (ensureStateMarker_safe h hcreate).bind ?_
  rintro (_ | err) d₁ (⟨herr, hmarked, rfl⟩ | ⟨herr, -, rfl⟩)
  · have hmissing : MissingBackup d := h.resolve_left (not_not.mpr hmarked)
    have hlock : ∀ lock, Lost { d with marker := some stateMarkerContents, lock } :=
      fun _ => .inr hmissing
    refine (acquireConfigLock_safe (d := { d with marker := some stateMarkerContents }) lockPolls
      hlock).bind ?_
    rintro v d₂ (⟨rfl, -, rfl⟩ | ⟨rfl, -, rfl⟩)
    · refine ((recoverStateTransaction_missing (d := { d with
        marker := some stateMarkerContents, lock := some (.record p.pid) }) hmissing).mono
        (fun _ => .inr) fun _ _ hd => hd).bind ?_
      rintro (_ | err) d₃ ⟨herr, file, rfl⟩
      · exact absurd rfl herr
      · refine (releaseOwnedConfigLock_safe (d := ⟨some stateMarkerContents, some (.record p.pid),
          file, d.journal⟩) (fun _ => .inr hmissing) rfl).bind ?_
        rintro v d₄ ⟨rfl, rfl⟩
        exact ⟨.inr hmissing, by simp, .inr hmissing⟩
    · exact ⟨.inr hmissing, by simp, .inr hmissing⟩
  · exact absurd rfl herr
  · cases herr
  · exact ⟨h, by simp, h⟩

/-! ## Histories -/

/-- A mutation that returned or was cut off, and then any number of `RecoverState` calls, each ended or
    cut off and each by any process, with the disks that the crashes left. The outcome of a mutation that
    was cut off is `none`. -/
inductive History (op : Operation) (start : Disk) : Option (Option GoError) → List Disk → Disk → Prop
  | returned {p d v} (h : Ends perform (mutateState p op) start d v) :
      History op start (some v) [] d
  | crashed {p d} (h : Crashes perform (mutateState p op) start d) :
      History op start none [d] d
  | recovered {outcome crashes p d d' v} (past : History op start outcome crashes d)
      (h : Ends perform (recoverState p) d d' v) : History op start outcome crashes d'
  | recoveryCrashed {outcome crashes p d d'} (past : History op start outcome crashes d)
      (h : Crashes perform (recoverState p) d d') : History op start outcome (d' :: crashes) d'

section Histories

variable {op : Operation} {start : Disk} {outcome : Option (Option GoError)} {crashes : List Disk}

/-- What every call of a history leaves; after a success there is only one side. -/
theorem History.recoverable (hmarked : start.marked) (hjournal : start.journal = none)
    (h : History op start outcome crashes d) (hintact : ∀ c ∈ crashes, Intact c) :
    d.marked ∧ Recoverable start.file (op.applied start.file) d ∧
      (outcome = some none → Recoverable (op.applied start.file) (op.applied start.file) d) := by
  induction h with
  | returned h =>
    obtain ⟨hready, hend⟩ := (mutateState_safe hmarked hjournal).ends h
    refine ⟨.inr hready.marker, hready.recoverable, ?_⟩
    intro houtcome
    cases houtcome
    rcases hend with ⟨htimeout, -⟩ | ⟨-, hnone, hfile⟩
    · cases htimeout
    · exact .inl ⟨by rw [hnone]; rfl, .inl (hfile rfl)⟩
  | crashed h =>
    have hlast := hintact _ (.head _)
    exact ⟨hlast.marked, (mutateState_safe hmarked hjournal).crash h hlast, fun h => by cases h⟩
  | recovered past h ih =>
    obtain ⟨hmarked', hrecoverable, hsuccess⟩ := ih hintact
    have hready := ((recoverState_safe hmarked' hrecoverable).ends h).1
    exact ⟨.inr hready.marker, hready.recoverable, fun houtcome =>
      ((recoverState_safe hmarked' (hsuccess houtcome)).ends h).1.recoverable⟩
  | recoveryCrashed past h ih =>
    obtain ⟨hmarked', hrecoverable, hsuccess⟩ := ih fun c hc => hintact c (.tail _ hc)
    have hlast := hintact _ (.head _)
    exact ⟨hlast.marked, (recoverState_safe hmarked' hrecoverable).crash h hlast,
      fun houtcome => (recoverState_safe hmarked' (hsuccess houtcome)).crash h hlast⟩

/-- A crash that leaves a disk which is not intact is never recovered from. -/
theorem History.lost {c : Disk} (h : History op start outcome crashes d) (hc : c ∈ crashes)
    (hlost : Lost c) : Lost d := by
  induction h with
  | returned h => cases hc
  | crashed h =>
    obtain rfl := List.mem_singleton.mp hc
    exact hlost
  | recovered past h ih => exact ((recoverState_lost (ih hc)).ends h).2
  | recoveryCrashed past h ih =>
    rcases List.mem_cons.mp hc with rfl | hc
    · exact hlost
    · exact (recoverState_lost (ih hc)).crash h

end Histories

/-! ## A crash inside the commit -/

variable {p : Process}

end Hooshix.Agent.StateTransaction
