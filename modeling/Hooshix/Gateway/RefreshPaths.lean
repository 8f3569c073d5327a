-- SUMMARY: The cheap refresh path against the full one, with a publisher that changes the disk.
import Hooshix.Gateway.DeclaredAuthority
import Hooshix.Gateway.LiveAuthority

/-! # The two paths of a refresh

A manifest with the active revision is answered by the stat fingerprint, if it names the active
generation, and by the digest of the files otherwise. The fingerprint stands for the content only when
both were taken of the same files, and it says nothing of the times in the manifest.
-/

namespace Hooshix.Gateway.Authority

open Prog Delimited GenerationDir SnapshotMetadata
open ContractV1 (Members jsonValue jsonValue_bytes validateStrictJSONObject_object decodeStrict)

/-! ## The files of a generation -/

namespace GenerationDir

/-- The files of a category; a directory that does not exist has none. -/
def files (dir : GenerationDir) (category : Category) : List File :=
  match dir.category category with
  | some directory => directory.entries
  | none => []

def categoryContent (dir : GenerationDir) (category : Category) : List Bytes :=
  (dir.files category).flatMap fun file => contentWords category file.name file.data

def categoryStat (dir : GenerationDir) (category : Category) : List Bytes :=
  (dir.files category).flatMap fun file => statWords category file.name file.info

/-- What the digest of these files is the hash of. -/
def contentBytes (dir : GenerationDir) : Bytes :=
  terminate 0 (Category.all.flatMap dir.categoryContent)

/-- What the fingerprint of these files is the hash of. -/
def statBytes (dir : GenerationDir) : Bytes :=
  terminate 0 (Category.all.flatMap dir.categoryStat)

end GenerationDir

theorem Directory.find_of_mem {directory : Directory} {file : File} (h : file ∈ directory.entries) :
    directory.find file.name = some file := by
  have hnames : directory.entries.Pairwise fun a b => a.name ≠ b.name := by
    refine directory.sorted.imp ?_
    intro a b hlt heq
    rw [heq] at hlt
    exact List.lt_irrefl _ hlt
  rw [Directory.find, List.find?_eq_some_iff_getElem]
  obtain ⟨i, hi, rfl⟩ := List.getElem_of_mem h
  refine ⟨by simp, i, hi, rfl, fun j hj => ?_⟩
  simpa using List.pairwise_iff_getElem.mp hnames j i (by omega) hi hj

theorem data_of_readTrustedMetadataFile {file : File} {maxBytes : Nat} {data : Bytes}
    (h : readTrustedMetadataFile (some file) maxBytes = .ok data) : data = file.data := by
  simp only [readTrustedMetadataFile] at h
  repeat' split at h
  all_goals cases h
  rfl

/-! ## Programs on files that do not change -/

section Quiet

variable {table : Char → Char} {dir : GenerationDir} {category : Category} {hashed : Bytes}

@[simp] theorem eval_call (answer : (c : GenerationCall) → GenerationAnswer c) (c : GenerationCall) :
    eval answer (call c) = answer c := rfl

/-- A loop in which each element adds its words adds the words of all. -/
theorem eval_loop_hashed {ι γ : Type} {answer : (c : GenerationCall) → GenerationAnswer c}
    {body : ι → γ → GenerationProg (Except GoError γ)} (hashed : γ → Bytes)
    (words : ι → List Bytes) {items : List ι}
    (hbody : ∀ i ∈ items, ∀ state state', eval answer (body i state) = .ok state' →
      hashed state' = hashed state ++ terminate 0 (words i))
    {state state' : γ} (h : eval answer (loop body items state) = .ok state') :
    hashed state' = hashed state ++ terminate 0 (items.flatMap words) := by
  refine eval_loop_ok (I := fun items state state' =>
    hashed state' = hashed state ++ terminate 0 (items.flatMap words)) ?_ ?_ h
  · simp
  · intro i hi rest state next state' hnext hrest
    rw [hrest, hbody i hi state next hnext, List.flatMap_cons, terminate_append,
      List.append_assoc]

theorem answer_info {file : File} (hfile : file ∈ dir.files category) :
    (dir.category category).bind (·.find file.name) = some file := by
  unfold files at hfile
  split at hfile
  next directory hdirectory => rw [hdirectory, Option.bind_some, Directory.find_of_mem hfile]
  next => cases hfile

theorem eval_loadEntry {file : File} (hfile : file ∈ dir.files category) {l l' : Loading}
    (h : eval dir.answer (loadEntry table category file.entry l) = .ok l') :
    l'.hashed = l.hashed ++ terminate 0 (contentWords category file.name file.data) := by
  simp only [loadEntry] at h
  split at h
  · cases h
  split at h
  · cases h
  rw [eval_bind, eval_call] at h
  split at h
  · cases h
  next data hdata =>
    simp only [File.entry, answer, answer_info hfile] at hdata
    obtain rfl := data_of_readTrustedMetadataFile hdata
    repeat' split at h
    all_goals cases h
    rfl

/-- A directory that can be read is listed with its files. -/
theorem answer_readDir {list : List DirEntry} (h : dir.answer (.readDir category) = .entries list) :
    list = (dir.files category).map File.entry := by
  simp only [answer] at h
  unfold files
  repeat' split at h
  all_goals cases h
  next hdirectory _ _ => rw [hdirectory]

theorem files_of_missing (h : dir.answer (.readDir category) = .missing) :
    dir.files category = [] := by
  simp only [answer] at h
  unfold files
  repeat' split at h
  all_goals cases h
  next hnone => rw [hnone]

/-- If each file of the category adds its words, they are what the category adds. -/
theorem eval_walkCategory {γ : Type} {validateErr readErr : GoError → GoError}
    {body : DirEntry → γ → GenerationProg (Except GoError γ)} (hashed : γ → Bytes)
    (words : File → List Bytes)
    (hbody : ∀ file ∈ dir.files category, ∀ state state',
      eval dir.answer (body file.entry state) = .ok state' →
      hashed state' = hashed state ++ terminate 0 (words file))
    {state state' : γ}
    (h : eval dir.answer (walkCategory validateErr readErr body category state) = .ok state') :
    hashed state' = hashed state ++ terminate 0 ((dir.files category).flatMap words) := by
  rw [walkCategory, eval_bind, eval_call] at h
  split at h
  · cases h
  rw [eval_bind, eval_call] at h
  split at h
  next hmissing =>
    split at h <;> cases h
    simp [files_of_missing hmissing]
  next => cases h
  next list hlist =>
    rw [answer_readDir hlist, loop_map] at h
    exact eval_loop_hashed hashed words hbody h

/-- The digest of a generation that is loaded is that of its files. -/
theorem eval_loadLiveGeneration {snapshot : SnapshotMetadata}
    (h : eval dir.answer (loadLiveGeneration table) = .ok (snapshot, hashed)) :
    hashed = dir.contentBytes := by
  have hcategory : ∀ category ∈ Category.all, ∀ l l',
      eval dir.answer (loadCategory table category l) = .ok l' →
      l'.hashed = l.hashed ++ terminate 0 (dir.categoryContent category) := fun _ _ _ _ =>
    eval_walkCategory Loading.hashed _ fun file hfile _ _ => eval_loadEntry hfile
  rw [loadLiveGeneration, eval_bind, eval_call] at h
  split at h
  · cases h
  rw [eval_bind] at h
  split at h
  · cases h
  next l hloop =>
    split at h <;> cases h
    exact eval_loop_hashed Loading.hashed dir.categoryContent hcategory hloop

theorem eval_statEntry {file : File} (hfile : file ∈ dir.files category) {hashed' : Bytes}
    (h : eval dir.answer (statEntry category file.entry hashed) = .ok hashed') :
    hashed' = hashed ++ terminate 0 (statWords category file.name file.info) := by
  rw [statEntry] at h
  split at h
  · cases h
  rw [eval_bind, eval_call] at h
  split at h
  · cases h
  next info hinfo =>
    simp only [File.entry, answer, answer_info hfile] at hinfo
    split at hinfo <;> cases hinfo
    cases h
    rfl

theorem eval_statGenerationFingerprint
    (h : eval dir.answer statGenerationFingerprint = .ok hashed) : hashed = dir.statBytes := by
  have hcategory : ∀ category ∈ Category.all, ∀ hashed hashed',
      eval dir.answer (statCategory category hashed) = .ok hashed' →
      hashed' = hashed ++ terminate 0 (dir.categoryStat category) := fun _ _ _ _ =>
    eval_walkCategory id _ fun file hfile _ _ => eval_statEntry hfile
  rw [statGenerationFingerprint, eval_bind, eval_call] at h
  split at h
  · cases h
  · exact eval_loop_hashed id dir.categoryStat hcategory h

/-- A program on files that stay as they are. -/
theorem exec_within {α : Type} {r : Refresh} {generation : String}
    (hquiet : ∀ n, (r.moments n).generation generation = dir) (p : GenerationProg α) (n : Nat) :
    (exec r.handle n (within generation p)).2 = eval dir.answer p := by
  induction p generalizing n with
  | done value => rfl
  | act c next ih =>
    rw [within, exec_act, ih, eval_act]
    simp only [Refresh.handle, FileSystem.answer, hquiet]

end Quiet

/-! ## What the fingerprint determines -/

theorem digit_code {n : Nat} {c : Char} (h : c ∈ Nat.toDigits 10 n) :
    48 ≤ c.toNat ∧ c.toNat ≤ 57 := by
  have hdigit := Nat.isDigit_of_mem_toDigits (by decide) (by decide) h
  simp only [Char.isDigit, Bool.and_eq_true, decide_eq_true_eq, UInt32.le_iff_toNat_le] at hdigit
  exact hdigit

theorem mem_decimal {n : Nat} {b : UInt8} (h : b ∈ decimal n) : 48 ≤ b.toNat ∧ b.toNat ≤ 57 := by
  obtain ⟨c, hc, rfl⟩ := List.mem_map.mp h
  have hcode := digit_code hc
  rw [UInt8.toNat_ofNat']
  omega

theorem decimal_injective : Function.Injective decimal := by
  intro m n h
  have hback : ∀ k, (decimal k).map (fun b => Char.ofNat b.toNat) = Nat.toDigits 10 k := by
    intro k
    rw [decimal, List.map_map]
    refine (List.map_congr_left fun c hc => ?_).trans (List.map_id _)
    have hcode := digit_code hc
    have hbyte : (UInt8.ofNat c.toNat).toNat = c.toNat := by
      rw [UInt8.toNat_ofNat']
      omega
    simp only [Function.comp_apply, hbyte, Char.ofNat_toNat, id_eq]
  have hdigits : Nat.toDigits 10 m = Nat.toDigits 10 n := by rw [← hback, ← hback, h]
  have hvalue := congrArg (fun digits => Nat.ofDigitChars 10 digits 0) hdigits
  simpa using hvalue

theorem signedDecimal_injective : Function.Injective signedDecimal := by
  intro m n h
  have hsign : ∀ k : Nat, ∀ rest, decimal k ≠ 45 :: rest := by
    intro k rest hk
    have hmem : (45 : UInt8) ∈ decimal k := by rw [hk]; exact List.mem_cons_self
    exact absurd (mem_decimal hmem).1 (by decide)
  unfold signedDecimal at h
  split at h <;> split at h
  · have := decimal_injective (List.cons.inj h).2
    omega
  · exact absurd h.symm (hsign _ _)
  · exact absurd h (hsign _ _)
  · have := decimal_injective h
    omega

/-- The attributes of a file as they are hashed. -/
structure Stat where
  category : Category
  name : FileName
  info : FileInfo

def Stat.words (stat : Stat) : List Bytes := statWords stat.category stat.name stat.info

theorem Category.bytes_injective : Function.Injective Category.bytes := by
  intro a b
  cases a <;> cases b <;> decide

theorem statWords_injective {stat stat' : Stat} (h : stat.words = stat'.words) : stat = stat' := by
  obtain ⟨category, name, size, modTime⟩ := stat
  obtain ⟨category', name', size', modTime'⟩ := stat'
  simp only [Stat.words, statWords, List.cons.injEq, and_true] at h
  obtain ⟨hcategory, hname, hinfo⟩ := h
  have hcolon : ∀ n, (58 : UInt8) ∉ decimal n := by
    intro n hmem
    exact absurd (mem_decimal hmem).2 (by decide)
  obtain ⟨hsize, hmodTime⟩ := append_delimiter_inj (hcolon _) (hcolon _) hinfo
  obtain rfl := Category.bytes_injective hcategory
  obtain rfl : name = name' := by
    cases name
    cases name'
    simpa using hname
  obtain rfl := decimal_injective hsize
  obtain rfl := signedDecimal_injective hmodTime
  rfl

theorem Stat.zero_not_mem (stat : Stat) : ∀ word ∈ stat.words, (0 : UInt8) ∉ word := by
  have hdecimal : ∀ n, (0 : UInt8) ∉ decimal n := by
    intro n hmem
    exact absurd (mem_decimal hmem).1 (by decide)
  simp only [Stat.words, statWords, List.forall_mem_cons]
  refine ⟨?_, stat.name.nonzero, ?_, by simp⟩
  · cases stat.category <;> decide
  · unfold signedDecimal
    split <;> simp [hdecimal]

theorem flatMap_words_injective {stats stats' : List Stat}
    (h : stats.flatMap Stat.words = stats'.flatMap Stat.words) : stats = stats' := by
  induction stats generalizing stats' with
  | nil =>
    cases stats' with
    | nil => rfl
    | cons stat stats' => cases h
  | cons stat stats ih =>
    cases stats' with
    | nil => cases h
    | cons stat' stats' =>
      rw [List.flatMap_cons, List.flatMap_cons] at h
      obtain ⟨hstat, hstats⟩ := List.append_inj h rfl
      rw [statWords_injective hstat, ih hstats]

namespace GenerationDir

/-- The names, sizes and modification times of the files. -/
def stats (dir : GenerationDir) : List Stat :=
  Category.all.flatMap fun category => (dir.files category).map fun file =>
    ⟨category, file.name, file.info⟩

theorem statBytes_eq (dir : GenerationDir) :
    dir.statBytes = terminate 0 (dir.stats.flatMap Stat.words) := by
  simp only [statBytes, stats, Stat.words, List.flatMap_assoc, List.flatMap_map]
  rfl

/-- Different attributes are hashed as different bytes. -/
theorem stats_eq_of_statBytes {dir dir' : GenerationDir} (h : dir.statBytes = dir'.statBytes) :
    dir.stats = dir'.stats := by
  have hwords : ∀ stats : List Stat, ∀ word ∈ stats.flatMap Stat.words, (0 : UInt8) ∉ word := by
    intro stats word hword
    obtain ⟨stat, -, hstat⟩ := List.mem_flatMap.mp hword
    exact stat.zero_not_mem word hstat
  rw [statBytes_eq, statBytes_eq] at h
  exact flatMap_words_injective (terminate_injective (hwords _) (hwords _) h)

end GenerationDir

/-- What files with given attributes contain, for each generation. -/
abbrev Contents := String → Stat → Bytes

/-- The attributes of the files determine what they contain. -/
def Determined (contents : Contents) (generation : String) (dir : GenerationDir) : Prop :=
  ∀ category, ∀ file ∈ dir.files category,
    file.data = contents generation ⟨category, file.name, file.info⟩

theorem Determined.contentBytes_eq {contents : Contents} {generation : String} {dir : GenerationDir}
    (h : Determined contents generation dir) :
    dir.contentBytes = terminate 0 (dir.stats.flatMap fun stat =>
      contentWords stat.category stat.name (contents generation stat)) := by
  simp only [contentBytes, stats, List.flatMap_assoc, List.flatMap_map]
  congr 1
  refine List.flatMap_congr fun category _ => List.flatMap_congr fun file hfile => ?_
  rw [h category file hfile]

/-- Files with the same attributes have the same content. -/
theorem Determined.contentBytes_congr {contents : Contents} {generation : String}
    {dir dir' : GenerationDir} (h : Determined contents generation dir)
    (h' : Determined contents generation dir') (hstat : dir.statBytes = dir'.statBytes) :
    dir.contentBytes = dir'.contentBytes := by
  rw [h.contentBytes_eq, h'.contentBytes_eq, stats_eq_of_statBytes hstat]

/-! ## Refreshes of a quiet publisher -/

section Refreshes

variable {Digest : Type} [DecidableEq Digest] {hash : Hash Digest} {table : Char → Char}
  {contents : Contents} {maxSnapshotAge : Int} {source : LiveMetadata Digest} {r : Refresh}
  {manifest : ParsedMetadataManifest} {dir : GenerationDir} {active : Generation Digest}

/-- The manifest that the refresh reads and accepts. -/
def ReadsManifest (maxSnapshotAge : Int) (r : Refresh) (manifest : ParsedMetadataManifest) : Prop :=
  (r.moments 0).untrusted = none ∧
    loadMetadataManifest ((r.moments 1).answer .readManifest) r.now maxSnapshotAge = .ok manifest

/-- The publisher leaves the files of the generation that the refresh reads alone while it runs. -/
def Quiet (maxSnapshotAge : Int) (r : Refresh) : Prop :=
  ∀ manifest, ReadsManifest maxSnapshotAge r manifest →
    ∀ n, (r.moments n).generation manifest.generation = (r.moments 0).generation manifest.generation

/-- At every moment of the refresh the attributes of files determine what they contain. -/
def DeterminedDuring (contents : Contents) (r : Refresh) : Prop :=
  ∀ n generation, Determined contents generation ((r.moments n).generation generation)

theorem readsManifest_of_ok {refreshed : Refreshed Digest}
    (h : refreshResult hash table source r = .ok refreshed) :
    ReadsManifest source.maxSnapshotAge r refreshed.manifest := by
  simp only [refreshResult, refreshProg, exec_act] at h
  split at h
  · cases h
  next hroot =>
    simp only [exec_act] at h
    split at h
    · cases h
    next manifest hmanifest =>
      rw [exec_bind] at h
      split at h <;> cases h
      exact ⟨hroot, hmanifest⟩

/-- The result of a refresh that reads this manifest. -/
theorem refreshResult_exec (hreads : ReadsManifest source.maxSnapshotAge r manifest) :
    refreshResult hash table source r =
      (exec r.handle 2 (within manifest.generation
        (refreshGeneration hash table source.active manifest))).2.map (⟨manifest, ·⟩) := by
  have hroot : (r.handle 0 .validateRoot).2 = none := hreads.1
  have hmanifest : loadMetadataManifest (r.handle 1 .readManifest).2 r.now source.maxSnapshotAge =
      .ok manifest := hreads.2
  simp only [refreshResult, refreshProg, exec_act, hroot]
  simp only [Refresh.handle] at hmanifest ⊢
  simp only [hmanifest, exec_bind]
  cases (exec r.handle 2 (within manifest.generation
    (refreshGeneration hash table source.active manifest))).2 <;> rfl

/-- The result when the generation does not change. -/
theorem refreshResult_eq (hreads : ReadsManifest source.maxSnapshotAge r manifest)
    (hquiet : ∀ n, (r.moments n).generation manifest.generation = dir) :
    refreshResult hash table source r =
      (eval dir.answer (refreshGeneration hash table source.active manifest)).map
        (⟨manifest, ·⟩) := by
  rw [refreshResult_exec hreads, exec_within hquiet]

theorem refreshResult_ok_iff {candidate : Option (Generation Digest)}
    (hquiet : Quiet source.maxSnapshotAge r) :
    refreshResult hash table source r = .ok ⟨manifest, candidate⟩ ↔
      ReadsManifest source.maxSnapshotAge r manifest ∧
        eval ((r.moments 0).generation manifest.generation).answer
          (refreshGeneration hash table source.active manifest) = .ok candidate := by
  constructor
  · intro h
    have hreads := readsManifest_of_ok h
    rw [refreshResult_eq hreads (hquiet manifest hreads), Except.map.eq_def] at h
    split at h
    all_goals cases h
    exact ⟨hreads, ‹_›⟩
  · rintro ⟨hreads, heval⟩
    rw [refreshResult_eq hreads (hquiet manifest hreads), heval]
    rfl

/-- How many calls the refresh made. -/
def refreshCalls (hash : Hash Digest) (table : Char → Char) (source : LiveMetadata Digest)
    (r : Refresh) : Nat :=
  (exec r.handle 0 (refreshProg hash table source r.now)).1

theorem le_exec_handle {α : Type} (p : FileProg α) (n : Nat) : n ≤ (exec r.handle n p).1 := by
  induction p generalizing n with
  | done value => exact Nat.le_refl n
  | act c next ih => exact Nat.le_of_succ_le (ih _ (n + 1))

theorem refreshCalls_pos : 0 < refreshCalls hash table source r :=
  le_exec_handle _ 1

/-! ### What was accepted -/

/-- The generation was parsed from files, and its fingerprint is of the same files. -/
def ParsedFrom (hash : Hash Digest) (contents : Contents) (g : Generation Digest) : Prop :=
  ∃ dir : GenerationDir, Determined contents g.generation dir ∧
    g.digest = hash.sum dir.contentBytes ∧
    g.statFingerprint = hash.fingerprint (eval dir.answer statGenerationFingerprint)

omit [DecidableEq Digest] in
/-- What `activate` returns is a new generation. -/
theorem eval_activate {candidate : Option (Generation Digest)}
    (h : eval dir.answer (activate hash table manifest) = .ok candidate) :
    ∃ g, candidate = some g ∧ g.generation = manifest.generation ∧
      g.digest = hash.sum dir.contentBytes ∧
      g.statFingerprint = hash.fingerprint (eval dir.answer statGenerationFingerprint) := by
  rw [activate, eval_bind] at h
  split at h
  · cases h
  next snapshot hashed hload =>
    obtain rfl := eval_loadLiveGeneration hload
    rw [eval_bind] at h
    cases h
    exact ⟨_, rfl, rfl, rfl, rfl⟩

/-- A new generation comes from `activate`. -/
theorem eval_refreshGeneration_some {current : Option (Generation Digest)} {g : Generation Digest}
    (h : eval dir.answer (refreshGeneration hash table current manifest) = .ok (some g)) :
    eval dir.answer (activate hash table manifest) = .ok (some g) := by
  unfold refreshGeneration at h
  split at h
  · exact h
  · split at h
    · cases h
    split at h
    · cases recheck_keeps.eval dir.answer _ h
    · exact h

/-- The active generation is kept when it is checked again. -/
theorem eval_refreshGeneration_none {current : Option (Generation Digest)} :
    eval dir.answer (refreshGeneration hash table current manifest) = .ok none ↔
      ∃ g, current = some g ∧ manifest.revision = g.revision ∧
        eval dir.answer (recheck hash table g manifest) = .ok none := by
  have hnew : eval dir.answer (activate hash table manifest) ≠ .ok none := by
    intro h
    obtain ⟨g, hg, -⟩ := eval_activate h
    cases hg
  unfold refreshGeneration
  cases current with
  | none => exact iff_of_false hnew (by simp)
  | some g =>
    simp only [Option.some.injEq, exists_eq_left']
    constructor
    · intro h
      split at h
      · cases h
      split at h
      next hrevision => exact ⟨hrevision, h⟩
      next => exact absurd h hnew
    · rintro ⟨hrevision, h⟩
      rw [if_neg (by omega), if_pos hrevision]
      exact h

/-- The files have the attributes that the fingerprint was taken of. -/
def StatUnchanged (hash : Hash Digest) (active : Generation Digest) (dir : GenerationDir) : Prop :=
  ∃ hashed, eval dir.answer statGenerationFingerprint = .ok hashed ∧
    hash.sum hashed = active.statFingerprint

structure SameManifest (active : Generation Digest) (manifest : ParsedMetadataManifest) : Prop where
  generation : manifest.generation = active.generation
  publishedAt : manifest.publishedAt = active.publishedAt
  validUntil : manifest.validUntil = active.validUntil

theorem eval_verifyUnchanged
    (h : eval dir.answer (verifyUnchanged hash table active manifest) = .ok none) :
    SameManifest active manifest ∧ hash.sum dir.contentBytes = active.digest := by
  rw [verifyUnchanged, eval_bind] at h
  split at h
  · cases h
  next snapshot hashed hload =>
    obtain rfl := eval_loadLiveGeneration hload
    split at h
    next => cases h
    next hsame =>
      simp only [not_or, not_not] at hsame
      obtain ⟨hgeneration, hpublishedAt, hvalidUntil, hdigest⟩ := hsame
      exact ⟨⟨hgeneration.symm, hpublishedAt.symm, hvalidUntil.symm⟩, hdigest.symm⟩

/-- A recheck succeeds on the cheap path, which does not look at the times, or on the full one. -/
theorem eval_recheck (h : eval dir.answer (recheck hash table active manifest) = .ok none) :
    manifest.generation = active.generation ∧ StatUnchanged hash active dir ∨
      SameManifest active manifest ∧ hash.sum dir.contentBytes = active.digest := by
  unfold recheck at h
  split at h
  next hgeneration =>
    rw [eval_bind] at h
    split at h
    next => exact .inr (eval_verifyUnchanged h)
    next hashed hstat =>
      split at h
      next hsum => exact .inl ⟨hgeneration, hashed, hstat, hsum⟩
      next => exact .inr (eval_verifyUnchanged h)
  next => exact .inr (eval_verifyUnchanged h)

theorem eval_recheck_cheap (table : Char → Char) (hgeneration : manifest.generation = active.generation)
    (hstat : StatUnchanged hash active dir) :
    eval dir.answer (recheck hash table active manifest) = .ok none := by
  obtain ⟨hashed, hhashed, hsum⟩ := hstat
  rw [recheck, if_pos hgeneration, eval_bind, hhashed]
  simp only [hsum, if_true]
  rfl

omit [DecidableEq Digest] in
/-- Files with the attributes of those that were accepted have their content. -/
theorem ParsedFrom.content_eq (hfree : hash.CollisionFree) (hparsed : ParsedFrom hash contents active)
    (hdetermined : Determined contents active.generation dir)
    (hstat : StatUnchanged hash active dir) : hash.sum dir.contentBytes = active.digest := by
  obtain ⟨accepted, haccepted, hdigest, hfingerprint⟩ := hparsed
  obtain ⟨hashed, hhashed, hsum⟩ := hstat
  rw [hfingerprint] at hsum
  cases hstat : eval accepted.answer statGenerationFingerprint with
  | error err =>
    rw [hstat] at hsum
    exact absurd hsum (hfree.sum_ne_zero hashed)
  | ok hashed' =>
    rw [hstat] at hsum
    have hsame : hashed = hashed' := hfree.injective hsum
    rw [hdigest]
    congr 1
    refine hdetermined.contentBytes_congr haccepted ?_
    rw [← eval_statGenerationFingerprint hhashed, ← eval_statGenerationFingerprint hstat, hsame]

theorem parsedFrom_refreshAt (hquiet : Quiet source.maxSnapshotAge r)
    (hdetermined : DeterminedDuring contents r)
    (hsource : ∀ g, source.active = some g → ParsedFrom hash contents g) :
    ∀ g, (refreshAt hash table source r).active = some g → ParsedFrom hash contents g := by
  intro g hg
  rcases refreshAt_cases hash table source r with heq | ⟨manifest, new, hresult, heq, -⟩
  · exact hsource g (heq ▸ hg)
  · rw [heq] at hg
    cases hg
    obtain ⟨-, heval⟩ := (refreshResult_ok_iff hquiet).mp hresult
    obtain ⟨_, ⟨⟩, hgeneration, hdigest, hfingerprint⟩ := eval_activate (eval_refreshGeneration_some heval)
    exact ⟨_, hgeneration ▸ hdetermined 0 manifest.generation, hdigest, hfingerprint⟩

theorem parsedFrom_history (hash : Hash Digest) (table : Char → Char) {refreshes : List Refresh}
    (h : ∀ r ∈ refreshes, Quiet maxSnapshotAge r ∧ DeterminedDuring contents r) :
    ∀ g, (history hash table (.new Digest maxSnapshotAge) refreshes).active = some g →
      ParsedFrom hash contents g := by
  induction refreshes using List.reverseRecOn with
  | nil => intro g hg; cases hg
  | append_singleton refreshes r ih =>
    obtain ⟨hbefore, hr⟩ := List.forall_mem_append.mp h
    obtain ⟨hquiet, hdetermined⟩ := hr r (by simp)
    rw [history_concat]
    refine parsedFrom_refreshAt ?_ hdetermined (ih hbefore)
    rw [maxSnapshotAge_history]
    exact hquiet

/-! ### When a refresh reports what is true -/

/-- A refresh that keeps the active generation has read its manifest again, and at some moment of the
    refresh the files had the content that the generation was parsed from. -/
def ReportsUnchanged (hash : Hash Digest) (table : Char → Char) (source : LiveMetadata Digest)
    (r : Refresh) : Prop :=
  ∀ active manifest, source.active = some active →
    refreshResult hash table source r = .ok ⟨manifest, none⟩ →
    SameManifest active manifest ∧ ∃ n < refreshCalls hash table source r,
      hash.sum ((r.moments n).generation manifest.generation).contentBytes = active.digest

/-- The publisher does not announce the active revision and generation with other times while the
    attributes of the files stay as they were accepted. -/
def NotReannounced (hash : Hash Digest) (source : LiveMetadata Digest) (r : Refresh) : Prop :=
  ∀ active manifest, source.active = some active → ReadsManifest source.maxSnapshotAge r manifest →
    manifest.revision = active.revision → manifest.generation = active.generation →
    StatUnchanged hash active ((r.moments 0).generation manifest.generation) →
    manifest.publishedAt = active.publishedAt ∧ manifest.validUntil = active.validUntil

/-- Under a publisher that leaves a generation alone while it is read, the reports of a refresh are true
    exactly when the manifest is not announced again with other times. -/
theorem reportsUnchanged_iff (hash : Hash Digest) (hfree : hash.CollisionFree)
    (table : Char → Char) (contents : Contents) (maxSnapshotAge : Int) (refreshes : List Refresh)
    (r : Refresh)
    (h : ∀ p ∈ r :: refreshes, Quiet maxSnapshotAge p ∧ DeterminedDuring contents p) :
    ReportsUnchanged hash table (history hash table (.new Digest maxSnapshotAge) refreshes) r ↔
      NotReannounced hash (history hash table (.new Digest maxSnapshotAge) refreshes) r := by
  obtain ⟨⟨hquiet, hdetermined⟩, hrefreshes⟩ := List.forall_mem_cons.mp h
  have hparsed := parsedFrom_history hash table hrefreshes
  have hage : (history hash table (.new Digest maxSnapshotAge) refreshes).maxSnapshotAge =
      maxSnapshotAge := maxSnapshotAge_history refreshes
  generalize history hash table (.new Digest maxSnapshotAge) refreshes = source at hparsed hage
  subst hage
  constructor
  · intro hreports active manifest hactive hreads hrevision hgeneration hstat
    have heval := eval_refreshGeneration_none.mpr
      ⟨active, hactive, hrevision, eval_recheck_cheap table hgeneration hstat⟩
    have hresult := (refreshResult_ok_iff hquiet).mpr ⟨hreads, heval⟩
    obtain ⟨hsame, -⟩ := hreports active manifest hactive hresult
    exact ⟨hsame.publishedAt, hsame.validUntil⟩
  · intro hannounced active manifest hactive hresult
    obtain ⟨hreads, heval⟩ := (refreshResult_ok_iff hquiet).mp hresult
    obtain ⟨g, hg, hrevision, hrecheck⟩ := eval_refreshGeneration_none.mp heval
    obtain rfl := Option.some.inj (hactive.symm.trans hg)
    rcases eval_recheck hrecheck with ⟨hsame, hstat⟩ | ⟨hsame, hcontent⟩
    · obtain ⟨hpublishedAt, hvalidUntil⟩ :=
        hannounced active manifest hactive hreads hrevision hsame hstat
      exact ⟨⟨hsame, hpublishedAt, hvalidUntil⟩, 0, refreshCalls_pos,
        (hparsed active hactive).content_eq hfree (hsame ▸ hdetermined 0 _) hstat⟩
    · exact ⟨hsame, 0, refreshCalls_pos, hcontent⟩

end Refreshes

/-! ## Reports that are not true -/

/-- A hash that keeps all of its input. -/
def wholeHash : Hash (Option Bytes) := ⟨some, none⟩

theorem wholeHash_collisionFree : wholeHash.CollisionFree :=
  ⟨Option.some_injective _, fun _ => Option.some_ne_none _⟩

def manifestMembers (validUntil : String) : Members :=
  [("contract_version", .number ⟨['1'], @rfl _ true⟩), ("revision", .number ⟨['1'], @rfl _ true⟩),
    ("generation", .string "generation-1"), ("published_at", .string "2026-01-01T00:00:00Z"),
    ("valid_until", .string validUntil)]

/-- 2026-01-01T00:00:00Z -/
def newYear : Int := 1767225600000000000

def second : Int := 1000000000

/-- The manifest with these members, accepted at its publication for at most 30 seconds. -/
def newYearManifest (validUntil : Int) : ParsedMetadataManifest :=
  ⟨1, "generation-1", newYear, validUntil, newYear + 30 * second⟩

def regularFile (name : FileName) (data : Bytes) : File := ⟨name, .regular, data, 0, none, none⟩

def manifestFile (validUntil : String) : File :=
  regularFile ⟨[], by simp⟩ (Json.object (manifestMembers validUntil)).bytes

/-- The three required directories, of which only that for revocations has a file, or none has. -/
def revocationsDir (files : List File) (sorted : files.Pairwise fun a b => a.name.bytes < b.name.bytes) :
    GenerationDir where
  untrusted := none
  category
    | .revocations => some ⟨files, sorted, none, none⟩
    | .authorizations | .routes => some ⟨[], .nil, none, none⟩
    | _ => none

def emptyDir : GenerationDir := revocationsDir [] .nil

def disk (validUntil : String) (dir : GenerationDir) : FileSystem where
  untrusted := none
  manifest := some (manifestFile validUntil)
  generation _ := dir

/-- The empty generation, accepted under the first manifest with this fingerprint. -/
def accepted (stat : Bytes) : Generation (Option Bytes) where
  snapshot := .new
  revision := 1
  generation := "generation-1"
  publishedAt := newYear
  validUntil := newYear + 3600 * second
  deadline := newYear + 30 * second
  digest := some []
  statFingerprint := some stat

/-- A refresh in which the files change before the call with this number. -/
def changing (validUntil : String) (before after : GenerationDir) (calls : Nat) : Refresh where
  now := newYear
  moments n := disk validUntil (if n < calls then before else after)

theorem readsManifest_changing {validUntil : String} {manifest : ParsedMetadataManifest}
    (hsize : (manifestFile validUntil).data.length ≤ maxMetadataManifestBytes)
    (haccept : ∀ data, jsonValue data = some (.object (manifestMembers validUntil)) →
      loadMetadataManifest (.ok data) newYear (30 * second) = .ok manifest)
    (before after : GenerationDir) (calls : Nat) :
    ReadsManifest (30 * second) (changing validUntil before after calls) manifest := by
  refine ⟨rfl, ?_⟩
  have hread (dir : GenerationDir) :
      (disk validUntil dir).answer .readManifest = .ok (manifestFile validUntil).data := by
    have hkind : (manifestFile validUntil).kind = .regular := rfl
    have hreadErr : (manifestFile validUntil).readErr = none := rfl
    simp only [FileSystem.answer, disk, readTrustedMetadataFile, hkind, hreadErr, reduceCtorEq,
      if_false, ne_eq, not_true_eq_false, gt_iff_lt, Nat.not_lt.mpr hsize]
  simp only [changing, hread]
  exact haccept _ (jsonValue_bytes _)

theorem loadMetadataManifest_object {data : Bytes} :
    (jsonValue data = some (.object (manifestMembers "2026-01-01T01:00:00Z")) →
      loadMetadataManifest (.ok data) newYear (30 * second) =
        .ok (newYearManifest (newYear + 3600 * second))) ∧
    (jsonValue data = some (.object (manifestMembers "2026-01-01T02:00:00Z")) →
      loadMetadataManifest (.ok data) newYear (30 * second) =
        .ok (newYearManifest (newYear + 7200 * second))) := by
  constructor <;>
  · intro hobject
    simp only [loadMetadataManifest, parseManifest, validateStrictJSONObject_object hobject,
      decodeStrict, hobject, Except.mapError, bind, Except.bind]
    decide +kernel

theorem readsManifest_first (before after : GenerationDir) (calls : Nat) :
    ReadsManifest (30 * second) (changing "2026-01-01T01:00:00Z" before after calls)
      (newYearManifest (newYear + 3600 * second)) :=
  readsManifest_changing (by decide +kernel) (fun _ => loadMetadataManifest_object.1) before after calls

theorem readsManifest_second (before after : GenerationDir) (calls : Nat) :
    ReadsManifest (30 * second) (changing "2026-01-01T02:00:00Z" before after calls)
      (newYearManifest (newYear + 7200 * second)) :=
  readsManifest_changing (by decide +kernel) (fun _ => loadMetadataManifest_object.2) before after calls

theorem quiet_changing (validUntil : String) (dir : GenerationDir) :
    Quiet (30 * second) (changing validUntil dir dir 0) := fun _ _ _ => rfl

/-- A file that is published after the generation was parsed. -/
def lateFile : File := regularFile ⟨[46, 106, 115, 111, 110], by decide⟩ []

def lateDir : GenerationDir := revocationsDir [lateFile] (List.pairwise_singleton _ _)

/-- What its fingerprint is the hash of. -/
def lateStat : Bytes := terminate 0 (statWords .revocations lateFile.name lateFile.info)

/-- The source before its first refresh. -/
def fresh : LiveMetadata (Option Bytes) := .new _ (30 * second)

def firstRefresh : Refresh := changing "2026-01-01T01:00:00Z" emptyDir emptyDir 0

/-- The same files under a manifest with another `valid_until`. -/
def reannouncedRefresh : Refresh := changing "2026-01-01T02:00:00Z" emptyDir emptyDir 0

/-- The calls up to the twelfth parse the generation; the later ones take its fingerprint. -/
def lateRefresh : Refresh := changing "2026-01-01T01:00:00Z" emptyDir lateDir 13

def afterLateRefresh : Refresh := changing "2026-01-01T01:00:00Z" lateDir lateDir 0

/-- The source that has accepted the empty generation with this fingerprint. -/
def acceptedSource (stat : Bytes) : LiveMetadata (Option Bytes) := ⟨30 * second, some (accepted stat)⟩

theorem history_first : history wholeHash id fresh [firstRefresh] = acceptedSource [] := by
  have hreads : ReadsManifest fresh.maxSnapshotAge firstRefresh _ :=
    readsManifest_first emptyDir emptyDir 0
  rw [history, List.foldl_cons, List.foldl_nil, refreshAt, refreshResult_exec hreads]
  rfl

theorem history_late : history wholeHash id fresh [lateRefresh] = acceptedSource lateStat := by
  have hreads : ReadsManifest fresh.maxSnapshotAge lateRefresh _ :=
    readsManifest_first emptyDir lateDir 13
  rw [history, List.foldl_cons, List.foldl_nil, refreshAt, refreshResult_exec hreads]
  rfl

/-- The revision is announced again with another `valid_until`, and reported as unchanged. A file that is
    published between the parse and the fingerprint is reported as unchanged by the next refresh, during
    all of which the files are not those that were parsed. -/
theorem reannounced_reported_unchanged :
    (∃ active manifest, (history wholeHash id fresh [firstRefresh]).active = some active ∧
      refreshResult wholeHash id (history wholeHash id fresh [firstRefresh]) reannouncedRefresh =
        .ok ⟨manifest, none⟩ ∧
      manifest.revision = active.revision ∧ manifest.validUntil ≠ active.validUntil) ∧
    ∃ active manifest, (history wholeHash id fresh [lateRefresh]).active = some active ∧
      refreshResult wholeHash id (history wholeHash id fresh [lateRefresh]) afterLateRefresh =
        .ok ⟨manifest, none⟩ ∧
      ∀ n, wholeHash.sum ((afterLateRefresh.moments n).generation manifest.generation).contentBytes ≠
        active.digest := by
  rw [history_first, history_late]
  have hsecond : ReadsManifest (acceptedSource []).maxSnapshotAge reannouncedRefresh _ :=
    readsManifest_second emptyDir emptyDir 0
  have hfirst : ReadsManifest (acceptedSource lateStat).maxSnapshotAge afterLateRefresh _ :=
    readsManifest_first lateDir lateDir 0
  rw [refreshResult_exec hsecond, refreshResult_exec hfirst]
  refine ⟨⟨accepted [], newYearManifest (newYear + 7200 * second), rfl, rfl, rfl, by decide⟩,
    ⟨accepted lateStat, newYearManifest (newYear + 3600 * second), rfl, rfl, fun n => ?_⟩⟩
  have hfiles : (afterLateRefresh.moments n).generation "generation-1" = lateDir := by
    simp only [afterLateRefresh, changing, disk, ite_self]
  have hcontent : lateDir.contentBytes ≠ [] := by
    change terminate 0 (contentWords .revocations lateFile.name lateFile.data) ≠ []
    simp [contentWords]
  change some ((afterLateRefresh.moments n).generation "generation-1").contentBytes ≠ some []
  rw [hfiles]
  exact fun h => hcontent (Option.some.inj h)

/-- What a generation that never changes has under the attributes of its files. -/
def GenerationDir.contents (dir : GenerationDir) : Contents := fun _ stat =>
  ((dir.category stat.category).bind (·.find stat.name)).elim [] File.data

theorem determined_contents (dir : GenerationDir) (generation : String) :
    Determined dir.contents generation dir := by
  intro category file hfile
  simp only [GenerationDir.contents, answer_info hfile, Option.elim_some]

/-- One record in `.json` -/
def oneRevocation (data : Bytes) : GenerationDir :=
  revocationsDir [regularFile lateFile.name data] (List.pairwise_singleton _ _)

def recordedDir : GenerationDir := oneRevocation laterRevocation

def recordedRefresh : Refresh := changing "2026-01-01T01:00:00Z" recordedDir recordedDir 0

theorem generation_recordedRefresh (n : Nat) (generation : String) :
    (recordedRefresh.moments n).generation generation = recordedDir := rfl

theorem eval_loadLiveGeneration_oneRevocation {data : Bytes} {source : SnapshotMetadata}
    (hsize : data.length ≤ 1000) (hload : new.load id [(.revocations, data)] = (source, none)) :
    eval (oneRevocation data).answer (loadLiveGeneration id) =
      .ok (source, (oneRevocation data).contentBytes) := by
  have hready : source.ready = none := by
    rw [ready, (represents_of_load hload).ready, Option.map_none]
  obtain ⟨d, added, hread, hput, hload⟩ := load_cons_ok_iff.mp hload
  cases hload
  have hadd := addJSON_ok_iff.mpr ⟨d, hread, hput⟩
  have hfile : eval (oneRevocation data).answer (call (.readFile .revocations lateFile.name)) =
      .ok data := by
    have hsmall : ¬ maxMetadataRecordBytes < data.length := by
      simp only [maxMetadataRecordBytes]
      omega
    change readTrustedMetadataFile (some (regularFile lateFile.name data)) _ = _
    simp [readTrustedMetadataFile, regularFile, hsmall]
  have hbytes : ¬ maxLiveGenerationBytes < 0 + data.length := by
    simp only [maxLiveGenerationBytes]
    omega
  let loaded : Loading :=
    ⟨source, terminate 0 (contentWords .revocations lateFile.name data), 1, 0 + data.length⟩
  have hentry : eval (oneRevocation data).answer
      (loadEntry id .revocations ⟨lateFile.name, .regular⟩ .start) = .ok loaded := by
    change eval (oneRevocation data).answer (call (.readFile .revocations lateFile.name) >>= _) = _
    simp only [eval_bind, hfile, Loading.start, gt_iff_lt, hbytes, if_false, hadd]
    rfl
  have hcategory : eval (oneRevocation data).answer (loadCategory id .revocations .start) =
      .ok loaded := by
    change eval (oneRevocation data).answer
      (loop (loadEntry id .revocations) [⟨lateFile.name, .regular⟩] .start) = _
    rw [loop, eval_bind, hentry]
    rfl
  -- the other categories are empty or missing
  have hloop : eval (oneRevocation data).answer (loop (loadCategory id) Category.all .start) =
      .ok loaded := by
    change eval (oneRevocation data).answer
      (loop (loadCategory id) [.revocations, .serviceEndpoints, .connectorGrants] .start) = _
    rw [loop, eval_bind, hcategory]
    rfl
  have hroot : eval (oneRevocation data).answer (call .validateRoot) = none := rfl
  simp only [loadLiveGeneration, eval_bind, hroot, hloop, loaded, hready]
  rfl

/-- The record is accepted under the first manifest. -/
theorem history_recorded : ∃ active,
    (history wholeHash id fresh [recordedRefresh]).active = some active ∧
      new.load id [(.revocations, laterRevocation)] = (active.snapshot, none) ∧
      active.digest = wholeHash.sum recordedDir.contentBytes ∧ active.revision = 1 ∧
      SameManifest active (newYearManifest (newYear + 3600 * second)) ∧
      StatUnchanged wholeHash active recordedDir := by
  obtain ⟨source, hload⟩ := load_laterRevocation
  obtain ⟨stat, hstat⟩ : ∃ stat, eval recordedDir.answer statGenerationFingerprint = .ok stat :=
    ⟨_, rfl⟩
  have hreads : ReadsManifest fresh.maxSnapshotAge recordedRefresh _ :=
    readsManifest_first recordedDir recordedDir 0
  have hactivate : eval recordedDir.answer (refreshGeneration wholeHash id fresh.active
      (newYearManifest (newYear + 3600 * second))) = .ok (some
        { accepted stat with snapshot := source, digest := some recordedDir.contentBytes }) := by
    have hloaded : eval recordedDir.answer (loadLiveGeneration id) = _ :=
      eval_loadLiveGeneration_oneRevocation (by decide +kernel) hload
    change eval recordedDir.answer (activate wholeHash id _) = _
    rw [activate, eval_bind, hloaded]
    simp only [eval_bind, hstat]
    rfl
  refine ⟨{ accepted stat with snapshot := source, digest := some recordedDir.contentBytes }, ?_,
    hload, rfl, rfl, ⟨rfl, rfl, rfl⟩, stat, hstat, rfl⟩
  rw [history, List.foldl_cons, List.foldl_nil, refreshAt,
    refreshResult_eq hreads fun n => generation_recordedRefresh n _, hactivate]
  rfl

/-- The record is refreshed again under the manifest that was accepted. -/
theorem reportsUnchanged_iff_recorded :
    ∃ active, (history wholeHash id fresh [recordedRefresh]).active = some active ∧
      new.load id [(.revocations, laterRevocation)] = (active.snapshot, none) ∧
      active.digest = wholeHash.sum recordedDir.contentBytes ∧
      refreshResult wholeHash id (history wholeHash id fresh [recordedRefresh]) recordedRefresh =
        .ok ⟨newYearManifest (newYear + 3600 * second), none⟩ ∧
      ReportsUnchanged wholeHash id (history wholeHash id fresh [recordedRefresh]) recordedRefresh := by
  obtain ⟨active, hactive, hload, hdigest, hrevision, hsame, hstat⟩ := history_recorded
  have hage : (history wholeHash id fresh [recordedRefresh]).maxSnapshotAge = 30 * second :=
    maxSnapshotAge_history [recordedRefresh]
  have hquiet : Quiet (30 * second) recordedRefresh := quiet_changing _ _
  have hdetermined : DeterminedDuring recordedDir.contents recordedRefresh :=
    fun _ generation => determined_contents recordedDir generation
  have hreads : ReadsManifest (30 * second) recordedRefresh _ :=
    readsManifest_first recordedDir recordedDir 0
  have hannounced : NotReannounced wholeHash (history wholeHash id fresh [recordedRefresh])
      recordedRefresh := by
    intro other manifest hother hreads' _ _ _
    cases hactive.symm.trans hother
    rw [hage] at hreads'
    rw [← Except.ok.inj (hreads.2.symm.trans hreads'.2)]
    exact ⟨hsame.publishedAt, hsame.validUntil⟩
  refine ⟨active, hactive, hload, hdigest, ?_, (reportsUnchanged_iff wholeHash
    wholeHash_collisionFree id recordedDir.contents (30 * second) [recordedRefresh] recordedRefresh
    (by simp [hquiet, hdetermined])).mpr hannounced⟩
  rw [refreshResult_eq (hage ▸ hreads) fun n => generation_recordedRefresh n _,
    eval_refreshGeneration_none.mpr
      ⟨active, hactive, hrevision.symm, eval_recheck_cheap id hsame.generation hstat⟩]
  rfl

end Hooshix.Gateway.Authority
