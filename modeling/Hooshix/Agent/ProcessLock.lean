-- SUMMARY: The in-process config lock as a keyed mutex that removes its unused entries.
import Hooshix.Lib.StepSystem
import Mathlib.Data.List.Perm.Basic
import Mathlib.Logic.Function.Basic

/-! # The process lock

`acquireProcessConfigLock` and the function it returns, for any number of goroutines. The two critical
sections of the map are one step each, and so are `Lock` and `Unlock` of an entry. Entries are named
by pointers; what is not allocated yet is the zero entry, and no pointer is allocated twice. A call
leaves the list of calls when it has dropped its reference.
-/

namespace Hooshix.Agent.ProcessLock

structure ProcessConfigLockEntry where
  locked : Bool := false
  refs : Int := 0

inductive Phase where
  /-- in `entry.mu.Lock` -/
  | waiting
  | holding
  /-- past `entry.mu.Unlock`, with its reference not yet dropped -/
  | unlocked
  deriving DecidableEq

structure LockCall where
  stateDir : String
  entry : Nat
  phase : Phase
  deriving DecidableEq

structure ProcessConfigLocks where
  byStateDir : String → Option Nat := fun _ => none
  entries : Nat → ProcessConfigLockEntry := fun _ => {}
  allocated : Nat := 0
  calls : List LockCall := []

inductive Label where
  | acquire (stateDir : String)
  /-- the next step of the call at place `i` -/
  | advance (i : Nat)

namespace ProcessConfigLocks

/-- The critical section of `acquireProcessConfigLock`; the caller goes on to `entry.mu.Lock`. -/
def acquire (s : ProcessConfigLocks) (stateDir : String) : ProcessConfigLocks :=
  let (byStateDir, allocated, entry) :=
    match s.byStateDir stateDir with
    | some entry => (s.byStateDir, s.allocated, entry)
    | none =>
      (Function.update s.byStateDir stateDir (some s.allocated), s.allocated + 1, s.allocated)
  { byStateDir, allocated
    entries := Function.update s.entries entry
      { s.entries entry with refs := (s.entries entry).refs + 1 }
    calls := s.calls ++ [⟨stateDir, entry, .waiting⟩] }

def setMutex (s : ProcessConfigLocks) (i : Nat) (call : LockCall) (locked : Bool) (phase : Phase) :
    ProcessConfigLocks :=
  { s with
    entries := Function.update s.entries call.entry { s.entries call.entry with locked := locked }
    calls := s.calls.set i { call with phase := phase } }

/-- `entry.mu.Lock`, which waits while the mutex is locked -/
def lock (s : ProcessConfigLocks) (i : Nat) (call : LockCall) : Option ProcessConfigLocks :=
  if (s.entries call.entry).locked then none else some (s.setMutex i call true .holding)

/-- `entry.mu.Unlock`, which ends the program if the mutex is not locked -/
def unlock (s : ProcessConfigLocks) (i : Nat) (call : LockCall) : Option ProcessConfigLocks :=
  if (s.entries call.entry).locked then some (s.setMutex i call false .unlocked) else none

/-- The critical section of the release function. -/
def drop (s : ProcessConfigLocks) (i : Nat) (call : LockCall) : ProcessConfigLocks :=
  let refs := (s.entries call.entry).refs - 1
  { s with
    byStateDir :=
      if refs = 0 then Function.update s.byStateDir call.stateDir none else s.byStateDir
    entries := Function.update s.entries call.entry { s.entries call.entry with refs := refs }
    calls := s.calls.eraseIdx i }

def step (s : ProcessConfigLocks) : Label → Option ProcessConfigLocks
  | .acquire stateDir => some (s.acquire stateDir)
  | .advance i => s.calls[i]?.bind fun call =>
    match call.phase with
    | .waiting => s.lock i call
    | .holding => s.unlock i call
    | .unlocked => some (s.drop i call)

def Holds (entry : Nat) (call : LockCall) : Prop :=
  call.entry = entry ∧ call.phase = .holding
  deriving Decidable

/-- What a keyed mutex promises that keeps entries only for the calls under way. -/
structure KeyedMutex (s : ProcessConfigLocks) : Prop where
  exclusive : ∀ stateDir,
    s.calls.countP (fun call => call.stateDir = stateDir ∧ call.phase = .holding) ≤ 1
  /-- only a holder of the same directory keeps a call from its next step -/
  independent : ∀ i call, s.calls[i]? = some call → s.step (.advance i) = none →
    call.phase = .waiting ∧
      ∃ other ∈ s.calls, other.stateDir = call.stateDir ∧ other.phase = .holding
  mapped : ∀ stateDir entry, s.byStateDir stateDir = some entry ↔
    ∃ call ∈ s.calls, call.stateDir = stateDir ∧ call.entry = entry
  refs : ∀ stateDir entry, s.byStateDir stateDir = some entry →
    (s.entries entry).refs = s.calls.countP (·.entry = entry)
  /-- what a call waits for or holds is the entry in the map -/
  current : ∀ call ∈ s.calls, s.byStateDir call.stateDir = some call.entry

/-! ## The entries and the calls -/

structure Sound (s : ProcessConfigLocks) : Prop where
  current : ∀ call ∈ s.calls, s.byStateDir call.stateDir = some call.entry
  separate : ∀ d d' e, s.byStateDir d = some e → s.byStateDir d' = some e → d = d'
  allocated : ∀ d e, s.byStateDir d = some e → e < s.allocated
  used : ∀ d e, s.byStateDir d = some e → (s.entries e).refs ≠ 0
  counts : ∀ e, (s.entries e).refs = s.calls.countP (·.entry = e) ∧
    (s.entries e).locked.toNat = s.calls.countP (Holds e)

variable {s t : ProcessConfigLocks} {stateDir : String} {entry i : Nat} {call : LockCall}

theorem acquire_sound (hs : s.Sound) : (s.acquire stateDir).Sound := by
  obtain ⟨hcurrent, hseparate, hallocated, hused, hcounts⟩ := hs
  -- either the entry is the one in the map, or its pointer is not in the map
  cases hentry : s.byStateDir stateDir with
  | some entry | none =>
    constructor <;> simp only [acquire, hentry, Function.update_apply, List.countP_append,
      List.countP_singleton, List.mem_append, List.mem_singleton]
    all_goals grind [Holds]

/-- A call set apart from the others. -/
theorem perm_of_call (hcall : s.calls[i]? = some call) :
    s.calls.Perm (call :: s.calls.eraseIdx i) ∧
      ∀ next, (s.calls.set i next).Perm (next :: s.calls.eraseIdx i) := by
  obtain ⟨hi, rfl⟩ := List.getElem?_eq_some_iff.mp hcall
  exact ⟨(List.getElem_cons_eraseIdx_perm hi).symm, List.set_perm_cons_eraseIdx hi⟩

theorem setMutex_sound {locked : Bool} {phase : Phase} (hs : s.Sound)
    (hcall : s.calls[i]? = some call)
    (hlocked : locked.toNat + (if call.phase = .holding then 1 else 0) =
      (s.entries call.entry).locked.toNat + (if phase = .holding then 1 else 0)) :
    (s.setMutex i call locked phase).Sound where
  current := by
    intro other hother
    rcases List.mem_or_eq_of_mem_set hother with hother | rfl
    · exact hs.current other hother
    · exact hs.current call (List.mem_of_getElem? hcall)
  separate := hs.separate
  allocated := hs.allocated
  used := by
    have hused := hs.used
    simp only [setMutex, Function.update_apply]
    grind
  counts := by
    intro e
    obtain ⟨hperm, hset⟩ := perm_of_call hcall
    have hcounts := hs.counts e
    simp only [hperm.countP_eq, List.countP_cons] at hcounts
    simp only [setMutex, Function.update_apply, (hset _).countP_eq, List.countP_cons]
    grind [Holds]

theorem byStateDir_drop (d : String) : (s.drop i call).byStateDir d =
    if (s.entries call.entry).refs - 1 = 0 ∧ d = call.stateDir then none else s.byStateDir d := by
  simp only [drop]
  grind [Function.update_apply]

theorem drop_sound (hs : s.Sound) (hcall : s.calls[i]? = some call)
    (hphase : call.phase = .unlocked) : (s.drop i call).Sound := by
  obtain ⟨hperm, -⟩ := perm_of_call hcall
  have hcounts : ∀ e, ((s.drop i call).entries e).refs =
      (s.drop i call).calls.countP (·.entry = e) ∧
      ((s.drop i call).entries e).locked.toNat = (s.drop i call).calls.countP (Holds e) := by
    intro e
    have hcounts := hs.counts e
    simp only [hperm.countP_eq, List.countP_cons] at hcounts
    simp only [drop, Function.update_apply]
    grind [Holds]
  constructor
  case current =>
    intro other hother
    have hcurrent := hs.current other (List.mem_of_mem_eraseIdx hother)
    rw [byStateDir_drop, if_neg]
    · exact hcurrent
    · -- another call on the directory has a reference too
      rintro ⟨hzero, heq⟩
      have hsame := hs.current call (List.mem_of_getElem? hcall)
      rw [← heq, hcurrent] at hsame
      have hcount := (hcounts call.entry).1
      simp only [drop, Function.update_self, hzero] at hcount
      have hnone := List.countP_eq_zero.mp (Int.ofNat_eq_zero.mp hcount.symm) other hother
      exact hnone (by simpa using hsame)
  case separate =>
    have hseparate := hs.separate
    grind [byStateDir_drop]
  case allocated =>
    intro d e hd
    rw [byStateDir_drop] at hd
    exact hs.allocated d e (Option.ite_none_left_eq_some.mp hd).2
  case used =>
    intro d e hd
    have hused := hs.used d e
    have hseparate := hs.separate d call.stateDir e
    have hcurrent := hs.current call (List.mem_of_getElem? hcall)
    rw [byStateDir_drop] at hd
    simp only [drop, Function.update_apply]
    grind
  case counts => exact hcounts

/-! ## Every interleaving -/

theorem sound_of_step {label : Label} (hs : s.Sound) (hstep : s.step label = some t) : t.Sound := by
  cases label with
  | acquire stateDir =>
    obtain rfl := Option.some.inj hstep
    exact acquire_sound hs
  | advance i =>
    obtain ⟨call, hcall, hstep⟩ := Option.bind_eq_some_iff.mp hstep
    split at hstep
    case h_1 hphase =>
      obtain ⟨hfree, ht⟩ := Option.ite_none_left_eq_some.mp hstep
      obtain rfl := Option.some.inj ht
      exact setMutex_sound hs hcall (by simp [hphase, hfree])
    case h_2 hphase =>
      obtain ⟨hlocked, ht⟩ := Option.ite_none_right_eq_some.mp hstep
      obtain rfl := Option.some.inj ht
      exact setMutex_sound hs hcall (by simp [hphase, hlocked])
    case h_3 hphase =>
      obtain rfl := Option.some.inj hstep
      exact drop_sound hs hcall hphase

theorem exists_call (hs : s.Sound) (hentry : s.byStateDir stateDir = some entry) :
    ∃ call ∈ s.calls, call.stateDir = stateDir ∧ call.entry = entry := by
  have hpos : 0 < s.calls.countP (·.entry = entry) := by
    have hrefs := (hs.counts entry).1
    have hne := hs.used stateDir entry hentry
    omega
  obtain ⟨call, hcall, heq⟩ := List.countP_pos_iff.mp hpos
  obtain rfl := of_decide_eq_true heq
  exact ⟨call, hcall, hs.separate _ _ _ (hs.current call hcall) hentry, rfl⟩

theorem holders_le (hs : s.Sound) (stateDir : String) :
    s.calls.countP (fun call => call.stateDir = stateDir ∧ call.phase = .holding) ≤ 1 := by
  -- all of them hold the entry in the map
  calc s.calls.countP (fun call => call.stateDir = stateDir ∧ call.phase = .holding)
      ≤ s.calls.countP (Holds ((s.byStateDir stateDir).getD 0)) := by
        refine List.countP_mono_left fun call hcall hholds => ?_
        obtain ⟨rfl, hphase⟩ := of_decide_eq_true hholds
        simp [Holds, hs.current call hcall, hphase]
    _ = (s.entries _).locked.toNat := (hs.counts _).2.symm
    _ ≤ 1 := Bool.toNat_le _

theorem holder_of_blocked (hs : s.Sound) (hcall : s.calls[i]? = some call)
    (hstep : s.step (.advance i) = none) : call.phase = .waiting ∧
      ∃ other ∈ s.calls, other.stateDir = call.stateDir ∧ other.phase = .holding := by
  have hlocked := (hs.counts call.entry).2
  have hmem := List.mem_of_getElem? hcall
  simp only [step, hcall, Option.bind_some] at hstep
  split at hstep
  case h_1 hphase =>
    have hbusy : (s.entries call.entry).locked = true := by
      simpa [lock] using hstep
    have hpos : 0 < s.calls.countP (Holds call.entry) := by
      simp [← hlocked, hbusy]
    obtain ⟨other, hother, hholds⟩ := List.countP_pos_iff.mp hpos
    obtain ⟨hsame, hholding⟩ := of_decide_eq_true hholds
    have hdir := hs.separate _ _ _ (hsame ▸ hs.current other hother) (hs.current call hmem)
    exact ⟨hphase, other, hother, hdir, hholding⟩
  case h_2 hphase =>
    -- a call that holds finds the mutex locked
    have hfree : (s.entries call.entry).locked = false := by
      simpa [unlock] using hstep
    rw [hfree] at hlocked
    exact absurd (by simp [Holds, hphase]) (List.countP_eq_zero.mp hlocked.symm call hmem)
  case h_3 => cases hstep

/-- In every interleaving the process lock is a keyed mutex, and its map has the entries of the calls
    under way and no others. -/
theorem keyed_mutex {labels : List Label} (hrun : StepSystem.run step {} labels = some s) :
    s.KeyedMutex := by
  have hs : s.Sound := StepSystem.invariant (I := Sound) sound_of_step
    ⟨by simp, by simp, by simp, by simp, by simp⟩ hrun
  exact {
    exclusive := holders_le hs
    independent := fun i call => holder_of_blocked hs
    mapped := fun stateDir entry => ⟨exists_call hs, by
      rintro ⟨call, hcall, rfl, rfl⟩
      exact hs.current call hcall⟩
    refs := fun _ entry _ => (hs.counts entry).1
    current := hs.current }

theorem keyed_mutex_recreated : ∃ labels s, StepSystem.run step {} labels = some s ∧
    s.byStateDir "a" = some 2 ∧ s.KeyedMutex := by
  have hrun : StepSystem.run step {} [.acquire "a", .acquire "a", .acquire "b", .advance 0,
      .advance 2, .advance 0, .advance 1, .advance 0, .advance 0, .advance 0, .acquire "a",
      .advance 1] = some _ := rfl
  exact ⟨_, _, hrun, rfl, keyed_mutex hrun⟩

end ProcessConfigLocks

end Hooshix.Agent.ProcessLock
