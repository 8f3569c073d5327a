-- SUMMARY: The supervisor's loop over the state on disk.
import Hooshix.Lib.StepSystem

/-! # Watching the state

`Supervisor.Run` with `waitForStateChange` and `runAttempt`. The state on disk has a version, and each
write of the operator makes a new one, which `stateFingerprint` tells from all earlier ones. A read of the
journal, of the config or of the secret is a step, as is each fingerprint. A wait or an attempt is based
on the versions that were read for it; it takes a fingerprint to compare with afterwards.
-/

namespace Hooshix.Agent

/-- What the config comes to. -/
inductive ConfigOutcome where
  /-- truncated, incomplete, or with limits that are not usable: `pending_config` -/
  | pending
  | usable
  /-- any other error, which is terminal -/
  | failed
  deriving DecidableEq, Repr

inductive RunEnd where
  | clean
  | recoverable
  /-- revoked or permanent: the supervisor waits for an operator, for a limited time -/
  | terminal
  deriving DecidableEq, Repr

/-- Where the loop is; `based` are the versions that were read for what it does. -/
inductive WatchPlace where
  | loading
  | loadingConfig (based : List Nat)
  /-- `recoverPendingState` -/
  | recovering
  /-- a wait is decided and its fingerprint not taken yet -/
  | waitDecided (based : List Nat) (bounded : Bool)
  | attemptDecided (based : List Nat)
  | waiting (based : List Nat) (bounded : Bool) (baseline : Nat)
  /-- `served` are the versions that the running loop has read for itself -/
  | running (based served : List Nat) (baseline : Nat)
  | reconnecting
  | stopped
  deriving DecidableEq, Repr

structure StateWatch where
  disk : Nat
  place : WatchPlace
  deriving DecidableEq, Repr

namespace StateWatch

inductive Label where
  | write
  | readJournal (transactionPending : Bool)
  | recovered (ok : Bool)
  | readConfig (outcome : ConfigOutcome)
  /-- the fingerprint before the first poll -/
  | takeBaseline
  | poll
  /-- the running loop reads the config or the secret -/
  | runnerReads
  | runnerEnds (how : RunEnd)
  /-- the recovery window has elapsed -/
  | deadline
  /-- the retry delay has elapsed -/
  | retry
  | cancel
  deriving DecidableEq, Repr

def step (s : StateWatch) : Label → Option StateWatch
  | .write => some { s with disk := s.disk + 1 }
  | .readJournal transactionPending =>
    match s.place with
    | .loading =>
      some { s with place := if transactionPending then .recovering else .loadingConfig [s.disk] }
    | _ => none
  | .recovered ok =>
    match s.place with
    -- the rollback is a write of its own
    | .recovering => some ⟨s.disk + 1, if ok then .loading else .stopped⟩
    | _ => none
  | .readConfig outcome =>
    match s.place with
    | .loadingConfig based =>
      let based := s.disk :: based
      some { s with place :=
        match outcome with
        | .pending => .waitDecided based false
        | .usable => .attemptDecided based
        | .failed => .stopped }
    | _ => none
  | .takeBaseline =>
    match s.place with
    | .waitDecided based bounded => some { s with place := .waiting based bounded s.disk }
    | .attemptDecided based => some { s with place := .running based [] s.disk }
    | _ => none
  | .poll =>
    match s.place with
    | .waiting _ _ baseline | .running _ _ baseline =>
      some (if s.disk ≠ baseline then { s with place := .loading } else s)
    | _ => none
  | .runnerReads =>
    match s.place with
    | .running based served baseline => some { s with place := .running based (s.disk :: served) baseline }
    | _ => none
  | .runnerEnds how =>
    match s.place with
    | .running based served _ =>
      some { s with place :=
        match how with
        | .clean => .stopped
        | .recoverable => .reconnecting
        | .terminal => .waitDecided (based ++ served) true }
    | _ => none
  | .deadline =>
    match s.place with
    | .waiting _ true _ => some { s with place := .stopped }
    | _ => none
  | .retry =>
    match s.place with
    | .reconnecting => some { s with place := .loading }
    | _ => none
  | .cancel => some { s with place := .stopped }

def start (disk : Nat) : StateWatch := ⟨disk, .loading⟩

/-- What a wait or an attempt is based on, and what it compares with. -/
def watched (s : StateWatch) : Option (List Nat × Nat) :=
  match s.place with
  | .waiting based _ baseline => some (based, baseline)
  | .running based served baseline => some (based ++ served, baseline)
  | _ => none

/-- A wait or an attempt that is based on a state other than the one on disk ends at the next poll. -/
def Notices (s : StateWatch) : Prop :=
  ∀ based baseline, s.watched = some (based, baseline) → (∃ version ∈ based, version ≠ s.disk) →
    s.step .poll = some { s with place := .loading }

/-- Nothing was written between the reads that a wait or an attempt is based on and its fingerprint. -/
def settled (s : StateWatch) : Label → Bool
  | .takeBaseline =>
    match s.place with
    | .waitDecided based _ | .attemptDecided based => based.all (· = s.disk)
    | _ => true
  | _ => true

/-- Whatever differs from the disk differs from the fingerprint, and no version is yet to come. -/
def Watching (s : StateWatch) : Prop :=
  ∀ based baseline, s.watched = some (based, baseline) →
    baseline ≤ s.disk ∧ ((∃ version ∈ based, version ≠ s.disk) → baseline ≠ s.disk)

variable {s : StateWatch}

theorem watching_of_none (h : s.watched = none) : s.Watching := by
  intro based baseline hwatched
  cases h.symm.trans hwatched

theorem watching_of_settled {based : List Nat}
    (hsettled : based.all (· = s.disk) = true) (h : s.watched = some (based, s.disk)) : s.Watching := by
  intro based' baseline hwatched
  cases h.symm.trans hwatched
  refine ⟨Nat.le_refl _, fun ⟨version, hmem, hne⟩ => absurd ?_ hne⟩
  simpa using List.all_eq_true.mp hsettled version hmem

theorem Watching.step {s s' : StateWatch} {label : Label} (h : s.Watching) (hsettled : s.settled label = true)
    (hstep : s.step label = some s') : s'.Watching := by
  obtain ⟨disk, place⟩ := s
  cases label with
  | write =>
    cases hstep
    intro based baseline hwatched
    obtain ⟨hle, -⟩ := h based baseline hwatched
    exact ⟨Nat.le_succ_of_le hle, fun _ => Nat.ne_of_lt (Nat.lt_succ_of_le hle)⟩
  | takeBaseline =>
    cases place with
    | waitDecided based bounded =>
      cases hstep
      exact watching_of_settled hsettled rfl
    | attemptDecided based =>
      cases hstep
      exact watching_of_settled hsettled (by simp [watched])
    | _ => cases hstep
  | runnerReads =>
    cases place with
    | running based served baseline =>
      cases hstep
      intro based' baseline' hwatched
      cases hwatched
      obtain ⟨hle, hnotice⟩ := h (based ++ served) baseline rfl
      refine ⟨hle, fun ⟨version, hmem, hne⟩ => hnotice ⟨version, ?_, hne⟩⟩
      -- the version just read is the one on disk
      rcases List.mem_append.mp hmem with hmem | hmem
      · exact List.mem_append_left _ hmem
      · exact List.mem_append_right _ ((List.mem_cons.mp hmem).resolve_left hne)
    | _ => cases hstep
  -- the other steps change nothing or leave no wait and no attempt
  | _ =>
    simp only [StateWatch.step] at hstep
    repeat' split at hstep
    all_goals cases hstep
    all_goals first | exact h | exact watching_of_none rfl

theorem Watching.notices (h : s.Watching) : s.Notices := by
  obtain ⟨disk, place⟩ := s
  intro based baseline hwatched hchanged
  have hne := (h based baseline hwatched).2 hchanged
  cases place with
  | waiting based' bounded baseline' | running based' served baseline' =>
    cases hwatched
    exact congrArg some (if_pos (Ne.symm hne))
  | _ => cases hwatched

/-- No change is missed in a run in which none falls between the reads of a decision and the fingerprint
    that follows it. -/
theorem state_change_noticed (disk : Nat) (labels : List Label) {s : StateWatch}
    (hrun : StepSystem.run step (start disk) labels = some s)
    (hsettled : StepSystem.Along step (fun s label => s.settled label = true) (start disk) labels) :
    s.Notices := by
  have hwatching : s.Watching :=
    StepSystem.invariant_along Watching.step (watching_of_none rfl) hsettled hrun
  exact hwatching.notices

/-- A change of the secret while the tunnel runs. -/
theorem state_change_noticed_running :
    StepSystem.run step (start 0) [.readJournal false, .readConfig .usable, .takeBaseline, .runnerReads,
        .write] = some ⟨1, .running [0, 0] [0] 0⟩ ∧
      Notices ⟨1, .running [0, 0] [0] 0⟩ :=
  ⟨rfl, state_change_noticed 0 [.readJournal false, .readConfig .usable, .takeBaseline, .runnerReads,
    .write] rfl (by decide)⟩

/-- The operator completes the config after it was read and before the fingerprint: the supervisor waits
    on, poll after poll. -/
theorem state_change_missed : ∃ s, StepSystem.run step (start 0)
    [.readJournal false, .readConfig .pending, .write, .takeBaseline] = some s ∧
      s.place = .waiting [0, 0] false 1 ∧ s.disk = 1 ∧ s.step .poll = some s ∧ ¬ s.Notices := by
  refine ⟨⟨1, .waiting [0, 0] false 1⟩, rfl, rfl, rfl, rfl, fun h => ?_⟩
  cases h [0, 0] 1 rfl ⟨0, by decide, by decide⟩

end StateWatch

end Hooshix.Agent
