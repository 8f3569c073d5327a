-- SUMMARY: Data frames for streams that are no longer in the table of a session.
import Hooshix.Gateway.SessionLoop

/-! # Late data

`handleData` takes an ID below `nextID` for one that was allocated before. The counter is a `uint32` in
which zero stands for exhaustion, so once the last ID is allocated no ID is below it. An open that is
refused, by the stream limit or for want of an ID, changes nothing and has no label. Of a session that
was resumed the opens end with `resumeInto`: what the superseded session still allocates after its
counter was read is left out.
-/

namespace Hooshix.Gateway.SessionLoop

open Contract StepSystem

/-- A session with the IDs it has allocated, those before a resume included. -/
structure History where
  sess : SessionView
  allocated : List Nat

namespace History

inductive Label where
  /-- the critical section of `openStreamTarget` -/
  | allocate (stream : StreamView)
  /-- `detachStream` -/
  | detach (streamID : Nat)
  /-- `failAll` -/
  | failAll
  /-- `resumeInto`: the table starts empty, the counter is carried over -/
  | resume (inbound : Nat) (flowControlled : Bool)
  deriving DecidableEq, Repr

def step (s : History) : Label → Option History
  | .allocate stream =>
    if s.sess.nextID = 0 then none
    else some {
      sess := { s.sess with
        streams := Function.update s.sess.streams s.sess.nextID (some stream)
        nextID := (s.sess.nextID + 1) % streamIDSpace }
      allocated := s.sess.nextID :: s.allocated }
  | .detach streamID =>
    some { s with sess := { s.sess with streams := Function.update s.sess.streams streamID none } }
  | .failAll => some { s with sess := { s.sess with streams := fun _ => none } }
  | .resume inbound flowControlled =>
    some { s with sess := { s.sess with
      inbound, flowControlled, streams := fun _ => none, pendingPing := "" } }

/-- A new session. -/
def start (inbound : Nat) (flowControlled : Bool) : History where
  sess := { inbound, flowControlled, streams := fun _ => none, nextID := 1, pendingPing := "" }
  allocated := []

/-- The counter tells which IDs were allocated, zero standing for the end of the IDs. -/
structure Counted (s : History) : Prop where
  nextID : s.sess.nextID < streamIDSpace
  allocated : ∀ id, id ∈ s.allocated ↔
    0 < id ∧ id < if s.sess.nextID = 0 then streamIDSpace else s.sess.nextID

theorem Counted.step {s s' : History} {label : Label} (h : s.Counted) (hstep : s.step label = some s') :
    s'.Counted := by
  cases label with
  | allocate stream =>
    obtain ⟨hnext, hstep⟩ := Option.ite_none_left_eq_some.mp hstep
    cases hstep
    refine ⟨Nat.mod_lt _ (by decide), fun id => ?_⟩
    have hlt := h.nextID
    have hid := h.allocated id
    rw [if_neg hnext] at hid
    simp only [List.mem_cons, hid]
    by_cases hlast : s.sess.nextID + 1 = streamIDSpace
    · simp only [hlast, Nat.mod_self, if_true]
      omega
    · rw [Nat.mod_eq_of_lt (by omega), if_neg (by omega)]
      omega
  | detach streamID | failAll | resume inbound flowControlled =>
    cases hstep; exact ⟨h.nextID, h.allocated⟩

theorem counted_start (inbound : Nat) (flowControlled : Bool) : (start inbound flowControlled).Counted :=
  ⟨show 1 < streamIDSpace by decide, fun id => by simp [start]; omega⟩

variable {s : History}

theorem Counted.nextID_eq_zero (h : s.Counted) :
    s.sess.nextID = 0 ↔ streamIDSpace - 1 ∈ s.allocated := by
  have hlt := h.nextID
  rw [h.allocated]
  split
  next hzero => exact iff_of_true hzero (by decide)
  next hnext => exact iff_of_false hnext (by omega)

/-- A frame for an ID that is not in the table is dropped if the ID is below the counter. -/
theorem handleData_of_none (h : s.Counted) (env : Env) {frame : WireFrame}
    (hnone : s.sess.streams frame.streamID.toNat = none) :
    (frame.streamID.toNat ∈ s.allocated →
        (handleData env s.sess frame = .ok [] ↔ streamIDSpace - 1 ∉ s.allocated)) ∧
      (frame.streamID.toNat ∉ s.allocated → ∃ err, handleData env s.sess frame = .error err) := by
  rw [← h.nextID_eq_zero, h.allocated]
  simp only [handleData, hnone]
  by_cases hnext : s.sess.nextID = 0
  · simp [hnext]
  · rw [if_neg hnext]
    refine ⟨fun hid => ?_, fun hid => ?_⟩
    · rw [if_pos ⟨by omega, hid.2⟩]
      simp [hnext]
    · rw [if_neg fun hlt => hid ⟨by omega, hlt.2⟩]
      exact ⟨_, rfl⟩

/-- Late data is dropped as long as the last stream ID is not allocated, and only so long; data for an ID
    that was never allocated is rejected always. -/
theorem late_data {inbound : Nat} {flowControlled : Bool} {labels : List Label} {s : History}
    (hrun : run step (start inbound flowControlled) labels = some s) (env : Env)
    (frame : WireFrame) (hnone : s.sess.streams frame.streamID.toNat = none) :
    (frame.streamID.toNat ∈ s.allocated →
        (handleData env s.sess frame = .ok [] ↔ streamIDSpace - 1 ∉ s.allocated)) ∧
      (frame.streamID.toNat ∉ s.allocated → ∃ err, handleData env s.sess frame = .error err) :=
  handleData_of_none (invariant Counted.step (counted_start inbound flowControlled) hrun) env
    hnone

theorem late_data_detached :
    ∃ s, run step (start 1 false) [.allocate ⟨false, false⟩, .detach 1] = some s ∧
      handleData quietEnv s.sess ⟨2, 1, 2, []⟩ = .ok [] := by
  refine exists_run rfl fun hrun => ?_
  have hlate := late_data hrun quietEnv ⟨2, 1, 2, []⟩
  cases hrun
  exact ((hlate rfl).1 (by decide)).mpr (by decide)

/-- Opens `n` streams from ID `first` on, each after the one before it is detached. -/
def opened (stream : StreamView) (first : Nat) : Nat → List Label
  | 0 => []
  | n + 1 => .allocate stream :: .detach first :: opened stream (first + 1) n

/-- A session opens as many streams as there are IDs left, and the last one makes its counter zero. -/
theorem run_opened (stream : StreamView) (n : Nat) (hnext : s.sess.nextID ≠ 0)
    (hlt : s.sess.nextID < streamIDSpace) (hfits : s.sess.nextID + n ≤ streamIDSpace)
    (hstreams : ∀ id, s.sess.streams id = none) :
    ∃ s', run step s (opened stream s.sess.nextID n) = some s' ∧
      s'.sess.nextID = (s.sess.nextID + n) % streamIDSpace ∧ ∀ id, s'.sess.streams id = none := by
  induction n generalizing s with
  | zero => exact ⟨s, rfl, (Nat.mod_eq_of_lt hlt).symm, hstreams⟩
  | succ n ih =>
    obtain ⟨m, hsteps, hm, hdetached⟩ : ∃ m,
        run step s [.allocate stream, .detach s.sess.nextID] = some m ∧
          m.sess.nextID = (s.sess.nextID + 1) % streamIDSpace ∧ ∀ id, m.sess.streams id = none := by
      refine ⟨_, run_cons.mpr ⟨_, if_neg hnext, rfl⟩, rfl, fun id => ?_⟩
      by_cases hid : id = s.sess.nextID
      · simp [hid]
      · simp [hid, hstreams id]
    by_cases hlast : s.sess.nextID + 1 = streamIDSpace
    · obtain rfl : n = 0 := by omega
      exact ⟨m, hsteps, hm, hdetached⟩
    · rw [Nat.mod_eq_of_lt (by omega)] at hm
      obtain ⟨s', hrun, hs', hnone⟩ := ih (s := m) (by omega) (by omega) (by omega) hdetached
      rw [hm] at hrun hs'
      refine ⟨s', run_append.mpr ⟨m, hsteps, hrun⟩, ?_, hnone⟩
      rw [hs', Nat.add_assoc, Nat.add_comm 1 n]

/-- One stream after the other has every ID, and data for the first, long detached, ends the session. -/
theorem late_data_after_last :
    ∃ s, run step (start 1 false) (opened ⟨false, false⟩ 1 (streamIDSpace - 1)) = some s ∧
      1 ∈ s.allocated ∧ s.sess.streams 1 = none ∧
      handleData quietEnv s.sess ⟨2, 1, 2, []⟩ =
        .error (unclassified (errorsNew "data for unknown stream 1")) := by
  obtain ⟨s, hrun, hs, hnone⟩ := run_opened ⟨false, false⟩ (streamIDSpace - 1)
    (s := start 1 false) (by decide) (by decide) (by decide) fun _ => rfl
  have hcounted := invariant Counted.step (counted_start 1 false) hrun
  have hzero : s.sess.nextID = 0 := hs.trans rfl
  refine ⟨s, hrun, (hcounted.allocated 1).mpr ?_, hnone 1, ?_⟩
  · rw [if_pos hzero]
    decide
  · simp only [handleData, hnone, hzero, Nat.not_lt_zero, and_false, if_false]
    rfl

end History

end Hooshix.Gateway.SessionLoop
