-- SUMMARY: What becomes of the signals that are given to the status exporter.
import Hooshix.Lib.StepSystem

/-! # The status exporter

Callers put signals into a bounded queue, and one goroutine takes them out and gives them to the sink.
The callers look at `timedOut` outside the lock and at `closed` under its read side; `close` sets
`closed` under the write side, so with no caller between its look and its send. Only the numbers of
signals and of callers matter here. The sink is not the no-op sink, for which there is no goroutine.
-/

namespace Hooshix.Gateway

/-- The goroutine `run`. -/
inductive ExporterPhase where
  /-- Before the first `select`. -/
  | polling
  /-- In the second `select`. -/
  | waiting
  /-- In `emit` with a signal, before the look at `timedOut`. -/
  | taken
  /-- The goroutine that calls `Emit` was started, and the result is awaited. -/
  | emitting
  /-- The timeout is counted as a failure, and `timedOut` is not yet set. -/
  | latching
  /-- In `dropQueued`. -/
  | draining
  /-- In `dropQueued` with a signal that is not yet counted. -/
  | dropping
  | stopped
  deriving DecidableEq

structure StatusExporter where
  queued : Nat
  dropped : Nat
  failures : Nat
  timedOut : Bool
  /-- Set together with the end of `done`. -/
  closed : Bool
  phase : ExporterPhase
  /-- Callers of `enqueue` before the first look at `timedOut`, before the lock, with the lock before the
      look at `closed`, and with the lock before the send. -/
  entering : Nat
  locking : Nat
  looking : Nat
  sending : Nat
  /-- The calls of `enqueue` that are complete: they have sent their signal or counted it. -/
  completed : Nat
  /-- The results of the sink that were seen and `nil`. -/
  delivered : Nat
  /-- The calls of `Emit` for which a goroutine was started. -/
  emits : Nat
  deriving DecidableEq

namespace StatusExporter

inductive Label where
  | enqueue
  | load
  | rlock
  | look
  | send
  | close
  | poll
  | done
  | receive
  | emit
  | result (ok : Bool)
  | timeout
  | latch
  | drain
  | drop
  deriving DecidableEq

def new : StatusExporter :=
  ⟨0, 0, 0, false, false, .polling, 0, 0, 0, 0, 0, 0, 0⟩

/-- The goroutine's own steps. -/
def run (s : StatusExporter) : Label → Option StatusExporter
  | .poll =>
    if s.phase = .polling then some { s with phase := if s.closed then .draining else .waiting } else none
  | .done => if s.phase = .waiting ∧ s.closed = true then some { s with phase := .draining } else none
  | .receive =>
    if s.phase = .waiting ∧ 0 < s.queued then some { s with phase := .taken, queued := s.queued - 1 }
    else none
  | .emit =>
    if s.phase = .taken then
      if s.timedOut then some { s with phase := .polling, dropped := s.dropped + 1 }
      else some { s with phase := .emitting, emits := s.emits + 1 }
    else none
  | .result ok =>
    if s.phase = .emitting then
      if ok then some { s with phase := .polling, delivered := s.delivered + 1 }
      else some { s with phase := .polling, failures := s.failures + 1 }
    else none
  | .timeout =>
    if s.phase = .emitting then some { s with phase := .latching, failures := s.failures + 1 } else none
  | .latch => if s.phase = .latching then some { s with phase := .polling, timedOut := true } else none
  | .drain =>
    if s.phase = .draining then
      if 0 < s.queued then some { s with phase := .dropping, queued := s.queued - 1 }
      else some { s with phase := .stopped }
    else none
  | .drop =>
    if s.phase = .dropping then some { s with phase := .draining, dropped := s.dropped + 1 } else none
  | _ => none

def step (capacity : Nat) (s : StatusExporter) : Label → Option StatusExporter
  | .enqueue => some { s with entering := s.entering + 1 }
  | .load =>
    if s.entering = 0 then none
    else if s.timedOut then
      some { s with entering := s.entering - 1, dropped := s.dropped + 1, completed := s.completed + 1 }
    else some { s with entering := s.entering - 1, locking := s.locking + 1 }
  | .rlock =>
    if s.locking = 0 then none else some { s with locking := s.locking - 1, looking := s.looking + 1 }
  | .look =>
    if s.looking = 0 then none
    else if s.closed || s.timedOut then
      some { s with looking := s.looking - 1, dropped := s.dropped + 1, completed := s.completed + 1 }
    else some { s with looking := s.looking - 1, sending := s.sending + 1 }
  | .send =>
    if s.sending = 0 then none
    else if s.queued < capacity then
      some { s with sending := s.sending - 1, queued := s.queued + 1, completed := s.completed + 1 }
    else some { s with sending := s.sending - 1, dropped := s.dropped + 1, completed := s.completed + 1 }
  | .close =>
    if s.closed then some s
    else if s.looking + s.sending = 0 then some { s with closed := true }
    else none
  | label => s.run label

/-- The signal that was taken from the queue and is not accounted for. -/
def inHand (s : StatusExporter) : Nat :=
  match s.phase with
  | .taken | .emitting | .dropping => 1
  | _ => 0

structure Accounted (s : StatusExporter) : Prop where
  sum : s.completed = s.delivered + s.failures + s.dropped + s.queued + s.inHand
  /-- Whoever sends has kept `close` out. -/
  closed : s.closed = true → s.sending = 0
  draining : s.phase = .draining ∨ s.phase = .dropping ∨ s.phase = .stopped → s.closed = true
  stopped : s.phase = .stopped → s.queued = 0

variable {capacity : Nat} {s s' : StatusExporter} {label : Label}

theorem Accounted.new : Accounted new := by
  constructor <;> simp [StatusExporter.new, inHand]

theorem Accounted.step (hs : s.Accounted) (h : s.step capacity label = some s') : s'.Accounted := by
  obtain ⟨hsum, hclosed, hdraining, hstopped⟩ := hs
  cases label <;> simp only [StatusExporter.step, run] at h
  all_goals repeat' split at h
  all_goals cases h
  -- a signal moves from one term of the sum to another; after `close` nobody is left to send one
  all_goals constructor
  all_goals simp_all [inHand]
  all_goals omega

/-- After its end the goroutine takes nothing, and no caller sends. -/
structure Finished (first s : StatusExporter) : Prop where
  accounted : s.Accounted
  stopped : s.phase = .stopped
  counted : s.dropped + first.completed = first.dropped + s.completed

theorem Finished.step {first : StatusExporter} (hs : first.Finished s)
    (h : s.step capacity label = some s') : first.Finished s' := by
  have hs' := hs.accounted.step h
  obtain ⟨⟨-, hclosed, hdraining, -⟩, hstopped, hcounted⟩ := hs
  have hshut : s.sending = 0 := hclosed (hdraining (.inr (.inr hstopped)))
  cases label <;> simp only [StatusExporter.step, run] at h
  all_goals repeat' split at h
  all_goals cases h
  all_goals refine ⟨hs', ?_, ?_⟩
  all_goals simp_all
  all_goals omega

/-- A timeout was seen; the exporter is latched off, or about to be. -/
def timeoutSeen (s : StatusExporter) : Prop := s.timedOut = true ∨ s.phase = .latching

theorem emits_latched (hseen : s.timeoutSeen) (h : s.step capacity label = some s') :
    s'.timeoutSeen ∧ s'.emits = s.emits := by
  cases label <;> simp only [StatusExporter.step, run] at h
  all_goals repeat' split at h
  all_goals cases h
  all_goals simp_all [timeoutSeen]

theorem signals_accounted (capacity : Nat) (labels : List Label) (s : StatusExporter)
    (hrun : StepSystem.run (step capacity) new labels = some s) :
    s.completed = s.delivered + s.failures + s.dropped + s.queued + s.inHand ∧ s.inHand ≤ 1 ∧
    (s.phase = .stopped → s.queued = 0 ∧
      ∀ later s', StepSystem.run (step capacity) s later = some s' →
        s'.queued = 0 ∧ s'.dropped + s.completed = s.dropped + s'.completed) ∧
    (s.timeoutSeen → ∀ later s', StepSystem.run (step capacity) s later = some s' →
      s'.emits = s.emits) := by
  have hs : s.Accounted := StepSystem.invariant (fun hs hstep => hs.step hstep) .new hrun
  refine ⟨hs.sum, ?_, ?_, ?_⟩
  · unfold inHand
    split <;> omega
  · intro hstopped
    refine ⟨hs.stopped hstopped, fun later s' hlater => ?_⟩
    have hend : s.Finished s' :=
      StepSystem.invariant (fun hs hstep => hs.step hstep) ⟨hs, hstopped, rfl⟩ hlater
    exact ⟨hend.accounted.stopped hend.stopped, hend.counted⟩
  · intro hseen later s' hlater
    have hend : s'.timeoutSeen ∧ s'.emits = s.emits := by
      refine StepSystem.invariant (I := fun t => t.timeoutSeen ∧ t.emits = s.emits) ?_ ⟨hseen, rfl⟩
        hlater
      intro t label t' ht hstep
      obtain ⟨hlatched, hemits⟩ := emits_latched ht.1 hstep
      exact ⟨hlatched, hemits.trans ht.2⟩
    exact hend.2

/-- A signal times out while another is queued, and the exporter is closed before it is taken. -/
def closingRun : List Label :=
  [.enqueue, .enqueue, .load, .rlock, .look, .send, .poll, .receive, .load, .rlock, .look, .emit, .send,
    .timeout, .latch, .close, .poll, .drain, .drop, .drain]

theorem signals_accounted_closing : ∃ s, StepSystem.run (step 1) new closingRun = some s ∧
    s.phase = .stopped ∧ s.completed = 2 ∧ s.failures = 1 ∧ s.dropped = 1 ∧ s.queued = 0 :=
  ⟨_, rfl, rfl, rfl, rfl, rfl, ((signals_accounted 1 closingRun _ rfl).2.2.1 rfl).1⟩

end StatusExporter

end Hooshix.Gateway
