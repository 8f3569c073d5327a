-- SUMMARY: The aggregate health of the Runner against the machines of its workers.
import Hooshix.Lib.StepSystem

/-! # Health of the tunnels

Each worker of the Runner drives a machine of its own through its reconnect loop. `Aggregate.State`
reduces the states of all machines to one. It looks for a revoked machine before it looks for one that
has not dialed yet.
-/

namespace Hooshix.Agent

open StepSystem

inductive TunnelState where
  | init
  | connecting
  | connected
  | degraded
  | reconnecting
  | revoked
  | shutdown
  deriving DecidableEq

namespace TunnelState

def terminal : TunnelState → Bool
  | revoked | shutdown => true
  | _ => false

def legalTransitions : TunnelState → List TunnelState
  | init => [connecting, shutdown]
  | connecting => [connected, reconnecting, revoked, shutdown]
  | connected => [degraded, reconnecting, revoked, shutdown]
  | degraded => [connected, reconnecting, revoked, shutdown]
  | reconnecting => [connecting, connected, revoked, shutdown]
  | revoked => []
  | shutdown => []

/-- `Machine.Transition`; a transition that is refused leaves the state. -/
def transition (state next : TunnelState) : TunnelState :=
  if state.terminal then state
  else if state = next then state
  else if next ∈ state.legalTransitions then next
  else state

/-- `Aggregate.State` -/
def aggregate (machines : List TunnelState) : TunnelState :=
  if machines = [] then init
  else if connected ∈ machines then connected
  else if degraded ∈ machines then degraded
  else if connecting ∈ machines then connecting
  else if reconnecting ∈ machines then reconnecting
  else if revoked ∈ machines then revoked
  else if init ∈ machines then init
  else shutdown

/-- What the aggregate should tell about the machines. -/
@[mk_iff] structure Truthful (state : TunnelState) (machines : List TunnelState) : Prop where
  terminal : state.terminal = true ↔ ∀ m ∈ machines, m.terminal = true
  serving : state = connected ∨ state = degraded ↔ ∃ m ∈ machines, m = connected ∨ m = degraded
  idle : state = init → (∀ m ∈ machines, m = init ∨ m.terminal = true) ∧ init ∈ machines

/-- A revoked machine hides one that has not dialed, if no other is on its way. -/
def Hidden (machines : List TunnelState) : Prop :=
  revoked ∈ machines ∧ init ∈ machines ∧ ∀ m ∈ machines, m = init ∨ m.terminal = true

variable {P : TunnelState → Prop}

theorem forall_iff : (∀ state, P state) ↔ P init ∧ P connecting ∧
    P connected ∧ P degraded ∧ P reconnecting ∧ P revoked ∧ P shutdown := by
  refine ⟨fun h => ⟨h _, h _, h _, h _, h _, h _, h _⟩, fun h state => ?_⟩
  cases state <;> simp only [h]

theorem exists_iff : (∃ state, P state) ↔ P init ∨ P connecting ∨
    P connected ∨ P degraded ∨ P reconnecting ∨ P revoked ∨ P shutdown := by
  rw [← not_iff_not, not_exists, forall_iff]
  simp only [not_or]

theorem aggregate_truthful_iff {machines : List TunnelState} (hne : machines ≠ []) :
    (aggregate machines).Truthful machines ↔ ¬ Hidden machines := by
  have hsome : ∃ state, state ∈ machines := List.exists_mem_of_ne_nil _ hne
  -- all that is said of the machines depends on which of the seven states occur
  rw [exists_iff] at hsome
  rw [truthful_iff, aggregate, if_neg hne, Hidden]
  simp only [forall_iff, exists_iff, terminal]
  split_ifs <;> simp_all

end TunnelState

/-- How an attempt ends. -/
inductive AttemptEnd where
  | canceled
  | revoked
  | permanent
  | resumeRejected
  | failed
  deriving DecidableEq

/-- Where a worker is in `runPinnedWorker` or `runPrimary`. -/
inductive WorkerLoop where
  | top
  | attempting
  /-- In the backoff. -/
  | waiting
  | returned (revoked : Bool)
  deriving DecidableEq

structure TunnelWorker where
  health : TunnelState
  loop : WorkerLoop
  deriving DecidableEq

def TunnelWorker.goto (worker : TunnelWorker) (next : TunnelState) (loop : WorkerLoop) : TunnelWorker :=
  ⟨worker.health.transition next, loop⟩

/-- `Runner.Run`; the machine of the first worker is attached when the Runner is made. -/
structure TunnelRunner where
  workerCount : Nat
  workers : List TunnelWorker
  cancelled : Bool

namespace TunnelRunner

inductive Label where
  /-- The next machine is attached and its worker started. -/
  | spawn
  /-- The context ends. -/
  | cancel
  | top (i : Nat)
  | connected (i : Nat)
  | ended (i : Nat) (how : AttemptEnd)
  /-- The backoff is over. -/
  | timer (i : Nat)
  /-- The context ends the backoff. -/
  | done (i : Nat)
  /-- `Run` cancels its workers: one was revoked, or all have returned. -/
  | stop
  /-- All workers have returned, and `Run` does. -/
  | returned

def start (workerCount : Nat) : TunnelRunner := ⟨workerCount, [⟨.init, .top⟩], false⟩

def work (s : TunnelRunner) (i : Nat) (move : TunnelWorker → Option TunnelWorker) :
    Option TunnelRunner :=
  (s.workers[i]?.bind move).map fun worker => { s with workers := s.workers.set i worker }

/-- The loop from the end of an attempt to the next or to its return. -/
def attemptEnded (cancelled : Bool) (how : AttemptEnd) (worker : TunnelWorker) : TunnelWorker :=
  if how = .canceled ∨ cancelled = true then worker.goto .shutdown (.returned false)
  else match how with
  | .revoked => worker.goto .revoked (.returned true)
  | .permanent => worker.goto .shutdown (.returned false)
  | .resumeRejected => worker.goto .reconnecting .top
  | _ => worker.goto .reconnecting .waiting

def step (s : TunnelRunner) : Label → Option TunnelRunner
  | .spawn =>
    if s.workers.length < s.workerCount then some { s with workers := s.workers ++ [⟨.init, .top⟩] }
    else none
  | .cancel => some { s with cancelled := true }
  | .top i => s.work i fun worker =>
    if worker.loop ≠ .top then none
    else if s.cancelled then some (worker.goto .shutdown (.returned false))
    else some (worker.goto .connecting .attempting)
  | .connected i => s.work i fun worker =>
    if worker.loop = .attempting then some (worker.goto .connected .attempting) else none
  | .ended i how => s.work i fun worker =>
    if worker.loop = .attempting then some (attemptEnded s.cancelled how worker) else none
  | .timer i => s.work i fun worker =>
    if worker.loop = .waiting then some { worker with loop := .top } else none
  | .done i => s.work i fun worker =>
    if worker.loop = .waiting ∧ s.cancelled = true then some (worker.goto .shutdown (.returned false))
    else none
  | .stop =>
    if s.workers.any (·.loop == .returned true) ||
        s.workers.length == s.workerCount && s.workers.all (·.loop matches .returned _) then
      some { s with cancelled := true }
    else none
  | .returned =>
    if s.cancelled = true ∧ s.workers.all (·.loop matches .returned _) then
      s.work 0 fun worker => some (worker.goto .shutdown worker.loop)
    else none

def machines (s : TunnelRunner) : List TunnelState := s.workers.map (·.health)

/-- `HealthState` -/
def healthState (s : TunnelRunner) : TunnelState := .aggregate s.machines

theorem machines_work {s s' : TunnelRunner} {i : Nat} {move : TunnelWorker → Option TunnelWorker}
    (h : s.work i move = some s') (hs : s.machines ≠ []) : s'.machines ≠ [] := by
  obtain ⟨worker, -, rfl⟩ := Option.map_eq_some_iff.mp h
  simpa [machines] using hs

theorem machines_ne_nil {s : TunnelRunner} {count : Nat} {labels : List Label}
    (h : run step (start count) labels = some s) : s.machines ≠ [] := by
  refine invariant (I := fun s => s.machines ≠ []) ?_ (by simp [start, machines]) h
  intro s label s' hs hstep
  cases label with
  | top | connected | ended | timer | done => exact machines_work hstep hs
  | returned =>
    simp only [step] at hstep
    split at hstep
    · exact machines_work hstep hs
    · cases hstep
  | _ =>
    simp only [step] at hstep
    repeat' split at hstep
    all_goals cases hstep
    all_goals simp_all [machines]

theorem health_truthful_iff (workerCount : Nat) (labels : List Label) (s : TunnelRunner)
    (hrun : run step (start workerCount) labels = some s) :
    s.healthState.Truthful s.machines ↔ ¬ TunnelState.Hidden s.machines :=
  TunnelState.aggregate_truthful_iff (machines_ne_nil hrun)

/-- The first worker serves, and the second has failed for good. -/
def oneServing : List Label :=
  [.spawn, .top 0, .top 1, .ended 1 .permanent, .connected 0]

theorem health_truthful_serving : ∃ s, run step (start 2) oneServing = some s ∧
    s.machines = [.connected, .shutdown] ∧ s.healthState.Truthful s.machines := by
  refine ⟨_, rfl, rfl, ?_⟩
  exact (health_truthful_iff 2 oneServing _ rfl).mpr fun h => absurd h.1 (by decide)

/-- The first worker is revoked before the second has dialed: the health is terminal, and the second
    worker goes on to connect. -/
theorem revoked_hides_init : ∃ s s', run step (start 2)
      [.spawn, .top 0, .ended 0 .revoked] = some s ∧ s.healthState.terminal = true ∧
    s.machines = [.revoked, .init] ∧
    run step s [.top 1, .connected 1] = some s' ∧ s'.healthState = .connected :=
  ⟨_, _, rfl, rfl, rfl, rfl, rfl⟩

end TunnelRunner

end Hooshix.Agent
