-- SUMMARY: The abstract first-in first-out pipe.
import Hooshix.Lib.StepSystem

/-! # Pipes

A pipe carries a sequence of elements from one sender to one receiver. Its state records everything
sent and everything received, and carries the two delivery guarantees as fields: elements arrive in
order and exactly once, and the end is reported only when the pipe is closed and empty.
-/

/-- A first-in first-out pipe with its whole history. -/
structure Pipe (β : Type*) where
  sent : List β
  received : List β
  closed : Bool
  ended : Bool
  inOrder : received <+: sent
  complete : ended = true → closed = true ∧ received = sent

namespace Pipe

variable {β : Type*}

/-- What the two ends of a pipe do. -/
inductive Label (β : Type*) where
  | send (elements : List β)
  | close
  | receive (elements : List β)
  | reportEnd

/-- The pipe before anything was sent. -/
def empty : Pipe β where
  sent := []
  received := []
  closed := false
  ended := false
  inOrder := List.prefix_rfl
  complete := by simp

variable [DecidableEq β] {p : Pipe β}

/-- One step of the pipe; a closed pipe takes no more elements, and only what was sent next can be
    received. -/
def step (p : Pipe β) : Label β → Option (Pipe β)
  | .send elements =>
    if hopen : p.closed = false then
      some { p with
        sent := p.sent ++ elements
        inOrder := p.inOrder.trans (List.prefix_append _ _)
        complete := fun h => absurd (p.complete h).1 (by simp [hopen]) }
    else none
  | .close =>
    some { p with closed := true, complete := fun h => ⟨rfl, (p.complete h).2⟩ }
  | .receive elements =>
    if hnext : p.received ++ elements <+: p.sent then
      some { p with
        received := p.received ++ elements
        inOrder := hnext
        complete := fun h => by
          obtain ⟨hclosed, heq⟩ := p.complete h
          refine ⟨hclosed, hnext.eq_of_length_le ?_⟩
          simp [heq] }
    else none
  | .reportEnd =>
    if hall : p.closed = true ∧ p.received = p.sent then
      some { p with ended := true, complete := fun _ => hall }
    else none

theorem step_send (elements : List β) (hopen : p.closed = false) :
    ∃ p', p.step (.send elements) = some p' ∧ p'.sent = p.sent ++ elements ∧
      p'.received = p.received ∧ p'.closed = false ∧ p'.ended = p.ended := by
  simp [step, hopen]

theorem step_close (p : Pipe β) :
    ∃ p', p.step .close = some p' ∧ p'.sent = p.sent ∧ p'.received = p.received ∧
      p'.closed = true ∧ p'.ended = p.ended := by
  simp [step]

theorem step_receive {elements : List β} (hnext : p.received ++ elements <+: p.sent) :
    ∃ p', p.step (.receive elements) = some p' ∧ p'.sent = p.sent ∧
      p'.received = p.received ++ elements ∧ p'.closed = p.closed ∧ p'.ended = p.ended := by
  simp [step, hnext]

theorem step_reportEnd (hclosed : p.closed = true) (hall : p.received = p.sent) :
    ∃ p', p.step .reportEnd = some p' ∧ p'.sent = p.sent ∧ p'.received = p.received ∧
      p'.closed = true ∧ p'.ended = true := by
  simp [step, hclosed, hall]

end Pipe
