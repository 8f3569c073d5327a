-- SUMMARY: Outcomes of an atomic step.
import Mathlib.Data.Option.Basic

/-! # Outcomes

An atomic step of a concurrent program either cannot be taken yet, stops the program with a panic,
or yields a value. The three are kept apart, so that "the program never panics" is a statement
about steps and not about a missing one.
-/

/-- The outcome of one atomic step. -/
inductive Outcome (α : Type*) where
  | blocked
  | panic (message : String)
  | next (value : α)
  deriving DecidableEq, Repr

namespace Outcome

universe u

variable {α β : Type u} {f : α → Outcome β} {a : α} {x : Outcome α}

/-- Continues with the value of a step. -/
def bind (x : Outcome α) (f : α → Outcome β) : Outcome β :=
  match x with
  | blocked => blocked
  | panic message => panic message
  | next value => f value

instance : Monad Outcome where
  pure := next
  bind := bind

/-- The value of a step that was taken. -/
def value? : Outcome α → Option α
  | next value => some value
  | _ => none

/-- The step stops the program. -/
def Panics : Outcome α → Prop
  | panic _ => True
  | _ => False

@[simp] theorem pure_eq : (pure a : Outcome α) = next a := rfl

@[simp] theorem next_bind : (next a >>= f) = f a := rfl

@[simp] theorem blocked_bind : ((blocked : Outcome α) >>= f) = blocked := rfl

@[simp] theorem panic_bind {message : String} :
    ((panic message : Outcome α) >>= f) = panic message := rfl

@[simp] theorem value?_next : (next a).value? = some a := rfl

@[simp] theorem not_panics_next : ¬ (next a).Panics := id

@[simp] theorem not_panics_blocked : ¬ (blocked : Outcome α).Panics := id

theorem bind_eq_next {b : β} :
    x >>= f = next b ↔ ∃ a, x = next a ∧ f a = next b := by
  cases x with
  | blocked => simp
  | panic message => simp
  | next a => simp

theorem value?_eq_some : x.value? = some a ↔ x = next a := by
  cases x <;> simp [value?]

end Outcome
