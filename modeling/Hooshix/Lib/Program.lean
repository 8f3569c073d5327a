-- SUMMARY: Programs over atomic actions.
import Mathlib.Data.Sigma.Basic

/-! # Programs of atomic actions

A program is a tree of atomic actions whose responses choose the rest. The same program runs alone,
with `exec`, or action by action between the actions of others. `Safe` is the proof rule for the
second use: every action it performs is allowed by what it has seen, whatever the responses are.
-/

universe u v w

/-- A program that performs actions `a : A`, answered by `R a`, and returns an `α`. -/
inductive Prog (A : Type u) (R : A → Type v) (α : Type w) where
  | done (value : α)
  | act (a : A) (next : R a → Prog A R α)

namespace Prog

variable {A : Type u} {R : A → Type v} {α β : Type w} {σ : Type*} {p : Prog A R α}
  {f : α → Prog A R β} {post : α → Prop} {ε : Type w} {γ : Type w}

protected def bind : Prog A R α → (α → Prog A R β) → Prog A R β
  | .done value, f => f value
  | .act a next, f => .act a fun r => (next r).bind f

instance : Monad (Prog A R) where
  pure := .done
  bind := Prog.bind

@[simp] theorem pure_eq (value : α) : (pure value : Prog A R α) = .done value := rfl

@[simp] theorem done_bind (value : α) (f : α → Prog A R β) : Prog.done value >>= f = f value := rfl

@[simp] theorem act_bind (a : A) (next : R a → Prog A R α) (f : α → Prog A R β) :
    Prog.act a next >>= f = .act a fun r => next r >>= f := rfl

/-! ## Running alone -/

/-- Runs the whole program when nothing else happens in between. -/
def exec (handle : σ → (a : A) → σ × R a) : σ → Prog A R α → σ × α
  | s, .done value => (s, value)
  | s, .act a next => exec handle (handle s a).1 (next (handle s a).2)

@[simp] theorem exec_done (handle : σ → (a : A) → σ × R a) (s : σ) (value : α) :
    exec handle s (.done value : Prog A R α) = (s, value) := rfl

@[simp] theorem exec_act (handle : σ → (a : A) → σ × R a) (s : σ) (a : A)
    (next : R a → Prog A R α) :
    exec handle s (.act a next) = exec handle (handle s a).1 (next (handle s a).2) := rfl

theorem exec_bind (handle : σ → (a : A) → σ × R a) (p : Prog A R α) (f : α → Prog A R β) (s : σ) :
    exec handle s (p >>= f) = exec handle (exec handle s p).1 (f (exec handle s p).2) := by
  induction p generalizing s with
  | done value => rfl
  | act a next ih => exact ih _ _

/-! ## Running on fixed answers -/

/-- The value of the program when the answer to an action is always the same. -/
def eval (answer : (a : A) → R a) : Prog A R α → α
  | .done value => value
  | .act a next => eval answer (next (answer a))

@[simp] theorem eval_act (answer : (a : A) → R a) (a : A) (next : R a → Prog A R α) :
    eval answer (.act a next) = eval answer (next (answer a)) := rfl

@[simp] theorem eval_bind (answer : (a : A) → R a) (p : Prog A R α) (f : α → Prog A R β) :
    eval answer (p >>= f) = eval answer (f (eval answer p)) := by
  induction p with
  | done value => rfl
  | act a next ih => exact ih _

/-! ## Whatever the answers are -/

/-- The value of the program meets `post` whatever the answers are. -/
def Always (post : α → Prop) : Prog A R α → Prop
  | .done value => post value
  | .act _ next => ∀ r, Always post (next r)

theorem Always.trivial (p : Prog A R α) : Always (fun _ => True) p := by
  induction p with
  | done value => exact True.intro
  | act a next ih => exact ih

theorem Always.mono {post post' : α → Prop} (h : Always post p)
    (himp : ∀ value, post value → post' value) : Always post' p := by
  induction p with
  | done value => exact himp value h
  | act a next ih => exact fun r => ih r (h r)

theorem Always.bind {mid : α → Prop} {post : β → Prop} (hp : Always mid p)
    (hf : ∀ value, mid value → Always post (f value)) :
    Always post (p >>= f) := by
  induction p with
  | done value => exact hf value hp
  | act a next ih => exact fun r => ih r (hp r)

theorem Always.exec (h : Always post p) (handle : σ → (a : A) → σ × R a) (s : σ) :
    post (exec handle s p).2 := by
  induction p generalizing s with
  | done value => exact h
  | act a next ih => exact ih _ (h _) _

theorem Always.eval (h : Always post p) (answer : (a : A) → R a) :
    post (eval answer p) := by
  induction p with
  | done value => exact h
  | act a next ih => exact ih _ (h _)

/-! ## Loops that may fail -/

/-- Goes through a list with a state until an element fails. -/
def loop {ε : Type w} {ι : Type*} {γ : Type w} (body : ι → γ → Prog A R (Except ε γ)) :
    List ι → γ → Prog A R (Except ε γ)
  | [], state => .done (.ok state)
  | i :: rest, state => body i state >>= fun
    | .error err => .done (.error err)
    | .ok state => loop body rest state

theorem loop_map {ι κ : Type*} (f : κ → ι)
    (body : ι → γ → Prog A R (Except ε γ)) (items : List κ) (state : γ) :
    loop body (items.map f) state = loop (fun k => body (f k)) items state := by
  induction items generalizing state with
  | nil => rfl
  | cons k rest ih =>
    simp only [List.map_cons, loop]
    congr 1
    funext result
    cases result with
    | error err => rfl
    | ok next => exact ih next

/-- What the elements one after another make of the state, by a step that composes. -/
theorem eval_loop_ok {ι : Type*} {answer : (a : A) → R a}
    {body : ι → γ → Prog A R (Except ε γ)} {I : List ι → γ → γ → Prop} {items : List ι}
    (hnil : ∀ state, I [] state state)
    (hcons : ∀ i ∈ items, ∀ rest state next state', eval answer (body i state) = .ok next →
      I rest next state' → I (i :: rest) state state')
    {state state' : γ} (h : eval answer (loop body items state) = .ok state') :
    I items state state' := by
  induction items generalizing state with
  | nil =>
    cases h
    exact hnil _
  | cons i rest ih =>
    rw [loop, eval_bind] at h
    cases hi : eval answer (body i state) with
    | error err =>
      rw [hi] at h
      cases h
    | ok next =>
      rw [hi] at h
      exact hcons i List.mem_cons_self rest state next state' hi
        (ih (fun j hj => hcons j (List.mem_cons_of_mem i hj)) h)

/-! ## Running among others -/

/-- The actions of a program so far with their responses, the latest first. -/
abbrev Trace (A : Type u) (R : A → Type v) := List (Σ a, R a)

/-- Whatever the responses, every action is allowed after the trace before it, and the result is
    right for the whole trace. -/
def Safe (allowed : Trace A R → A → Prop) (post : Trace A R → α → Prop) :
    Trace A R → Prog A R α → Prop
  | trace, .done value => post trace value
  | trace, .act a next => allowed trace a ∧ ∀ r, Safe allowed post (⟨a, r⟩ :: trace) (next r)

variable {allowed : Trace A R → A → Prop} {post : Trace A R → α → Prop} {trace : Trace A R}

@[simp] theorem safe_act {a : A} {next : R a → Prog A R α} :
    Safe allowed post trace (.act a next) ↔
      allowed trace a ∧ ∀ r, Safe allowed post (⟨a, r⟩ :: trace) (next r) := Iff.rfl

/-- Sequencing, with a condition in the middle. -/
theorem Safe.bind {mid : Trace A R → α → Prop} {post : Trace A R → β → Prop}
    (hp : Safe allowed mid trace p)
    (hf : ∀ trace value, mid trace value → Safe allowed post trace (f value)) :
    Safe allowed post trace (p >>= f) := by
  induction p generalizing trace with
  | done value => exact hf trace value hp
  | act a next ih => exact ⟨hp.1, fun r => ih r (hp.2 r)⟩

end Prog
