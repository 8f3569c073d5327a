-- SUMMARY: Programs that can be cut off between two actions.
import Hooshix.Lib.Program

/-! # Programs that may crash

A program of atomic actions over a state that survives a crash. An action may have several outcomes.
The program either ends with a value, or it is cut off and leaves the state between two of its
actions. `CrashSafe` is the proof rule for both: a condition that holds in every state a crash can
leave, and a postcondition for the end.
-/

namespace Prog

universe u v

variable {A : Type u} {R : A → Type v} {α β : Type v} {σ : Type*}

section Runs

variable (perform : σ → (a : A) → R a → σ → Prop)

/-- The program, started in a state, can be cut off in a state. -/
inductive Crashes : Prog A R α → σ → σ → Prop
  | here {p s} : Crashes p s s
  | act {a next s r s' t} (hact : perform s a r s') (hrest : Crashes (next r) s' t) :
      Crashes (.act a next) s t

/-- The program, started in a state, can end in a state with a value. -/
inductive Ends : Prog A R α → σ → σ → α → Prop
  | done {value s} : Ends (.done value) s s value
  | act {a next s r s' t value} (hact : perform s a r s') (hrest : Ends (next r) s' t value) :
      Ends (.act a next) s t value

/-- Every state in which the program can be cut off meets `C`, and every end meets `Q`. -/
def CrashSafe (C : σ → Prop) (Q : α → σ → Prop) : Prog A R α → σ → Prop
  | .done value, s => C s ∧ Q value s
  | .act a next, s => C s ∧ ∀ r s', perform s a r s' → CrashSafe C Q (next r) s'

end Runs

variable {perform : σ → (a : A) → R a → σ → Prop} {C D : σ → Prop} {Q : α → σ → Prop}
  {p : Prog A R α} {s t : σ} {f : α → Prog A R β} {value : α}

theorem CrashSafe.crash (h : CrashSafe perform C Q p s) (hcrash : Crashes perform p s t) : C t := by
  induction hcrash with
  | @here p s =>
    cases p with
    | done value => exact h.1
    | act a next => exact h.1
  | act hact hrest ih => exact ih (h.2 _ _ hact)

theorem CrashSafe.ends (h : CrashSafe perform C Q p s)
    (hends : Ends perform p s t value) : Q value t := by
  induction hends with
  | done => exact h.2
  | act hact hrest ih => exact ih (h.2 _ _ hact)

theorem CrashSafe.bind {Q' : β → σ → Prop} (hp : CrashSafe perform C Q p s)
    (hf : ∀ value t, Q value t → CrashSafe perform C Q' (f value) t) :
    CrashSafe perform C Q' (p >>= f) s := by
  induction p generalizing s with
  | done value => exact hf value s hp.2
  | act a next ih => exact ⟨hp.1, fun r s' hact => ih r (hp.2 r s' hact)⟩

theorem CrashSafe.mono {Q' : α → σ → Prop} (h : CrashSafe perform C Q p s) (hC : ∀ t, C t → D t)
    (hQ : ∀ value t, Q value t → Q' value t) : CrashSafe perform D Q' p s := by
  induction p generalizing s with
  | done value => exact ⟨hC s h.1, hQ value s h.2⟩
  | act a next ih => exact ⟨hC s h.1, fun r s' hact => ih r (h.2 r s' hact)⟩

/-- A loop over a list: what holds before an element is left with the rest of the list. -/
theorem CrashSafe.forM {ι : Type*} {body : ι → Prog A R PUnit} {I : List ι → σ → Prop}
    (hC : ∀ rest s, I rest s → C s)
    (hbody : ∀ i rest s, I (i :: rest) s → CrashSafe perform C (fun _ => I rest) (body i) s)
    {items : List ι} (hs : I items s) :
    CrashSafe perform C (fun _ => I []) (items.forM body) s := by
  induction items generalizing s with
  | nil => exact ⟨hC [] s hs, hs⟩
  | cons i rest ih =>
    change CrashSafe perform C _ (body i >>= fun _ => rest.forM body) s
    exact (hbody i rest s hs).bind fun _ t ht => ih ht

end Prog
