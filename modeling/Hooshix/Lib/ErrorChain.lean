-- SUMMARY: Error values as chains of wrapped causes.
import Mathlib.Data.List.Basic

/-! # Error chains

An error value is a sentinel compared by identity, a plain text, or a text wrapped around one or
more causes. Two tests are made on such values: identity with a sentinel, and the search for a
sentinel anywhere in the chain of causes.
-/

/-- Error values over the sentinels `S`. -/
inductive ErrorChain (S : Type) where
  | sentinel (s : S)
  | text (message : String)
  | wrap (message : String) (cause : ErrorChain S)
  | join (message : String) (first second : ErrorChain S)
  deriving DecidableEq, Repr

namespace ErrorChain

variable {S : Type} [DecidableEq S] {message : String} {target : S}

/-- The sentinel `target` stands somewhere in the chain of causes. -/
def is (target : S) : ErrorChain S → Bool
  | sentinel s => s == target
  | text _ => false
  | wrap _ cause => cause.is target
  | join _ first second => first.is target || second.is target

@[simp] theorem is_sentinel {s target : S} :
    (sentinel s).is target = true ↔ s = target := by
  simp [is]

@[simp] theorem is_text : (text message).is target = false := rfl

@[simp] theorem is_wrap {cause : ErrorChain S} :
    (wrap message cause).is target = cause.is target := rfl

@[simp] theorem is_join {first second : ErrorChain S} :
    (join message first second).is target = (first.is target || second.is target) := rfl

end ErrorChain
