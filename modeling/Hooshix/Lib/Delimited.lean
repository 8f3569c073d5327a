-- SUMMARY: Lists of words written one after another, each with a delimiter after it.
import Mathlib.Data.List.Basic

/-! # Delimited words

The words can be read back when none of them contains the delimiter.
-/

namespace Delimited

variable {α : Type*} {delimiter : α}

/-- The words with the delimiter after each. -/
def terminate (delimiter : α) (words : List (List α)) : List α :=
  words.flatMap (· ++ [delimiter])

@[simp] theorem terminate_nil (delimiter : α) : terminate delimiter [] = [] := rfl

@[simp] theorem terminate_cons (delimiter : α) (word : List α) (words : List (List α)) :
    terminate delimiter (word :: words) = word ++ delimiter :: terminate delimiter words := by
  simp [terminate]

theorem terminate_append (delimiter : α) (first second : List (List α)) :
    terminate delimiter (first ++ second) =
      terminate delimiter first ++ terminate delimiter second :=
  List.flatMap_append

/-- Two words that end at the first delimiter are the same. -/
theorem append_delimiter_inj {x y xs ys : List α} (hx : delimiter ∉ x)
    (hy : delimiter ∉ y) (h : x ++ delimiter :: xs = y ++ delimiter :: ys) : x = y ∧ xs = ys := by
  induction x generalizing y with
  | nil =>
    cases y with
    | nil => exact ⟨rfl, (List.cons.inj h).2⟩
    | cons c y =>
      cases (List.cons.inj h).1
      exact absurd List.mem_cons_self hy
  | cons c x ih =>
    cases y with
    | nil =>
      cases (List.cons.inj h).1
      exact absurd List.mem_cons_self hx
    | cons d y =>
      obtain ⟨rfl, hrest⟩ := List.cons.inj h
      obtain ⟨rfl, hxs⟩ := ih (fun hmem => hx (List.mem_cons_of_mem _ hmem))
        (fun hmem => hy (List.mem_cons_of_mem _ hmem)) hrest
      exact ⟨rfl, hxs⟩

theorem terminate_injective {words words' : List (List α)}
    (hwords : ∀ word ∈ words, delimiter ∉ word) (hwords' : ∀ word ∈ words', delimiter ∉ word)
    (h : terminate delimiter words = terminate delimiter words') : words = words' := by
  induction words generalizing words' with
  | nil =>
    cases words' with
    | nil => rfl
    | cons word words' => simp at h
  | cons word words ih =>
    cases words' with
    | nil => simp at h
    | cons word' words' =>
      obtain ⟨hword, htail⟩ := List.forall_mem_cons.mp hwords
      obtain ⟨hword', htail'⟩ := List.forall_mem_cons.mp hwords'
      rw [terminate_cons, terminate_cons] at h
      obtain ⟨rfl, hrest⟩ := append_delimiter_inj hword hword' h
      rw [ih htail htail' hrest]

end Delimited
