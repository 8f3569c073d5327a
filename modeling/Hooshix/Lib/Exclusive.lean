-- SUMMARY: Tables in which no two entries own the same thing.
import Mathlib.Data.List.Basic

/-! # Exclusive ownership

Each entry of a table owns at most one thing, its key. Ownership is exclusive when no two places of
the table own the same key; it is kept when an entry gives its key up, keeps it, or takes one that
nobody owns.
-/

variable {α κ : Type*}

section Entries

variable {table : List α} {a b : α} {i j : Nat}

/-- An entry after one was added is an old one or the new one. -/
theorem List.of_getElem?_concat (h : (table ++ [b])[i]? = some a) :
    table[i]? = some a ∨ i = table.length ∧ a = b := by
  rw [List.getElem?_append] at h
  split at h
  · exact .inl h
  · rw [List.getElem?_singleton] at h
    split at h
    · exact .inr ⟨by omega, (Option.some.inj h).symm⟩
    · cases h

/-- An entry after one was replaced is the new one or another one. -/
theorem List.of_getElem?_set (h : (table.set i b)[j]? = some a) :
    i = j ∧ a = b ∨ i ≠ j ∧ table[j]? = some a := by
  by_cases hij : i = j
  · subst hij
    rw [List.getElem?_set_self'] at h
    obtain ⟨-, -, rfl⟩ := Option.map_eq_some_iff.mp h
    exact .inl ⟨rfl, rfl⟩
  · rw [List.getElem?_set_ne hij] at h
    exact .inr ⟨hij, h⟩

end Entries

/-- No two places of the table own the same key. -/
def Exclusive (key : α → Option κ) (table : List α) : Prop :=
  ∀ ⦃i j : Nat⦄ ⦃a b : α⦄ ⦃k : κ⦄, table[i]? = some a → table[j]? = some b →
    key a = some k → key b = some k → i = j

namespace Exclusive

variable {key : α → Option κ} {table : List α} {a b : α} {i : Nat}

theorem nil : Exclusive key [] := by
  intro i j a b k hi
  simp at hi

/-- An entry is replaced: what the new one owns was the old one's or nobody's. -/
theorem set (h : Exclusive key table) (hi : table[i]? = some a)
    (hkey : ∀ k, key b = some k → key a = some k ∨ ∀ c ∈ table, key c ≠ some k) :
    Exclusive key (table.set i b) := by
  -- an owner beside the replaced entry is the replaced entry
  have hother : ∀ {j : Nat} {c : α} {k : κ}, i ≠ j → table[j]? = some c → key b = some k →
      key c = some k → False := by
    intro j c k hne hj hb hc
    rcases hkey k hb with ha | hnone
    · exact hne (h hi hj ha hc)
    · exact hnone c (List.mem_of_getElem? hj) hc
  intro j l c d k hj hl hc hd
  rcases List.of_getElem?_set hj with ⟨hij, rfl⟩ | ⟨hij, hj'⟩
  · rcases List.of_getElem?_set hl with ⟨hil, -⟩ | ⟨hil, hl'⟩
    · exact hij.symm.trans hil
    · exact (hother hil hl' hc hd).elim
  · rcases List.of_getElem?_set hl with ⟨-, rfl⟩ | ⟨-, hl'⟩
    · exact (hother hij hj' hd hc).elim
    · exact h hj' hl' hc hd

/-- An entry that owns nothing is added. -/
theorem append (h : Exclusive key table) (hb : key b = none) : Exclusive key (table ++ [b]) := by
  -- the owners are all in the old table
  have hold : ∀ {j : Nat} {c : α} {k : κ}, (table ++ [b])[j]? = some c → key c = some k →
      table[j]? = some c := by
    intro j c k hj hc
    rcases List.of_getElem?_concat hj with hj | ⟨-, rfl⟩
    · exact hj
    · cases hb.symm.trans hc
  intro j l c d k hj hl hc hd
  exact h (hold hj hc) (hold hl hd) hc hd

end Exclusive
