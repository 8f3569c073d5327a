-- SUMMARY: Totals over a table of accounts.
import Mathlib.Algebra.BigOperators.Group.List.Basic
import Mathlib.Algebra.Order.BigOperators.Group.List
import Mathlib.Algebra.Order.Group.Int
import Mathlib.Tactic.Abel

/-! # Ledgers

A ledger is a table of entries, each worth some amount. The total follows every change of one entry,
and no entry is worth more than the total when none is worth less than nothing.
-/

namespace Ledger

variable {α M : Type*} {table : List α}

/-- The worth of the whole table. -/
def total [AddCommMonoid M] (worth : α → M) (table : List α) : M := (table.map worth).sum

theorem forall_mem_set {p : α → Prop} {a : α} {i : Nat} (h : ∀ b ∈ table, p b)
    (ha : p a) : ∀ b ∈ table.set i a, p b := by
  intro b hb
  rcases List.mem_or_eq_of_mem_set hb with hb | rfl
  · exact h b hb
  · exact ha

section Changes

variable [AddCommGroup M] {worth : α → M} {table : List α} {a b : α} {i : Nat} {f : α → α}

@[simp] theorem total_nil : total worth [] = 0 := rfl

@[simp] theorem total_cons : total worth (a :: table) = worth a + total worth table := by
  simp [total]

@[simp] theorem total_append {first second : List α} :
    total worth (first ++ second) = total worth first + total worth second := by
  simp [total]

/-- Replacing an entry changes the total by the difference of the two. -/
theorem total_set (h : table[i]? = some a) :
    total worth (table.set i b) = total worth table + (worth b - worth a) := by
  obtain ⟨hi, rfl⟩ := List.getElem?_eq_some_iff.mp h
  have hlength : i < (table.map worth).length := by simpa using hi
  rw [total, total, List.map_set, List.sum_set', dif_pos hlength, List.getElem_map]
  congr 1
  abel

/-- Changing an entry changes the total by the difference. -/
theorem total_modify (h : table[i]? = some a) :
    total worth (table.modify i f) = total worth table + (worth (f a) - worth a) := by
  have hset : table.modify i f = table.set i (f a) := by
    apply List.ext_getElem?
    intro j
    by_cases hij : i = j
    · subst hij
      rw [List.getElem?_modify_eq, h, List.getElem?_set_self (List.getElem?_eq_some_iff.mp h).1]
      rfl
    · rw [List.getElem?_modify_ne _ _ hij, List.getElem?_set_ne hij]
  rw [hset, total_set h]

/-- A change that leaves the worth of every entry alone leaves the total alone. -/
theorem total_modify_of_worth (hf : ∀ a, worth (f a) = worth a) :
    total worth (table.modify i f) = total worth table := by
  cases hi : table[i]? with
  | none => rw [List.modify_eq_self (List.getElem?_eq_none_iff.mp hi)]
  | some a =>
    rw [total_modify hi, hf, sub_self, add_zero]

/-- Removing an entry takes its worth out of the total. -/
theorem total_eraseIdx (h : table[i]? = some a) :
    total worth (table.eraseIdx i) = total worth table - worth a := by
  obtain ⟨hi, rfl⟩ := List.getElem?_eq_some_iff.mp h
  have hperm := ((List.getElem_cons_eraseIdx_perm hi).map worth).sum_eq
  rw [List.map_cons, List.sum_cons] at hperm
  rw [total, total, ← hperm]
  abel

end Changes

/-- Entries that are worth nothing do not count. -/
theorem total_eq_zero [AddCommMonoid M] {worth : α → M}
    (h : ∀ a ∈ table, worth a = 0) : total worth table = 0 := by
  induction table with
  | nil => rfl
  | cons a table ih =>
    have hrest : total worth table = 0 := ih fun b hb => h b (List.mem_cons_of_mem _ hb)
    rw [total] at hrest ⊢
    simp [h a List.mem_cons_self, hrest]

section Order

variable {worth : α → Int} {table : List α} {a : α}

theorem total_nonneg (h : ∀ a ∈ table, 0 ≤ worth a) : 0 ≤ total worth table := by
  refine List.sum_nonneg ?_
  intro amount hamount
  obtain ⟨a, ha, rfl⟩ := List.mem_map.mp hamount
  exact h a ha

/-- No entry is worth more than the total. -/
theorem le_total (h : ∀ a ∈ table, 0 ≤ worth a) (ha : a ∈ table) :
    worth a ≤ total worth table := by
  refine List.single_le_sum ?_ (worth a) (List.mem_map_of_mem ha)
  intro amount hamount
  obtain ⟨b, hb, rfl⟩ := List.mem_map.mp hamount
  exact h b hb

/-- A table is worth no more when none of its entries is. -/
theorem total_le_total {worth' : α → Int} (h : ∀ a ∈ table, worth a ≤ worth' a) :
    total worth table ≤ total worth' table :=
  List.sum_le_sum h

/-- Removing whatever is at a place does not raise the total. -/
theorem total_eraseIdx_le (h : ∀ a ∈ table, 0 ≤ worth a) (i : Nat) :
    total worth (table.eraseIdx i) ≤ total worth table := by
  cases hi : table[i]? with
  | none => rw [List.eraseIdx_of_length_le (List.getElem?_eq_none_iff.mp hi)]
  | some b =>
    have hb := h b (List.mem_of_getElem? hi)
    rw [total_eraseIdx hi]
    omega

end Order

end Ledger
