-- SUMMARY: Finite tables as Mathlib's association lists.
import Mathlib.Data.List.AList
import Mathlib.Algebra.BigOperators.Group.List.Basic
import Mathlib.Algebra.Ring.Nat
import Mathlib.Data.Finset.Card
import Mathlib.Data.Finset.Dedup

/-! # Tables

A table maps finitely many keys to values; it is an `AList` with a constant family. Only what Mathlib
does not have is here: the values of a table, and sums over them when one key changes.
-/

/-- A finite map with at most one value for each key. -/
abbrev Table (K V : Type*) := AList fun _ : K => V

namespace Table

variable {K V : Type*}

/-- The values of a table, in the order of its entries. -/
def values (t : Table K V) : List V := t.entries.map (·.2)

def size (t : Table K V) : Nat := t.entries.length

/-- The sum of a weight over all values. -/
def total (f : V → Nat) (t : Table K V) : Nat := (t.entries.map fun e => f e.2).sum

@[simp] theorem size_empty : size (∅ : Table K V) = 0 := rfl

@[simp] theorem total_empty (f : V → Nat) : total f (∅ : Table K V) = 0 := rfl

/-- Sizes are the sums of the weight one. -/
theorem size_eq_total (t : Table K V) : size t = total (fun _ => 1) t := by
  simp only [size, total, List.map_const', List.sum_replicate_nat, Nat.mul_one]

theorem length_keys (t : Table K V) : t.keys.length = size t := List.length_map _

theorem length_values (t : Table K V) : (values t).length = size t := List.length_map _

variable [DecidableEq K] {t : Table K V} {v : V} {k : K}

/-! ## Lookup -/

theorem lookup_insert_of (t : Table K V) (k k' : K) (v : V) :
    (t.insert k v).lookup k' = if k' = k then some v else t.lookup k' := by
  split
  · rename_i heq
    subst heq
    exact AList.lookup_insert t
  · rename_i hne
    exact AList.lookup_insert_ne hne

theorem lookup_erase_of (t : Table K V) (k k' : K) :
    (t.erase k).lookup k' = if k' = k then none else t.lookup k' := by
  split
  · rename_i heq
    subst heq
    exact AList.lookup_erase k' t
  · rename_i hne
    exact AList.lookup_erase_ne hne

theorem of_lookup_erase {k k' : K} (h : (t.erase k).lookup k' = some v) :
    k' ≠ k ∧ t.lookup k' = some v := by
  rw [lookup_erase_of] at h
  exact Option.ite_none_left_eq_some.mp h

theorem mem_values : v ∈ values t ↔ ∃ k, t.lookup k = some v := by
  constructor
  · intro hv
    obtain ⟨⟨k, v'⟩, hmem, rfl⟩ := List.mem_map.mp hv
    exact ⟨k, AList.mem_lookup_iff.mpr hmem⟩
  · rintro ⟨k, hk⟩
    exact List.mem_map.mpr ⟨⟨k, v⟩, AList.mem_lookup_iff.mp hk, rfl⟩

/-- No value is listed twice when no two keys have the same one. -/
theorem nodup_values (h : ∀ k k' v, t.lookup k = some v → t.lookup k' = some v → k = k') :
    (values t).Nodup := by
  have hentries : t.entries.Nodup := List.NodupKeys.nodup t.nodupKeys
  refine hentries.map_on ?_
  rintro ⟨k, v⟩ hk ⟨k', v'⟩ hk' rfl
  rw [h k k' v (AList.mem_lookup_iff.mpr hk) (AList.mem_lookup_iff.mpr hk')]

/-- The entries that `keep` accepts. -/
def filter (keep : K → V → Bool) (t : Table K V) : Table K V :=
  ⟨t.entries.filter fun e => keep e.1 e.2, t.nodupKeys.sublist List.filter_sublist⟩

theorem lookup_filter (keep : K → V → Bool) (t : Table K V) (k : K) :
    (filter keep t).lookup k = (t.lookup k).filter (keep k) := by
  apply Option.ext
  intro v
  have hmem : ∀ u : Table K V, u.lookup k = some v ↔ (⟨k, v⟩ : Sigma fun _ : K => V) ∈ u.entries :=
    fun u => AList.mem_lookup_iff
  rw [hmem, Option.filter_eq_some_iff, hmem]
  exact List.mem_filter

/-! ## Two tables -/

/-- The values of `s` and `t` are alike, but for the keys that only `s` should have. -/
structure Joint (extra : K → Bool) (alike : Option V → Option V → Prop) (outside : V → Prop)
    (s t : Table K V) : Prop where
  alike : ∀ k, extra k = false → alike (s.lookup k) (t.lookup k)
  outside : ∀ k v, extra k = true → s.lookup k = some v → outside v

namespace Joint

variable {extra : K → Bool} {alike : Option V → Option V → Prop} {outside : V → Prop}
  {s t : Table K V} {k : K} {v w : V}

theorem refl (halike : ∀ v, alike v v) (hnew : ∀ k, extra k = true → t.lookup k = none) :
    Joint extra alike outside t t :=
  ⟨fun _ _ => halike _, fun k _ hk hv => by simp [hnew k hk] at hv⟩

theorem insert_extra (h : Joint extra alike outside s t) (hk : extra k = true) (hv : outside v) :
    Joint extra alike outside (s.insert k v) t := by
  constructor
  · intro k' hk'
    have hne : k' ≠ k := by
      rintro rfl
      simp [hk] at hk'
    rw [lookup_insert_of, if_neg hne]
    exact h.alike k' hk'
  · intro k' v' hk' hv'
    rw [lookup_insert_of] at hv'
    split at hv'
    · cases hv'
      exact hv
    · exact h.outside k' v' hk' hv'

theorem insert (h : Joint extra alike outside s t) (hk : extra k = false)
    (hvw : alike (some v) (some w)) : Joint extra alike outside (s.insert k v) (t.insert k w) := by
  constructor
  · intro k' hk'
    simp only [lookup_insert_of]
    split
    · exact hvw
    · exact h.alike k' hk'
  · intro k' v' hk' hv'
    have hne : k' ≠ k := by
      rintro rfl
      simp [hk] at hk'
    rw [lookup_insert_of, if_neg hne] at hv'
    exact h.outside k' v' hk' hv'

end Joint

/-! ## Sums under update -/

theorem entries_erase (t : Table K V) (k : K) : (t.erase k).entries = t.entries.kerase k := rfl

theorem total_erase_of_none (f : V → Nat) (h : t.lookup k = none) :
    total f (t.erase k) = total f t := by
  have hkey : k ∉ t.entries.keys := AList.lookup_eq_none.mp h
  simp [total, entries_erase, List.kerase_of_notMem_keys hkey]

theorem total_erase (f : V → Nat) (h : t.lookup k = some v) :
    total f (t.erase k) + f v = total f t := by
  have hkey : k ∈ t.entries.keys := AList.lookup_isSome.mp (by simp [h])
  obtain ⟨v', first, second, hfirst, hsplit, herase⟩ := List.exists_of_kerase hkey
  have hv : v' = v := by
    have hmem : (⟨k, v'⟩ : Sigma fun _ : K => V) ∈ t.entries := by simp [hsplit]
    have hlookup : t.lookup k = some v' := AList.mem_lookup_iff.mpr hmem
    exact Option.some.inj (hlookup.symm.trans h)
  subst hv
  have hrest : (t.erase k).entries = first ++ second := (entries_erase t k).trans herase
  simp only [total, hrest, hsplit, List.map_append, List.map_cons, List.sum_append, List.sum_cons]
  omega

theorem total_insert (f : V → Nat) (t : Table K V) (k : K) (v : V) :
    total f (t.insert k v) = total f (t.erase k) + f v := by
  simp only [total, AList.entries_insert, entries_erase, List.map_cons, List.sum_cons]
  exact Nat.add_comm _ _

theorem total_insert_lookup (f : V → Nat) (t : Table K V) (k : K) (v : V) :
    total f (t.insert k v) + (t.lookup k).elim 0 f = total f t + f v := by
  cases h : t.lookup k with
  | none =>
    simp only [total_insert, total_erase_of_none f h, Option.elim_none, Nat.add_zero]
  | some old =>
    rw [total_insert, ← total_erase f h, Option.elim_some]
    exact Nat.add_right_comm _ _ _

theorem size_erase (h : t.lookup k = some v) :
    size (t.erase k) + 1 = size t := by
  simpa [size_eq_total] using total_erase (fun _ => 1) h

theorem size_insert_of_none (h : t.lookup k = none) :
    size (t.insert k v) = size t + 1 := by
  simp [size_eq_total, total_insert, total_erase_of_none _ h]

theorem size_insert_of_some {v old : V} (h : t.lookup k = some old) :
    size (t.insert k v) = size t := by
  simp [size_eq_total, total_insert, total_erase (fun _ => 1) h]

theorem size_insert_le (t : Table K V) (k : K) (v : V) : size (t.insert k v) ≤ size t + 1 := by
  cases h : t.lookup k with
  | none => rw [size_insert_of_none h]
  | some old => rw [size_insert_of_some h]; exact Nat.le_succ _

theorem size_erase_le (t : Table K V) (k : K) : size (t.erase k) ≤ size t := by
  cases h : t.lookup k with
  | none => rw [size_eq_total, size_eq_total, total_erase_of_none _ h]
  | some old => exact Nat.le_of_succ_le (Nat.le_of_eq (size_erase h))

theorem size_pos_iff : 0 < size t ↔ ∃ k v, t.lookup k = some v := by
  constructor
  · intro hpos
    obtain ⟨⟨k, v⟩, hmem⟩ := List.exists_mem_of_length_pos hpos
    exact ⟨k, v, AList.mem_lookup_iff.mpr hmem⟩
  · rintro ⟨k, v, h⟩
    have hsize := size_erase h
    omega

/-- A table whose keys are in a finite set is no larger than the set. -/
theorem size_le_card {keys : Finset K} (h : ∀ k v, t.lookup k = some v → k ∈ keys) :
    size t ≤ keys.card := by
  rw [← length_keys, ← List.toFinset_card_of_nodup t.keys_nodup]
  apply Finset.card_le_card
  intro k hk
  obtain ⟨v, hv⟩ := Option.isSome_iff_exists.mp (AList.lookup_isSome.mpr (List.mem_toFinset.mp hk))
  exact h k v hv

end Table
