-- SUMMARY: Tables built from a list of records.
import Hooshix.Lib.Table
import Mathlib.Order.Defs.LinearOrder

/-! # Indexes

A table that was filled from a list of records, one record at a time. `Indexes` is for tables in which
no key may be used twice, `Least` for tables that keep the least value of a key. Both describe the
table by which records there are, so neither depends on their order.
-/

namespace Table

variable {R K V : Type*} [DecidableEq K]

/-- The table holds the entries of the records and no others. A record may have no entry. -/
def Indexes (entry : R → Option (K × V)) (records : List R) (t : Table K V) : Prop :=
  ∀ k v, t.lookup k = some v ↔ ∃ r ∈ records, entry r = some (k, v)

namespace Indexes

variable {entry : R → Option (K × V)} {records records' : List R} {t t' : Table K V} {r : R} {k : K}
  {v : V}

theorem nil : Indexes entry [] (∅ : Table K V) := by
  intro k v
  simp

variable (h : Indexes entry records t)

include h

theorem skip (hr : entry r = none) : Indexes entry (r :: records) t := by
  intro k v
  rw [h k v, List.exists_mem_cons_iff, hr]
  simp

theorem insert (hr : entry r = some (k, v)) (hfree : t.lookup k = none) :
    Indexes entry (r :: records) (t.insert k v) := by
  intro k' v'
  rw [lookup_insert_of, List.exists_mem_cons_iff, hr]
  by_cases hk : k' = k
  · subst hk
    have hnone : ¬ ∃ r ∈ records, entry r = some (k', v') := by
      rw [← h k' v', hfree]
      simp
    simp [hnone]
  · simp [hk, h k' v', Ne.symm hk]

theorem lookup_isSome_iff : (t.lookup k).isSome ↔ ∃ r ∈ records, ∃ v, entry r = some (k, v) := by
  rw [Option.isSome_iff_exists]
  constructor
  · rintro ⟨v, hv⟩
    obtain ⟨r, hr, hentry⟩ := (h k v).mp hv
    exact ⟨r, hr, v, hentry⟩
  · rintro ⟨r, hr, v, hentry⟩
    exact ⟨v, (h k v).mpr ⟨r, hr, hentry⟩⟩

theorem congr (hsame : ∀ r, r ∈ records ↔ r ∈ records') : Indexes entry records' t := by
  intro k v
  rw [h k v]
  simp only [hsame]

theorem lookup_eq (h' : Indexes entry records t') (k : K) : t.lookup k = t'.lookup k := by
  apply Option.ext
  intro v
  rw [h k v, h' k v]

end Indexes

/-- Stores a value unless the key has one that is not greater. -/
def insertLeast [LinearOrder V] (t : Table K V) (k : K) (v : V) : Table K V :=
  match t.lookup k with
  | some w => if v < w then t.insert k v else t
  | none => t.insert k v

/-- The table holds the least of the values that the records have for a key. -/
structure Least [LinearOrder V] (entry : R → Option (K × V)) (records : List R) (t : Table K V) :
    Prop where
  mem : ∀ {k v}, t.lookup k = some v → ∃ r ∈ records, entry r = some (k, v)
  le : ∀ {r k v}, r ∈ records → entry r = some (k, v) → ∃ w, t.lookup k = some w ∧ w ≤ v

namespace Least

variable [LinearOrder V] {entry : R → Option (K × V)} {records records' : List R} {t t' : Table K V}
  {r : R} {k : K} {v : V}

theorem nil : Least entry [] (∅ : Table K V) where
  mem h := by simp at h
  le h := by simp at h

theorem skip (h : Least entry records t) (hr : entry r = none) : Least entry (r :: records) t where
  mem hv := by
    obtain ⟨r', hr', hentry⟩ := h.mem hv
    exact ⟨r', List.mem_cons_of_mem r hr', hentry⟩
  le hr' hentry := by
    rcases List.mem_cons.mp hr' with rfl | hr'
    · rw [hr] at hentry
      cases hentry
    · exact h.le hr' hentry

/-- What the table has afterwards for the key of the stored value. -/
theorem lookup_insertLeast (t : Table K V) (k : K) (v : V) :
    ∃ w, (t.insertLeast k v).lookup k = some w ∧ w ≤ v ∧ (w = v ∨ t.lookup k = some w) ∧
      ∀ u, t.lookup k = some u → w ≤ u := by
  unfold insertLeast
  cases hlookup : t.lookup k with
  | none => exact ⟨v, AList.lookup_insert t, le_refl v, .inl rfl, by simp⟩
  | some u =>
    by_cases hlt : v < u
    · refine ⟨v, by simp [hlt, AList.lookup_insert], le_refl v, .inl rfl, ?_⟩
      rintro _ ⟨⟩
      exact le_of_lt hlt
    · refine ⟨u, by simpa [hlt] using hlookup, not_lt.mp hlt, .inr rfl, ?_⟩
      rintro _ ⟨⟩
      exact le_refl u

theorem lookup_insertLeast_ne (t : Table K V) {k k' : K} (v : V) (hk : k' ≠ k) :
    (t.insertLeast k v).lookup k' = t.lookup k' := by
  unfold insertLeast
  split
  · split
    · exact AList.lookup_insert_ne hk
    · rfl
  · exact AList.lookup_insert_ne hk

theorem insert (h : Least entry records t) (hr : entry r = some (k, v)) :
    Least entry (r :: records) (t.insertLeast k v) := by
  obtain ⟨w, hw, hwv, hfrom, hwle⟩ := lookup_insertLeast t k v
  constructor
  · intro k' v' hv'
    by_cases hk : k' = k
    · subst hk
      rw [hw] at hv'
      cases hv'
      rcases hfrom with rfl | hold
      · exact ⟨r, List.mem_cons_self, hr⟩
      · obtain ⟨r', hr', hentry⟩ := h.mem hold
        exact ⟨r', List.mem_cons_of_mem r hr', hentry⟩
    · rw [lookup_insertLeast_ne t v hk] at hv'
      obtain ⟨r', hr', hentry⟩ := h.mem hv'
      exact ⟨r', List.mem_cons_of_mem r hr', hentry⟩
  · intro r' k' v' hr' hentry
    rcases List.mem_cons.mp hr' with rfl | hr'
    · rw [hr] at hentry
      cases hentry
      exact ⟨w, hw, hwv⟩
    · obtain ⟨u, hu, huv⟩ := h.le hr' hentry
      by_cases hk : k' = k
      · subst hk
        exact ⟨w, hw, le_trans (hwle u hu) huv⟩
      · exact ⟨u, by rwa [lookup_insertLeast_ne t v hk], huv⟩

theorem congr (h : Least entry records t) (hsame : ∀ r, r ∈ records ↔ r ∈ records') :
    Least entry records' t where
  mem hv := by
    obtain ⟨r, hr, hentry⟩ := h.mem hv
    exact ⟨r, (hsame r).mp hr, hentry⟩
  le hr := h.le ((hsame _).mpr hr)

/-- The value of a key is below a bound as soon as one record's is. -/
theorem exists_le_iff (h : Least entry records t) {bound : V} :
    (∃ v, t.lookup k = some v ∧ v ≤ bound) ↔
      ∃ r ∈ records, ∃ v, entry r = some (k, v) ∧ v ≤ bound := by
  constructor
  · rintro ⟨v, hv, hle⟩
    obtain ⟨r, hr, hentry⟩ := h.mem hv
    exact ⟨r, hr, v, hentry, hle⟩
  · rintro ⟨r, hr, v, hentry, hle⟩
    obtain ⟨w, hw, hwv⟩ := h.le hr hentry
    exact ⟨w, hw, le_trans hwv hle⟩

end Least

end Table
