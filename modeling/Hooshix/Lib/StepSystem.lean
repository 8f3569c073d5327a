-- SUMMARY: Step functions over labels, their runs, and the induction rules for runs.
import Mathlib.Data.List.Induction

/-! # Step systems

A system is a step function `σ → α → Option σ` over labels `α`; `none` means that the label is not
enabled in the state. A run follows a list of labels, so an interleaving of several parties is a
list of their labels and a statement about every interleaving is a statement about every list.
-/

namespace StepSystem

variable {σ τ α β : Type*}

/-! ## Runs -/

/-- The state reached along `labels`, if each label is enabled when its turn comes. -/
def run (step : σ → α → Option σ) : σ → List α → Option σ
  | s, [] => some s
  | s, a :: labels => (step s a).bind fun s' => run step s' labels

variable {step : σ → α → Option σ} {G : σ → α → Prop} {s s' t : σ} {a : α} {labels : List α}

@[simp] theorem run_nil : run step s [] = some s := rfl

theorem run_cons : run step s (a :: labels) = some t ↔
    ∃ m, step s a = some m ∧ run step m labels = some t := by
  simp only [run, Option.bind_eq_some_iff]

theorem run_append {first second : List α} : run step s (first ++ second) = some t ↔
    ∃ m, run step s first = some m ∧ run step m second = some t := by
  induction first generalizing s with
  | nil => simp
  | cons a first ih =>
    simp only [List.cons_append, run_cons, ih]
    constructor
    · rintro ⟨m, hm, n, hn, ht⟩
      exact ⟨n, ⟨m, hm, hn⟩, ht⟩
    · rintro ⟨n, ⟨m, hm, hn⟩, ht⟩
      exact ⟨m, hm, n, hn, ht⟩

theorem run_singleton : run step s [a] = some t ↔ step s a = some t := by
  simp [run_cons]

/-- A run that ends, with what then holds at its end. -/
theorem exists_run {P : σ → Prop} (h : (run step s labels).isSome)
    (hP : ∀ {t}, run step s labels = some t → P t) : ∃ t, run step s labels = some t ∧ P t := by
  obtain ⟨t, ht⟩ := Option.isSome_iff_exists.mp h
  exact ⟨t, ht, hP ht⟩

/-! ## Guarded runs -/

/-- Every step of the run along `labels` meets `G` in the state it is taken from. -/
def Along (step : σ → α → Option σ) (G : σ → α → Prop) : σ → List α → Prop
  | _, [] => True
  | s, a :: labels =>
    G s a ∧ match step s a with
      | some s' => Along step G s' labels
      | none => True

instance Along.decidable [∀ s a, Decidable (G s a)] : ∀ s labels, Decidable (Along step G s labels)
  | _, [] => inferInstanceAs (Decidable True)
  | s, a :: labels =>
    match h : step s a with
    | some s' =>
      have : Decidable (Along step G s' labels) := Along.decidable s' labels
      decidable_of_iff (G s a ∧ Along step G s' labels) (by simp [Along, h])
    | none => decidable_of_iff (G s a) (by simp [Along, h])

theorem Along.head (h : Along step G s (a :: labels)) : G s a :=
  h.1

theorem Along.tail (h : Along step G s (a :: labels)) (hstep : step s a = some s') :
    Along step G s' labels := by
  have htail := h.2
  rwa [hstep] at htail

/-- A guard that reads only the label is met along every run of labels that meet it. -/
theorem along_of_forall {P : α → Prop} (h : ∀ a ∈ labels, P a) :
    Along step (fun _ a => P a) s labels := by
  induction labels generalizing s with
  | nil => trivial
  | cons a labels ih =>
    refine ⟨h a List.mem_cons_self, ?_⟩
    split
    · exact ih fun b hb => h b (List.mem_cons_of_mem a hb)
    · trivial

theorem Along.and {H : σ → α → Prop} (hG : Along step G s labels) (hH : Along step H s labels) :
    Along step (fun s a => G s a ∧ H s a) s labels := by
  induction labels generalizing s with
  | nil => trivial
  | cons a labels ih =>
    refine ⟨⟨hG.head, hH.head⟩, ?_⟩
    split
    next hstep => exact ih (hG.tail hstep) (hH.tail hstep)
    · trivial

/-! ## Invariants -/

/-- What every step under the guard keeps holds along every guarded run. -/
theorem invariant_along {I : σ → Prop}
    (hkeep : ∀ {s a s'}, I s → G s a → step s a = some s' → I s') {s t : σ} (hs : I s)
    (hG : Along step G s labels) (hrun : run step s labels = some t) : I t := by
  induction labels generalizing s with
  | nil => cases hrun; exact hs
  | cons a labels ih =>
    obtain ⟨m, hm, ht⟩ := run_cons.mp hrun
    exact ih (hkeep hs hG.head hm) (hG.tail hm) ht

/-- What every step keeps holds along every run. -/
theorem invariant {I : σ → Prop} (hkeep : ∀ {s a s'}, I s → step s a = some s' → I s') {s t : σ}
    (hs : I s) (hrun : run step s labels = some t) : I t :=
  invariant_along (fun hs _ hstep => hkeep hs hstep) hs
    (along_of_forall fun _ _ => trivial) hrun

/-- What a step keeps exactly under the guard holds at the end exactly of the guarded runs. -/
theorem iff_along {J I : σ → Prop} (hinv : ∀ {s a s'}, J s → step s a = some s' → J s')
    (hstep : ∀ {s a s'}, J s → step s a = some s' → (I s' ↔ I s ∧ G s a))
    {s t : σ} (hs : J s) (hrun : run step s labels = some t) :
    I t ↔ I s ∧ Along step G s labels := by
  induction labels generalizing s with
  | nil => cases hrun; simp [Along]
  | cons a labels ih =>
    obtain ⟨m, hm, ht⟩ := run_cons.mp hrun
    rw [ih (hinv hs hm) ht, hstep hs hm, and_assoc]
    simp only [Along, hm]

/-- What every step keeps about the labels so far and the state holds along every run. -/
theorem history {I : List α → σ → Prop} (hstart : I [] s)
    (hkeep : ∀ {past m a m'}, run step s past = some m → I past m → step m a = some m' →
      I (past ++ [a]) m') (hrun : run step s labels = some t) : I labels t := by
  induction labels using List.reverseRecOn generalizing t with
  | nil => cases hrun; exact hstart
  | append_singleton labels a ih =>
    obtain ⟨m, hm, ht⟩ := run_append.mp hrun
    exact hkeep hm (ih hm) (run_singleton.mp ht)

/-! ## Simulation -/

/-- A relation that every guarded step can follow with some abstract steps relates the end of
    every guarded run to the end of an abstract run. -/
theorem simulation_along {spec : τ → β → Option τ} {R : σ → τ → Prop}
    (hstep : ∀ {s a s' t}, R s t → G s a → step s a = some s' →
      ∃ bs t', run spec t bs = some t' ∧ R s' t')
    {t : τ} (hR : R s t) (hG : Along step G s labels)
    (hrun : run step s labels = some s') :
    ∃ bs t', run spec t bs = some t' ∧ R s' t' := by
  induction labels generalizing s t with
  | nil => cases hrun; exact ⟨[], t, rfl, hR⟩
  | cons a labels ih =>
    obtain ⟨m, hm, hrest⟩ := run_cons.mp hrun
    obtain ⟨bs, u, hu, hmu⟩ := hstep hR hG.head hm
    obtain ⟨cs, t', ht', hR'⟩ := ih hmu (hG.tail hm) hrest
    exact ⟨bs ++ cs, t', run_append.mpr ⟨u, hu, ht'⟩, hR'⟩

/-! ## Two runs -/

/-- A relation that the hidden labels keep on one side, and the visible ones on both, holds between
    the ends of a run and of the same run without its hidden labels. -/
theorem purge_along {visible : α → Bool} {R : σ → σ → Prop}
    (hhidden : ∀ {s t a s'}, R s t → G s a → visible a = false → step s a = some s' → R s' t)
    (hvisible : ∀ {s t a s' t'}, R s t → G s a → visible a = true → step s a = some s' →
      step t a = some t' → R s' t')
    {t' : σ} (hR : R s t) (hG : Along step G s labels)
    (hrun : run step s labels = some s') (hpurged : run step t (labels.filter visible) = some t') :
    R s' t' := by
  induction labels generalizing s t with
  | nil => cases hrun; cases hpurged; exact hR
  | cons a labels ih =>
    obtain ⟨m, hm, hrest⟩ := run_cons.mp hrun
    cases hvis : visible a with
    | true =>
      rw [List.filter_cons_of_pos hvis] at hpurged
      obtain ⟨n, hn, hpurged⟩ := run_cons.mp hpurged
      exact ih (hvisible hR hG.head hvis hm hn) (hG.tail hm) hrest hpurged
    | false =>
      rw [List.filter_cons_of_neg (by simp [hvis])] at hpurged
      exact ih (hhidden hR hG.head hvis hm) (hG.tail hm) hrest hpurged

/-- If the run without the hidden labels can follow each visible step, it exists. -/
theorem purged_along {visible : α → Bool} {R : σ → σ → Prop}
    (hhidden : ∀ {s t a s'}, R s t → G s a → visible a = false → step s a = some s' → R s' t)
    (hvisible : ∀ {s t a s'}, R s t → G s a → visible a = true → step s a = some s' →
      ∃ t', step t a = some t' ∧ R s' t')
    (hR : R s t) (hG : Along step G s labels)
    (hrun : run step s labels = some s') :
    ∃ t', run step t (labels.filter visible) = some t' ∧ R s' t' := by
  induction labels generalizing s t with
  | nil => cases hrun; exact ⟨t, rfl, hR⟩
  | cons a labels ih =>
    obtain ⟨m, hm, hrest⟩ := run_cons.mp hrun
    cases hvis : visible a with
    | true =>
      rw [List.filter_cons_of_pos hvis]
      obtain ⟨n, hn, hmn⟩ := hvisible hR hG.head hvis hm
      obtain ⟨t', ht', hR'⟩ := ih hmn (hG.tail hm) hrest
      exact ⟨t', run_cons.mpr ⟨n, hn, ht'⟩, hR'⟩
    | false =>
      rw [List.filter_cons_of_neg (by simp [hvis])]
      exact ih (hhidden hR hG.head hvis hm) (hG.tail hm) hrest

end StepSystem
