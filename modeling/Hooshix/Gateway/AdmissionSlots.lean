-- SUMMARY: Keyed admission: when a key counts as contended, and what is in flight and tracked.
import Hooshix.Lib.StepSystem
import Hooshix.Gateway.Admission

/-! # Admission slots

A `KeyedAdmissionLimiter` in use: any number of callers acquire keys at any times and release each
accepted key once.
-/

namespace Hooshix.Gateway

open KeyedAdmissionLimiter

namespace KeyedAdmissionLimiter

variable {R : Type} {limiter limiter' : KeyedAdmissionLimiter R} {key : String} {now : Int}
  {calls : List (String × Int)}

/-! ## Contention -/

/-- The two remembered keys stand for all `calls`: the last key with its last call, and the last call
    of any other key. -/
structure Remembers (limiter : KeyedAdmissionLimiter R) (calls : List (String × Int)) : Prop where
  recent : limiter.recentKey ≠ "" → (limiter.recentKey, limiter.recentAt) ∈ calls
  previous : limiter.previousKey ≠ "" →
    (limiter.previousKey, limiter.previousAt) ∈ calls ∧ limiter.previousKey ≠ limiter.recentKey
  all : ∀ call ∈ calls, limiter.recentKey ≠ "" ∧ call.2 ≤ limiter.recentAt ∧
    (call.1 = limiter.recentKey ∨ limiter.previousKey ≠ "" ∧ call.2 ≤ limiter.previousAt)

theorem Remembers.observeKey (h : limiter.Remembers calls)
    (hkey : key ≠ "") (hnow : ∀ call ∈ calls, call.2 ≤ now) (states : Table String (KeyedState R)) :
    Remembers { limiter.observeKey key now with states } (calls ++ [(key, now)]) := by
  have hlast : (key, now) ∈ calls ++ [(key, now)] := by simp
  simp only [KeyedAdmissionLimiter.observeKey]
  split
  next heq =>
    refine ⟨fun _ => heq ▸ hlast, fun hprevious => ?_, ?_⟩
    · exact ⟨List.mem_append_left _ (h.previous hprevious).1, (h.previous hprevious).2⟩
    · refine List.forall_mem_append.mpr ⟨?_, List.forall_mem_singleton.mpr ?_⟩
      · exact fun call hcall => ⟨(h.all call hcall).1, hnow call hcall, (h.all call hcall).2.2⟩
      · exact ⟨heq ▸ hkey, Int.le_refl _, .inl heq.symm⟩
  next hne =>
    refine ⟨fun _ => hlast, fun hrecent => ⟨List.mem_append_left _ (h.recent hrecent), hne⟩, ?_⟩
    refine List.forall_mem_append.mpr ⟨?_, List.forall_mem_singleton.mpr ?_⟩
    · exact fun call hcall =>
        ⟨hkey, hnow call hcall, .inr ⟨(h.all call hcall).1, (h.all call hcall).2.1⟩⟩
    · exact ⟨hkey, Int.le_refl _, .inl rfl⟩

/-- The two keys decide as all calls would. -/
theorem Remembers.otherKeyRecentlySeen (h : limiter.Remembers calls) :
    limiter.otherKeyRecentlySeen key now = true ↔
      ∃ call ∈ calls, call.1 ≠ key ∧ now - limiter.contentionWindow ≤ call.2 := by
  simp only [KeyedAdmissionLimiter.otherKeyRecentlySeen, Bool.or_eq_true, Bool.and_eq_true,
    decide_eq_true_eq, Bool.not_eq_true', decide_eq_false_iff_not, Int.not_lt]
  constructor
  · rintro (⟨⟨hseen, hne⟩, hlate⟩ | ⟨⟨hseen, hne⟩, hlate⟩)
    · exact ⟨_, h.recent hseen, hne, hlate⟩
    · exact ⟨_, (h.previous hseen).1, hne, hlate⟩
  · rintro ⟨call, hcall, hne, hlate⟩
    obtain ⟨hrecent, hle, hcases⟩ := h.all call hcall
    by_cases hkey : limiter.recentKey = key
    · -- the key has the recent slot to itself
      rcases hcases with heq | ⟨hprevious, hle⟩
      · exact absurd (heq.trans hkey) hne
      · have hother := (h.previous hprevious).2
        exact .inr ⟨⟨hprevious, hkey ▸ hother⟩, Int.le_trans hlate hle⟩
    · exact .inl ⟨⟨hrecent, hkey⟩, Int.le_trans hlate hle⟩

/-- After a sweep the new key and the keys in flight are left. -/
theorem track_size (now : Int) (hnone : limiter.states.lookup key = none) {held : List String}
    (hheld : ∀ k, limiter.inFlight k = held.count k) :
    Table.size (limiter.track key now).1.states ≤
        max limiter.maxTrackedKeys (1 + held.toFinset.card) ∧
      (limiter.track key now).1.states.lookup key = some (limiter.track key now).2 := by
  simp only [track, hnone]
  split
  · refine ⟨Nat.le_trans ?_ (Nat.le_max_right _ _), by simp [Table.lookup_filter]⟩
    rw [Nat.add_comm]
    refine Nat.le_trans (Table.size_le_card ?_) (Finset.card_insert_le key held.toFinset)
    intro k state hstate
    rw [Table.lookup_filter, Option.filter_eq_some_iff, Table.lookup_insert_of] at hstate
    by_cases hkey : k = key
    · exact hkey ▸ Finset.mem_insert_self _ _
    · -- a key that is kept has something in flight
      rw [if_neg hkey] at hstate
      have hcount := hheld k
      simp only [inFlight, hstate.1, Option.elim_some] at hcount
      have hpos : held.count k ≠ 0 := by
        intro hzero
        simp [hcount, hzero, hkey] at hstate
      exact Finset.mem_insert_of_mem
        (List.mem_toFinset.mpr (List.count_pos_iff.mp (Nat.pos_of_ne_zero hpos)))
  next hsize => exact ⟨Nat.le_trans (Nat.le_of_not_lt hsize) (Nat.le_max_left _ _), by simp⟩

section

variable [Add R] [Sub R] [Mul R] [OfNat R 1] [LT R] [DecidableLT R] {seconds : Int → R}
  {held : List String} {maxInFlight : Int} {rate burst : R}

/-- Admission changes the tracked states alone. -/
theorem admitWithin_states (limiter : KeyedAdmissionLimiter R) (maxInFlight : Int) (rate burst : R) :
    ∃ states, (limiter.admitWithin seconds maxInFlight rate burst key now).2 = { limiter with states } := by
  have htrack : ∃ states, (limiter.track key now).1 = { limiter with states } := by
    unfold track
    split <;> exact ⟨_, rfl⟩
  obtain ⟨states, htrack⟩ := htrack
  simp only [admitWithin, htrack, setState]
  split
  · exact ⟨_, rfl⟩
  split <;> exact ⟨_, rfl⟩

theorem tryAcquire_states (seconds : Int → R) (limiter : KeyedAdmissionLimiter R) (key : String)
    (now : Int) :
    ∃ states, (limiter.tryAcquire seconds key now).2 = { limiter.observeKey key now with states } := by
  simp only [tryAcquire]
  split <;> exact admitWithin_states _ _ _ _

/-- The limiter after `calls` of `TryAcquire`. -/
def after (seconds : Int → R) (limiter : KeyedAdmissionLimiter R) (calls : List (String × Int)) :
    KeyedAdmissionLimiter R :=
  calls.foldl (fun limiter call => (limiter.tryAcquire seconds call.1 call.2).2) limiter

/-- Calls with names, in the order of time, are remembered as a whole. -/
theorem Remembers.after (seconds : Int → R) {first calls : List (String × Int)}
    (h : limiter.Remembers first)
    (hkeys : ∀ call ∈ calls, call.1 ≠ "") (htimes : (first ++ calls).Pairwise (·.2 ≤ ·.2)) :
    (limiter.after seconds calls).Remembers (first ++ calls) ∧
      (limiter.after seconds calls).alwaysFair = limiter.alwaysFair ∧
      (limiter.after seconds calls).contentionWindow = limiter.contentionWindow := by
  induction calls generalizing limiter first with
  | nil => simpa [after] using h
  | cons call calls ih =>
    obtain ⟨states, hstates⟩ := tryAcquire_states seconds limiter call.1 call.2
    have hnow : ∀ earlier ∈ first, earlier.2 ≤ call.2 := fun earlier hearlier =>
      (List.pairwise_append.mp htimes).2.2 earlier hearlier call List.mem_cons_self
    have hnext := h.observeKey (hkeys call List.mem_cons_self) hnow states
    rw [← hstates] at hnext
    rw [List.append_cons] at htimes ⊢
    have hfields : (limiter.tryAcquire seconds call.1 call.2).2.alwaysFair = limiter.alwaysFair ∧
        (limiter.tryAcquire seconds call.1 call.2).2.contentionWindow = limiter.contentionWindow := by
      rw [hstates, KeyedAdmissionLimiter.observeKey]
      split <;> exact ⟨rfl, rfl⟩
    rw [← hfields.1, ← hfields.2]
    exact ih hnext (fun later hlater => hkeys later (List.mem_cons_of_mem _ hlater)) htimes

/-- A call gets the fair share if and only if another key was called within the window before it. -/
theorem tryAcquire_contended (hrecent : limiter.recentKey = "") (hprevious : limiter.previousKey = "")
    (hfair : limiter.alwaysFair = false) (hkeys : ∀ call ∈ calls, call.1 ≠ "")
    (htimes : (calls ++ [(key, now)]).Pairwise (·.2 ≤ ·.2)) :
    (limiter.after seconds calls).tryAcquire seconds key now =
      let observed := (limiter.after seconds calls).observeKey key now
      if ∃ call ∈ calls, call.1 ≠ key ∧ now - limiter.contentionWindow ≤ call.2 then
        observed.admitWithin seconds observed.fairMaxInFlight observed.fairRate observed.fairBurst key now
      else observed.admitWithin seconds observed.maxInFlight observed.rate observed.burst key now := by
  have hnew : limiter.Remembers [] :=
    ⟨fun h => absurd hrecent h, fun h => absurd hprevious h, nofun⟩
  obtain ⟨hremembers, hsame, hwindow⟩ :=
    hnew.after seconds hkeys (List.pairwise_append.mp htimes).1
  have hcontended : ((limiter.after seconds calls).alwaysFair ||
      (limiter.after seconds calls).otherKeyRecentlySeen key now) =
        decide (∃ call ∈ calls, call.1 ≠ key ∧ now - limiter.contentionWindow ≤ call.2) := by
    rw [hsame, hfair, Bool.false_or, Bool.eq_iff_iff, decide_eq_true_iff, ← hwindow]
    exact hremembers.otherKeyRecentlySeen
  simp only [tryAcquire, hcontended, decide_eq_true_eq]

/-- The limiter after calls for three keys. -/
def threeKeys : KeyedAdmissionLimiter Int :=
  (newKeyedAdmissionLimiter 4 4 4).after id [("a", 0), ("b", 5), ("c", 9)]

/-- The last key to call shares with one before it while the window lasts. -/
theorem tryAcquire_contended_three :
    threeKeys.tryAcquire id "c" 2000000005 =
        (threeKeys.observeKey "c" 2000000005).admitWithin id 3 3 3 "c" 2000000005 ∧
      threeKeys.tryAcquire id "c" 2000000006 =
        (threeKeys.observeKey "c" 2000000006).admitWithin id 4 4 4 "c" 2000000006 := by
  refine ⟨?_, ?_⟩
  · rw [threeKeys, tryAcquire_contended rfl rfl rfl (by decide) (by decide)]
    exact if_pos ⟨("b", 5), by decide⟩
  · rw [threeKeys, tryAcquire_contended rfl rfl rfl (by decide) (by decide)]
    exact if_neg (by decide)

/-! ## Slots -/

/-- What is admitted was below the bound. -/
theorem admitWithin_accepted
    (h : limiter.admitWithin seconds maxInFlight rate burst key now = (.accepted, limiter')) :
    limiter.inFlight key < maxInFlight := by
  rw [← (limiter.track_spec key now).2]
  simp only [admitWithin] at h
  split at h
  · cases h
  next hbelow => exact Int.not_le.mp hbelow

/-- An admitted key was below the bound of the call, which under contention is the fair share. -/
theorem tryAcquire_accepted (h : limiter.tryAcquire seconds key now = (.accepted, limiter')) :
    limiter.inFlight key <
      if limiter.alwaysFair || limiter.otherKeyRecentlySeen key now then limiter.fairMaxInFlight
      else limiter.maxInFlight := by
  have hlimits : (limiter.observeKey key now).fairMaxInFlight = limiter.fairMaxInFlight ∧
      (limiter.observeKey key now).maxInFlight = limiter.maxInFlight := by
    unfold observeKey
    split <;> exact ⟨rfl, rfl⟩
  rw [← limiter.observeKey_inFlight key now]
  simp only [tryAcquire, hlimits.1, hlimits.2] at h
  split at h
  next hcontended =>
    rw [if_pos hcontended]
    exact admitWithin_accepted h
  next hcontended =>
    rw [if_neg hcontended]
    exact admitWithin_accepted h

theorem admitWithin_size (hnone : limiter.states.lookup key = none)
    (hheld : ∀ k, limiter.inFlight k = held.count k) :
    Table.size (limiter.admitWithin seconds maxInFlight rate burst key now).2.states ≤
      max limiter.maxTrackedKeys (1 + held.toFinset.card) := by
  obtain ⟨hsize, hlookup⟩ := track_size now hnone hheld
  simp only [admitWithin, setState]
  split
  · exact hsize
  split
  all_goals
    rw [Table.size_insert_of_some hlookup]
    exact hsize

theorem tryAcquire_size (seconds : Int → R) (now : Int) (hnone : limiter.states.lookup key = none)
    (hheld : ∀ k, limiter.inFlight k = held.count k) :
    Table.size (limiter.tryAcquire seconds key now).2.states ≤
      max limiter.maxTrackedKeys (1 + held.toFinset.card) := by
  have hobserve : (limiter.observeKey key now).states = limiter.states ∧
      (limiter.observeKey key now).maxTrackedKeys = limiter.maxTrackedKeys := by
    unfold observeKey
    split <;> exact ⟨rfl, rfl⟩
  rw [← hobserve.1] at hnone
  rw [← hobserve.2]
  have hheld' : ∀ k, (limiter.observeKey key now).inFlight k = held.count k :=
    fun k => (limiter.observeKey_inFlight key now k).trans (hheld k)
  simp only [tryAcquire]
  split <;> exact admitWithin_size hnone hheld'

end

theorem release_eq {R : Type} {limiter limiter' : KeyedAdmissionLimiter R} {key : String}
    (h : limiter.release key = .next limiter') :
    ∃ state, limiter.states.lookup key = some state ∧
      limiter' = limiter.setState key { state with inFlight := state.inFlight - 1 } := by
  unfold release at h
  split at h
  · cases h
  next state hstate =>
    split at h <;> cases h
    exact ⟨state, hstate, rfl⟩

end KeyedAdmissionLimiter

theorem fairnessShare_le (n : Int) : fairnessShare n ≤ n := by
  unfold fairnessShare
  split
  · exact Int.le_refl n
  · generalize ((n * 3).bmod (2 ^ 64)).tdiv 4 = share
    simp only
    split <;> omega

/-- A limiter with its callers: the accepted keys that are not released yet. -/
structure Admissions (R : Type) where
  limiter : KeyedAdmissionLimiter R
  held : List String

namespace Admissions

variable {R : Type} [Add R] [Sub R] [Mul R] [OfNat R 1] [LT R] [DecidableLT R] {seconds : Int → R}
  {s s' : Admissions R}

inductive Label where
  | acquire (key : String) (now : Int)
  | release (key : String)
  deriving DecidableEq, Repr

def step (seconds : Int → R) (s : Admissions R) : Label → Option (Admissions R)
  | .acquire key now =>
    let (reason, limiter) := s.limiter.tryAcquire seconds key now
    some ⟨limiter, if reason = .accepted then key :: s.held else s.held⟩
  | .release key =>
    if key ∈ s.held then
      (s.limiter.release key).value?.map fun limiter => ⟨limiter, s.held.erase key⟩
    else none

structure Exact (maxInFlight : Int) (maxTrackedKeys : Nat) (alwaysFair : Bool) (s : Admissions R) :
    Prop where
  inFlight : ∀ key, s.limiter.inFlight key = s.held.count key
  bound : ∀ key, s.limiter.inFlight key ≤ max maxInFlight 0
  limits : s.limiter.maxInFlight = maxInFlight ∧ s.limiter.fairMaxInFlight = fairnessShare maxInFlight ∧
    s.limiter.maxTrackedKeys = maxTrackedKeys ∧ s.limiter.alwaysFair = alwaysFair

theorem Exact.step {maxInFlight : Int} {maxTrackedKeys : Nat} {alwaysFair : Bool} {label : Label}
    (h : s.Exact maxInFlight maxTrackedKeys alwaysFair) (hstep : s.step seconds label = some s') :
    s'.Exact maxInFlight maxTrackedKeys alwaysFair := by
  cases label with
  | acquire key now =>
    rcases hacquire : s.limiter.tryAcquire seconds key now with ⟨reason, limiter⟩
    simp only [Admissions.step, hacquire] at hstep
    cases hstep
    have hinFlight := tryAcquire_inFlight hacquire
    obtain ⟨states, hstates⟩ := tryAcquire_states seconds s.limiter key now
    refine ⟨fun k => ?_, fun k => ?_, ?_⟩
    · rw [hinFlight, h.inFlight]
      by_cases haccepted : reason = .accepted
      · by_cases hkey : k = key
        · simp [haccepted, hkey]
        · simp [haccepted, hkey, Ne.symm hkey]
      · simp [haccepted]
    · have hbound := h.bound k
      rw [hinFlight]
      split
      next haccepted =>
        obtain ⟨rfl, rfl⟩ := haccepted
        have hlt := tryAcquire_accepted hacquire
        have hfair := fairnessShare_le maxInFlight
        rw [h.limits.1, h.limits.2.1] at hlt
        split at hlt <;> omega
      next => omega
    · rw [hacquire] at hstates
      cases hstates
      unfold KeyedAdmissionLimiter.observeKey
      split <;> exact h.limits
  | release key =>
    obtain ⟨hheld, hstep⟩ := Option.ite_none_right_eq_some.mp hstep
    obtain ⟨limiter, hrelease, rfl⟩ := Option.map_eq_some_iff.mp hstep
    have hrelease := Outcome.value?_eq_some.mp hrelease
    have hinFlight := release_inFlight hrelease
    have hcount : 0 < s.held.count key := List.count_pos_iff.mpr hheld
    refine ⟨fun k => ?_, fun k => ?_, ?_⟩
    · have hk := h.inFlight k
      rw [hinFlight, List.count_erase]
      by_cases hkey : k = key
      · subst hkey
        simp
        omega
      · simpa [hkey, Ne.symm hkey] using hk
    · have hbound := h.bound k
      rw [hinFlight]
      split <;> omega
    · obtain ⟨-, -, rfl⟩ := release_eq hrelease
      exact h.limits

/-- A limiter as the two constructors make it, with any window and bound of its map, nothing held. -/
def start [IntCast R] (maxInFlight rate burst contentionWindow : Int) (maxTrackedKeys : Nat)
    (alwaysFair : Bool) : Admissions R where
  limiter := { newKeyedAdmissionLimiter maxInFlight rate burst with
    contentionWindow, maxTrackedKeys, alwaysFair }
  held := []

/-- Admission slots are exact: whatever the callers do, what is in flight for a key is what was accepted
    and not released, within the limit; a contended key is accepted below its fair share only; a call
    keeps the state of every key in flight, so that what is held can be released; and a call that tracks
    a new key leaves no more keys than the bound, or the new one and those in flight. -/
theorem admission_slots_exact [IntCast R] {maxInFlight rate burst contentionWindow : Int}
    {maxTrackedKeys : Nat} {alwaysFair : Bool} {labels : List Label}
    (hrun : StepSystem.run (step seconds)
      (start maxInFlight rate burst contentionWindow maxTrackedKeys alwaysFair) labels = some s) :
    (∀ key, s.limiter.inFlight key = s.held.count key ∧ s.limiter.inFlight key ≤ max maxInFlight 0) ∧
      (∀ key ∈ s.held, ∃ limiter, s.limiter.release key = .next limiter) ∧
      ∀ key now reason limiter, s.limiter.tryAcquire seconds key now = (reason, limiter) →
        (reason = .accepted → (alwaysFair || s.limiter.otherKeyRecentlySeen key now) = true →
          s.limiter.inFlight key < fairnessShare maxInFlight) ∧
        (∀ k ∈ s.held, (limiter.states.lookup k).isSome) ∧
        (s.limiter.states.lookup key = none →
          Table.size limiter.states ≤ max maxTrackedKeys (1 + s.held.toFinset.card)) := by
  have hexact : s.Exact maxInFlight maxTrackedKeys alwaysFair :=
    StepSystem.invariant Exact.step
      ⟨fun key => rfl, fun key => Int.le_max_right _ _, rfl, rfl, rfl, rfl⟩ hrun
  have hpos : ∀ key ∈ s.held, 0 < s.limiter.inFlight key := by
    intro key hkey
    rw [hexact.inFlight]
    exact Int.natCast_pos.mpr (List.count_pos_iff.mpr hkey)
  refine ⟨fun key => ⟨hexact.inFlight key, hexact.bound key⟩,
    fun key hkey => release_of_pos (hpos key hkey), ?_⟩
  intro key now reason limiter hacquire
  refine ⟨?_, ?_, ?_⟩
  · rintro rfl hcontended
    have hbelow := tryAcquire_accepted hacquire
    rwa [hexact.limits.2.2.2, if_pos hcontended, hexact.limits.2.1] at hbelow
  · intro k hk
    have hkept := tryAcquire_inFlight hacquire k
    cases hstate : limiter.states.lookup k with
    | some state => rfl
    | none =>
      have hbefore := hpos k hk
      simp only [inFlight, hstate, Option.elim_none] at hkept hbefore
      split at hkept <;> omega
  · intro hnone
    have hsize := tryAcquire_size seconds now hnone hexact.inFlight
    rwa [hacquire, hexact.limits.2.2.1] at hsize

theorem admission_slots_exact_released :
    ∃ s : Admissions Int, StepSystem.run (step id) (start 4 4 4 2 1 false)
        [.acquire "a" 0, .acquire "b" 1, .release "a"] = some s ∧
      s.limiter.inFlight "b" = s.held.count "b" := by
  exact StepSystem.exists_run rfl fun hrun => ((admission_slots_exact hrun).1 "b").1

end Admissions

end Hooshix.Gateway
