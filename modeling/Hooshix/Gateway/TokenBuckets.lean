-- SUMMARY: Token buckets over exact arithmetic: keyed buckets against a family that is never swept.
import Hooshix.Gateway.Admission
import Mathlib.Algebra.Order.Field.Rat
import Mathlib.Data.List.Induction
import Mathlib.Tactic.Linarith
import Mathlib.Tactic.NormNum

/-! # Token buckets

The buckets of `gatewayresources` over the rational numbers. A keyed bucket that is swept comes back
full; where the idle period is long enough to fill it this shows in no answer. A sweep removes idle keys
only, so that the bound of the map holds just as long as there are few enough others.
-/

namespace Hooshix.Gateway

open Table

section

variable {R : Type} [Add R] [Sub R] [Mul R] [OfNat R 1] [LT R] [DecidableLT R]

/-- The buckets after a list of calls. -/
def KeyedTokenBuckets.after (seconds : Int → R) (buckets : KeyedTokenBuckets R)
    (calls : List (String × Int)) : KeyedTokenBuckets R :=
  calls.foldl (fun buckets call => (buckets.allow seconds call.1 call.2).2) buckets

/-- A call answers as the bucket with the tracked state does. -/
theorem KeyedTokenBuckets.allow_eq (seconds : Int → R) (buckets : KeyedTokenBuckets R) (key : String)
    (now : Int) :
    buckets.allow seconds key now =
      let (tracked, state) := buckets.track key now
      let (allowed, bucket) :=
        TokenBucket.allow seconds ⟨buckets.rate, buckets.burst, state.tokens, state.last⟩ now
      (allowed, { buckets with states := tracked.states.insert key ⟨bucket.tokens, bucket.last⟩ }) := by
  have htrack : ∃ states, (buckets.track key now).1 = { buckets with states } := by
    unfold track
    split <;> exact ⟨_, rfl⟩
  obtain ⟨states, htrack⟩ := htrack
  simp only [allow, htrack, TokenBucket.allow]
  split <;> rfl

end

/-- `Duration.Seconds` of a number of nanoseconds, exact. -/
def seconds (duration : Int) : ℚ := duration / 1000000000

theorem seconds_le {d e : Int} (h : d ≤ e) : seconds d ≤ seconds e := by
  have hcast : (d : ℚ) ≤ e := Int.cast_le.mpr h
  simp only [seconds]
  linarith

theorem seconds_nonneg {d : Int} (h : 0 ≤ d) : 0 ≤ seconds d := by
  simpa [seconds] using seconds_le h

theorem refill_eq (rate burst tokens : ℚ) (last now : Int) :
    refill seconds rate burst tokens last now =
      (min burst (tokens + seconds (max last now - last) * rate), max last now) := by
  have hnow : (if now < last then last else now) = max last now := by
    rw [Int.max_def]
    split <;> split <;> omega
  simp only [refill, hnow, Prod.mk.injEq, and_true]
  split
  next h => exact (min_eq_left h.le).symm
  next h => exact (min_eq_right (not_lt.mp h)).symm

namespace TokenBucket

variable {bucket : TokenBucket ℚ} {now : Int}

/-- A call moves the clock forward and leaves no debt. -/
theorem allow_spec (bucket : TokenBucket ℚ) (now : Int) (hrate : 0 ≤ bucket.rate)
    (hburst : 0 ≤ bucket.burst) (h : 0 ≤ bucket.tokens) :
    ∃ tokens, 0 ≤ tokens ∧
      (bucket.allow seconds now).2 = { bucket with tokens, last := max bucket.last now } := by
  have hgain := mul_nonneg (seconds_nonneg (Int.sub_nonneg_of_le (Int.le_max_left bucket.last now))) hrate
  simp only [allow, refill_eq]
  split
  · exact ⟨_, le_min hburst (add_nonneg h hgain), rfl⟩
  next hone => exact ⟨_, sub_nonneg.mpr (not_lt.mp hone), rfl⟩

/-- A bucket that time has filled answers as a full one. -/
theorem allow_of_filled (bucket : TokenBucket ℚ) (hlast : bucket.last ≤ now)
    (h : bucket.burst ≤ bucket.tokens + seconds (now - bucket.last) * bucket.rate) :
    bucket.allow seconds now =
      TokenBucket.allow seconds { bucket with tokens := bucket.burst, last := now } now := by
  have hzero : seconds (now - now) = 0 := by simp [seconds]
  simp only [allow, refill_eq, Int.max_eq_right hlast, Int.max_self, min_eq_left h, hzero, zero_mul,
    add_zero, min_self]

end TokenBucket

/-! ## Buckets that are never swept -/

/-- One bucket for each key that was used, full at the first use. -/
abbrev Family := String → Option (TokenBucket ℚ)

def Family.allow (rate burst : ℚ) (family : Family) (key : String) (now : Int) : Bool × Family :=
  let bucket := (family key).getD { rate, burst, tokens := burst, last := now }
  let (allowed, bucket) := bucket.allow seconds now
  (allowed, Function.update family key (some bucket))

/-- The answers to a list of calls, each a key and a time. -/
def answers {σ : Type} (allow : σ → String → Int → Bool × σ) : σ → List (String × Int) → List Bool
  | _, [] => []
  | s, (key, now) :: calls => (allow s key now).1 :: answers allow (allow s key now).2 calls

namespace KeyedTokenBuckets

variable {rate burst : ℚ} {idleAfter time now : Int} {buckets : KeyedTokenBuckets ℚ} {family : Family}
  {key : String} {state : KeyedBucketState ℚ}

/-- A bucket of the family that is tracked, or that has been idle for so long that it is full. -/
inductive Stands (rate burst : ℚ) (idleAfter time : Int) :
    Option (KeyedBucketState ℚ) → Option (TokenBucket ℚ) → Prop
  | unused : Stands rate burst idleAfter time none none
  | tracked (state : KeyedBucketState ℚ) (h : 0 ≤ state.tokens) (hlast : state.last ≤ time) :
    Stands rate burst idleAfter time (some state) (some ⟨rate, burst, state.tokens, state.last⟩)
  | swept (tokens : ℚ) (last : Int) (h : 0 ≤ tokens) (hlast : last ≤ time)
      (hidle : last + idleAfter < time) :
    Stands rate burst idleAfter time none (some ⟨rate, burst, tokens, last⟩)

theorem Stands.later {state : Option (KeyedBucketState ℚ)} {bucket : Option (TokenBucket ℚ)}
    (h : Stands rate burst idleAfter time state bucket) (hnow : time ≤ now) :
    Stands rate burst idleAfter now state bucket := by
  cases h with
  | unused => exact .unused
  | tracked state h hlast => exact .tracked state h (Int.le_trans hlast hnow)
  | swept tokens last h hlast hidle =>
    exact .swept tokens last h (Int.le_trans hlast hnow) (Int.lt_of_lt_of_le hidle hnow)

theorem Stands.sweep {bucket : Option (TokenBucket ℚ)}
    (h : Stands rate burst idleAfter now (some state) bucket) (hidle : state.last + idleAfter < now) :
    Stands rate burst idleAfter now none bucket := by
  cases h with
  | tracked _ h hlast => exact .swept _ _ h hlast hidle

/-- The keyed buckets answer for the family at `time`. -/
structure Simulates (rate burst : ℚ) (idleAfter time : Int) (buckets : KeyedTokenBuckets ℚ)
    (family : Family) : Prop where
  limits : buckets.rate = rate ∧ buckets.burst = burst ∧ buckets.idleAfter = idleAfter
  stands : ∀ key, Stands rate burst idleAfter time (buckets.states.lookup key) (family key)

variable (h : Simulates rate burst idleAfter time buckets family)

include h

/-- The state of a key that is not called, after the sweep of a call. -/
theorem Simulates.track (hnow : time ≤ now) {k : String} (hk : k ≠ key) :
    Stands rate burst idleAfter now ((buckets.track key now).1.states.lookup k) (family k) := by
  have hlater := (h.stands k).later hnow
  simp only [KeyedTokenBuckets.track]
  split
  · exact hlater
  dsimp only
  split
  · rw [lookup_filter, lookup_insert_of, if_neg hk]
    cases hstate : buckets.states.lookup k with
    | none => rwa [hstate] at hlater
    | some state =>
      rw [hstate] at hlater
      rw [Option.filter_some]
      split
      · exact hlater
      next hswept => exact hlater.sweep (by simpa [hk, h.limits.2.2] using hswept)
  · rwa [lookup_insert_of, if_neg hk]

/-- The tracked state of the key answers as its bucket of the family. -/
theorem Simulates.bucket (hnow : time ≤ now) (hrate : 0 ≤ rate) (hburst : 0 ≤ burst)
    (hfill : burst ≤ rate * seconds idleAfter) (hstate : (buckets.track key now).2 = state) :
    0 ≤ state.tokens ∧ state.last ≤ now ∧
      TokenBucket.allow seconds ⟨rate, burst, state.tokens, state.last⟩ now =
        ((family key).getD ⟨rate, burst, burst, now⟩).allow seconds now := by
  have hkey := h.stands key
  generalize family key = known at hkey ⊢
  simp only [KeyedTokenBuckets.track, h.limits.2.1] at hstate
  split at hstate
  next found hfound =>
    cases hstate
    rw [hfound] at hkey
    cases hkey with
    | tracked _ htokens hlast => exact ⟨htokens, Int.le_trans hlast hnow, rfl⟩
  next hfound =>
    cases hstate
    rw [hfound] at hkey
    refine ⟨hburst, Int.le_refl now, ?_⟩
    cases hkey with
    | unused => rfl
    | swept tokens last htokens hlast hidle =>
      have hsince : idleAfter ≤ now - last := by omega
      have hfilled : burst ≤ tokens + seconds (now - last) * rate := by
        have hgain := mul_le_mul_of_nonneg_right (seconds_le hsince) hrate
        linarith
      have hfull := TokenBucket.allow_of_filled ⟨rate, burst, tokens, last⟩ (Int.le_trans hlast hnow) hfilled
      exact hfull.symm

theorem Simulates.allow (hnow : time ≤ now) (hrate : 0 ≤ rate) (hburst : 0 ≤ burst)
    (hfill : burst ≤ rate * seconds idleAfter) (key : String) :
    (buckets.allow seconds key now).1 = (family.allow rate burst key now).1 ∧
      Simulates rate burst idleAfter now (buckets.allow seconds key now).2
        (family.allow rate burst key now).2 := by
  rcases htrack : buckets.track key now with ⟨tracked, state⟩
  obtain ⟨htokens, hlast, hsame⟩ :=
    h.bucket hnow hrate hburst hfill (congrArg Prod.snd htrack)
  obtain ⟨tokens, hnonneg, hnext⟩ :=
    TokenBucket.allow_spec ⟨rate, burst, state.tokens, state.last⟩ now hrate hburst htokens
  simp only [allow_eq, Family.allow, ← hsame, htrack, h.limits.1, h.limits.2.1, hnext, true_and]
  refine ⟨⟨rfl, rfl, h.limits.2.2⟩, fun k => ?_⟩
  simp only [lookup_insert_of, Function.update_apply]
  split
  · exact .tracked ⟨tokens, max state.last now⟩ hnonneg (Int.max_le.mpr ⟨hlast, Int.le_refl now⟩)
  next hk => simpa only [htrack] using h.track hnow hk

theorem Simulates.answers_eq (hrate : 0 ≤ rate) (hburst : 0 ≤ burst)
    (hfill : burst ≤ rate * seconds idleAfter) {calls : List (String × Int)}
    (htime : ∀ call ∈ calls, time ≤ call.2) (htimes : calls.Pairwise (·.2 ≤ ·.2)) :
    answers (KeyedTokenBuckets.allow seconds) buckets calls =
      answers (Family.allow rate burst) family calls := by
  induction calls generalizing buckets family time with
  | nil => rfl
  | cons call calls ih =>
    obtain ⟨hsame, hnext⟩ :=
      h.allow (htime call List.mem_cons_self) hrate hburst hfill call.1
    obtain ⟨hlater, htimes⟩ := List.pairwise_cons.mp htimes
    exact congrArg₂ List.cons hsame (ih hnext hlater htimes)

omit h

/-- Sweeping is invisible: where an idle bucket fills before it can be swept, calls in the order of time
    are answered as by one bucket for each key that is never swept. -/
theorem sweep_invisible (buckets : KeyedTokenBuckets ℚ) (hnew : buckets.states = ∅)
    (hrate : 0 ≤ buckets.rate) (hburst : 0 ≤ buckets.burst)
    (hfill : buckets.burst ≤ buckets.rate * seconds buckets.idleAfter) {calls : List (String × Int)}
    (htimes : calls.Pairwise (·.2 ≤ ·.2)) :
    answers (allow seconds) buckets calls =
      answers (Family.allow buckets.rate buckets.burst) (fun _ => none) calls := by
  cases calls with
  | nil => rfl
  | cons call calls =>
    have hstart : Simulates buckets.rate buckets.burst buckets.idleAfter call.2 buckets fun _ => none :=
      ⟨⟨rfl, rfl, rfl⟩, fun key => hnew ▸ .unused⟩
    exact hstart.answers_eq hrate hburst hfill
      (List.forall_mem_cons.mpr ⟨Int.le_refl _, (List.pairwise_cons.mp htimes).1⟩) htimes

/-- Buckets with the Gateway's rate and idle period that track two keys. -/
def twoKeys : KeyedTokenBuckets ℚ := { newKeyedTokenBuckets 10 20 with maxTrackedKeys := 2 }

/-- The third key comes after the idle period, and the first one again after it was swept. -/
def sweptCalls : List (String × Int) :=
  [("a", 0), ("b", 5), ("c", 60000000006), ("a", 60000000007)]

theorem sweep_invisible_swept :
    (answers (allow seconds) twoKeys sweptCalls =
        answers (Family.allow 10 20) (fun _ => none) sweptCalls) ∧
      (twoKeys.after seconds (sweptCalls.take 3)).states.keys = ["c"] :=
  ⟨sweep_invisible twoKeys rfl (by norm_num [twoKeys, newKeyedTokenBuckets])
    (by norm_num [twoKeys, newKeyedTokenBuckets])
    (by norm_num [twoKeys, newKeyedTokenBuckets, seconds]) (by decide), by decide +kernel⟩

end KeyedTokenBuckets

/-! ## Tracked keys -/

namespace KeyedTokenBuckets

variable {R : Type} {buckets : KeyedTokenBuckets R} {key : String} {now : Int}

/-- How many tracked keys are not idle at `now`. -/
def fresh (buckets : KeyedTokenBuckets R) (now : Int) : Nat :=
  size (filter (fun _ state => !(state.last < now - buckets.idleAfter)) buckets.states)

theorem fresh_le (now : Int) : buckets.fresh now ≤ size buckets.states :=
  List.length_filter_le _ _

/-- Once the map is full, a new key is left with the fresh ones. -/
theorem track_size (hnone : buckets.states.lookup key = none) :
    size (buckets.track key now).1.states =
      if size buckets.states + 1 > buckets.maxTrackedKeys then buckets.fresh now + 1
      else size buckets.states + 1 := by
  have hkey : key ∉ buckets.states.entries.keys := AList.lookup_eq_none.mp hnone
  simp only [track, hnone, size_insert_of_none hnone]
  split
  · simp only [size, filter, fresh, AList.entries_insert, List.kerase_of_notMem_keys hkey]
    rw [List.filter_cons_of_pos (by simp), List.length_cons]
    congr 2
    refine List.filter_congr fun entry hentry => ?_
    have hne : entry.1 ≠ key := fun heq => hkey (heq ▸ List.mem_keys_of_mem hentry)
    simp [hne]
  · exact size_insert_of_none hnone

theorem track_lookup (buckets : KeyedTokenBuckets R) (key : String) (now : Int) :
    (buckets.track key now).1.states.lookup key = some (buckets.track key now).2 := by
  unfold track
  split
  next state hstate => exact hstate
  · dsimp only
    split
    · simp [lookup_filter]
    · exact AList.lookup_insert _

section

variable [Add R] [Sub R] [Mul R] [OfNat R 1] [LT R] [DecidableLT R] {seconds : Int → R}

/-- A call keeps to the bound just when its key is tracked or there is room beside the fresh keys. -/
theorem allow_size_le (hsize : size buckets.states ≤ buckets.maxTrackedKeys) :
    size (buckets.allow seconds key now).2.states ≤ buckets.maxTrackedKeys ↔
      (buckets.states.lookup key = none → buckets.fresh now + 1 ≤ buckets.maxTrackedKeys) := by
  simp only [allow_eq, size_insert_of_some (track_lookup buckets key now)]
  cases hlookup : buckets.states.lookup key with
  | some state => simpa [track, hlookup] using hsize
  | none =>
    have hfresh := buckets.fresh_le now
    rw [track_size hlookup]
    simp only [forall_const]
    split <;> omega

theorem after_concat (calls : List (String × Int)) (call : String × Int) :
    buckets.after seconds (calls ++ [call]) =
      ((buckets.after seconds calls).allow seconds call.1 call.2).2 :=
  List.foldl_concat ..

theorem after_limits (seconds : Int → R) (buckets : KeyedTokenBuckets R) (calls : List (String × Int)) :
    (buckets.after seconds calls).maxTrackedKeys = buckets.maxTrackedKeys ∧
      (buckets.after seconds calls).idleAfter = buckets.idleAfter := by
  induction calls using List.reverseRecOn with
  | nil => exact ⟨rfl, rfl⟩
  | append_singleton calls call ih =>
    rw [after_concat, allow_eq]
    exact ih

/-- The map is within its bound after every call if and only if each call with a new key finds room
    beside the keys that are not idle. -/
theorem tracked_within_iff (hnew : buckets.states = ∅) (calls : List (String × Int)) :
    (∀ first rest, calls = first ++ rest →
        size (buckets.after seconds first).states ≤ buckets.maxTrackedKeys) ↔
      ∀ first key now rest, calls = first ++ (key, now) :: rest →
        (buckets.after seconds first).states.lookup key = none →
          (buckets.after seconds first).fresh now + 1 ≤ buckets.maxTrackedKeys := by
  have hcall : ∀ first key now,
      size (buckets.after seconds first).states ≤ buckets.maxTrackedKeys →
        (size (buckets.after seconds (first ++ [(key, now)])).states ≤ buckets.maxTrackedKeys ↔
          ((buckets.after seconds first).states.lookup key = none →
            (buckets.after seconds first).fresh now + 1 ≤ buckets.maxTrackedKeys)) := by
    intro first key now hfirst
    rw [after_concat, ← (after_limits seconds buckets first).1] at *
    exact allow_size_le hfirst
  constructor
  · intro hsize first key now rest hcalls
    exact (hcall first key now (hsize first _ hcalls)).mp
      (hsize _ rest (hcalls.trans (List.append_cons first (key, now) rest)))
  · intro hroom first
    induction first using List.reverseRecOn with
    | nil =>
      intro rest _
      simp [after, hnew]
    | append_singleton first call ih =>
      intro rest hcalls
      rw [List.append_assoc] at hcalls
      exact (hcall first call.1 call.2 (ih _ hcalls)).mpr (hroom first call.1 call.2 rest hcalls)

/-- The map is full when the third key comes, and both keys in it are idle. -/
theorem tracked_within_iff_idle :
    size (twoKeys.after Gateway.seconds (sweptCalls.take 2)).states = 2 ∧
      size (twoKeys.after Gateway.seconds sweptCalls).states ≤ 2 := by
  refine ⟨by decide +kernel, (tracked_within_iff rfl sweptCalls).mpr ?_ sweptCalls [] rfl⟩
  intro first key now rest hcalls _
  rcases first with _ | ⟨a, _ | ⟨b, _ | ⟨c, _ | ⟨d, first⟩⟩⟩⟩
  case cons.cons.cons.cons => simp [sweptCalls] at hcalls
  all_goals
    cases hcalls
    decide +kernel

/-- After a call, a tracked key was tracked before or is the one called. -/
theorem allow_tracked {k : String} {state : KeyedBucketState R}
    (h : (buckets.allow seconds key now).2.states.lookup k = some state) :
    k = key ∧ now ≤ state.last ∨ buckets.states.lookup k = some state := by
  simp only [allow_eq, lookup_insert_of] at h
  split at h
  next hkey =>
    cases h
    refine .inl ⟨hkey, ?_⟩
    simp only [TokenBucket.allow, refill]
    repeat' split
    all_goals dsimp only; omega
  next hkey =>
    refine .inr ?_
    unfold track at h
    split at h
    · exact h
    · dsimp only at h
      split at h
      · rw [lookup_filter, Option.filter_eq_some_iff, lookup_insert_of, if_neg hkey] at h
        exact h.1
      · rwa [lookup_insert_of, if_neg hkey] at h

/-- New keys at one time are all tracked, however many. -/
theorem after_new_keys (seconds : Int → R) (buckets : KeyedTokenBuckets R) (now : Int)
    (hnew : buckets.states = ∅) (hidle : 0 ≤ buckets.idleAfter) {keys : List String} (hkeys : keys.Nodup) :
    size (buckets.after seconds (keys.map fun key => (key, now))).states = keys.length ∧
      ∀ k state, (buckets.after seconds (keys.map fun key => (key, now))).states.lookup k = some state →
        k ∈ keys ∧ now ≤ state.last := by
  induction keys using List.reverseRecOn with
  | nil => simp [after, hnew]
  | append_singleton keys key ih =>
    obtain ⟨hnodup, -, hother⟩ := List.nodup_append.mp hkeys
    obtain ⟨hsize, htracked⟩ := ih hnodup
    rw [← (after_limits seconds buckets (keys.map fun key => (key, now))).2] at hidle
    rw [List.map_append, List.map_singleton, after_concat]
    generalize buckets.after seconds (keys.map fun key => (key, now)) = tracked at hsize htracked hidle ⊢
    have hnone : tracked.states.lookup key = none := by
      refine Option.eq_none_iff_forall_ne_some.mpr fun state hstate => ?_
      exact hother key (htracked key state hstate).1 key List.mem_cons_self rfl
    have hfresh : tracked.fresh now = size tracked.states := by
      refine congrArg List.length (List.filter_eq_self.mpr fun entry hentry => ?_)
      have hlast := (htracked entry.1 entry.2 (AList.mem_lookup_iff.mpr hentry)).2
      simpa using by omega
    constructor
    · simp only [allow_eq, size_insert_of_some (track_lookup tracked key now), track_size hnone,
        hfresh, ite_self, hsize, List.length_append, List.length_singleton]
    · intro k state hstate
      rcases allow_tracked hstate with ⟨rfl, hlast⟩ | hstate
      · exact ⟨by simp, hlast⟩
      · exact ⟨List.mem_append_left _ (htracked k state hstate).1, (htracked k state hstate).2⟩

end

/-- The keys that fit no bound: at one time, one call for each. -/
theorem tracked_unbounded : ¬ ∃ bound, ∀ calls : List (String × Int),
    size ((newKeyedTokenBuckets 10 20).after Gateway.seconds calls).states ≤ bound := by
  rintro ⟨bound, hbound⟩
  have hkeys : ((List.range (bound + 1)).map fun n => String.ofList (List.replicate n 'a')).Nodup := by
    refine List.nodup_range.map fun n m h => ?_
    simpa using congrArg String.length h
  have hsize :=
    (after_new_keys Gateway.seconds (newKeyedTokenBuckets 10 20) 0 rfl (by decide) hkeys).1
  have hle := hbound (((List.range (bound + 1)).map fun n =>
    String.ofList (List.replicate n 'a')).map fun key => (key, 0))
  rw [hsize, List.length_map, List.length_range] at hle
  omega

end KeyedTokenBuckets

end Hooshix.Gateway
