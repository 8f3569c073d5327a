-- SUMMARY: The Gateway's token buckets and keyed admission limiters.
import Hooshix.Lib.Outcome
import Hooshix.Lib.Table

/-! # Admission limiters

`gatewayresources.TokenBucket`, `KeyedTokenBuckets` and `KeyedAdmissionLimiter`. Times are nanoseconds.
Tokens are of any type with the operations of `float64` that the source uses, and `seconds` is
`Duration.Seconds`. The rejection counters are read by the metrics page only and are left out.
-/

namespace Hooshix.Gateway

section

variable {R : Type} [Add R] [Sub R] [Mul R] [OfNat R 1] [LT R] [DecidableLT R] (seconds : Int → R)

/-- The tokens at time `now` and the time they are counted from then on; the clock never goes back. -/
def refill (rate burst tokens : R) (last now : Int) : R × Int :=
  let now := if now < last then last else now
  let tokens := tokens + seconds (now - last) * rate
  (if burst < tokens then burst else tokens, now)

/-! ## Token buckets -/

structure TokenBucket (R : Type) where
  rate : R
  burst : R
  tokens : R
  last : Int

def newTokenBucket [IntCast R] (rate burst now : Int) : TokenBucket R where
  rate := rate
  burst := burst
  tokens := burst
  last := now

/-- `TokenBucket.Allow` -/
def TokenBucket.allow (bucket : TokenBucket R) (now : Int) : Bool × TokenBucket R :=
  let (tokens, last) := refill seconds bucket.rate bucket.burst bucket.tokens bucket.last now
  if tokens < 1 then (false, { bucket with tokens, last })
  else (true, { bucket with tokens := tokens - 1, last })

/-! ## Keyed token buckets -/

structure KeyedBucketState (R : Type) where
  tokens : R
  last : Int

structure KeyedTokenBuckets (R : Type) where
  rate : R
  burst : R
  states : Table String (KeyedBucketState R)
  maxTrackedKeys : Nat
  idleAfter : Int

def newKeyedTokenBuckets [IntCast R] (rate burst : Int) : KeyedTokenBuckets R where
  rate := (if rate < 1 then 1 else rate : Int)
  burst := (if burst < 1 then 1 else burst : Int)
  states := ∅
  maxTrackedKeys := 65536
  idleAfter := 60 * 1000000000

/-- The state of the key, if need be a new one; a map that is too large loses its idle keys then. -/
def KeyedTokenBuckets.track (buckets : KeyedTokenBuckets R) (key : String) (now : Int) :
    KeyedTokenBuckets R × KeyedBucketState R :=
  match buckets.states.lookup key with
  | some state => (buckets, state)
  | none =>
    let state := { tokens := buckets.burst, last := now }
    let states := buckets.states.insert key state
    let cutoff := now - buckets.idleAfter
    let states :=
      if Table.size states > buckets.maxTrackedKeys then
        Table.filter (fun idleKey idleState => !(idleKey ≠ key && idleState.last < cutoff)) states
      else states
    ({ buckets with states }, state)

/-- `KeyedTokenBuckets.Allow` -/
def KeyedTokenBuckets.allow (buckets : KeyedTokenBuckets R) (key : String) (now : Int) :
    Bool × KeyedTokenBuckets R :=
  let (buckets, state) := buckets.track key now
  let (tokens, last) := refill seconds buckets.rate buckets.burst state.tokens state.last now
  if tokens < 1 then (false, { buckets with states := buckets.states.insert key { tokens, last } })
  else (true, { buckets with states := buckets.states.insert key { tokens := tokens - 1, last } })

/-! ## Keyed admission -/

inductive RejectReason where
  | accepted
  | rejectedRate
  | rejectedConcurrency
  deriving DecidableEq, Repr

structure KeyedState (R : Type) where
  inFlight : Int
  tokens : R
  last : Int

structure KeyedAdmissionLimiter (R : Type) where
  maxInFlight : Int
  fairMaxInFlight : Int
  rate : R
  fairRate : R
  burst : R
  fairBurst : R
  contentionWindow : Int
  alwaysFair : Bool
  states : Table String (KeyedState R)
  maxTrackedKeys : Nat
  recentKey : String
  recentAt : Int
  previousKey : String
  previousAt : Int

/-- The share of an allowance that one key has under contention; the product wraps at 64 bits. -/
def fairnessShare (global : Int) : Int :=
  if global ≤ 1 then global
  else
    let share := ((global * 3).bmod (2 ^ 64)).tdiv 4
    let share := if share ≥ global then global - 1 else share
    if share < 1 then 1 else share

def newKeyedAdmissionLimiter [IntCast R] (maxInFlight rate burst : Int) : KeyedAdmissionLimiter R where
  maxInFlight := maxInFlight
  fairMaxInFlight := fairnessShare maxInFlight
  rate := rate
  fairRate := fairnessShare rate
  burst := burst
  fairBurst := fairnessShare burst
  contentionWindow := 2 * 1000000000
  alwaysFair := false
  states := ∅
  maxTrackedKeys := 65536
  recentKey := ""
  recentAt := 0
  previousKey := ""
  previousAt := 0

/-- The limiter of the handshakes, which applies the fair share always. -/
def newHardKeyedAdmissionLimiter [IntCast R] (maxInFlight rate burst : Int) :
    KeyedAdmissionLimiter R :=
  { newKeyedAdmissionLimiter maxInFlight rate burst with alwaysFair := true }

namespace KeyedAdmissionLimiter

def otherKeyRecentlySeen (limiter : KeyedAdmissionLimiter R) (key : String) (now : Int) : Bool :=
  let cutoff := now - limiter.contentionWindow
  (limiter.recentKey ≠ "" && limiter.recentKey ≠ key && !(limiter.recentAt < cutoff)) ||
    (limiter.previousKey ≠ "" && limiter.previousKey ≠ key && !(limiter.previousAt < cutoff))

def observeKey (limiter : KeyedAdmissionLimiter R) (key : String) (now : Int) :
    KeyedAdmissionLimiter R :=
  if limiter.recentKey = key then { limiter with recentAt := now }
  else
    { limiter with
      previousKey := limiter.recentKey
      previousAt := limiter.recentAt
      recentKey := key
      recentAt := now }

/-- The state of the key, if need be a new one; a map that is too large loses the keys then that have
    nothing in flight. -/
def track (limiter : KeyedAdmissionLimiter R) (key : String) (now : Int) :
    KeyedAdmissionLimiter R × KeyedState R :=
  match limiter.states.lookup key with
  | some state => (limiter, state)
  | none =>
    let state := { inFlight := 0, tokens := limiter.burst, last := now }
    let states := limiter.states.insert key state
    let states :=
      if Table.size states > limiter.maxTrackedKeys then
        Table.filter (fun idleKey idleState => !(idleState.inFlight = 0 && idleKey ≠ key)) states
      else states
    ({ limiter with states }, state)

def setState (limiter : KeyedAdmissionLimiter R) (key : String) (state : KeyedState R) :
    KeyedAdmissionLimiter R :=
  { limiter with states := limiter.states.insert key state }

/-- Admits the key within the given allowance. -/
def admitWithin (limiter : KeyedAdmissionLimiter R) (maxInFlight : Int) (rate burst : R) (key : String)
    (now : Int) : RejectReason × KeyedAdmissionLimiter R :=
  let (limiter, state) := limiter.track key now
  if state.inFlight ≥ maxInFlight then (.rejectedConcurrency, limiter)
  else
    let (tokens, last) := refill seconds rate burst state.tokens state.last now
    if tokens < 1 then (.rejectedRate, limiter.setState key { state with tokens, last })
    else
      (.accepted,
        limiter.setState key { inFlight := state.inFlight + 1, tokens := tokens - 1, last })

/-- `KeyedAdmissionLimiter.TryAcquire` -/
def tryAcquire (limiter : KeyedAdmissionLimiter R) (key : String) (now : Int) :
    RejectReason × KeyedAdmissionLimiter R :=
  let contended := limiter.alwaysFair || limiter.otherKeyRecentlySeen key now
  let limiter := limiter.observeKey key now
  if contended then
    limiter.admitWithin seconds limiter.fairMaxInFlight limiter.fairRate limiter.fairBurst key now
  else limiter.admitWithin seconds limiter.maxInFlight limiter.rate limiter.burst key now

/-- `KeyedAdmissionLimiter.Release`; to return what is not held stops the program. -/
def release (limiter : KeyedAdmissionLimiter R) (key : String) : Outcome (KeyedAdmissionLimiter R) :=
  match limiter.states.lookup key with
  | none => .panic "gateway keyed admission underflow"
  | some state =>
    if state.inFlight ≤ 0 then .panic "gateway keyed admission underflow"
    else .next (limiter.setState key { state with inFlight := state.inFlight - 1 })

/-! ## What is in flight -/

/-- `KeyedAdmissionLimiter.InFlight` -/
def inFlight (limiter : KeyedAdmissionLimiter R) (key : String) : Int :=
  (limiter.states.lookup key).elim 0 (·.inFlight)

end KeyedAdmissionLimiter

end

namespace KeyedAdmissionLimiter

variable {R : Type} {limiter limiter' : KeyedAdmissionLimiter R} {key : String}

theorem inFlight_setState {state : KeyedState R} (k : String) :
    (limiter.setState key state).inFlight k = if k = key then state.inFlight else limiter.inFlight k := by
  rw [inFlight, setState, Table.lookup_insert_of]
  split <;> rfl

/-- A sweep forgets nothing that is in flight. -/
theorem inFlight_filter {states : Table String (KeyedState R)} {keep : String → KeyedState R → Bool}
    (hkeep : ∀ k state, keep k state = false → state.inFlight = 0) (k : String) :
    ((Table.filter keep states).lookup k).elim 0 (·.inFlight) = (states.lookup k).elim 0 (·.inFlight) := by
  rw [Table.lookup_filter]
  cases hstate : states.lookup k with
  | none => rfl
  | some state =>
    rw [Option.filter_some]
    split
    · rfl
    next hswept => exact (hkeep k state (Bool.eq_false_iff.mpr hswept)).symm

theorem track_spec (limiter : KeyedAdmissionLimiter R) (key : String) (now : Int) :
    (∀ k, (limiter.track key now).1.inFlight k = limiter.inFlight k) ∧
      (limiter.track key now).2.inFlight = limiter.inFlight key := by
  unfold track
  split
  next state hstate => exact ⟨fun k => rfl, by simp [inFlight, hstate]⟩
  next hnone =>
    refine ⟨?_, by simp [inFlight, hnone]⟩
    have hinsert : ∀ k, ((limiter.states.insert key
        { inFlight := 0, tokens := limiter.burst, last := now }).lookup k).elim 0 (·.inFlight) =
          limiter.inFlight k := by
      intro k
      rw [Table.lookup_insert_of]
      split
      next heq =>
        subst heq
        simp [inFlight, hnone]
      next => rfl
    intro k
    simp only [inFlight]
    split
    · rw [inFlight_filter]
      · exact hinsert k
      · intro k state hswept
        simp only [Bool.not_eq_false', Bool.and_eq_true, decide_eq_true_eq] at hswept
        exact hswept.1
    · exact hinsert k

theorem observeKey_inFlight (limiter : KeyedAdmissionLimiter R) (key : String) (now : Int) (k : String) :
    (limiter.observeKey key now).inFlight k = limiter.inFlight k := by
  unfold observeKey
  split <;> rfl

section

variable [Add R] [Sub R] [Mul R] [OfNat R 1] [LT R] [DecidableLT R] {seconds : Int → R}
  {reason : RejectReason} {now : Int}

theorem admitWithin_inFlight {maxInFlight : Int} {rate burst : R}
    (h : limiter.admitWithin seconds maxInFlight rate burst key now = (reason, limiter')) (k : String) :
    limiter'.inFlight k = limiter.inFlight k + if k = key ∧ reason = .accepted then 1 else 0 := by
  obtain ⟨htrack, hstate⟩ := limiter.track_spec key now
  simp only [admitWithin] at h
  split at h
  · cases h
    simp [htrack]
  split at h <;> cases h
  all_goals
    rw [inFlight_setState]
    split
    next heq => simp [hstate, heq]
    next hne => simp [htrack, hne]

/-- An accepted key has one more in flight, a rejected one as many as before. -/
theorem tryAcquire_inFlight
    (h : limiter.tryAcquire seconds key now = (reason, limiter')) (k : String) :
    limiter'.inFlight k = limiter.inFlight k + if k = key ∧ reason = .accepted then 1 else 0 := by
  rw [← limiter.observeKey_inFlight key now k]
  simp only [tryAcquire] at h
  split at h <;> exact admitWithin_inFlight h k

end

/-- What is in flight can be returned. -/
theorem release_of_pos (h : 0 < limiter.inFlight key) :
    ∃ limiter', limiter.release key = .next limiter' := by
  cases hstate : limiter.states.lookup key with
  | none => simp [inFlight, hstate] at h
  | some state =>
    have hpos : ¬ state.inFlight ≤ 0 := by
      simpa [inFlight, hstate] using h
    refine ⟨limiter.setState key { state with inFlight := state.inFlight - 1 }, ?_⟩
    simp only [release, hstate, if_neg hpos]

theorem release_inFlight (h : limiter.release key = .next limiter') (k : String) :
    limiter'.inFlight k = limiter.inFlight k - if k = key then 1 else 0 := by
  unfold release at h
  split at h
  · cases h
  next state hstate =>
    split at h <;> cases h
    rw [inFlight_setState]
    split
    next heq =>
      subst heq
      simp [inFlight, hstate]
    next => simp

end KeyedAdmissionLimiter

end Hooshix.Gateway
