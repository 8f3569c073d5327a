-- SUMMARY: Dialling the Gateway candidates in failover order under one handshake timeout.
import Hooshix.Errors
import Mathlib.Algebra.GroupWithZero.Nat

/-! # Failover

`dialWithFailover` as `runOnce` calls it. Times are nanoseconds since the attempt began. A dial that its
context ends takes until the deadline; each candidate has a timeout of its own, but all of them share the
deadline that `runOnce` sets.
-/

namespace Hooshix.Agent

/-- An error of `websocket.Dial`, with what `permanentDialError` reads of it and of the response. -/
structure DialFailure where
  err : GoError
  redirect : Bool
  status : Option Int
  certificate : Bool
  deriving DecidableEq

def permanentDialError (failure : DialFailure) : Bool :=
  if failure.redirect then true
  else
    match failure.status with
    | some status =>
      if 400 ≤ status ∧ status < 500 then status ≠ 408 ∧ status ≠ 425 ∧ status ≠ 429
      else failure.certificate
    | none => failure.certificate

/-- What a candidate does with a dial, and after what time. -/
inductive Candidate where
  | answers (after : Nat)
  | fails (after : Nat) (failure : DialFailure)
  | hangs
  deriving DecidableEq

/-- The error of a dial whose context ended. -/
def dialTimeout : DialFailure := ⟨.sentinel .deadlineExceeded, false, none, false⟩

/-- `websocket.Dial` at `now` with a context that ends at `deadline`; the time when it returns. -/
def dial (deadline now : Nat) : Candidate → Except DialFailure Unit × Nat
  | .answers after =>
    if now + after < deadline then (.ok (), now + after) else (.error dialTimeout, max now deadline)
  | .fails after failure =>
    if now + after < deadline then (.error failure, now + after)
    else (.error dialTimeout, max now deadline)
  | .hangs => (.error dialTimeout, max now deadline)

section

variable (handshakeTimeout deadline : Nat) (urls : List String) (candidates : Nat → Candidate)

/-- The loop over the candidates: the one that answered, or the last error and whether it is permanent. -/
def dialCandidates : List Nat → Nat → GoError → Except (GoError × Bool) Nat
  | [], _, lastErr => .error (lastErr, false)
  | index :: rest, now, _ =>
    match dial (min deadline (now + handshakeTimeout)) now (candidates index) with
    | (.ok (), _) => .ok index
    | (.error failure, now) =>
      let candidate := urls.getD index ""
      let lastErr := .wrap s!"dial Gateway WSS {candidate}: %w" failure.err
      if permanentDialError failure then .error (lastErr, true)
      else dialCandidates rest now lastErr

/-- The candidates in the order they are tried. -/
def failoverOrder (failoverIndex : Nat) : List Nat :=
  (List.range urls.length).map fun offset => (failoverIndex % urls.length + offset) % urls.length

/-- The URL that answered, and `failoverIndex` afterwards. -/
def dialWithFailover (failoverIndex now : Nat) : Except GoError String × Nat :=
  if urls.isEmpty then (.error (errorsNew "no gateway URL configured"), failoverIndex)
  else
    match dialCandidates handshakeTimeout deadline urls candidates (failoverOrder urls failoverIndex) now
      (errorsNew "") with
    | .ok index => (.ok (urls.getD index ""), index)
    | .error (err, true) => (.error err, failoverIndex)
    | .error (err, false) => (.error err, (failoverIndex % urls.length + 1) % urls.length)

/-- The dialer of `runOnce`. -/
def runOnceDial (failoverIndex : Nat) : Except GoError String × Nat :=
  dialWithFailover handshakeTimeout handshakeTimeout urls candidates failoverIndex 0

end

/-- The time a candidate uses up that neither answers in time nor fails permanently. -/
def Candidate.used (handshakeTimeout : Nat) : Candidate → Nat
  | .answers after => min after handshakeTimeout
  | .fails after _ => min after handshakeTimeout
  | .hangs => handshakeTimeout

/-- Whether a candidate answers a dial that has the whole timeout. -/
def Candidate.reachable (handshakeTimeout : Nat) : Candidate → Bool
  | .answers after => after < handshakeTimeout
  | _ => false

def Candidate.permanent : Candidate → Bool
  | .fails _ failure => permanentDialError failure
  | _ => false

variable {handshakeTimeout now : Nat} {urls : List String} {candidates : Nat → Candidate}

/-- A candidate that is passed over takes its time, up to the deadline. -/
theorem dial_passed {candidate : Candidate} (hnow : now ≤ handshakeTimeout)
    (hreach : candidate.reachable handshakeTimeout = false) (hpermanent : candidate.permanent = false) :
    ∃ failure, permanentDialError failure = false ∧
      dial (min handshakeTimeout (now + handshakeTimeout)) now candidate =
        (.error failure, min handshakeTimeout (now + candidate.used handshakeTimeout)) := by
  rw [Nat.min_eq_left (by omega)]
  -- a dial that its context ends
  have htimeout : ∀ used, handshakeTimeout ≤ now + used →
      max now handshakeTimeout = min handshakeTimeout (now + used) := by omega
  cases candidate with
  | answers after =>
    have hlong : handshakeTimeout ≤ after := by simpa [Candidate.reachable] using hreach
    refine ⟨dialTimeout, rfl, ?_⟩
    rw [dial, if_neg (by omega), Candidate.used, ← htimeout _ (by omega)]
  | fails after failure =>
    rw [dial, Candidate.used]
    by_cases hin : now + after < handshakeTimeout
    · refine ⟨failure, hpermanent, ?_⟩
      rw [if_pos hin, Nat.min_eq_left (by omega : after ≤ _), Nat.min_eq_right (by omega)]
    · refine ⟨dialTimeout, rfl, ?_⟩
      rw [if_neg hin, ← htimeout _ (by omega)]
  | hangs =>
    refine ⟨dialTimeout, rfl, ?_⟩
    rw [dial, Candidate.used, ← htimeout _ (by omega)]

/-- After the deadline every dial fails at once. -/
theorem dialCandidates_late (order : List Nat) (lastErr : GoError) :
    ∃ err, dialCandidates handshakeTimeout handshakeTimeout urls candidates order handshakeTimeout lastErr =
      .error (err, false) := by
  induction order generalizing lastErr with
  | nil => exact ⟨lastErr, rfl⟩
  | cons index rest ih =>
    have hdial : dial (min handshakeTimeout (handshakeTimeout + handshakeTimeout)) handshakeTimeout
        (candidates index) = (.error dialTimeout, handshakeTimeout) := by
      rw [Nat.min_eq_left (by omega)]
      cases candidates index with
      | answers after => simp [dial]
      | fails after failure => rw [dial, if_neg (by omega), Nat.max_self]
      | hangs => simp [dial]
    simp only [dialCandidates, hdial]
    exact ih _

theorem dialCandidates_passed {before rest : List Nat} {lastErr : GoError} (hnow : now ≤ handshakeTimeout)
    (hreach : ∀ index ∈ before, (candidates index).reachable handshakeTimeout = false)
    (hpermanent : ∀ index ∈ before, (candidates index).permanent = false) :
    ∃ err, dialCandidates handshakeTimeout handshakeTimeout urls candidates (before ++ rest) now lastErr =
      dialCandidates handshakeTimeout handshakeTimeout urls candidates rest
        (min handshakeTimeout
          (now + (before.map fun index => (candidates index).used handshakeTimeout).sum)) err := by
  induction before generalizing now lastErr with
  | nil => exact ⟨lastErr, by simp [Nat.min_eq_right hnow]⟩
  | cons index before ih =>
    obtain ⟨failure, htransient, hdial⟩ := dial_passed hnow (hreach index List.mem_cons_self)
      (hpermanent index List.mem_cons_self)
    simp only [List.cons_append, dialCandidates, hdial, htransient, Bool.false_eq_true, if_false]
    obtain ⟨err, heq⟩ := ih (Nat.min_le_left _ _) (fun i hi => hreach i (List.mem_cons_of_mem _ hi))
      fun i hi => hpermanent i (List.mem_cons_of_mem _ hi)
    refine ⟨err, heq.trans ?_⟩
    rw [List.map_cons, List.sum_cons]
    congr 1
    omega

/-- A candidate that answers is connected to if the deadline leaves it the time; if not, the deadline ends
    the attempt. -/
theorem dialCandidates_answers (urls : List String) {index after : Nat} (hnow : now ≤ handshakeTimeout)
    (hanswers : candidates index = .answers after) (rest : List Nat) (lastErr : GoError) :
    if now + after < handshakeTimeout then
      dialCandidates handshakeTimeout handshakeTimeout urls candidates (index :: rest) now lastErr = .ok index
    else ∃ err, dialCandidates handshakeTimeout handshakeTimeout urls candidates (index :: rest) now lastErr =
      .error (err, false) := by
  have hdeadline : min handshakeTimeout (now + handshakeTimeout) = handshakeTimeout := by omega
  simp only [dialCandidates, hanswers, dial, hdeadline]
  split
  · rfl
  · rw [Nat.max_eq_right hnow]
    exact dialCandidates_late rest _

/-- The first reachable candidate in the order, if no permanent failure precedes it, is connected to if
    and only if the candidates before it leave it the time it needs. -/
theorem runOnce_first_reachable (handshakeTimeout : Nat) (candidates : Nat → Candidate)
    (before rest : List Nat) (index after : Nat) {failoverIndex : Nat}
    (horder : failoverOrder urls failoverIndex = before ++ index :: rest)
    (hbefore : ∀ i ∈ before, (candidates i).reachable handshakeTimeout = false)
    (hpermanent : ∀ i ∈ before, (candidates i).permanent = false)
    (hanswers : candidates index = .answers after) :
    runOnceDial handshakeTimeout urls candidates failoverIndex = (.ok (urls.getD index ""), index) ↔
      (before.map fun i => (candidates i).used handshakeTimeout).sum + after < handshakeTimeout := by
  have hurls : urls.isEmpty = false := by
    cases urls with
    | nil => simp [failoverOrder] at horder
    | cons url urls => rfl
  obtain ⟨err, hpassed⟩ : ∃ err, dialCandidates handshakeTimeout handshakeTimeout urls candidates
      (before ++ index :: rest) 0 (errorsNew "") = _ :=
    dialCandidates_passed (Nat.zero_le handshakeTimeout) hbefore hpermanent
  rw [Nat.zero_add] at hpassed
  generalize (before.map fun i => (candidates i).used handshakeTimeout).sum = used at hpassed ⊢
  have hdial := dialCandidates_answers urls (Nat.min_le_left handshakeTimeout used) hanswers rest err
  simp only [runOnceDial, dialWithFailover, hurls, horder, hpassed, Bool.false_eq_true, if_false]
  by_cases hfits : used + after < handshakeTimeout
  · rw [if_pos (by omega)] at hdial
    simp [hdial, hfits]
  · rw [if_neg (by omega)] at hdial
    obtain ⟨lastErr, hdial⟩ := hdial
    simp [hdial, hfits]

/-- The first candidate refuses the connection. -/
def refusing (i : Nat) : Candidate :=
  if i = 0 then .fails 3 ⟨errorsNew "connection refused", false, none, false⟩ else .answers 4

theorem runOnce_first_reachable_second :
    runOnceDial 10 ["wss://a", "wss://b"] refusing 0 = (.ok "wss://b", 1) :=
  (runOnce_first_reachable 10 refusing [0] [] 1 4 rfl (by decide) (by decide) rfl).mpr (by decide)

/-- A hanging candidate uses up the time of the attempt, also that of the next one. -/
theorem runOnce_hides_reachable :
    Candidate.reachable 10 (.answers 1) = true ∧
      runOnceDial 10 ["wss://a", "wss://b"] (fun i => if i = 0 then .hangs else .answers 1) 0 =
        (.error (.wrap "dial Gateway WSS wss://b: %w" (.sentinel .deadlineExceeded)), 1) :=
  ⟨rfl, rfl⟩

end Hooshix.Agent
