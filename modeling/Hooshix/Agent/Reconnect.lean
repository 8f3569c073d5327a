-- SUMMARY: How the Agent classifies the end of a session and whether its Runner tries again.
import Hooshix.Agent.Limits
import Hooshix.Contract.Control

/-! # Reconnecting

`permanentRemoteSessionError`, the end of `runOnceWithDialer` and the reconnect loop of `runPrimary`
(`runPinnedWorker` has the same loop). Durations are nanoseconds.
-/

namespace Hooshix.Agent

open Contract

/-! ## Classification of a session's error -/

/-- A `websocket.CloseError`. -/
structure CloseError where
  code : Int
  reason : String
  deriving DecidableEq, Repr

/-- An error of a session with what `errors.As` finds in its chain. -/
structure SessionFailure where
  err : GoError
  /-- the `websocket.CloseError` -/
  closeError : Option CloseError
  /-- some error of the chain is a `net.Error` -/
  networkError : Bool
  deriving DecidableEq, Repr

/-- `websocket.CloseStatus`. -/
def SessionFailure.closeStatus (failure : SessionFailure) : Int :=
  match failure.closeError with
  | some closeError => closeError.code
  | none => -1

/-- The error of a read that met a close frame; it wraps no package-level error. -/
def SessionFailure.ofClose (message : String) (closeError : CloseError) : SessionFailure where
  err := errorsNew message
  closeError := some closeError
  networkError := false

def permanentPolicyViolation (failure : SessionFailure) : Bool :=
  match failure.closeError with
  | none => true
  | some closeError =>
    match closeError.reason with
    | "idle timeout" | "session ended" | "authentication failed" => false
    | _ => true

/-- The WebSocket codes `ProtocolError`, `UnsupportedData`, `InvalidFramePayloadData`,
    `MessageTooBig` and `MandatoryExtension`. -/
def permanentCloseCodes : List Int := [1002, 1003, 1007, 1009, 1010]

/-- The WebSocket codes `NormalClosure`, `GoingAway`, `NoStatusRcvd`, `AbnormalClosure`,
    `InternalError`, `ServiceRestart`, `TryAgainLater` and `BadGateway`. -/
def transientCloseCodes : List Int :=
  [1000, 1001, 1005, 1006, 1011, 1012, statusTryAgainLater, 1014]

def permanentRemoteSessionError (failure : SessionFailure) : Bool :=
  if failure.closeStatus ∈ permanentCloseCodes then true
  else if failure.closeStatus = statusPolicyViolation then permanentPolicyViolation failure
  else if failure.closeStatus ∈ transientCloseCodes then false
  else if failure.closeStatus ≠ -1 then true
  else if failure.err.is .deadlineExceeded || failure.err.is .eof || failure.err.is .unexpectedEOF then
    false
  else if failure.networkError then false
  else true

abbrev errPermanentAgentFailure : GoError := .sentinel .permanentAgentFailure

def permanentAgentFailure (err : GoError) : GoError :=
  if err.is .permanentAgentFailure then err else .join "%w: %w" errPermanentAgentFailure err

/-- What `runOnceWithDialer` returns for a session that ended with `failure`; `protectError` redacts
    the text and keeps the chain. -/
def runOnceResult (failure : SessionFailure) : GoError :=
  if failure.err.is .sessionRevoked then failure.err
  else if permanentRemoteSessionError failure then permanentAgentFailure failure.err
  else failure.err

/-! ## The reconnect loop -/

/-- The delay before the next attempt, within the configured bound. -/
structure Backoff (limits : Limits) where
  value : Int
  pos : 0 < value
  le_max : value ≤ limits.reconnectMax

namespace Backoff

variable {limits : Limits}

def reconnectMin (hlimits : limits.valid = true) : Backoff limits where
  value := limits.reconnectMin
  pos := by
    simp only [Limits.valid, Bool.and_eq_true, decide_eq_true_eq, gt_iff_lt, ge_iff_le] at hlimits
    omega
  le_max := by
    simp only [Limits.valid, Bool.and_eq_true, decide_eq_true_eq, gt_iff_lt, ge_iff_le] at hlimits
    omega

/-- `backoff *= 2`, up to `ReconnectMax`. -/
def double (backoff : Backoff limits) : Backoff limits where
  value := if backoff.value * 2 > limits.reconnectMax then limits.reconnectMax else backoff.value * 2
  pos := by
    have hpos := backoff.pos
    have hmax := backoff.le_max
    split <;> omega
  le_max := by
    split
    · exact Int.le_refl _
    · omega

end Backoff

/-- The delay drawn around `base`; `draw` is `rand.Int64N(quarter)`. -/
def jittered (base draw : Int) : Int :=
  if base ≤ 4000000 then base else base - (base.tdiv 4).tdiv 2 + draw

/-- A draw of `rand.Int64N(base / 4)`. -/
def Drawn (base draw : Int) : Prop := 0 ≤ draw ∧ draw < base.tdiv 4

/-- A delay stays within an eighth of its base. -/
theorem jittered_bounds {base draw : Int} (hbase : 0 < base) (hdraw : Drawn base draw) :
    0 < jittered base draw ∧ jittered base draw ≤ base + base.tdiv 4 := by
  obtain ⟨hnonneg, hlt⟩ := hdraw
  have hquarter : base.tdiv 4 = base / 4 := Int.tdiv_eq_ediv_of_nonneg (by omega)
  have heighth : (base / 4).tdiv 2 = base / 4 / 2 := Int.tdiv_eq_ediv_of_nonneg (by omega)
  unfold jittered
  rw [hquarter] at hlt ⊢
  rw [heighth]
  split <;> omega

/-- What the loop does after an attempt. -/
inductive Verdict (limits : Limits) where
  /-- `Run` returns -/
  | stop (err : Option GoError)
  /-- the next attempt follows at once -/
  | retryNow (next : Backoff limits)
  /-- the next attempt follows after a delay around `backoff` -/
  | retryAfter (backoff next : Backoff limits)

/-- The loop of `runPrimary` after an attempt that lasted `lasted` and failed with `err`, while its
    context lives. -/
def afterAttempt {limits : Limits} (hlimits : limits.valid = true) (backoff : Backoff limits)
    (lasted : Int) (err : GoError) : Verdict limits :=
  if err.is .canceled then .stop none
  else if err.is .sessionRevoked || err.is .permanentAgentFailure then .stop (some err)
  else
    let backoff := if lasted ≥ 10 * second then Backoff.reconnectMin hlimits else backoff
    if err.is .resumeRejected then .retryNow backoff else .retryAfter backoff backoff.double

/-- The next attempt follows, after a delay of at most `bound`. -/
def Verdict.RetriesWithin {limits : Limits} (verdict : Verdict limits) (bound : Int) : Prop :=
  ∃ backoff next, verdict = .retryAfter backoff next ∧
    ∀ draw, Drawn backoff.value draw →
      0 < jittered backoff.value draw ∧ jittered backoff.value draw ≤ bound

/-- The longest delay between two attempts. -/
def longestDelay (limits : Limits) : Int := limits.reconnectMax + limits.reconnectMax.tdiv 4

theorem Verdict.retriesWithin_retryAfter {limits : Limits} (backoff next : Backoff limits) :
    (Verdict.retryAfter backoff next).RetriesWithin (longestDelay limits) := by
  refine ⟨backoff, next, rfl, ?_⟩
  intro draw hdraw
  obtain ⟨hpos, hle⟩ := jittered_bounds backoff.pos hdraw
  have hmax := backoff.le_max
  have hmono : backoff.value.tdiv 4 ≤ limits.reconnectMax.tdiv 4 :=
    Int.tdiv_le_tdiv (by decide) hmax
  refine ⟨hpos, ?_⟩
  unfold longestDelay
  omega

theorem Verdict.not_retriesWithin_stop {limits : Limits} {err : Option GoError} {bound : Int} :
    ¬ (Verdict.stop err : Verdict limits).RetriesWithin bound := by
  rintro ⟨backoff, next, h, -⟩
  cases h

end Hooshix.Agent
