-- SUMMARY: A session that loses its authorization, from the metadata's answer to the Agent's next attempt.
import Hooshix.Agent.Reconnect
import Hooshix.Gateway.Revalidation

/-! # The end of an authorization

The Gateway decides what a failed revalidation means and closes the session with a code and a text;
the Agent decides from code and text whether it ever tries again. A failure that is no revocation is
retried only if the metadata marked it as temporary.
-/

namespace Hooshix.Tunnel

open Gateway Agent

/-! ## The Gateway's side -/

/-- Without a reason code the loop over the subjects ends with the first failing lookup, or with the
    error of the authorization itself. -/
theorem revocationVerdict_none {source : RevocationSource} {err verdictErr : GoError}
    {subjects : List Authority.RevocationSubject}
    (h : revocationVerdict source err subjects = (none, verdictErr)) :
    metadataTemporarilyUnavailable verdictErr =
      metadataTemporarilyUnavailable ((source.failure err subjects).getD err) := by
  induction subjects with
  | nil =>
    cases h
    rfl
  | cons subject subjects ih =>
    simp only [RevocationSource.failure, List.findSome?_cons] at ih ⊢
    simp only [revocationVerdict] at h
    cases hlookup : source.lookup err subject with
    | error revokeErr =>
      rw [hlookup] at h
      cases h
      rfl
    | ok revoked =>
      rw [hlookup] at h
      cases revoked with
      | some verdict => cases h
      | none => exact ih h

/-- The failure that ends an unrevoked session is temporary: the lookup that failed first among the
    revocations, or the authorization itself, says that the metadata is unavailable or stale. -/
def TemporaryFailure (sess : SessionAuthority) (answers : MetadataAnswers) : Prop :=
  ∀ err, answers.authorization.err = some err →
    metadataTemporarilyUnavailable ((answers.revocations.failure err sess.subjects).getD err) = true

theorem revalidate_temporary_iff {codec : Contract.Codec} {sess : SessionAuthority}
    {answers : MetadataAnswers} {now : Int} {err : GoError}
    (h : revalidateAuthorization codec sess answers now = some (none, err)) :
    metadataTemporarilyUnavailable err = true ↔ TemporaryFailure sess answers := by
  have hverdict : ∃ authErr, answers.authorization.err = some authErr ∧
      revocationVerdict answers.revocations authErr sess.subjects = (none, err) := by
    simp only [revalidateAuthorization] at h
    split at h
    · cases h
    cases hauth : answers.authorization.err with
    | none =>
      rw [hauth] at h
      cases h
    | some authErr =>
      refine ⟨authErr, rfl, ?_⟩
      simp only [hauth] at h
      split at h
      · cases h
      split at h
      · split at h
        · cases h
        · exact Option.some.inj h
      · exact Option.some.inj h
  obtain ⟨authErr, hauth, hnone⟩ := hverdict
  simp only [revocationVerdict_none hnone, TemporaryFailure, hauth, Option.some.injEq,
    forall_eq']

/-! ## The Agent's side -/

/-- The Gateway's close as the Agent's read reports it. -/
def received (message : String) (close : Close) : SessionFailure :=
  .ofClose message ⟨close.code, close.reason⟩

theorem permanent_terminationClose (message : String) (err : GoError) :
    permanentRemoteSessionError (received message (terminationClose err)) =
      !metadataTemporarilyUnavailable err := by
  unfold terminationClose
  cases metadataTemporarilyUnavailable err with
  | true => rfl
  | false => rfl

variable {limits : Agent.Limits} {hlimits : limits.valid = true} {backoff : Backoff limits}
  {lasted : Int}

/-- The Runner tries again exactly after an error that is not permanent. -/
theorem retries_received_iff {message : String} {close : Close} :
    (afterAttempt hlimits backoff lasted (runOnceResult (received message close))).RetriesWithin
        (longestDelay limits) ↔
      permanentRemoteSessionError (received message close) = false := by
  cases hpermanent : permanentRemoteSessionError (received message close) with
  | false =>
    have hresult : runOnceResult (received message close) = errorsNew message := by
      simp only [runOnceResult, hpermanent]
      rfl
    rw [hresult]
    refine ⟨fun _ => rfl, fun _ => ?_⟩
    exact Verdict.retriesWithin_retryAfter _ _
  | true =>
    have hresult : runOnceResult (received message close) =
        .join "%w: %w" errPermanentAgentFailure (errorsNew message) := by
      simp only [runOnceResult, hpermanent]
      rfl
    rw [hresult]
    refine ⟨fun h => ?_, fun h => absurd h (by decide)⟩
    exact absurd h Verdict.not_retriesWithin_stop

/-! ## Both sides -/

/-- A session that ends with no reason code sends no `session_revoked`, and the Agent takes its close
    for a passing one and keeps trying exactly when the failure was temporary; a reason code is always
    sent before the close. -/
theorem unrevoked_end_retried_iff {codec : Contract.Codec} {sess : SessionAuthority}
    {answers : MetadataAnswers} {now : Int} {reasonCode : Option ReasonCode} {err : GoError}
    (message : String) (hlimits : limits.valid = true) (backoff : Backoff limits) (lasted : Int)
    (h : revalidateAuthorization codec sess answers now = some (reasonCode, err)) :
    (reasonCode = none →
      (∀ code, .sendRevoked sess.authorizationID code ∉
        terminateAuthorization false sess reasonCode err) ∧
      .close (terminationClose err) ∈ terminateAuthorization false sess reasonCode err ∧
      (permanentRemoteSessionError (received message (terminationClose err)) = false ↔
        TemporaryFailure sess answers) ∧
      ((afterAttempt hlimits backoff lasted
          (runOnceResult (received message (terminationClose err)))).RetriesWithin
          (longestDelay limits) ↔
        TemporaryFailure sess answers)) ∧
    ∀ code, reasonCode = some code →
      ∃ before, terminateAuthorization false sess reasonCode err =
        before ++ [.sendRevoked sess.authorizationID code, .close (terminationClose err)] := by
  refine ⟨?_, ?_⟩
  · rintro rfl
    have htemporary := revalidate_temporary_iff h
    have hpermanent : permanentRemoteSessionError (received message (terminationClose err)) = false ↔
        TemporaryFailure sess answers := by
      rw [permanent_terminationClose, Bool.not_eq_false', htemporary]
    refine ⟨?_, ?_, hpermanent, retries_received_iff.trans hpermanent⟩
    · intro code
      simp [terminateAuthorization]
    · simp [terminateAuthorization]
  · rintro code rfl
    exact ⟨[.storeUnauthorized, .failAll err], rfl⟩

/-- The authority of a session of `device-a` that expires late. -/
def heldAuthority : SessionAuthority where
  authorizationID := "authorization-a"
  deviceID := "device-a"
  tokenID := "token-a"
  authorizationExpiresAt := 1000

/-- A source that fails with `err`, returns no record and knows of no revocation. -/
def failingAnswers (err : GoError) : MetadataAnswers where
  authorization :=
    { record := ⟨0, "", "", "", "", "", "", "", "", false⟩
      err := some err }
  revocations := .reasons fun _ => .ok none

theorem staleMetadata_retried :
    revalidateAuthorization plainCodec heldAuthority (failingAnswers errMetadataStale) 10 =
        some (none, .wrap "session authorization invalid or unavailable: %w" errMetadataStale) ∧
      permanentRemoteSessionError (received "" (terminationClose
        (.wrap "session authorization invalid or unavailable: %w" errMetadataStale))) = false := by
  have hlimits : Agent.defaultLimits.valid = true := by decide
  have hrevalidate : revalidateAuthorization plainCodec heldAuthority
      (failingAnswers errMetadataStale) 10 = some _ := rfl
  have htemporary : TemporaryFailure heldAuthority (failingAnswers errMetadataStale) := by
    intro err herr
    cases herr
    rfl
  have hend := unrevoked_end_retried_iff "" hlimits (.reconnectMin hlimits) 0 hrevalidate
  exact ⟨hrevalidate, (hend.1 rfl).2.2.1.mpr htemporary⟩

/-- An authorization that is missing from the metadata, without any revocation, stops the Agent for
    good. -/
theorem missingRecord_stops_agent :
    revalidateAuthorization plainCodec heldAuthority (failingAnswers errMetadataNotFound) 10 =
        some (none, .wrap "session authorization invalid or unavailable: %w" errMetadataNotFound) ∧
      terminationClose (.wrap "session authorization invalid or unavailable: %w"
        errMetadataNotFound) = ⟨Contract.statusPolicyViolation, "authorization invalid"⟩ ∧
      permanentRemoteSessionError
        (received "" ⟨Contract.statusPolicyViolation, "authorization invalid"⟩) = true := by
  refine ⟨rfl, rfl, rfl⟩

end Hooshix.Tunnel
