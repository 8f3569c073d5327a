-- SUMMARY: Revalidation of a session's authorization at each heartbeat.
import Hooshix.Gateway.Handshake

/-! # Revalidating an authorization

`session.revalidateAuthorization` and `session.terminateAuthorization`. A metadata source is what it
answers: `Authorization` may return a record beside its error, and revocations are looked up with a
reason where the source offers one.
-/

namespace Hooshix.Gateway

open Contract
open Authority (RevocationSubject)

/-! ## What the metadata answers -/

/-- The answer of `metadata.Authorization`, which returns a record even when it fails. -/
structure AuthorizationAnswer where
  record : DeviceSessionAuthorization
  err : Option GoError

/-- The revocation lookups of a source: `RevocationReason` where it is implemented, and `Revoked`
    otherwise. -/
inductive RevocationSource where
  | reasons (revocationReason : RevocationSubject → Except GoError (Option String))
  | plain (revoked : RevocationSubject → Except GoError Bool)

structure MetadataAnswers where
  authorization : AuthorizationAnswer
  revocations : RevocationSource

/-- The reason codes of a `session_revoked`; the empty code is `none`. -/
inductive ReasonCode where
  | disabled
  | credentialRevoked
  | securityHold
  | expired
  deriving DecidableEq, Repr

def sessionRevocationReason (reason : String) : ReasonCode :=
  match reason with
  | "disabled" => .disabled
  | "credential_revoked" => .credentialRevoked
  | "security_hold" => .securityHold
  | "expired" => .expired
  | _ => .credentialRevoked

/-- The fields of a session that its revalidation reads. -/
structure SessionAuthority where
  authorizationID : String
  deviceID : String
  tokenID : String
  authorizationExpiresAt : Int
  deriving DecidableEq, Repr

namespace SessionAuthority

/-- The subjects whose revocation ends the session, in the order in which they are looked up. -/
def subjects (sess : SessionAuthority) : List RevocationSubject :=
  [⟨"device_session_authorization", sess.authorizationID⟩, ⟨"device", sess.deviceID⟩]

def owns (sess : SessionAuthority) (record : DeviceSessionAuthorization) : Bool :=
  record.authorizationID == sess.authorizationID && record.deviceID == sess.deviceID &&
    record.tokenID == sess.tokenID

end SessionAuthority

/-! ## Revalidation -/

/-- One revocation lookup: its failure, or the reason code and error of a subject that is revoked. -/
def RevocationSource.lookup (source : RevocationSource) (err : GoError)
    (subject : RevocationSubject) : Except GoError (Option (ReasonCode × GoError)) :=
  match source with
  | .reasons revocationReason =>
    (revocationReason subject).map fun revoked => revoked.map fun reason =>
      (sessionRevocationReason reason, .wrap s!"session authorization revoked ({reason}): %w" err)
  | .plain revoked =>
    (revoked subject).map fun revoked =>
      if revoked then some (.credentialRevoked, .wrap "session authorization revoked: %w" err)
      else none

/-- The loop over the subjects, for an authorization that failed with `err`. -/
def revocationVerdict (source : RevocationSource) (err : GoError) :
    List RevocationSubject → Option ReasonCode × GoError
  | [] => (none, .wrap "session authorization invalid or unavailable: %w" err)
  | subject :: subjects =>
    match source.lookup err subject with
    | .error revokeErr => (none, .wrap "authorization revocation lookup failed: %w" revokeErr)
    | .ok (some (reasonCode, revokedErr)) => (some reasonCode, revokedErr)
    | .ok none => revocationVerdict source err subjects

/-- The reason code and error with which the session has to end; `none` while it is authorized. -/
def revalidateAuthorization (codec : Codec) (sess : SessionAuthority) (answers : MetadataAnswers)
    (now : Int) : Option (Option ReasonCode × GoError) :=
  if ¬ now < sess.authorizationExpiresAt then
    some (some .expired, errorsNew "session authorization expired")
  else match answers.authorization.err with
  | none => none
  | some err =>
    let record := answers.authorization.record
    if sess.owns record && record.disabled then
      some (some .disabled, .wrap "session authorization disabled: %w" err)
    else match sess.owns record, codec.parseRFC3339 record.expiresAt with
    | true, .ok expiresAt =>
      if ¬ now < expiresAt then
        some (some .expired, .wrap "session authorization expired: %w" err)
      else some (revocationVerdict answers.revocations err sess.subjects)
    | _, _ => some (revocationVerdict answers.revocations err sess.subjects)

/-! ## Termination -/

/-- What `terminateAuthorization` does, in order. -/
inductive TerminationEffect where
  /-- `authorized.Store(false)` -/
  | storeUnauthorized
  | failAll (err : GoError)
  /-- the attempt to send `session_revoked` -/
  | sendRevoked (authorizationID : String) (reasonCode : ReasonCode)
  | close (close : Close)
  deriving DecidableEq, Repr

def Close.authorizationInvalid : Close := ⟨statusPolicyViolation, "authorization invalid"⟩

/-- The close that ends a session whose revalidation failed with `err`. -/
def terminationClose (err : GoError) : Close :=
  if metadataTemporarilyUnavailable err then .metadataUnavailable else .authorizationInvalid

/-- Only the first call does anything: `terminated` says that there was one. -/
def terminateAuthorization (terminated : Bool) (sess : SessionAuthority)
    (reasonCode : Option ReasonCode) (err : GoError) : List TerminationEffect :=
  if terminated then []
  else
    [.storeUnauthorized, .failAll err] ++
      (reasonCode.map (TerminationEffect.sendRevoked sess.authorizationID)).toList ++
      [.close (terminationClose err)]

/-! ## Which errors come with no reason code -/

/-- The error of the first revocation lookup that fails. -/
def RevocationSource.failure (source : RevocationSource) (err : GoError)
    (subjects : List RevocationSubject) : Option GoError :=
  subjects.findSome? fun subject =>
    match source.lookup err subject with
    | .error revokeErr => some revokeErr
    | .ok _ => none

end Hooshix.Gateway
