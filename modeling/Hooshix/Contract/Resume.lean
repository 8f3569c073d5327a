-- SUMMARY: The resume proof of the contract.
import Hooshix.Contract
import Hooshix.ContractV1.Records

/-! # Resume proofs

What both parties compute from a `resume_session`. Regular expressions, base64, the time format and
the signature scheme come from Go's libraries and are parameters.
-/

namespace Hooshix.Contract

export ContractV1 (DeviceSessionAuthorization)

def tunnelSubprotocol : String := "hooshix.tunnel.v1"

def tunnelSubprotocolV2 : String := "hooshix.tunnel.v2"

def isTunnelSubprotocol (subprotocol : String) : Bool :=
  subprotocol == tunnelSubprotocol || subprotocol == tunnelSubprotocolV2

/-- The library functions that the contract's checks use. -/
structure Codec where
  /-- `idPattern.MatchString` -/
  matchesID : String → Bool
  /-- `utcTimestampPattern.MatchString` -/
  matchesUTCTimestamp : String → Bool
  /-- `time.Parse(time.RFC3339, value)`, in nanoseconds -/
  parseRFC3339 : String → Except GoError Int
  /-- `base64.RawURLEncoding.DecodeString` -/
  rawURLDecode : String → Option Bytes
  /-- `base64.RawURLEncoding.EncodeToString` -/
  rawURLEncode : Bytes → String
  /-- `ed25519.Verify(publicKey, message, signature)` -/
  ed25519Verify : Bytes → Bytes → Bytes → Bool

structure ResumeSession where
  deviceID : String
  authorizationID : String
  tokenID : String
  sessionID : String
  resumeNonce : String
  resumeChallenge : String
  issuedAt : String
  signature : String
  deriving DecidableEq, Repr

structure SessionResumed where
  sessionID : String
  nextSequence : Nat
  resumedAt : Int
  resumeChallenge : String
  deriving DecidableEq, Repr

variable (codec : Codec)

def validateID (name value : String) : Option GoError :=
  if codec.matchesID value then none
  else some (errorsNew s!"{name} is not a valid contract identifier")

def validateRawBase64Length (name value : String) (size : Nat) : Option GoError :=
  match codec.rawURLDecode value with
  | none =>
    some (errorsNew s!"{name} must encode exactly {size} bytes as base64url without padding")
  | some decoded =>
    if decoded.length ≠ size then
      some (errorsNew s!"{name} must encode exactly {size} bytes as base64url without padding")
    else if codec.rawURLEncode decoded ≠ value then
      some (errorsNew s!"{name} is not canonical base64url without padding")
    else none

def parseUTCTime (name value : String) : Except GoError Int :=
  if codec.matchesUTCTimestamp value then
    match codec.parseRFC3339 value with
    | .ok parsed => .ok parsed
    | .error err => .error (.wrap s!"{name} must be RFC3339 UTC: %w" err)
  else .error (errorsNew s!"{name} must be RFC3339 UTC with Z suffix and optional dot-fraction")

/-- The components joined by zero bytes behind their domain, if they are valid. -/
def transcriptFor (domain : String) (components : List String) (invalid : Option GoError) : Bytes :=
  match invalid with
  | some _ => []
  | none => ("\x00".intercalate (domain :: components)).toUTF8.toList

/-- The signed bytes of a `resume_session`; empty if a field is not valid. -/
def resumeTranscript (resume : ResumeSession) : Bytes :=
  transcriptFor "HXT1-RESUME"
    [resume.deviceID, resume.authorizationID, resume.tokenID, resume.sessionID,
      resume.resumeNonce, resume.resumeChallenge, resume.issuedAt]
    ((validateID codec "device_id" resume.deviceID) <|>
      (validateID codec "authorization_id" resume.authorizationID) <|>
      (validateID codec "token_id" resume.tokenID) <|>
      (validateID codec "session_id" resume.sessionID) <|>
      (validateRawBase64Length codec "resume_nonce" resume.resumeNonce 32) <|>
      (validateRawBase64Length codec "resume_challenge" resume.resumeChallenge 32) <|>
      (match parseUTCTime codec "issued_at" resume.issuedAt with
        | .ok _ => none
        | .error err => some err))

def resumeIssuedAt (resume : ResumeSession) : Except GoError Int :=
  parseUTCTime codec "issued_at" resume.issuedAt

/-- Compares the issued challenge with the presented one; an empty challenge matches nothing. -/
def matchResumeChallenge (expected presented : String) : Bool :=
  if expected == "" || expected.utf8ByteSize != presented.utf8ByteSize then false
  else expected == presented

/-- Verifies the signature of a `resume_session` with the registered key of the device. -/
def verifyResumeSignature (publicKeyBase64 : String) (resume : ResumeSession) : Option GoError :=
  match codec.rawURLDecode publicKeyBase64 with
  | none => some (errorsNew "invalid Ed25519 public key")
  | some publicKey =>
    if publicKey.length ≠ 32 then some (errorsNew "invalid Ed25519 public key")
    else match codec.rawURLDecode resume.signature with
    | none => some (errorsNew "invalid Ed25519 signature")
    | some signature =>
      if signature.length ≠ 64 then some (errorsNew "invalid Ed25519 signature")
      else if (resumeTranscript codec resume).length = 0 then
        some (errorsNew "resume transcript requires contract-valid inputs")
      else if codec.ed25519Verify publicKey (resumeTranscript codec resume) signature then none
      else some (errorsNew "resume signature verification failed")

/-- The request carries the signature of its transcript under the key. -/
def Signed (publicKeyBase64 : String) (resume : ResumeSession) : Prop :=
  ∃ publicKey signature, codec.rawURLDecode publicKeyBase64 = some publicKey ∧
    codec.rawURLDecode resume.signature = some signature ∧ resumeTranscript codec resume ≠ [] ∧
    codec.ed25519Verify publicKey (resumeTranscript codec resume) signature = true

variable {codec} in
theorem signed_of_verifyResumeSignature {publicKeyBase64 : String} {resume : ResumeSession}
    (h : verifyResumeSignature codec publicKeyBase64 resume = none) :
    Signed codec publicKeyBase64 resume := by
  unfold verifyResumeSignature at h
  split at h
  · cases h
  next publicKey hkey =>
    split at h
    · cases h
    split at h
    · cases h
    next signature hsignature =>
      split_ifs at h with _ hempty hverify
      exact ⟨publicKey, signature, hkey, hsignature, fun hnil => hempty (hnil ▸ rfl), hverify⟩

theorem eq_of_matchResumeChallenge {expected presented : String}
    (h : matchResumeChallenge expected presented = true) :
    expected ≠ "" ∧ expected = presented := by
  simp only [matchResumeChallenge] at h
  split at h
  · cases h
  · rename_i hvalid
    refine ⟨?_, by simpa using h⟩
    rintro rfl
    simp at hvalid

end Hooshix.Contract
