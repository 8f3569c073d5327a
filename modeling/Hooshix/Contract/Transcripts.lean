-- SUMMARY: The signed transcripts of both handshakes, and that they are unambiguous and domain separated.
import Hooshix.Contract.Patterns

/-! # Signed transcripts

`AuthTranscript` and `ResumeTranscript` over byte strings, as Go has them. A transcript is its domain and
its components joined by zero bytes; `none` is Go's nil. No valid component has a zero byte, so a
transcript splits in one way only.
-/

namespace Hooshix.Contract.Signed

/-- The bytes of an ASCII string. -/
def ascii (s : String) : Bytes := s.toList.map fun c => UInt8.ofNat c.toNat

/-- The codes of a Go string. -/
def codes (s : Bytes) : List Nat := s.map (·.toNat)

/-- The fields of a `client_hello` that are signed. -/
structure ClientHello where
  deviceID : Bytes
  authorizationID : Bytes
  tokenID : Bytes
  clientNonce : Bytes
  deriving DecidableEq, Repr

/-- The fields of a `server_challenge` that are signed. -/
structure ServerChallenge where
  sessionID : Bytes
  serverNonce : Bytes
  deriving DecidableEq, Repr

/-- The fields of a `resume_session` that are signed. -/
structure ResumeSession where
  deviceID : Bytes
  authorizationID : Bytes
  tokenID : Bytes
  sessionID : Bytes
  resumeNonce : Bytes
  resumeChallenge : Bytes
  issuedAt : Bytes
  deriving DecidableEq, Repr

def validateID (value : Bytes) : Bool := idPattern (codes value)

def validateRawBase64Length (value : Bytes) (size : Nat) : Bool := isRawBase64 size (codes value)

def parseUTCTime (value : Bytes) : Option Int := parseTimestamp (codes value)

def transcriptFor (domain : String) (components : List Bytes) (valid : Bool) : Option Bytes :=
  if valid then some ([0].intercalate (ascii domain :: components)) else none

def authTranscript (hello : ClientHello) (challenge : ServerChallenge) : Option Bytes :=
  transcriptFor "HXT1-AUTH"
    [challenge.sessionID, hello.deviceID, hello.authorizationID, hello.tokenID, hello.clientNonce,
      challenge.serverNonce]
    (validateID challenge.sessionID && validateID hello.deviceID &&
      validateID hello.authorizationID && validateID hello.tokenID &&
      validateRawBase64Length hello.clientNonce 32 &&
      validateRawBase64Length challenge.serverNonce 32)

def resumeTranscript (resume : ResumeSession) : Option Bytes :=
  transcriptFor "HXT1-RESUME"
    [resume.deviceID, resume.authorizationID, resume.tokenID, resume.sessionID, resume.resumeNonce,
      resume.resumeChallenge, resume.issuedAt]
    (validateID resume.deviceID && validateID resume.authorizationID && validateID resume.tokenID &&
      validateID resume.sessionID && validateRawBase64Length resume.resumeNonce 32 &&
      validateRawBase64Length resume.resumeChallenge 32 && (parseUTCTime resume.issuedAt).isSome)

/-! ## The contract's patterns -/

/-- The canonical encoding of 32 bytes. -/
def IsNonce (value : Bytes) : Prop :=
  ∃ bytes : Bytes, bytes.length = 32 ∧ codes value = Base64.encode bytes

/-- A timestamp of the pattern whose date exists. -/
def IsInstant (value : Bytes) : Prop :=
  ∃ t, matchTimestamp (codes value) = some t ∧ t.day ≤ daysIn t.month t.year

structure AuthValid (hello : ClientHello) (challenge : ServerChallenge) : Prop where
  sessionID : idPattern (codes challenge.sessionID) = true
  deviceID : idPattern (codes hello.deviceID) = true
  authorizationID : idPattern (codes hello.authorizationID) = true
  tokenID : idPattern (codes hello.tokenID) = true
  clientNonce : IsNonce hello.clientNonce
  serverNonce : IsNonce challenge.serverNonce

structure ResumeValid (resume : ResumeSession) : Prop where
  deviceID : idPattern (codes resume.deviceID) = true
  authorizationID : idPattern (codes resume.authorizationID) = true
  tokenID : idPattern (codes resume.tokenID) = true
  sessionID : idPattern (codes resume.sessionID) = true
  resumeNonce : IsNonce resume.resumeNonce
  resumeChallenge : IsNonce resume.resumeChallenge
  issuedAt : IsInstant resume.issuedAt

variable {value transcript : Bytes} {challenge : ServerChallenge} {resume : ResumeSession}
  {hello : ClientHello}

theorem validateRawBase64Length_iff :
    validateRawBase64Length value 32 = true ↔ IsNonce value :=
  isRawBase64_iff

theorem isSome_parseUTCTime_iff :
    (parseUTCTime value).isSome = true ↔ IsInstant value := by
  unfold parseUTCTime parseTimestamp IsInstant
  cases matchTimestamp (codes value) with
  | none => simp
  | some t => simp [Timestamp.dateExists]

/-! ## Zero bytes -/

theorem zero_mem_codes : 0 ∈ value ↔ 0 ∈ codes value := by
  simp only [codes, List.mem_map]
  constructor
  · intro h
    exact ⟨0, h, rfl⟩
  · rintro ⟨b, hb, hzero⟩
    obtain rfl : b = 0 := UInt8.toNat.inj hzero
    exact hb

theorem zero_not_mem_of_id (h : idPattern (codes value) = true) : 0 ∉ value :=
  fun hzero => zero_not_mem_of_idPattern h (zero_mem_codes.mp hzero)

theorem IsNonce.zero_not_mem (h : IsNonce value) : 0 ∉ value :=
  fun hzero => zero_not_mem_of_isRawBase64 (isRawBase64_iff.mpr h) (zero_mem_codes.mp hzero)

theorem IsInstant.zero_not_mem (h : IsInstant value) : 0 ∉ value := by
  obtain ⟨t, ht, -⟩ := h
  exact fun hzero => zero_not_mem_of_matchTimestamp ht (zero_mem_codes.mp hzero)

/-- Strings without zero bytes are found again in what joins them. -/
theorem intercalate_injective {xs ys : List Bytes} (hxs : ∀ x ∈ xs, (0 : UInt8) ∉ x)
    (hys : ∀ y ∈ ys, (0 : UInt8) ∉ y) (hxs_ne : xs ≠ []) (hys_ne : ys ≠ [])
    (h : [0].intercalate xs = [0].intercalate ys) : xs = ys := by
  rw [← List.splitOn_intercalate 0 hxs hxs_ne, h, List.splitOn_intercalate 0 hys hys_ne]

/-! ## The parts of a transcript -/

theorem transcriptFor_eq_some_iff {domain : String} {components : List Bytes} {valid : Bool} :
    transcriptFor domain components valid = some transcript ↔
      valid = true ∧ transcript = [0].intercalate (ascii domain :: components) := by
  cases valid with
  | false => simp [transcriptFor]
  | true => simp [transcriptFor, eq_comm]

/-- The domain and the components of an authentication. -/
def authParts (hello : ClientHello) (challenge : ServerChallenge) : List Bytes :=
  [ascii "HXT1-AUTH", challenge.sessionID, hello.deviceID, hello.authorizationID, hello.tokenID,
    hello.clientNonce, challenge.serverNonce]

/-- The domain and the components of a resume. -/
def resumeParts (resume : ResumeSession) : List Bytes :=
  [ascii "HXT1-RESUME", resume.deviceID, resume.authorizationID, resume.tokenID, resume.sessionID,
    resume.resumeNonce, resume.resumeChallenge, resume.issuedAt]

theorem authTranscript_eq_some_iff :
    authTranscript hello challenge = some transcript ↔
      AuthValid hello challenge ∧ transcript = [0].intercalate (authParts hello challenge) := by
  simp only [authTranscript, transcriptFor_eq_some_iff, Bool.and_eq_true,
    validateRawBase64Length_iff, validateID, authParts]
  constructor
  · rintro ⟨⟨⟨⟨⟨⟨hs, hd⟩, ha⟩, ht⟩, hc⟩, hn⟩, h⟩
    exact ⟨⟨hs, hd, ha, ht, hc, hn⟩, h⟩
  · rintro ⟨⟨hs, hd, ha, ht, hc, hn⟩, h⟩
    exact ⟨⟨⟨⟨⟨⟨hs, hd⟩, ha⟩, ht⟩, hc⟩, hn⟩, h⟩

theorem resumeTranscript_eq_some_iff :
    resumeTranscript resume = some transcript ↔
      ResumeValid resume ∧ transcript = [0].intercalate (resumeParts resume) := by
  simp only [resumeTranscript, transcriptFor_eq_some_iff, Bool.and_eq_true,
    validateRawBase64Length_iff, validateID, isSome_parseUTCTime_iff, resumeParts]
  constructor
  · rintro ⟨⟨⟨⟨⟨⟨⟨hd, ha⟩, ht⟩, hs⟩, hn⟩, hc⟩, hi⟩, h⟩
    exact ⟨⟨hd, ha, ht, hs, hn, hc, hi⟩, h⟩
  · rintro ⟨⟨hd, ha, ht, hs, hn, hc, hi⟩, h⟩
    exact ⟨⟨⟨⟨⟨⟨⟨hd, ha⟩, ht⟩, hs⟩, hn⟩, hc⟩, hi⟩, h⟩

theorem AuthValid.zero_not_mem
    (h : AuthValid hello challenge) : ∀ part ∈ authParts hello challenge, (0 : UInt8) ∉ part := by
  simp only [authParts, List.forall_mem_cons, List.not_mem_nil, false_implies, implies_true, and_true]
  exact ⟨by decide, zero_not_mem_of_id h.sessionID, zero_not_mem_of_id h.deviceID,
    zero_not_mem_of_id h.authorizationID, zero_not_mem_of_id h.tokenID,
    h.clientNonce.zero_not_mem, h.serverNonce.zero_not_mem⟩

theorem ResumeValid.zero_not_mem (h : ResumeValid resume) :
    ∀ part ∈ resumeParts resume, (0 : UInt8) ∉ part := by
  simp only [resumeParts, List.forall_mem_cons, List.not_mem_nil, false_implies, implies_true,
    and_true]
  exact ⟨by decide, zero_not_mem_of_id h.deviceID, zero_not_mem_of_id h.authorizationID,
    zero_not_mem_of_id h.tokenID, zero_not_mem_of_id h.sessionID, h.resumeNonce.zero_not_mem,
    h.resumeChallenge.zero_not_mem, h.issuedAt.zero_not_mem⟩

/-- Transcripts exist exactly for valid fields, determine them, and tell the two handshakes apart. -/
theorem transcripts_unambiguous :
    (∀ hello challenge, authTranscript hello challenge = none ↔ ¬ AuthValid hello challenge) ∧
    (∀ resume, resumeTranscript resume = none ↔ ¬ ResumeValid resume) ∧
    (∀ hello challenge hello' challenge', AuthValid hello challenge →
      authTranscript hello challenge = authTranscript hello' challenge' →
      hello = hello' ∧ challenge = challenge') ∧
    (∀ resume resume', ResumeValid resume → resumeTranscript resume = resumeTranscript resume' →
      resume = resume') ∧
    ∀ hello challenge resume transcript, authTranscript hello challenge = some transcript →
      resumeTranscript resume ≠ some transcript := by
  refine ⟨?_, ?_, ?_, ?_, ?_⟩
  · intro hello challenge
    rw [← not_iff_not, not_not, ← ne_eq, Option.ne_none_iff_exists']
    simp [authTranscript_eq_some_iff]
  · intro resume
    rw [← not_iff_not, not_not, ← ne_eq, Option.ne_none_iff_exists']
    simp [resumeTranscript_eq_some_iff]
  · intro hello challenge hello' challenge' hvalid h
    have hsome := authTranscript_eq_some_iff.mpr ⟨hvalid, rfl⟩
    rw [h] at hsome
    obtain ⟨hvalid', hjoin⟩ := authTranscript_eq_some_iff.mp hsome
    have hparts := intercalate_injective hvalid.zero_not_mem hvalid'.zero_not_mem (by simp [authParts])
      (by simp [authParts]) hjoin
    obtain ⟨deviceID, authorizationID, tokenID, clientNonce⟩ := hello
    obtain ⟨sessionID, serverNonce⟩ := challenge
    simp_all [authParts]
  · intro resume resume' hvalid h
    have hsome := resumeTranscript_eq_some_iff.mpr ⟨hvalid, rfl⟩
    rw [h] at hsome
    obtain ⟨hvalid', hjoin⟩ := resumeTranscript_eq_some_iff.mp hsome
    have hparts := intercalate_injective hvalid.zero_not_mem hvalid'.zero_not_mem
      (by simp [resumeParts]) (by simp [resumeParts]) hjoin
    obtain ⟨deviceID, authorizationID, tokenID, sessionID, resumeNonce, resumeChallenge, issuedAt⟩ :=
      resume
    simp_all [resumeParts]
  · intro hello challenge resume transcript hauth hresume
    obtain ⟨hvalid, rfl⟩ := authTranscript_eq_some_iff.mp hauth
    obtain ⟨hvalid', hjoin⟩ := resumeTranscript_eq_some_iff.mp hresume
    have hparts := intercalate_injective hvalid.zero_not_mem hvalid'.zero_not_mem (by simp [authParts])
      (by simp [resumeParts]) hjoin
    exact absurd (List.cons.inj hparts).1 (by decide)

end Hooshix.Contract.Signed
