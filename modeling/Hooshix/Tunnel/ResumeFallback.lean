-- SUMMARY: Which rejected resumes are closed with TryAgainLater, and what the Agent does after one.
import Hooshix.Agent.Runner
import Hooshix.Gateway.Handshake

/-! # Falling back to the full handshake

A rejected resume should be closed with `TryAgainLater`, which makes the Agent forget the session and
start with a `client_hello`. `handleAgent` does so for errors that wrap `errResumeUnavailable` or say
that the metadata is unavailable, and reports every other rejection as a failed authentication.
-/

namespace Hooshix.Gateway

open Contract

/-- Errors that are closed with `TryAgainLater`. -/
def retryable (err : GoError) : Bool :=
  err.is .resumeUnavailable || metadataTemporarilyUnavailable err

theorem prefaceClose_code {err : GoError} :
    (prefaceClose err).code = statusTryAgainLater ↔ retryable err = true := by
  simp only [prefaceClose, retryable]
  cases metadataTemporarilyUnavailable err with
  | true => simp [Close.metadataUnavailable]
  | false =>
    cases err.is .resumeUnavailable with
    | true => simp [Close.resumeUnavailable]
    | false => simp [Close.authenticationFailed, statusPolicyViolation, statusTryAgainLater]

theorem authenticationClose_code {err : GoError} :
    (authenticationClose err).code = statusTryAgainLater ↔ retryable err = true := by
  simp only [authenticationClose, retryable]
  cases err.is .resumeUnavailable with
  | true => simp [Close.resumeUnavailable]
  | false =>
    cases metadataTemporarilyUnavailable err with
    | true => simp [Close.metadataUnavailable]
    | false => simp [Close.authenticationFailed, statusPolicyViolation, statusTryAgainLater]

@[simp] theorem retryable_unavailable : retryable errResumeUnavailable = true := rfl

@[simp] theorem retryable_text (message : String) : retryable (errorsNew message) = false := rfl

@[simp] theorem retryable_wrap (message : String) (cause : GoError) :
    retryable (.wrap message cause) = retryable cause := rfl

@[simp] theorem retryable_join_unavailable (message : String) (cause : GoError) :
    retryable (.join message errResumeUnavailable cause) = true := rfl

/-! ## The refusals that are not closed with `TryAgainLater` -/

/-- The authority has no record for the subject or a disabled one, the signature is wrong, no
    challenge can be made, or the reply cannot be sent. -/
def AuthorityRefused (codec : Codec) (w : World) (resume : ResumeSession) : Prop :=
  match w.metadata.authorization resume.authorizationID resume.deviceID resume.tokenID w.now with
  | .error err => retryable err = false
  | .ok record =>
    recordMismatch record resume = true ∨ record.disabled = true ∨
      verifyResumeSignature codec record.devicePublicKey resume ≠ none ∨
      match w.randomBase64URL codec with
      | .error err => retryable err = false
      | .ok _ => ∃ err, w.sendErr = some err ∧ retryable err = false

/-- A proof that binds the challenge and is fresh, but is refused by what comes after. -/
def ProofRefused (codec : Codec) (limits : Limits) (w : World) (s : GatewayState)
    (existing : SessionRef) (resume : ResumeSession) : Prop :=
  matchResumeChallenge (((s.session? existing).map (·.resumeChallenge)).getD "")
      resume.resumeChallenge = true ∧
    ∃ issuedAt, resumeIssuedAt codec resume = .ok issuedAt ∧
      outsideWindow limits (w.now - issuedAt) = false ∧ AuthorityRefused codec w resume

/-- The request finds its session live and armed, but for another subject or with a refused proof. -/
def ResumeRefused (codec : Codec) (limits : Limits) (w : World) (s : GatewayState) (conn : Conn)
    (resume : ResumeSession) : Prop :=
  isTunnelSubprotocol conn.subprotocol = true ∧
    ∃ existing, s.registry.tunnelAt resume.deviceID resume.sessionID = some existing ∧
      isAuthorized s existing = true ∧ armed s existing = true ∧
      (subjectMismatch existing resume = true ∨ ProofRefused codec limits w s existing resume)

section

variable {codec : Codec} {limits : Limits} {w : World} {s s' : GatewayState} {conn : Conn}
  {inbound : Nat} {resume : ResumeSession} {x : SessionRef} {err : GoError}

theorem retryable_verify {publicKey : String}
    (h : verifyResumeSignature codec publicKey resume = some err) : retryable err = false := by
  simp only [verifyResumeSignature] at h
  repeat' split at h
  all_goals
    cases h
    try rfl

/-- Once a replacement can be made, only the reply can fail. -/
theorem exec_replaceSession_result {nextChallenge : String} (h : isAuthorized s x = true) :
    (Prog.exec (perform codec w) (s.disarm x)
        (replaceSession x conn inbound nextChallenge)).2 = .error err ↔ w.sendErr = some err := by
  obtain ⟨session, hdisarmed, hauthorized⟩ := exists_disarmed h
  rw [replaceSession, Prog.exec_bind, exec_resumeInto hdisarmed hauthorized]
  simp only [Prog.act_bind, Prog.done_bind, Prog.pure_eq, Prog.exec_act, perform]
  cases w.sendErr with
  | none => simp
  | some err' => simp

theorem authorityDecision_error_iff (hauthorized : isAuthorized s x = true)
    (h : ((authorityDecision codec w x resume).outcome codec w s conn inbound).2 = .error err) :
    retryable err = false ↔ AuthorityRefused codec w resume := by
  simp only [authorityDecision, AuthorityRefused] at h ⊢
  repeat' split at h
  case h_2 =>
    have hsend : w.sendErr = some err := (exec_replaceSession_result hauthorized).mp h
    simp [*]
  -- a check that failed, with an error that is known but for that of the signature
  all_goals
    cases h
    first
      | simp [*, retryable_verify ‹_›]
      | simp [*]

/-- A proof is refused for good exactly in the cases of `ProofRefused`. -/
theorem proofDecision_error_iff (hauthorized : isAuthorized s x = true)
    (h : ((proofDecision codec limits w s x resume).outcome codec w s conn inbound).2 =
      .error err) :
    retryable err = false ↔ ProofRefused codec limits w s x resume := by
  simp only [proofDecision, ProofRefused] at h ⊢
  repeat' split at h
  case h_2.isFalse =>
    have hiff := authorityDecision_error_iff hauthorized h
    simp_all
  all_goals
    cases h
    simp_all

theorem execResume_error_iff
    (h : (execResume codec limits w s conn inbound resume).2 = .error err) :
    retryable err = false ↔ ResumeRefused codec limits w s conn resume := by
  rw [execResume_eq] at h
  simp only [decision, ResumeRefused] at h ⊢
  -- one goal for each check of `resumeSession`, in their order
  repeat' split at h
  · cases h
    simp_all
  · cases h
    simp_all
  next existing hfound hgone =>
    cases h
    have hgone : isAuthorized s existing = true → armed s existing = false := by
      simpa [imp_iff_not_or] using hgone
    simp +contextual [hfound, hgone]
  · cases h
    simp_all
  next existing hfound hlive hsubject =>
    have hlive : isAuthorized s existing = true ∧ armed s existing = true := by simpa using hlive
    have hiff := proofDecision_error_iff hlive.1 h
    simp_all

/-! ## The close of a rejected resume -/

variable {payloads : PayloadCodec} {first : Frame}

/-- The frame is not the first one, or not a session control frame. -/
def misplaced (first : Frame) : Bool :=
  first.sequence != 1 || first.kind != .control || first.streamID != 0

variable (codec w s payloads) in
theorem exec_readPreface_misplaced (h : misplaced first = true) :
    ∃ err, Prog.exec (perform codec w) s (readPreface payloads first) = (s, .error err) ∧
      retryable err = false := by
  by_cases hsequence : first.sequence = 1
  · have hplace : first.kind ≠ .control ∨ first.streamID ≠ 0 := by
      simpa [misplaced, hsequence] using h
    simp only [readPreface, acceptSequence, nextSequence, maxSequence, hsequence]
    simp [hplace]
  · simp only [readPreface, acceptSequence, nextSequence, maxSequence]
    simp [hsequence]

variable (codec w s) in
/-- A well-placed `resume_session` is decoded, or refused as an unavailable resume. -/
theorem exec_readPreface_resume (h : misplaced first = false)
    (hresume : resumeEnvelopeMessageType payloads first.payload = "resume_session") :
    (∃ err, Prog.exec (perform codec w) s (readPreface payloads first) = (s, .error err) ∧
        retryable err = true ∧
        ∀ resume, ¬ (payloads.validateControlPayload first.payload = none ∧
          payloads.unmarshalResume first.payload = .ok resume)) ∨
      ∃ resume, payloads.validateControlPayload first.payload = none ∧
        payloads.unmarshalResume first.payload = .ok resume ∧
        Prog.exec (perform codec w) s (readPreface payloads first) =
          (s, .ok (.resume 1 resume)) := by
  have hplace : first.sequence = 1 ∧ first.kind = .control ∧ first.streamID = 0 := by
    simpa [misplaced, and_assoc] using h
  obtain ⟨hsequence, hkind, hstream⟩ := hplace
  simp only [readPreface, acceptSequence, nextSequence, maxSequence, hsequence, hkind, hstream]
  rcases payloads.validateControlPayload first.payload with _ | err
  · rcases payloads.unmarshalResume first.payload with err | resume
    · exact .inl ⟨.join "%w: %w" errResumeUnavailable err, by simp [hresume], rfl, by simp⟩
    · exact .inr ⟨resume, rfl, rfl, by simp [hresume]⟩
  · exact .inl ⟨.join "%w: %w" errResumeUnavailable err, by simp [hresume], rfl, by simp⟩

end

/-- A resume that is refused without the way back to the full handshake: a frame out of place, or a
    decoded and admitted request that is refused for its subject, authority, signature or reply. -/
def RefusedOutright (codec : Codec) (payloads : PayloadCodec) (limits : Limits) (w : World)
    (s : GatewayState) (conn : Conn) (first : Frame) (admission : Admission) : Prop :=
  misplaced first = true ∨
    ∃ resume, (payloads.validateControlPayload first.payload = none ∧
        payloads.unmarshalResume first.payload = .ok resume) ∧
      admission.rate = true ∧ admission.device = true ∧
      ResumeRefused codec limits w s conn resume

section

variable {codec : Codec} {payloads : PayloadCodec} {limits : Limits} {w : World}
  {s : GatewayState} {conn : Conn} {first : Frame} {admission : Admission}
  {completeAuthentication : Nat → ClientHello → DeviceSessionAuthorization →
    GatewayProg (Except GoError SessionRef)} {close : Close}
  (hresume : resumeEnvelopeMessageType payloads first.payload = "resume_session")
  (hclosed : (handleAgent codec payloads limits w s conn first admission
    completeAuthentication).2 = .closed close)

include hresume hclosed

/-- The close of a rejected resume is `TryAgainLater` unless the resume is refused outright. -/
theorem resume_close_code :
    close.code = statusTryAgainLater ↔
      ¬ RefusedOutright codec payloads limits w s conn first admission := by
  simp only [handleAgent] at hclosed
  cases hplace : misplaced first with
  | true =>
    obtain ⟨err, hexec, hretry⟩ := exec_readPreface_misplaced codec w s payloads hplace
    simp only [hexec] at hclosed
    cases hclosed
    simp [prefaceClose_code, hretry, RefusedOutright, hplace]
  | false =>
    -- a well-placed frame either fails to decode, which is retryable, or reaches the admission checks
    rcases exec_readPreface_resume codec w s hplace hresume with
      ⟨err, hexec, hretry, hundecoded⟩ | ⟨resume, hvalid, hdecoded, hexec⟩
    · simp only [hexec] at hclosed
      cases hclosed
      have hnone : ¬ RefusedOutright codec payloads limits w s conn first admission := by
        rintro (hmisplaced | ⟨resume, hdecoded, -⟩)
        · simp [hplace] at hmisplaced
        · exact hundecoded resume hdecoded
      simp [prefaceClose_code, hretry, hnone]
    have hrefused : RefusedOutright codec payloads limits w s conn first admission ↔
        admission.rate = true ∧ admission.device = true ∧
          ResumeRefused codec limits w s conn resume := by
      simp [RefusedOutright, hplace, hvalid, hdecoded]
    simp only [hexec] at hclosed
    rw [hrefused]
    -- both limiters close with `TryAgainLater` themselves
    split at hclosed
    · cases hclosed
      simp_all
    split at hclosed
    · cases hclosed
      simp_all
    simp only [completeAuthenticationOrResume] at hclosed
    rcases hresult : Prog.exec (perform codec w) s (resumeSession codec limits conn 1 resume) with
      ⟨s', err | sess⟩
    all_goals simp only [hresult] at hclosed
    · cases hclosed
      have hiff := (execResume_error_iff (congrArg Prod.snd hresult)).symm
      simp_all [authenticationClose_code]
    · -- an accepted resume is never closed before registration
      simp only [registerAgent] at hclosed
      split at hclosed <;> cases hclosed

/-- A rejected resume is closed with `TryAgainLater` exactly when it is not refused outright, and an
    Agent whose resume was answered so opens its next attempt with a `client_hello`. -/
theorem rejected_resume_falls_back :
    (close.code = statusTryAgainLater ↔
        ¬ RefusedOutright codec payloads limits w s conn first admission) ∧
      (close.code = statusTryAgainLater →
        ∀ (agentPayloads : PayloadCodec) (runner : Agent.Runner) (attempt : Agent.Attempt)
          (sessionID resumeChallenge : String) (err : GoError),
          runner.initialFrame attempt.primary attempt.subprotocol =
            .resumeSession sessionID resumeChallenge →
          attempt.writeErr = none → attempt.reply = .error ⟨err, close.code⟩ →
          ∀ primary subprotocol,
            (runner.afterAttempt agentPayloads attempt).initialFrame primary subprotocol =
              .clientHello) := by
  refine ⟨resume_close_code hresume hclosed, ?_⟩
  intro hcode agentPayloads runner attempt sessionID resumeChallenge err hinitial hwrite hreply
  rw [hcode] at hreply
  exact Agent.Runner.initialFrame_of_forgotten
    (Agent.Runner.forgets_rejected hinitial hwrite hreply)

end

/-- Decoders for a payload that is the request `resume`. -/
def resumePayloads (resume : ResumeSession) : PayloadCodec where
  messageType := fun _ => .ok "resume_session"
  validateControlPayload := fun _ => none
  unmarshalResume := fun _ => .ok resume
  unmarshalResumed := fun _ => .error (errorsNew "not a session_resumed")
  decodeClientHello := fun _ => .error (errorsNew "not a client_hello")
  matchSessionToken := fun _ _ => false

/-- `handleAgent` of the live Gateway, with the request `resume` as the first frame. -/
def handleResume (resume : ResumeSession) : AgentOutcome :=
  (handleAgent plainCodec (resumePayloads resume) defaultLimits quietWorld liveGateway liveConn
    ⟨.control, 0, 1, []⟩ ⟨true, true⟩ fun _ _ _ => .done (.error errResumeUnavailable)).2

theorem wrongChallenge_falls_back :
    handleResume (forgedResume "token-a") = .closed .resumeUnavailable ∧
      ∀ primary subprotocol,
        (Agent.Runner.afterAttempt (resumePayloads (forgedResume "token-a"))
          ⟨⟨"session-a", "guess"⟩⟩
          { primary := true
            subprotocol := tunnelSubprotocolV2
            writeErr := none
            reply := .error ⟨errorsNew "try again later", statusTryAgainLater⟩
            handshake := .error errResumeUnavailable }).initialFrame primary subprotocol =
          .clientHello := by
  have hclosed : handleResume (forgedResume "token-a") = .closed .resumeUnavailable := by
    decide +kernel
  refine ⟨hclosed, ?_⟩
  exact (rejected_resume_falls_back rfl hclosed).2 rfl _ _ _ "session-a" "guess" _ (by decide) rfl rfl

/-- The live session's own challenge under an authorization that the metadata no longer has. The
    Agent resumes once more after the close. -/
theorem revokedResume_repeats :
    handleResume { forgedResume "token-a" with resumeChallenge := "challenge-a" } =
        .closed ⟨statusPolicyViolation, "authentication failed"⟩ ∧
      (Agent.Runner.afterAttempt (resumePayloads (forgedResume "token-a"))
        ⟨⟨"session-a", "challenge-a"⟩⟩
        { primary := true
          subprotocol := tunnelSubprotocolV2
          writeErr := none
          reply := .error ⟨errorsNew "policy violation", statusPolicyViolation⟩
          handshake := .error errResumeUnavailable }).initialFrame true tunnelSubprotocolV2 =
        .resumeSession "session-a" "challenge-a" := by
  constructor <;> decide +kernel

end Hooshix.Gateway
