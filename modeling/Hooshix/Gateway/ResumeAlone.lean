-- SUMMARY: resumeSession running alone.
import Hooshix.Gateway.Authority
import Hooshix.Gateway.Resume

/-! # One resume at a time

When nothing interferes, `resumeSession` decides on the state it finds: it rejects and leaves that
state as it was, it rejects and keeps the one-shot slot, or it accepts.
-/

namespace Hooshix.Gateway

open Contract Prog

/-- What `resumeSession` does with a request. -/
inductive Decision where
  /-- fails and leaves everything as before -/
  | reject (err : GoError)
  /-- fails and keeps the slot of the session it found -/
  | burn (existing : SessionRef)
  /-- goes on to replace the session -/
  | accept (existing : SessionRef) (nextChallenge : String)

def armed (s : GatewayState) (x : SessionRef) : Bool := (s.session? x).any (·.resumeArmed)

def isAuthorized (s : GatewayState) (x : SessionRef) : Bool := (s.session? x).any (·.authorized)

/-- The decision of the authority on a proof that is fresh. -/
def authorityDecision (codec : Codec) (w : World) (existing : SessionRef) (resume : ResumeSession) :
    Decision :=
  match w.metadata.authorization resume.authorizationID resume.deviceID resume.tokenID w.now with
  | .error err => .reject (.wrap "resume authorization lookup: %w" err)
  | .ok record =>
    if recordMismatch record resume then .reject (errorsNew "resume authorization mismatch")
    else if record.disabled then .reject (errorsNew "resume authorization disabled")
    else match verifyResumeSignature codec record.devicePublicKey resume with
    | some err => .reject err
    | none =>
      match w.randomBase64URL codec with
      | .error err => .reject (.wrap "generate resume challenge: %w" err)
      | .ok nextChallenge => .accept existing nextChallenge

/-- The decision on the proof itself, once the slot of the session is taken. -/
def proofDecision (codec : Codec) (limits : Limits) (w : World) (s : GatewayState)
    (existing : SessionRef) (resume : ResumeSession) : Decision :=
  if !matchResumeChallenge (((s.session? existing).map (·.resumeChallenge)).getD "")
      resume.resumeChallenge then
    .reject (.wrap "%w: resume challenge mismatch" errResumeUnavailable)
  else match resumeIssuedAt codec resume with
  | .error _ => .reject (.wrap "%w: %v" errResumeUnavailable)
  | .ok issuedAt =>
    if outsideWindow limits (w.now - issuedAt) then
      .reject (.wrap "%w: resume proof outside acceptance window" errResumeUnavailable)
    else authorityDecision codec w existing resume

def decision (codec : Codec) (limits : Limits) (w : World) (s : GatewayState) (conn : Conn)
    (resume : ResumeSession) : Decision :=
  if !isTunnelSubprotocol conn.subprotocol then .reject errResumeUnavailable
  else match s.registry.tunnelAt resume.deviceID resume.sessionID with
  | none => .reject errResumeUnavailable
  | some existing =>
    if !isAuthorized s existing || !armed s existing then .reject errResumeUnavailable
    else if subjectMismatch existing resume then .burn existing
    else proofDecision codec limits w s existing resume

/-- The state with the slot of one session taken. -/
def GatewayState.disarm (s : GatewayState) (x : SessionRef) : GatewayState :=
  s.modify x fun session => { session with resumeArmed := false }

/-- `resumeSession` without interference. -/
def execResume (codec : Codec) (limits : Limits) (w : World) (s : GatewayState) (conn : Conn)
    (inbound : Nat) (resume : ResumeSession) : GatewayState × Except GoError SessionRef :=
  exec (perform codec w) s (resumeSession codec limits conn inbound resume)

section

variable {codec : Codec} {limits : Limits} {w : World} {s : GatewayState} {conn : Conn}
  {inbound : Nat} {resume : ResumeSession} {x : SessionRef}

theorem session?_modify (f : Session → Session) :
    (s.modify x f).session? x = (s.session? x).map f := by
  simp [GatewayState.session?, GatewayState.modify]

theorem exists_of_armed (h : armed s x = true) :
    ∃ session, s.session? x = some session ∧ session.resumeArmed = true := by
  simpa [armed, Option.any_eq_true] using h

/-- Taking the slot and giving it back changes nothing. -/
theorem exec_rearm (h : armed s x = true) (err : GoError) :
    exec (perform codec w) (s.disarm x) (rearm x err) = (s, .error err) := by
  obtain ⟨session, hsession, harmed⟩ := exists_of_armed h
  have hrestore : (s.disarm x).modify x (fun session => { session with resumeArmed := true }) = s := by
    simp only [GatewayState.session?] at hsession
    simp only [GatewayState.disarm, GatewayState.modify]
    congr 1
    apply List.ext_getElem?
    intro i
    rw [List.getElem?_modify, List.getElem?_modify]
    by_cases hi : x.object = i
    · subst hi
      simp [hsession, ← harmed]
    · simp [hi]
  simp only [rearm, act_bind, done_bind, pure_eq, exec_act, exec_done, perform, hrestore]

theorem session?_disarm_challenge :
    (((s.disarm x).session? x).map (·.resumeChallenge)) =
      (s.session? x).map (·.resumeChallenge) := by
  rw [GatewayState.disarm, session?_modify, Option.map_map]
  rfl

/-- What a decision makes of the state in which the slot of `existing` is taken. -/
def Decision.outcome (codec : Codec) (w : World) (s : GatewayState) (conn : Conn) (inbound : Nat) :
    Decision → GatewayState × Except GoError SessionRef
  | .reject err => (s, .error err)
  | .burn existing => (s.disarm existing, .error (errorsNew "resume subject mismatch"))
  | .accept existing nextChallenge =>
    exec (perform codec w) (s.disarm existing)
      (replaceSession existing conn inbound nextChallenge)

theorem exec_checkProof (h : armed s x = true) :
    exec (perform codec w) (s.disarm x) (checkProof codec limits x conn inbound resume) =
      (proofDecision codec limits w s x resume).outcome codec w s conn inbound := by
  simp only [checkProof, proofDecision, authorityDecision, act_bind, done_bind, exec_act, perform,
    session?_disarm_challenge]
  split
  · exact exec_rearm h _
  rcases resumeIssuedAt codec resume with err | issuedAt
  · exact exec_rearm h _
  have hnow : (perform codec w (s.disarm x) .now).2 = w.now := rfl
  simp only [exec_act, hnow]
  split
  · exact exec_rearm h _
  simp only [exec_act, perform]
  rcases w.metadata.authorization resume.authorizationID resume.deviceID resume.tokenID w.now with
    err | record
  · exact exec_rearm h _
  simp only
  split
  · exact exec_rearm h _
  split
  · exact exec_rearm h _
  rcases verifyResumeSignature codec record.devicePublicKey resume with _ | err
  · simp only [exec_act, perform]
    rcases w.randomBase64URL codec with err | nextChallenge
    · exact exec_rearm h _
    · rfl
  · exact exec_rearm h _

/-- Without interference `resumeSession` does what its decision says. -/
theorem execResume_eq :
    execResume codec limits w s conn inbound resume =
      (decision codec limits w s conn resume).outcome codec w s conn inbound := by
  simp only [execResume, resumeSession, decision]
  split
  · rfl
  simp only [act_bind, done_bind, exec_act, perform]
  rcases s.registry.tunnelAt resume.deviceID resume.sessionID with _ | existing
  · rfl
  simp only [exec_act, perform]
  cases hauthorized : isAuthorized s existing with
  | false =>
    simp only [isAuthorized] at hauthorized
    simp [hauthorized, Decision.outcome]
  | true =>
    have hload : (s.session? existing).any (·.authorized) = true := hauthorized
    cases harmed : armed s existing with
    | false =>
      have hswap : (s.session? existing).any (·.resumeArmed) = false := harmed
      simp [hload, perform, hswap, Decision.outcome]
    | true =>
      have hswap : (s.session? existing).any (·.resumeArmed) = true := harmed
      simp only [hload, Bool.not_true, Bool.false_eq_true, if_false, exec_act, perform, hswap,
        if_true, Bool.or_self]
      split
      · rfl
      · exact exec_checkProof harmed

/-! ## What a rejected resume leaves behind -/

/-- The request names a live session whose slot is armed, but another authorization or token. -/
def burnsSlot (s : GatewayState) (conn : Conn) (resume : ResumeSession) : Bool :=
  isTunnelSubprotocol conn.subprotocol &&
    (s.registry.tunnelAt resume.deviceID resume.sessionID).any fun existing =>
      isAuthorized s existing && armed s existing && subjectMismatch existing resume

theorem proofDecision_cases :
    (∃ err, proofDecision codec limits w s x resume = .reject err) ∨
      ∃ nextChallenge, proofDecision codec limits w s x resume = .accept x nextChallenge := by
  simp only [proofDecision, authorityDecision]
  repeat' split
  all_goals
    first
      | exact .inl ⟨_, rfl⟩
      | exact .inr ⟨_, rfl⟩

/-- A decision that is not a plain rejection is about an authorized session with an armed slot. -/
theorem decision_cases :
    ((∃ err, decision codec limits w s conn resume = .reject err) ∧
        burnsSlot s conn resume = false) ∨
      ∃ existing, isAuthorized s existing = true ∧ armed s existing = true ∧
        (decision codec limits w s conn resume = .burn existing ∧
            burnsSlot s conn resume = true ∨
          ∃ nextChallenge, decision codec limits w s conn resume =
            .accept existing nextChallenge) := by
  simp only [decision, burnsSlot]
  cases isTunnelSubprotocol conn.subprotocol with
  | false => exact .inl ⟨⟨_, rfl⟩, rfl⟩
  | true =>
    cases s.registry.tunnelAt resume.deviceID resume.sessionID with
    | none => exact .inl ⟨⟨_, rfl⟩, rfl⟩
    | some existing =>
      simp only [Bool.not_true, Bool.false_eq_true, if_false, Bool.true_and, Option.any_some]
      split
      next hgone =>
        refine .inl ⟨⟨_, rfl⟩, ?_⟩
        rcases Bool.or_eq_true_iff.mp hgone with h | h <;> simp_all
      next hlive =>
        have hlive : isAuthorized s existing = true ∧ armed s existing = true := by simpa using hlive
        simp only [hlive, Bool.true_and]
        split
        next hsubject => exact .inr ⟨existing, hlive.1, hlive.2, .inl ⟨rfl, hsubject⟩⟩
        next hsubject =>
          rcases proofDecision_cases with ⟨err, herr⟩ | ⟨nextChallenge, haccept⟩
          · exact .inl ⟨⟨err, herr⟩, by simpa using hsubject⟩
          · exact .inr ⟨existing, hlive.1, hlive.2, .inr ⟨nextChallenge, haccept⟩⟩

theorem session?_disarm {session : Session} (h : s.session? x = some session) :
    (s.disarm x).session? x = some { session with resumeArmed := false } := by
  rw [GatewayState.disarm, session?_modify, h]
  rfl

theorem exists_disarmed (h : isAuthorized s x = true) :
    ∃ session, (s.disarm x).session? x = some session ∧ session.authorized = true := by
  obtain ⟨session, hsession, hauthorized⟩ := (Option.any_eq_true _ _).mp h
  exact ⟨_, session?_disarm hsession, hauthorized⟩

theorem disarm_ne (h : armed s x = true) : s.disarm x ≠ s := by
  intro heq
  obtain ⟨session, hsession, harmed⟩ := exists_of_armed h
  have hafter := session?_disarm hsession
  rw [heq, hsession] at hafter
  have hflag := congrArg Session.resumeArmed (Option.some.inj hafter)
  simp [harmed] at hflag

theorem exec_resumeInto {old : Session} {resumeChallenge : String} (hold : s.session? x = some old)
    (hauthorized : old.authorized = true) :
    exec (perform codec w) s (resumeInto x conn inbound resumeChallenge) =
      ((s.create (replacement x old conn inbound resumeChallenge)).1,
        some (s.create (replacement x old conn inbound resumeChallenge)).2) := by
  simp [resumeInto, perform, hold, hauthorized]

/-- Replacing an authorized session creates an object, whatever comes of the reply. -/
theorem exec_replaceSession_length {nextChallenge : String} (h : isAuthorized s x = true) :
    (exec (perform codec w) (s.disarm x)
      (replaceSession x conn inbound nextChallenge)).1.sessions.length = s.sessions.length + 1 := by
  obtain ⟨session, hdisarmed, hauthorized⟩ := exists_disarmed h
  have hlength : (s.disarm x).sessions.length = s.sessions.length := by
    simp [GatewayState.disarm, GatewayState.modify]
  rw [replaceSession, exec_bind, exec_resumeInto hdisarmed hauthorized]
  simp only [act_bind, done_bind, pure_eq, exec_act, perform]
  cases w.sendErr with
  | none => simp [GatewayState.create, hlength]
  | some err => simp [GatewayState.create, GatewayState.modify, perform, hlength]

/-- A resume that fails before a replacement was created leaves the Gateway exactly as it was, unless
    the request names a live session with an armed slot under a wrong authorization or token. -/
theorem rejected_unchanged_iff {s' : GatewayState} {err : GoError}
    (h : execResume codec limits w s conn inbound resume = (s', .error err))
    (hcreated : s'.sessions.length = s.sessions.length) :
    s' = s ↔ burnsSlot s conn resume = false := by
  rw [execResume_eq] at h
  rcases decision_cases with ⟨⟨err', hreject⟩, hkeeps⟩ |
    ⟨existing, hauthorized, harmed, ⟨hburn, hburns⟩ | ⟨nextChallenge, haccept⟩⟩
  · rw [hreject] at h
    cases h
    simp [hkeeps]
  · rw [hburn] at h
    cases h
    simp [hburns, disarm_ne harmed]
  · rw [haccept] at h
    have hlength : s'.sessions.length = s.sessions.length + 1 := by
      have hstate : s' = (exec (perform codec w) (s.disarm existing)
          (replaceSession existing conn inbound nextChallenge)).1 := (congrArg Prod.fst h).symm
      rw [hstate]
      exact exec_replaceSession_length hauthorized
    omega

end

/-! ## A live session and its attackers -/

open Authority (SnapshotMetadata)

/-- A codec in which every text is its own encoding and every time is the epoch. -/
def plainCodec : Codec where
  matchesID := fun _ => true
  matchesUTCTimestamp := fun _ => true
  parseRFC3339 := fun _ => .ok 0
  rawURLDecode := fun value => some value.toUTF8.toList
  rawURLEncode := fun _ => "challenge-b"
  ed25519Verify := fun _ _ _ => false

/-- A snapshot with a record for the device. -/
def deviceMetadata : SnapshotMetadata :=
  { SnapshotMetadata.new with
    authorizations := AList.insert "authorization-a"
      { record :=
          { contractVersion := 1
            authorizationID := "authorization-a"
            deviceID := "device-a"
            devicePublicKey := "key"
            tokenID := "token-a"
            tokenSHA256 := "digest"
            issuedAt := "1970-01-01T00:00:00Z"
            notBefore := "1970-01-01T00:00:00Z"
            expiresAt := "1970-01-01T00:00:01Z"
            disabled := false }
        notBefore := 0
        expiresAt := 1000000000 } ∅ }

/-- A world at the epoch without any metadata. -/
def quietWorld : World where
  now := 0
  metadata := SnapshotMetadata.new.toSource
  entropy := none
  sendErr := none
  older := fun _ _ => false
  order := []

def liveConn : Conn := { subprotocol := tunnelSubprotocolV2 }

def liveSession : Session :=
  newSession ⟨0, "device-a", "session-a", "authorization-a", "token-a"⟩ 1 liveConn 2 2
    "challenge-a" true

/-- A Gateway with one registered session. -/
def liveGateway : GatewayState where
  sessions := [liveSession]
  registry :=
    match Registry.empty.registerSession defaultLimits quietWorld.older [] liveSession.ref with
    | .ok registered => registered.registry
    | .error _ => Registry.empty

/-- A request for the live session that anybody can make who knows its IDs. -/
def forgedResume (tokenID : String) : ResumeSession where
  deviceID := "device-a"
  authorizationID := "authorization-a"
  tokenID := tokenID
  sessionID := "session-a"
  resumeNonce := ""
  resumeChallenge := "guess"
  issuedAt := ""
  signature := ""

/-- A wrong challenge under the right token is refused and costs nothing. -/
theorem wrongChallenge_unchanged :
    execResume plainCodec defaultLimits quietWorld liveGateway liveConn 1 (forgedResume "token-a") =
      (liveGateway, .error (.wrap "%w: resume challenge mismatch" errResumeUnavailable)) := by
  have herr : (execResume plainCodec defaultLimits quietWorld liveGateway liveConn 1
      (forgedResume "token-a")).2 = .error _ := rfl
  refine Prod.ext ?_ herr
  exact (rejected_unchanged_iff (Prod.ext rfl herr) rfl).mpr (by decide)

/-- A wrong token is refused too, but from then on the session cannot be resumed. -/
theorem wrongToken_burns_slot :
    ∃ s', execResume plainCodec defaultLimits quietWorld liveGateway liveConn 1
        (forgedResume "token-b") = (s', .error (errorsNew "resume subject mismatch")) ∧
      s'.sessions.length = liveGateway.sessions.length ∧
      armed liveGateway liveSession.ref = true ∧ armed s' liveSession.ref = false := by
  refine ⟨_, rfl, rfl, ?_, ?_⟩ <;> decide

end Hooshix.Gateway
