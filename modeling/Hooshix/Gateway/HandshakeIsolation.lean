-- SUMMARY: Connections without credentials leave the handshake limiters alone unless they send a resume_session.
import Hooshix.Gateway.HandshakeTraffic

/-! # Unauthenticated handshakes

A `client_hello` reaches the handshake limiters behind the check of its session token, a
`resume_session` before any check of its proof. Two runs of the same traffic, one of them with further
connections that hold no credentials, agree on both limiters as long as none of these connections
sends a `resume_session` that can be read.
-/

namespace Hooshix.Gateway

open Contract StepSystem HandshakeShared Outcome

/-! ## First frames -/

/-- The request in a first frame that `readPreface` takes for a resume. -/
def resumePreface (payloads : PayloadCodec) (first : Frame) : Option ResumeSession :=
  if first.sequence = 1 ∧ first.kind = .control ∧ first.streamID = 0 ∧
      payloads.validateControlPayload first.payload = none ∧
      resumeEnvelopeMessageType payloads first.payload = "resume_session" then
    (payloads.unmarshalResume first.payload).toOption
  else none

/-- The first frame is a `client_hello` that matches a current authorization record and token. -/
def holdsToken (payloads : PayloadCodec) (w : World) (first : Frame) : Bool :=
  match payloads.decodeClientHello first.payload with
  | .error _ => false
  | .ok hello =>
    match w.metadata.authorization hello.authorizationID hello.deviceID hello.tokenID w.now with
    | .error _ => false
    | .ok record => payloads.matchSessionToken record hello.sessionToken

theorem sequence_of_accept {sequence inbound : Nat} (h : acceptSequence 0 sequence = .ok inbound) :
    sequence = 1 := by
  have hnext : nextSequence 0 = some 1 := rfl
  simp only [acceptSequence, hnext] at h
  split at h
  · cases h
  next heq => simpa using heq

/-- `readPreface` fails, reads a resume, or looks the record of a `client_hello` up. -/
theorem readPreface_cases (payloads : PayloadCodec) (first : Frame) :
    (∃ err, readPreface payloads first = .done (.error err)) ∨
      (∃ inbound resume, readPreface payloads first = .done (.ok (.resume inbound resume)) ∧
        resumePreface payloads first = some resume) ∨
      ∃ (hello : ClientHello) (next : Except GoError DeviceSessionAuthorization →
          GatewayProg (Except GoError Preface)),
        readPreface payloads first =
          .act (.authorization hello.authorizationID hello.deviceID hello.tokenID) next ∧
        ∀ w, holdsToken payloads w first = false → ∃ err,
          next (w.metadata.authorization hello.authorizationID hello.deviceID hello.tokenID w.now) =
            .done (.error err) := by
  unfold readPreface
  repeat' split
  all_goals try exact .inl ⟨_, rfl⟩
  next inbound hsequence hplace _ hvalid hresume _ resume hdecoded =>
    refine .inr (.inl ⟨inbound, resume, rfl, ?_⟩)
    have hcontrol : first.kind = .control ∧ first.streamID = 0 := by simpa using hplace
    rw [resumePreface, if_pos ⟨sequence_of_accept hsequence, hcontrol.1, hcontrol.2, hvalid, hresume⟩,
      hdecoded]
    rfl
  next hello hdecoded =>
    refine .inr (.inr ⟨hello, _, rfl, ?_⟩)
    intro w htoken
    simp only [holdsToken, hdecoded] at htoken
    split at htoken
    next err hlookup => exact ⟨_, by rw [hlookup]; rfl⟩
    next record hlookup =>
      rw [hlookup]
      exact ⟨errorsNew "session token mismatch", if_neg (by simp [htoken])⟩

/-! ## Connections without credentials -/

/-- A connection that has not got behind `readPreface`, and will not. -/
def AgentPhase.Outside (payloads : PayloadCodec) : AgentPhase → Prop
  | .prefacing _ first prog => resumePreface payloads first = none ∧
    (prog = readPreface payloads first ∨ ∃ err, prog = .done (.error err))
  | .turnedAway _ | .pending | .admitted | .reading _ | .returning _ | .ended _ => True
  | _ => False

def AgentPhase.isTurnedAway : AgentPhase → Bool
  | .turnedAway _ => true
  | _ => false

/-- The states differ in the limiters that come before a handshake only. -/
def HandshakeShared.Agrees {R : Type} (s t : HandshakeShared R) : Prop :=
  t = { s with preAuthRate := t.preAuthRate, slots := t.slots }

/-- The connection is where it is in the other run, or one of the two runs has turned it away. -/
def Alike (p q : Option AgentPhase) : Prop :=
  p = q ∨ p.any AgentPhase.isTurnedAway = true ∨ q.any AgentPhase.isTurnedAway = true

section Moves

variable {R : Type} [Add R] [Sub R] [Mul R] [OfNat R 1] [LT R] [DecidableLT R] {env : HandshakeEnv R}
  {s s' t t' : HandshakeShared R} {phase : Option AgentPhase} {m : AgentMove}

/-- What the peer of a connection may not send in a move, if it holds no credentials and is to leave
    the limiters alone. -/
def AgentMove.presents (payloads : PayloadCodec) (phase : Option AgentPhase) : AgentMove → Bool
  | .readFirst (.ok first) => (resumePreface payloads first).isSome
  | .act w =>
    match phase with
    | some (.prefacing _ first _) => holdsToken payloads w first
    | _ => false
  | _ => false

/-- A connection without credentials stays outside and touches none of the handshake limiters. -/
theorem HandshakeShared.move_outside {phase' : AgentPhase}
    (hphase : ∀ p, phase = some p → p.Outside env.payloads)
    (hguard : m.presents env.payloads phase = false) (h : s.move env phase m = .next (s', phase')) :
    s.Agrees s' ∧ phase'.Outside env.payloads := by
  unfold move at h
  split at h
  case h_6 first =>
    cases h
    exact ⟨rfl, by simpa [AgentMove.presents] using hguard, .inl rfl⟩
  case h_7 conn first a next w =>
    -- the only action of `readPreface` is the lookup of the record
    obtain ⟨hresume, hprog | ⟨err, herr⟩⟩ := hphase _ rfl
    · rcases readPreface_cases env.payloads first with
        ⟨err, hdone⟩ | ⟨_, _, hdone, -⟩ | ⟨hello, next', hact, hnext⟩
      case inl | inr.inl =>
        rw [hdone] at hprog
        cases hprog
      · rw [hact] at hprog
        cases hprog
        obtain ⟨rfl, rfl⟩ := Prod.mk.inj (next.inj h)
        exact ⟨rfl, hresume, .inr (hnext w hguard)⟩
    · cases herr
  case h_9 conn first preface =>
    -- `readPreface` has not succeeded
    obtain ⟨hresume, hprog | ⟨err, herr⟩⟩ := hphase _ rfl
    · rcases readPreface_cases env.payloads first with ⟨err, hdone⟩ | ⟨_, _, -, hsome⟩ | ⟨_, _, hact, -⟩
      · rw [hdone] at hprog
        cases hprog
      · simp [hresume] at hsome
      · rw [hact] at hprog
        cases hprog
    · cases herr
  case h_10 | h_11 | h_12 | h_13 | h_14 | h_16 | h_17 => exact (hphase _ rfl).elim
  case h_15 =>
    obtain ⟨-, hs, rfl⟩ := leaveSlot_cases h
    exact ⟨by rw [Agrees, hs], trivial⟩
  all_goals
    repeat' split at h
    all_goals
      cases h
      try exact ⟨rfl, trivial⟩

/-- Behind its slot a connection does not look at what comes before the handshake. -/
theorem HandshakeShared.move_frame {p : AgentPhase}
    (preAuthRate : KeyedTokenBuckets R) (slots : Nat) (hnew : phase ≠ none)
    (hpending : phase ≠ some .pending) (hslot : m ≠ .releaseSlot)
    (h : s.move env phase m = .next (s', p)) :
    { s with preAuthRate, slots }.move env phase m = .next ({ s' with preAuthRate, slots }, p) := by
  unfold move at h ⊢
  split at h
  case h_13 =>
    -- `release`
    obtain ⟨limiter, hrelease, hnext⟩ := bind_eq_next.mp h
    cases hnext
    exact bind_eq_next.mpr ⟨limiter, hrelease, rfl⟩
  case h_1 => exact absurd rfl hnew
  case h_2 => exact absurd rfl hpending
  case h_14 | h_15 => exact absurd rfl hslot
  all_goals
    repeat' split at h
    all_goals
      cases h
      try simp only [*]

omit [Add R] [Sub R] [Mul R] [OfNat R 1] [LT R] [DecidableLT R] in
theorem HandshakeShared.Agrees.leaveSlot {phase p q : AgentPhase} (hst : s.Agrees t)
    (h : s.leaveSlot phase = .next (s', p)) (h' : t.leaveSlot phase = .next (t', q)) :
    s'.Agrees t' ∧ Alike (some p) (some q) := by
  obtain ⟨-, hs, rfl⟩ := leaveSlot_cases h
  obtain ⟨-, ht, rfl⟩ := leaveSlot_cases h'
  refine ⟨?_, .inl rfl⟩
  rw [Agrees, hs, ht, hst]

/-- The same move of a connection keeps two such states alike. -/
theorem HandshakeShared.Agrees.move {p q : AgentPhase} (hst : s.Agrees t)
    (h : s.move env phase m = .next (s', p)) (h' : t.move env phase m = .next (t', q)) :
    s'.Agrees t' ∧ Alike (some p) (some q) := by
  obtain ⟨preAuthRate, slots, rfl⟩ : ∃ preAuthRate slots, t = { s with preAuthRate, slots } := ⟨_, _, hst⟩
  cases phase with
  | none =>
    cases m with
    | connect peer now =>
      -- `preAuthRate` may answer differently
      simp only [move] at h h'
      split at h
      next hdraining =>
        rw [if_pos hdraining] at h'
        cases h
        cases h'
        exact ⟨rfl, .inl rfl⟩
      next hdraining =>
        rw [if_neg hdraining] at h'
        split at h <;> split at h'
        all_goals
          obtain ⟨rfl, rfl⟩ := Prod.mk.inj (next.inj h)
          obtain ⟨rfl, rfl⟩ := Prod.mk.inj (next.inj h')
        · exact ⟨rfl, .inl rfl⟩
        · exact ⟨rfl, .inr (.inr rfl)⟩
        · exact ⟨rfl, .inr (.inl rfl)⟩
        · exact ⟨rfl, .inl rfl⟩
    | _ => cases h
  | some phase =>
    by_cases hpending : phase = .pending
    · subst hpending
      cases m with
      | takeSlot =>
        -- a slot may be free in one of them only
        simp only [move] at h h'
        split at h <;> split at h' <;> cases h <;> cases h'
        · exact ⟨rfl, .inl rfl⟩
        · exact ⟨rfl, .inr (.inr rfl)⟩
        · exact ⟨rfl, .inr (.inl rfl)⟩
        · exact ⟨rfl, .inl rfl⟩
      | _ => cases h
    by_cases hslot : m = .releaseSlot
    · subst hslot
      cases phase with
      | released result => exact hst.leaveSlot h h'
      | returning close => exact hst.leaveSlot h h'
      | _ => simp [move] at h
    · rw [move_frame preAuthRate slots (by simp) (by simpa using hpending) hslot h] at h'
      cases h'
      exact ⟨rfl, .inl rfl⟩

end Moves

/-! ## Two runs -/

/-- The steps of the connections that are in both runs, and of the environment. -/
def HandshakeLabel.inBoth (extra : Nat → Bool) : HandshakeLabel → Bool
  | .conn c _ => !extra c
  | _ => true

namespace Handshakes

variable {R : Type}

/-- A further connection presents a token, or a resume that can be read. -/
def presents (payloads : PayloadCodec) (extra : Nat → Bool) (s : Handshakes R) : HandshakeLabel → Bool
  | .conn c m => extra c && m.presents payloads (s.conns.lookup c)
  | _ => false

/-- The run with the further connections is `s`, the one without them `t`. -/
structure Isolated (payloads : PayloadCodec) (extra : Nat → Bool) (s t : Handshakes R) : Prop where
  shared : s.shared.Agrees t.shared
  conns : Table.Joint extra Alike (·.Outside payloads) s.conns t.conns

variable [Add R] [Sub R] [Mul R] [OfNat R 1] [LT R] [DecidableLT R] {env : HandshakeEnv R}
  {extra : Nat → Bool} {s s' t t' : Handshakes R} {l : HandshakeLabel} {m : AgentMove}

theorem step_conn_cases {c : Nat} (h : s.step? env (.conn c m) = some s') :
    ∃ shared phase, s.shared.move env (s.conns.lookup c) m = .next (shared, phase) ∧
      s' = { shared, conns := s.conns.insert c phase } := by
  obtain ⟨⟨shared, phase⟩, hmove, hnext⟩ := bind_eq_next.mp (value?_eq_some.mp h)
  cases hnext
  exact ⟨shared, phase, hmove, rfl⟩

/-- A connection that is turned away takes no further step. -/
theorem not_turnedAway {shared : HandshakeShared R} {phase : Option AgentPhase}
    {result : HandshakeShared R × AgentPhase} (h : shared.move env phase m = .next result) :
    phase.any AgentPhase.isTurnedAway ≠ true := by
  intro hturned
  cases phase with
  | none => cases hturned
  | some p =>
    cases p with
    | turnedAway status => cases h
    | _ => cases hturned

theorem Isolated.hidden (hst : s.Isolated env.payloads extra t)
    (hguard : s.presents env.payloads extra l = false) (hextra : l.inBoth extra = false)
    (h : s.step? env l = some s') : s'.Isolated env.payloads extra t := by
  cases l with
  | conn c m =>
    have hc : extra c = true := by simpa [HandshakeLabel.inBoth] using hextra
    obtain ⟨shared, phase, hmove, rfl⟩ := step_conn_cases h
    obtain ⟨hagrees, hphase⟩ := move_outside (fun p hp => hst.conns.outside c p hc hp)
      (by simpa [presents, hc] using hguard) hmove
    refine ⟨?_, hst.conns.insert_extra hc hphase⟩
    have hbefore := hst.shared
    rw [Agrees] at hagrees hbefore ⊢
    rw [hagrees]
    exact hbefore
  | drain => cases hextra
  | environment gateway => cases hextra

theorem Isolated.both (hst : s.Isolated env.payloads extra t)
    (hboth : l.inBoth extra = true) (h : s.step? env l = some s') (h' : t.step? env l = some t') :
    s'.Isolated env.payloads extra t' := by
  cases l with
  | conn c m =>
    have hc : extra c = false := by simpa [HandshakeLabel.inBoth] using hboth
    obtain ⟨shared, p, hmove, rfl⟩ := step_conn_cases h
    obtain ⟨shared', q, hmove', rfl⟩ := step_conn_cases h'
    have hphase : s.conns.lookup c = t.conns.lookup c := by
      rcases hst.conns.alike c hc with hsame | hturned | hturned
      · exact hsame
      · exact absurd hturned (not_turnedAway hmove)
      · exact absurd hturned (not_turnedAway hmove')
    rw [← hphase] at hmove'
    obtain ⟨hagrees, halike⟩ := hst.shared.move hmove hmove'
    exact ⟨hagrees, hst.conns.insert hc halike⟩
  | drain | environment gateway =>
    cases h
    cases h'
    refine ⟨?_, hst.conns⟩
    have hbefore := hst.shared
    rw [Agrees] at hbefore ⊢
    rw [hbefore]

/-- Whatever further connections do whose peers have no credentials and send no `resume_session` that
    can be read, from every state the two runs end with the same handshake limiters. Each of the other
    connections is where it is in the other run, unless it was turned away before its handshake. -/
theorem unauthenticated_spends_nothing {s : Handshakes R}
    (hnew : ∀ c, extra c = true → s.conns.lookup c = none) {labels : List HandshakeLabel}
    (hguard : Along (step? env) (fun s l => s.presents env.payloads extra l = false) s labels)
    {attacked alone : Handshakes R} (hrun : run (step? env) s labels = some attacked)
    (hpurged : run (step? env) s (labels.filter (·.inBoth extra)) = some alone) :
    attacked.shared.handshakeRate = alone.shared.handshakeRate ∧
      attacked.shared.handshakeDeviceAdmission = alone.shared.handshakeDeviceAdmission ∧
      ∀ c, extra c = false → Alike (attacked.conns.lookup c) (alone.conns.lookup c) := by
  have hstart : s.Isolated env.payloads extra s := ⟨rfl, .refl (fun _ => .inl rfl) hnew⟩
  have hend : attacked.Isolated env.payloads extra alone := by
    apply purge_along _ _ hstart hguard hrun hpurged
    · intro s t l s' hst hguard hextra h
      exact hst.hidden hguard hextra h
    · intro s t l s' t' hst _ hboth h h'
      exact hst.both hboth h h'
  have hshared := hend.shared
  rw [Agrees] at hshared
  rw [hshared]
  exact ⟨rfl, rfl, hend.conns.alike⟩

/-! ## A device and its neighbours -/

/-- A Gateway that lets one handshake pass at a time. The payload `[1]` is the `client_hello` of a
    device, `[2]` the same with a wrong token, and every other one a resume of a session that does
    not exist. -/
def smallEnv : HandshakeEnv Int where
  codec := plainCodec
  payloads :=
    { messageType := fun payload =>
        .ok (if payload = [1] ∨ payload = [2] then "client_hello" else "resume_session")
      validateControlPayload := fun _ => none
      unmarshalResume := fun _ => .ok { forgedResume "token-a" with sessionID := "session-b" }
      unmarshalResumed := fun _ => .error (errorsNew "not a session_resumed")
      decodeClientHello := fun payload =>
        .ok ⟨"device-a", "authorization-a", "token-a", if payload = [1] then "token" else "guess", "nonce"⟩
      matchSessionToken := fun _ sessionToken => sessionToken = "token" }
  limits := { defaultLimits with handshakeRatePerSecond := 1, handshakeRateBurst := 1 }
  seconds := fun duration => duration / 1000000000
  completeAuthentication := fun _ _ _ _ => .done (.error (errorsNew "context deadline exceeded"))

/-- A world that holds a record for the device. -/
def recordWorld : World :=
  { quietWorld with metadata := deviceMetadata.toSource }

/-- Connection `c` up to its first frame. -/
def firstFrame (c : Nat) (payload : Bytes) : List HandshakeLabel :=
  [.conn c (.connect "198.51.100.7" 0), .conn c .takeSlot, .conn c (.accept (some liveConn)),
    .conn c (.readFirst (.ok ⟨.control, 0, 1, payload⟩))]

/-- Connection `1` fails for its token, then the device gets as far as `handshakeRate`. -/
def wrongToken : List HandshakeLabel :=
  firstFrame 1 [2] ++ [.conn 1 (.act recordWorld), .conn 1 .prefaced, .conn 1 .releaseSlot] ++
    firstFrame 0 [1] ++ [.conn 0 (.act recordWorld), .conn 0 .prefaced, .conn 0 (.rate 0)]

/-- The state of the Gateway before. -/
def quietHandshakes : Handshakes Int :=
  ⟨newGatewayResources smallEnv.limits liveGateway 0, ∅⟩

theorem wrongToken_spends_nothing :
    ∃ attacked alone, run (step? smallEnv) quietHandshakes wrongToken = some attacked ∧
      run (step? smallEnv) quietHandshakes
        (wrongToken.filter (·.inBoth (· == 1))) = some alone ∧
      attacked.conns.lookup 1 = some (.ended (some .authenticationFailed)) ∧
      attacked.shared.handshakeRate = alone.shared.handshakeRate ∧
      attacked.shared.handshakeDeviceAdmission = alone.shared.handshakeDeviceAdmission := by
  have hguard : Along (step? smallEnv)
      (fun s l => s.presents smallEnv.payloads (· == 1) l = false) quietHandshakes wrongToken := by
    decide +kernel
  have hrun : run (step? smallEnv) quietHandshakes wrongToken = some _ := rfl
  have hpurged : run (step? smallEnv) quietHandshakes
      (wrongToken.filter (·.inBoth (· == 1))) = some _ := rfl
  obtain ⟨hrate, hdevice, -⟩ :=
    unauthenticated_spends_nothing (fun _ _ => rfl) hguard hrun hpurged
  exact ⟨_, _, hrun, hpurged, rfl, hrate, hdevice⟩

/-- Connection `1` has failed to resume a session that does not exist, and still holds its admission. -/
def heldAdmission : List HandshakeLabel :=
  firstFrame 1 [3] ++
    [.conn 1 .prefaced, .conn 1 (.rate 0), .conn 1 .tryAcquire, .conn 1 (.act quietWorld)]

/-- It returns, then the device comes. -/
def unknownSession : List HandshakeLabel :=
  heldAdmission ++
    [.conn 1 .release, .conn 1 .releaseSlot, .conn 1 (.register quietWorld)] ++
    firstFrame 0 [1] ++ [.conn 0 (.act recordWorld), .conn 0 .prefaced, .conn 0 (.rate 0)]

/-- The resume fails, but it has spent the token that the device needs, and a state under the
    device's ID is left behind. -/
theorem unknownSession_spends :
    ∃ attacked alone conn preface,
      run (step? smallEnv) quietHandshakes unknownSession = some attacked ∧
      run (step? smallEnv) quietHandshakes
        (unknownSession.filter (·.inBoth (· == 1))) = some alone ∧
      attacked.conns.lookup 1 = some (.ended (some .resumeUnavailable)) ∧
      attacked.conns.lookup 0 = some (.returning (some .handshakeRate)) ∧
      alone.conns.lookup 0 = some (.admitting conn preface 0) ∧
      (attacked.shared.handshakeDeviceAdmission.states.lookup "device-a").isSome = true ∧
      (alone.shared.handshakeDeviceAdmission.states.lookup "device-a").isSome = false :=
  ⟨_, _, _, _, rfl, rfl, rfl, rfl, rfl, rfl, rfl⟩

theorem never_panics_heldAdmission : ∃ s,
    run (step? smallEnv) quietHandshakes heldAdmission = some s ∧
      (step? smallEnv s (.conn 1 .release)).isSome = true ∧ s.Accounted ∧
      ¬ (s.step smallEnv (.conn 1 .release)).Panics :=
  have hrun : run (step? smallEnv) quietHandshakes heldAdmission = some _ := rfl
  ⟨_, hrun, rfl, never_panics hrun _⟩

end Handshakes

end Hooshix.Gateway
