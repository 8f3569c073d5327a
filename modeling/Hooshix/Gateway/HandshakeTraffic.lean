-- SUMMARY: handleAgent for many connections at once, with the limiters they share.
import Hooshix.Gateway.Admission
import Hooshix.Gateway.Handshake

/-! # Handshake traffic

A connection moves by the operations on what it shares with the others: the limiters, the slots, and one
by one the atomic actions of `readPreface` and of `completeAuthenticationOrResume`. What else happens to
sessions and registry, and what a session does once it runs, is a step of the environment.
-/

namespace Hooshix.Gateway

open Contract KeyedAdmissionLimiter

/-- The program and the parameters of `handleAgent`. -/
structure HandshakeEnv (R : Type) where
  codec : Codec
  payloads : PayloadCodec
  limits : Limits
  /-- `Duration.Seconds` -/
  seconds : Int → R
  completeAuthentication : Conn → Nat → ClientHello → DeviceSessionAuthorization →
    GatewayProg (Except GoError SessionRef)

/-- Where `handleAgent` is with one connection. -/
inductive AgentPhase where
  /-- answered with an HTTP error -/
  | turnedAway (status : Int)
  /-- has passed `preAuthRate` -/
  | pending
  /-- holds a handshake slot -/
  | admitted
  | reading (conn : Conn)
  | prefacing (conn : Conn) (first : Frame) (prog : GatewayProg (Except GoError Preface))
  /-- is about to ask `handshakeRate` -/
  | limiting (conn : Conn) (preface : Preface)
  /-- is about to ask `handshakeDeviceAdmission` -/
  | admitting (conn : Conn) (preface : Preface) (now : Int)
  /-- is admitted under the key `deviceID` -/
  | completing (deviceID : String) (prog : GatewayProg (Except GoError SessionRef))
  /-- has left the device's admission and still holds its slot -/
  | released (result : Except GoError SessionRef)
  /-- has left its slot -/
  | settled (result : Except GoError SessionRef)
  /-- is closed and still holds its slot -/
  | returning (close : Option Close)
  | ended (close : Option Close)
  | running (sess : SessionRef)

/-- One operation of a connection's handler. -/
inductive AgentMove where
  | connect (peer : String) (now : Int)
  | takeSlot
  /-- `websocket.Accept`; `none` when it fails -/
  | accept (conn : Option Conn)
  /-- the first `readProtocolFrame` returns -/
  | readFirst (first : Except GoError Frame)
  /-- the next atomic action of the program that runs -/
  | act (w : World)
  /-- `readPreface` returns -/
  | prefaced
  | rate (now : Int)
  | tryAcquire
  | release
  | releaseSlot
  /-- the end of the handshake, with `registerSession` -/
  | register (w : World)

/-- What the connections share. -/
structure HandshakeShared (R : Type) where
  draining : Bool
  gateway : GatewayState
  handshakeRate : TokenBucket R
  handshakeDeviceAdmission : KeyedAdmissionLimiter R
  preAuthRate : KeyedTokenBuckets R
  /-- the handshake slots that are taken -/
  slots : Nat

structure Handshakes (R : Type) where
  shared : HandshakeShared R
  conns : Table Nat AgentPhase

inductive HandshakeLabel where
  | conn (c : Nat) (move : AgentMove)
  | drain
  /-- other routines change sessions and registry -/
  | environment (gateway : GatewayState)

def Close.handshakeRate : Close := ⟨statusTryAgainLater, "agent handshake rate limit exceeded"⟩

def Close.deviceAdmission : Close :=
  ⟨statusTryAgainLater, "device handshake admission limit exceeded"⟩

/-- The key of `handshakeDeviceAdmission`: for a resume the device ID that the peer sent. -/
def resumeDeviceID : Preface → String
  | .hello _ _ record => record.deviceID
  | .resume _ resume => resume.deviceID

/-- The resources of a Gateway that has just started. -/
def newGatewayResources {R : Type} [IntCast R] (limits : Limits) (gateway : GatewayState) (now : Int) :
    HandshakeShared R where
  draining := false
  gateway := gateway
  handshakeRate := newTokenBucket limits.handshakeRatePerSecond limits.handshakeRateBurst now
  handshakeDeviceAdmission := newHardKeyedAdmissionLimiter limits.maxPendingHandshakes
    limits.handshakeRatePerSecond limits.handshakeRateBurst
  preAuthRate := newKeyedTokenBuckets limits.preAuthRatePerSecond limits.preAuthRateBurst
  slots := 0

namespace HandshakeShared

variable {R : Type} [Add R] [Sub R] [Mul R] [OfNat R 1] [LT R] [DecidableLT R]

/-- `<-gateway.handshakeSlots` -/
def leaveSlot (s : HandshakeShared R) (phase : AgentPhase) : Outcome (HandshakeShared R × AgentPhase) :=
  if s.slots = 0 then .blocked else .next ({ s with slots := s.slots - 1 }, phase)

/-- One operation of the handler that is in `phase`; a new connection is in none. -/
def move (env : HandshakeEnv R) (s : HandshakeShared R) (phase : Option AgentPhase) (m : AgentMove) :
    Outcome (HandshakeShared R × AgentPhase) :=
  match phase, m with
  | none, .connect peer now =>
    if s.draining then .next (s, .turnedAway 503)
    else match s.preAuthRate.allow env.seconds peer now with
    | (true, preAuthRate) => .next ({ s with preAuthRate }, .pending)
    | (false, preAuthRate) => .next ({ s with preAuthRate }, .turnedAway 429)
  | some .pending, .takeSlot =>
    if (s.slots : Int) < env.limits.maxPendingHandshakes then
      .next ({ s with slots := s.slots + 1 }, .admitted)
    else .next (s, .turnedAway 503)
  | some .admitted, .accept none => .next (s, .returning none)
  | some .admitted, .accept (some conn) => .next (s, .reading conn)
  | some (.reading _), .readFirst (.error err) => .next (s, .returning (some (prefaceClose err)))
  | some (.reading conn), .readFirst (.ok first) =>
    .next (s, .prefacing conn first (readPreface env.payloads first))
  | some (.prefacing conn first (.act a next)), .act w =>
    let (gateway, response) := perform env.codec w s.gateway a
    .next ({ s with gateway }, .prefacing conn first (next response))
  | some (.prefacing _ _ (.done (.error err))), .prefaced =>
    .next (s, .returning (some (prefaceClose err)))
  | some (.prefacing conn _ (.done (.ok preface))), .prefaced => .next (s, .limiting conn preface)
  | some (.limiting conn preface), .rate now =>
    match s.handshakeRate.allow env.seconds now with
    | (true, handshakeRate) => .next ({ s with handshakeRate }, .admitting conn preface now)
    | (false, handshakeRate) => .next ({ s with handshakeRate }, .returning (some .handshakeRate))
  | some (.admitting conn preface now), .tryAcquire =>
    match s.handshakeDeviceAdmission.tryAcquire env.seconds (resumeDeviceID preface) now with
    | (.accepted, handshakeDeviceAdmission) =>
      .next ({ s with handshakeDeviceAdmission },
        .completing (resumeDeviceID preface)
          (completeAuthenticationOrResume env.codec env.limits conn
            (env.completeAuthentication conn) preface))
    | (_, handshakeDeviceAdmission) =>
      .next ({ s with handshakeDeviceAdmission }, .returning (some .deviceAdmission))
  | some (.completing deviceID (.act a next)), .act w =>
    let (gateway, response) := perform env.codec w s.gateway a
    .next ({ s with gateway }, .completing deviceID (next response))
  | some (.completing deviceID (.done result)), .release =>
    (s.handshakeDeviceAdmission.release deviceID).bind fun handshakeDeviceAdmission =>
      .next ({ s with handshakeDeviceAdmission }, .released result)
  | some (.released result), .releaseSlot => s.leaveSlot (.settled result)
  | some (.returning close), .releaseSlot => s.leaveSlot (.ended close)
  | some (.settled (.error err)), .register _ => .next (s, .ended (some (authenticationClose err)))
  | some (.settled (.ok sess)), .register w =>
    match registerAgent env.codec env.limits w s.gateway sess with
    | (gateway, .running sess) => .next ({ s with gateway }, .running sess)
    | (gateway, .unregistered close) => .next ({ s with gateway }, .ended (some close))
    | (gateway, .closed close) => .next ({ s with gateway }, .ended (some close))
  | _, _ => .blocked

end HandshakeShared

namespace Handshakes

variable {R : Type} [Add R] [Sub R] [Mul R] [OfNat R 1] [LT R] [DecidableLT R]

def step (env : HandshakeEnv R) (s : Handshakes R) : HandshakeLabel → Outcome (Handshakes R)
  | .conn c m =>
    (s.shared.move env (s.conns.lookup c) m).bind fun (shared, phase) =>
      .next { shared, conns := s.conns.insert c phase }
  | .drain => .next { s with shared := { s.shared with draining := true } }
  | .environment gateway => .next { s with shared := { s.shared with gateway } }

/-- A step that is taken. -/
def step? (env : HandshakeEnv R) (s : Handshakes R) (l : HandshakeLabel) : Option (Handshakes R) :=
  (s.step env l).value?

end Handshakes

/-! ## What the connections hold -/

/-- The handshake slots that a connection holds. -/
def AgentPhase.slots : AgentPhase → Nat
  | .turnedAway _ | .pending | .settled _ | .ended _ | .running _ => 0
  | _ => 1

/-- What a connection has in flight under the device's key. -/
def AgentPhase.inFlight (key : String) : AgentPhase → Nat
  | .completing deviceID _ => if key = deviceID then 1 else 0
  | _ => 0

section Accounting

variable {R : Type} [Add R] [Sub R] [Mul R] [OfNat R 1] [LT R] [DecidableLT R] {env : HandshakeEnv R}
  {phase : Option AgentPhase} {s s' : HandshakeShared R} {m : AgentMove}

omit [Add R] [Sub R] [Mul R] [OfNat R 1] [LT R] [DecidableLT R] in
theorem HandshakeShared.leaveSlot_cases {phase phase' : AgentPhase}
    (h : s.leaveSlot phase = .next (s', phase')) :
    s.slots = s'.slots + 1 ∧ s' = { s with slots := s'.slots } ∧ phase' = phase := by
  unfold HandshakeShared.leaveSlot at h
  split at h <;> cases h
  next hpos =>
    refine ⟨?_, rfl, rfl⟩
    simp only
    omega

/-- A move takes and returns exactly what the phases before and behind it hold. -/
theorem HandshakeShared.move_holds
    {phase' : AgentPhase} (h : s.move env phase m = .next (s', phase')) :
    s'.slots + phase.elim 0 AgentPhase.slots = s.slots + phase'.slots ∧
      ∀ key, s'.handshakeDeviceAdmission.inFlight key + (phase.elim 0 (AgentPhase.inFlight key) : Nat) =
        s.handshakeDeviceAdmission.inFlight key + phase'.inFlight key := by
  unfold HandshakeShared.move at h
  split at h
  case h_11 preface now =>
    -- `tryAcquire`
    split at h
    next hacquire =>
      obtain ⟨rfl, rfl⟩ := Prod.mk.inj (Outcome.next.inj h)
      refine ⟨rfl, fun key => ?_⟩
      rw [tryAcquire_inFlight hacquire]
      by_cases heq : key = resumeDeviceID preface <;> simp [AgentPhase.inFlight, heq]
    next hrejected hacquire =>
      obtain ⟨rfl, rfl⟩ := Prod.mk.inj (Outcome.next.inj h)
      refine ⟨rfl, fun key => ?_⟩
      rw [tryAcquire_inFlight hacquire, if_neg]
      · simp [AgentPhase.inFlight]
      · exact fun haccepted => hrejected haccepted.2
  case h_13 =>
    -- `release`
    obtain ⟨limiter, hrelease, hnext⟩ := Outcome.bind_eq_next.mp h
    cases hnext
    refine ⟨rfl, fun key => ?_⟩
    rw [release_inFlight hrelease]
    simp only [AgentPhase.inFlight, Option.elim_some]
    split <;> omega
  case h_14 | h_15 =>
    obtain ⟨hslots, hs, rfl⟩ := leaveSlot_cases h
    rw [hs]
    refine ⟨?_, fun _ => rfl⟩
    simp only [AgentPhase.slots, Option.elim_some]
    omega
  all_goals
    -- the others take and return nothing, but for the slot of `takeSlot`
    repeat' split at h
    all_goals
      cases h
      try exact ⟨rfl, fun _ => rfl⟩

/-- The one operation that can stop the program. -/
theorem HandshakeShared.release_of_panics {s : HandshakeShared R}
    (h : (s.move env phase m).Panics) :
    ∃ deviceID result, phase = some (.completing deviceID (.done result)) ∧
      ∀ limiter, s.handshakeDeviceAdmission.release deviceID ≠ .next limiter := by
  unfold HandshakeShared.move at h
  split at h
  case h_13 deviceID result =>
    refine ⟨deviceID, result, rfl, ?_⟩
    intro limiter hrelease
    simp [hrelease, Outcome.bind] at h
  all_goals
    try unfold HandshakeShared.leaveSlot at h
    repeat' split at h
    all_goals exact absurd h id

namespace Handshakes

/-- The slots and the admissions that are taken are those that the connections hold. -/
structure Accounted (s : Handshakes R) : Prop where
  slots : s.shared.slots = Table.total AgentPhase.slots s.conns
  inFlight : ∀ key, s.shared.handshakeDeviceAdmission.inFlight key =
    (Table.total (AgentPhase.inFlight key) s.conns : Nat)

theorem Accounted.step {s s' : Handshakes R} {l : HandshakeLabel} (hs : s.Accounted)
    (h : s.step env l = .next s') : s'.Accounted := by
  cases l with
  | conn c m =>
    obtain ⟨⟨shared, phase⟩, hmove, hnext⟩ := Outcome.bind_eq_next.mp h
    cases hnext
    obtain ⟨hslots, hinFlight⟩ := HandshakeShared.move_holds hmove
    constructor
    · have hsum := Table.total_insert_lookup AgentPhase.slots s.conns c phase
      have hbefore := hs.slots
      simp only
      omega
    · intro key
      have hsum := Table.total_insert_lookup (AgentPhase.inFlight key) s.conns c phase
      have hbefore := hs.inFlight key
      have hkey := hinFlight key
      simp only
      omega
  | drain | environment gateway =>
    cases h
    exact ⟨hs.slots, hs.inFlight⟩

/-- No step of an accounted state returns an admission that is not held. -/
theorem Accounted.not_panics {s : Handshakes R} (hs : s.Accounted) (l : HandshakeLabel) :
    ¬ (s.step env l).Panics := by
  cases l with
  | conn c m =>
    intro hpanics
    have hmove : (s.shared.move env (s.conns.lookup c) m).Panics := by
      simp only [Handshakes.step] at hpanics
      cases hmove : s.shared.move env (s.conns.lookup c) m with
      | blocked => simp [hmove, Outcome.bind] at hpanics
      | panic message => trivial
      | next value => simp [hmove, Outcome.bind] at hpanics
    obtain ⟨deviceID, result, hphase, hrelease⟩ := HandshakeShared.release_of_panics hmove
    have hpos : 0 < s.shared.handshakeDeviceAdmission.inFlight deviceID := by
      have herase := Table.total_erase (AgentPhase.inFlight deviceID) hphase
      have hown : AgentPhase.inFlight deviceID (.completing deviceID (.done result)) = 1 := if_pos rfl
      rw [hs.inFlight deviceID]
      omega
    obtain ⟨limiter, hnext⟩ := release_of_pos hpos
    exact hrelease limiter hnext
  | drain | environment gateway => exact Outcome.not_panics_next

/-- In every run from a fresh Gateway the admissions add up, and none is returned twice. -/
theorem never_panics [IntCast R] {gateway : GatewayState} {now : Int} {labels : List HandshakeLabel}
    {s : Handshakes R}
    (hrun : StepSystem.run (step? env) ⟨newGatewayResources env.limits gateway now, ∅⟩ labels = some s)
    (l : HandshakeLabel) : s.Accounted ∧ ¬ (s.step env l).Panics := by
  have hs : s.Accounted := by
    apply StepSystem.invariant (I := Accounted) _ _ hrun
    · intro s l s' hs h
      exact hs.step (Outcome.value?_eq_some.mp h)
    · exact ⟨rfl, fun _ => rfl⟩
  exact ⟨hs, hs.not_panics l⟩

end Handshakes

end Accounting

end Hooshix.Gateway
