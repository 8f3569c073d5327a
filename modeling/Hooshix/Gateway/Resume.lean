-- SUMMARY: resumeSession as a program of atomic actions.
import Hooshix.Lib.Program
import Hooshix.Gateway.Metadata
import Hooshix.Gateway.Registry

/-! # Resuming a session

`Gateway.resumeSession` and `session.resumeInto` as programs of their atomic actions: the loads,
stores and swaps of a session's atomics, the registry lookup under `gateway.mu`, and what comes from
outside the Gateway (clock, metadata, entropy, the outcome of a send).
-/

namespace Hooshix.Gateway

open Contract

abbrev errResumeUnavailable : GoError := .sentinel .resumeUnavailable

/-- What `resumeSession` uses of a WebSocket connection. -/
structure Conn where
  subprotocol : String
  deriving DecidableEq, Repr

/-- A session object. -/
structure Session where
  ref : SessionRef
  authorizationExpiresAt : Int
  supportsHalfClose : Bool
  flowControlled : Bool
  /-- the last sequence number accepted by `inbound` -/
  inbound : Nat
  outbound : Nat
  nextID : Nat
  authorized : Bool
  resumeChallenge : String
  resumeArmed : Bool
  /-- `done` is closed -/
  done : Bool
  deriving DecidableEq, Repr

/-- The session objects ever created, in the order of creation, and the registry. -/
structure GatewayState where
  sessions : List Session
  registry : Registry

namespace GatewayState

def session? (s : GatewayState) (x : SessionRef) : Option Session := s.sessions[x.object]?

def modify (s : GatewayState) (x : SessionRef) (f : Session → Session) : GatewayState :=
  { s with sessions := s.sessions.modify x.object f }

/-- Allocates a session object. -/
def create (s : GatewayState) (session : Session) : GatewayState × SessionRef :=
  let ref := { session.ref with object := s.sessions.length }
  ({ s with sessions := s.sessions ++ [{ session with ref }] }, ref)

end GatewayState

/-! ## Atomic actions -/

inductive Action where
  /-- `gateway.tunnels[deviceID][sessionID]` under `gateway.mu` -/
  | lookup (deviceID sessionID : String)
  /-- `authorized.Load()` -/
  | loadAuthorized (x : SessionRef)
  /-- `resumeArmed.CompareAndSwap(true, false)` -/
  | swapArmed (x : SessionRef)
  /-- `resumeArmed.Store(true)` -/
  | storeArmed (x : SessionRef)
  /-- `currentResumeChallenge()` -/
  | loadChallenge (x : SessionRef)
  /-- `time.Now()` -/
  | now
  /-- `metadata.Authorization` at the present time -/
  | authorization (authorizationID deviceID tokenID : String)
  | randomBase64URL (size : Nat)
  /-- `nextID` under `sess.mu`, with the fields of the session that never change -/
  | loadNextID (x : SessionRef)
  /-- the allocation at the end of `resumeInto` -/
  | create (session : Session)
  | sendControl (x : SessionRef) (message : SessionResumed)
  | forceClose (x : SessionRef)

@[reducible] def Action.Response : Action → Type
  | .lookup _ _ => Option SessionRef
  | .loadAuthorized _ => Bool
  | .swapArmed _ => Bool
  | .storeArmed _ => Unit
  | .loadChallenge _ => String
  | .now => Int
  | .authorization _ _ _ => Except GoError DeviceSessionAuthorization
  | .randomBase64URL _ => Except GoError String
  | .loadNextID _ => Option Session
  | .create _ => SessionRef
  | .sendControl _ _ => Option GoError
  | .forceClose _ => Unit

abbrev GatewayProg := Prog Action Action.Response

namespace GatewayProg

abbrev lookup (deviceID sessionID : String) : GatewayProg (Option SessionRef) :=
  .act (.lookup deviceID sessionID) .done

abbrev loadAuthorized (x : SessionRef) : GatewayProg Bool := .act (.loadAuthorized x) .done

abbrev swapArmed (x : SessionRef) : GatewayProg Bool := .act (.swapArmed x) .done

abbrev storeArmed (x : SessionRef) : GatewayProg Unit := .act (.storeArmed x) .done

abbrev loadChallenge (x : SessionRef) : GatewayProg String := .act (.loadChallenge x) .done

abbrev now : GatewayProg Int := .act .now .done

abbrev authorization (authorizationID deviceID tokenID : String) :
    GatewayProg (Except GoError DeviceSessionAuthorization) :=
  .act (.authorization authorizationID deviceID tokenID) .done

abbrev randomBase64URL (size : Nat) : GatewayProg (Except GoError String) :=
  .act (.randomBase64URL size) .done

abbrev loadNextID (x : SessionRef) : GatewayProg (Option Session) := .act (.loadNextID x) .done

abbrev create (session : Session) : GatewayProg SessionRef := .act (.create session) .done

abbrev sendControl (x : SessionRef) (message : SessionResumed) : GatewayProg (Option GoError) :=
  .act (.sendControl x message) .done

abbrev forceClose (x : SessionRef) : GatewayProg Unit := .act (.forceClose x) .done

end GatewayProg

/-- What the world outside answers while one action is performed. -/
structure World where
  now : Int
  metadata : MetadataSource
  /-- `io.ReadFull(gateway.entropy, …)`; `none` when the Gateway has no entropy source -/
  entropy : Option (Except GoError Bytes)
  sendErr : Option GoError
  /-- the race of `lastSeen` and the iteration order in `unregisterSession` -/
  older : Older
  order : List SessionRef

/-- `gateway.randomBase64URL`. -/
def World.randomBase64URL (codec : Codec) (w : World) : Except GoError String :=
  match w.entropy with
  | none => .error (errorsNew "crypto entropy source is unavailable")
  | some (.error err) => .error (.wrap "read crypto entropy: %w" err)
  | some (.ok data) => .ok (codec.rawURLEncode data)

/-- Performs one action. -/
def perform (codec : Codec) (w : World) (s : GatewayState) :
    (a : Action) → GatewayState × a.Response
  | .lookup deviceID sessionID => (s, s.registry.tunnelAt deviceID sessionID)
  | .loadAuthorized x => (s, (s.session? x).any (·.authorized))
  | .swapArmed x =>
    if (s.session? x).any (·.resumeArmed) then
      (s.modify x fun session => { session with resumeArmed := false }, true)
    else (s, false)
  | .storeArmed x => (s.modify x fun session => { session with resumeArmed := true }, ())
  | .loadChallenge x => (s, ((s.session? x).map (·.resumeChallenge)).getD "")
  | .now => (s, w.now)
  | .authorization authorizationID deviceID tokenID =>
    (s, w.metadata.authorization authorizationID deviceID tokenID w.now)
  | .randomBase64URL _ => (s, w.randomBase64URL codec)
  | .loadNextID x => (s, s.session? x)
  | .create session => s.create session
  | .sendControl _ _ => (s, w.sendErr)
  | .forceClose x =>
    ({ s.modify x (fun session => { session with done := true }) with
        registry := s.registry.unregisterSession w.older w.order x }, ())

/-! ## The programs -/

open GatewayProg

/-- A session as a full handshake creates it; an empty challenge is issued to nobody. -/
def newSession (ref : SessionRef) (authorizationExpiresAt : Int) (conn : Conn) (inbound : Nat)
    (lastOutbound : Nat) (resumeChallenge : String) (supportsHalfClose : Bool) : Session where
  ref := ref
  authorizationExpiresAt := authorizationExpiresAt
  supportsHalfClose := supportsHalfClose
  flowControlled := conn.subprotocol == tunnelSubprotocolV2
  inbound := inbound
  outbound := lastOutbound
  nextID := 1
  authorized := true
  resumeChallenge := resumeChallenge
  resumeArmed := true
  done := false

/-- The session object that takes the identity of `old` over. -/
def replacement (sess : SessionRef) (old : Session) (conn : Conn) (inbound : Nat)
    (resumeChallenge : String) : Session where
  ref := sess
  authorizationExpiresAt := old.authorizationExpiresAt
  supportsHalfClose := old.supportsHalfClose
  flowControlled := conn.subprotocol == tunnelSubprotocolV2
  inbound := inbound
  outbound := 0
  nextID := old.nextID
  authorized := true
  resumeChallenge := resumeChallenge
  resumeArmed := true
  done := false

/-- Binds the identity of `sess` to a new connection; `none` if it lost its authorization. -/
def resumeInto (sess : SessionRef) (conn : Conn) (inbound : Nat) (resumeChallenge : String) :
    GatewayProg (Option SessionRef) := do
  if !(← loadAuthorized sess) then return none
  let some old ← loadNextID sess | return none
  let resumed ← create (replacement sess old conn inbound resumeChallenge)
  return some resumed

/-- Gives the one-shot slot back and fails. -/
def rearm (existing : SessionRef) (err : GoError) : GatewayProg (Except GoError SessionRef) := do
  storeArmed existing
  return .error err

/-- The record answers for another authorization, device or token. -/
def recordMismatch (record : DeviceSessionAuthorization) (resume : ResumeSession) : Bool :=
  record.authorizationID != resume.authorizationID || record.deviceID != resume.deviceID ||
    record.tokenID != resume.tokenID

/-- The session belongs to another device, authorization or token. -/
def subjectMismatch (existing : SessionRef) (resume : ResumeSession) : Bool :=
  existing.deviceID != resume.deviceID || existing.authorizationID != resume.authorizationID ||
    existing.tokenID != resume.tokenID

/-- The proof is too old, or from the future. -/
def outsideWindow (limits : Limits) (skew : Int) : Bool :=
  skew > limits.resumeAcceptanceWindow || skew < -limits.resumeAcceptanceWindow

theorem outsideWindow_eq_false {limits : Limits} {skew : Int} :
    outsideWindow limits skew = false ↔
      -limits.resumeAcceptanceWindow ≤ skew ∧ skew ≤ limits.resumeAcceptanceWindow := by
  simp [outsideWindow, and_comm]

/-- The end of `resumeSession`, once the proof is accepted: a new session takes the identity over. -/
def replaceSession (existing : SessionRef) (conn : Conn) (inbound : Nat) (nextChallenge : String) :
    GatewayProg (Except GoError SessionRef) := do
  let some resumed ← resumeInto existing conn inbound nextChallenge
    | rearm existing errResumeUnavailable
  let resumedAt ← now
  match ← sendControl resumed
      { sessionID := resumed.sessionID, nextSequence := 2, resumedAt,
        resumeChallenge := nextChallenge } with
  | some err =>
    forceClose resumed
    return .error err
  | none => return .ok resumed

/-- The middle of `resumeSession`, once the slot of the session is taken: the proof is checked, and
    every failure gives the slot back. -/
def checkProof (codec : Codec) (limits : Limits) (existing : SessionRef) (conn : Conn)
    (inbound : Nat) (resume : ResumeSession) : GatewayProg (Except GoError SessionRef) := do
  let challenge ← loadChallenge existing
  if !matchResumeChallenge challenge resume.resumeChallenge then
    rearm existing (.wrap "%w: resume challenge mismatch" errResumeUnavailable)
  else match resumeIssuedAt codec resume with
  | .error _ => rearm existing (.wrap "%w: %v" errResumeUnavailable)
  | .ok issuedAt => do
    let skew := (← now) - issuedAt
    if outsideWindow limits skew then
      rearm existing (.wrap "%w: resume proof outside acceptance window" errResumeUnavailable)
    else match ← authorization resume.authorizationID resume.deviceID resume.tokenID with
    | .error err => rearm existing (.wrap "resume authorization lookup: %w" err)
    | .ok record =>
      if recordMismatch record resume then
        rearm existing (errorsNew "resume authorization mismatch")
      else if record.disabled then
        rearm existing (errorsNew "resume authorization disabled")
      else match verifyResumeSignature codec record.devicePublicKey resume with
      | some err => rearm existing err
      | none =>
        match ← randomBase64URL 32 with
        | .error err => rearm existing (.wrap "generate resume challenge: %w" err)
        | .ok nextChallenge => replaceSession existing conn inbound nextChallenge

/-- Checks a resume proof against the session it names and, if it holds, replaces the session. -/
def resumeSession (codec : Codec) (limits : Limits) (conn : Conn) (inbound : Nat)
    (resume : ResumeSession) : GatewayProg (Except GoError SessionRef) := do
  if !isTunnelSubprotocol conn.subprotocol then
    return .error errResumeUnavailable
  let some existing ← lookup resume.deviceID resume.sessionID
    | return .error errResumeUnavailable
  if !(← loadAuthorized existing) then
    return .error errResumeUnavailable
  if !(← swapArmed existing) then
    return .error errResumeUnavailable
  -- the only failure behind the swap that does not give the slot back
  if subjectMismatch existing resume then
    return .error (errorsNew "resume subject mismatch")
  checkProof codec limits existing conn inbound resume

end Hooshix.Gateway
