-- SUMMARY: handleAgent from the first frame to the registered session, with every close code.
import Hooshix.Contract.Control
import Hooshix.Gateway.ResumeAlone

/-! # Agent handshakes

`handleAgent` once the first frame was read. The rate and admission limiters are asked by their
answers, and the rest of a full handshake, `completeAuthentication`, is an argument.
-/

namespace Hooshix.Gateway

open Contract GatewayProg

/-- The first frame as `readPreface` hands it on. -/
inductive Preface where
  | hello (inbound : Nat) (hello : ClientHello) (record : DeviceSessionAuthorization)
  | resume (inbound : Nat) (resume : ResumeSession)

def resumeEnvelopeMessageType (payloads : PayloadCodec) (payload : Bytes) : String :=
  match payloads.messageType payload with
  | .ok messageType => messageType
  | .error _ => ""

/-- Checks the first frame and routes it by its `message_type`. -/
def readPreface (payloads : PayloadCodec) (first : Frame) : GatewayProg (Except GoError Preface) :=
  match acceptSequence 0 first.sequence with
  | .error err => return .error err
  | .ok inbound =>
    if first.kind ≠ .control ∨ first.streamID ≠ 0 then
      return .error (errorsNew "first frame must be session control")
    else match payloads.validateControlPayload first.payload with
    | some err =>
      if resumeEnvelopeMessageType payloads first.payload = "resume_session" then
        return .error (.join "%w: %w" errResumeUnavailable err)
      else return .error err
    | none =>
      if resumeEnvelopeMessageType payloads first.payload = "resume_session" then
        match payloads.unmarshalResume first.payload with
        | .error err => return .error (.join "%w: %w" errResumeUnavailable err)
        | .ok resume => return .ok (.resume inbound resume)
      else match payloads.decodeClientHello first.payload with
      | .error err => return .error err
      | .ok hello => do
        match ← authorization hello.authorizationID hello.deviceID hello.tokenID with
        | .error err => return .error (.wrap "authorization lookup: %w" err)
        | .ok record =>
          if payloads.matchSessionToken record hello.sessionToken then
            return .ok (.hello inbound hello record)
          else return .error (errorsNew "session token mismatch")

/-- A WebSocket close. -/
structure Close where
  code : Int
  reason : String
  deriving DecidableEq, Repr

def Close.metadataUnavailable : Close := ⟨statusTryAgainLater, "authorization metadata unavailable"⟩

def Close.resumeUnavailable : Close :=
  ⟨statusTryAgainLater, "resume unavailable; reconnect with full handshake"⟩

def Close.authenticationFailed : Close := ⟨statusPolicyViolation, "authentication failed"⟩

/-- The close for an error of `readPreface`. -/
def prefaceClose (err : GoError) : Close :=
  if metadataTemporarilyUnavailable err then .metadataUnavailable
  else if err.is .resumeUnavailable then .resumeUnavailable
  else .authenticationFailed

/-- The close for an error of `completeAuthenticationOrResume`. -/
def authenticationClose (err : GoError) : Close :=
  if err.is .resumeUnavailable then .resumeUnavailable
  else if metadataTemporarilyUnavailable err then .metadataUnavailable
  else .authenticationFailed

/-- The answers of the handshake limiters. -/
structure Admission where
  rate : Bool
  device : Bool
  deriving DecidableEq, Repr

/-- How `handleAgent` ends its handshake. -/
inductive AgentOutcome where
  /-- closed before the peer was authenticated -/
  | closed (close : Close)
  /-- authenticated, but the registry had no room -/
  | unregistered (close : Close)
  | running (sess : SessionRef)
  deriving DecidableEq, Repr

variable (codec : Codec) (payloads : PayloadCodec) (limits : Limits)

def completeAuthenticationOrResume (conn : Conn)
    (completeAuthentication : Nat → ClientHello → DeviceSessionAuthorization →
      GatewayProg (Except GoError SessionRef)) : Preface → GatewayProg (Except GoError SessionRef)
  | .hello inbound hello record => completeAuthentication inbound hello record
  | .resume inbound resume => resumeSession codec limits conn inbound resume

/-- The end of `handleAgent`: the session is registered, or closed for lack of room. -/
def registerAgent (w : World) (s : GatewayState) (sess : SessionRef) :
    GatewayState × AgentOutcome :=
  match s.registry.registerSession limits w.older w.order sess with
  | .ok registered => ({ s with registry := registered.registry }, .running sess)
  | .error _ =>
    ((perform codec w s (.forceClose sess)).1,
      .unregistered ⟨statusTryAgainLater, "session capacity reached"⟩)

def handleAgent (w : World) (s : GatewayState) (conn : Conn) (first : Frame) (admission : Admission)
    (completeAuthentication : Nat → ClientHello → DeviceSessionAuthorization →
      GatewayProg (Except GoError SessionRef)) : GatewayState × AgentOutcome :=
  match Prog.exec (perform codec w) s (readPreface payloads first) with
  | (s, .error err) => (s, .closed (prefaceClose err))
  | (s, .ok preface) =>
    if !admission.rate then
      (s, .closed ⟨statusTryAgainLater, "agent handshake rate limit exceeded"⟩)
    else if !admission.device then
      (s, .closed ⟨statusTryAgainLater, "device handshake admission limit exceeded"⟩)
    else match Prog.exec (perform codec w) s
        (completeAuthenticationOrResume codec limits conn completeAuthentication preface) with
    | (s, .error err) => (s, .closed (authenticationClose err))
    | (s, .ok sess) => registerAgent codec limits w s sess

end Hooshix.Gateway
