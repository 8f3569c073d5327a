-- SUMMARY: Frames, sequence tracking and the decoding of the control messages of a handshake.
import Hooshix.Contract.Resume

/-! # Handshake frames

The frames both parties exchange before a session runs. JSON is a library: what the contract's
decoders make of a payload is a parameter.
-/

namespace Hooshix.Contract

inductive FrameKind where
  | control
  | data
  deriving DecidableEq, Repr

structure Frame where
  kind : FrameKind
  streamID : Nat
  sequence : Nat
  payload : Bytes
  deriving DecidableEq, Repr

structure ClientHello where
  deviceID : String
  authorizationID : String
  tokenID : String
  sessionToken : String
  clientNonce : String
  deriving DecidableEq, Repr

/-- The decoders of control payloads. -/
structure PayloadCodec where
  /-- the member `message_type`, read with `json.Unmarshal` -/
  messageType : Bytes → Except GoError String
  /-- `ValidateControlPayload` for a session frame -/
  validateControlPayload : Bytes → Option GoError
  unmarshalResume : Bytes → Except GoError ResumeSession
  unmarshalResumed : Bytes → Except GoError SessionResumed
  decodeClientHello : Bytes → Except GoError ClientHello
  matchSessionToken : DeviceSessionAuthorization → String → Bool

/-- `SequenceTracker.Accept` after the sequence number `last`. -/
def acceptSequence (last sequence : Nat) : Except GoError Nat :=
  match nextSequence last with
  | none =>
    .error (errorsNew "sequence space exhausted; session must terminate before wrap")
  | some expected =>
    if sequence ≠ expected then
      .error (errorsNew s!"non-contiguous sequence: got={sequence} expected={expected} last={last}")
    else .ok sequence

/-- WebSocket `StatusTryAgainLater`. -/
def statusTryAgainLater : Int := 1013

/-- WebSocket `StatusPolicyViolation`. -/
def statusPolicyViolation : Int := 1008

end Hooshix.Contract
