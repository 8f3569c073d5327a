-- SUMMARY: The Agent's choice between resuming and a full handshake, and what it remembers for it.
import Hooshix.Contract.Control

/-! # The Runner's attempts

`Runner.authenticateOrResume` and the part of `runOnceWithDialer` that follows a successful dial. The
full handshake itself is not modelled here: its outcome is an argument.
-/

namespace Hooshix.Agent

open Contract

abbrev errResumeRejected : GoError := .sentinel .resumeRejected

/-- The session and challenge that the next attempt may resume. -/
structure ResumeState where
  sessionID : String
  challenge : String
  deriving DecidableEq, Repr

structure Runner where
  resumable : ResumeState
  deriving DecidableEq, Repr

def Runner.storeResumable (_ : Runner) (sessionID resumeChallenge : String) : Runner :=
  { resumable := { sessionID, challenge := resumeChallenge } }

/-- An error of `conn.Read` with its `websocket.CloseStatus`, which is -1 without a close frame. -/
structure ReadFailure where
  err : GoError
  closeStatus : Int
  deriving DecidableEq, Repr

/-- What an attempt needs of an established session. -/
structure AgentIdentity where
  sessionID : String
  resumeChallenge : String
  deriving DecidableEq, Repr

/-- The first frame of an attempt. -/
inductive InitialFrame where
  | clientHello
  | resumeSession (sessionID resumeChallenge : String)
  deriving DecidableEq, Repr

/-- How one attempt runs after its dial. -/
structure Attempt where
  primary : Bool
  subprotocol : String
  /-- what `randomNonce` or the write of the first frame failed with -/
  writeErr : Option GoError
  /-- the answer to a `resume_session` -/
  reply : Except ReadFailure Frame
  /-- the outcome of `authenticateAgent` -/
  handshake : Except GoError AgentIdentity

/-- The frame with which `authenticateOrResume` opens. -/
def Runner.initialFrame (runner : Runner) (primary : Bool) (subprotocol : String) : InitialFrame :=
  let resumable : ResumeState :=
    if primary && isTunnelSubprotocol subprotocol then runner.resumable else ⟨"", ""⟩
  if resumable.sessionID = "" then .clientHello
  else if resumable.challenge = "" then .clientHello
  else .resumeSession resumable.sessionID resumable.challenge

/-- The answer to a `resume_session` for the session `previous`. -/
def readResumeReply (payloads : PayloadCodec) (previous : String)
    (reply : Except ReadFailure Frame) : Except GoError AgentIdentity :=
  match reply with
  | .error failure =>
    if failure.closeStatus = statusTryAgainLater ∨ failure.err.is .resumeRejected = true then
      .error errResumeRejected
    else .error failure.err
  | .ok frame => do
    let sequence ← acceptSequence 0 frame.sequence
    if sequence ≠ 1 ∨ frame.kind ≠ .control ∨ frame.streamID ≠ 0 then
      throw (errorsNew "invalid resume reply frame")
    if let some err := payloads.validateControlPayload frame.payload then throw err
    let messageType ← payloads.messageType frame.payload
    if messageType ≠ "session_resumed" then throw errResumeRejected
    let resumed ← payloads.unmarshalResumed frame.payload
    if resumed.sessionID ≠ previous then throw (errorsNew "session_resumed ID mismatch")
    return { sessionID := previous, resumeChallenge := resumed.resumeChallenge }

def Runner.authenticateOrResume (payloads : PayloadCodec) (runner : Runner) (attempt : Attempt) :
    Except GoError AgentIdentity :=
  match runner.initialFrame attempt.primary attempt.subprotocol with
  | .clientHello => attempt.handshake
  | .resumeSession previous _ =>
    match attempt.writeErr with
    | some err => .error err
    | none => readResumeReply payloads previous attempt.reply

/-- The Runner after an attempt: a rejected resume is forgotten, a session of the primary worker is
    remembered. -/
def Runner.afterAttempt (payloads : PayloadCodec) (runner : Runner) (attempt : Attempt) : Runner :=
  match runner.authenticateOrResume payloads attempt with
  | .error err => if err.is .resumeRejected then runner.storeResumable "" "" else runner
  | .ok sess =>
    if attempt.primary then runner.storeResumable sess.sessionID sess.resumeChallenge else runner

/-- Without a remembered session every attempt starts with the full handshake. -/
theorem Runner.initialFrame_of_forgotten {runner : Runner} (h : runner.resumable = ⟨"", ""⟩)
    (primary : Bool) (subprotocol : String) :
    runner.initialFrame primary subprotocol = .clientHello := by
  simp [initialFrame, h]

/-- A resume that is answered with `TryAgainLater` is forgotten. -/
theorem Runner.forgets_rejected {payloads : PayloadCodec} {runner : Runner} {attempt : Attempt}
    {sessionID resumeChallenge : String} {err : GoError}
    (hresume : runner.initialFrame attempt.primary attempt.subprotocol =
      .resumeSession sessionID resumeChallenge)
    (hwrite : attempt.writeErr = none)
    (hreply : attempt.reply = .error ⟨err, statusTryAgainLater⟩) :
    (runner.afterAttempt payloads attempt).resumable = ⟨"", ""⟩ := by
  have hrejected : runner.authenticateOrResume payloads attempt = .error errResumeRejected := by
    simp [authenticateOrResume, hresume, hwrite, hreply, readResumeReply]
  simp [afterAttempt, hrejected, storeResumable]

end Hooshix.Agent
