-- SUMMARY: Each side of the tunnel puts at most one terminal frame of a stream on the wire.
import Hooshix.Gateway.EndFrames
import Hooshix.Agent.TerminalOnce

/-! # Terminal frames of both sides

On the Gateway the removal from the stream table lets one call through to the end of a stream. On the
Agent the terminal `Once` does, but for the answer to a half-close that is not for TCP.
-/

namespace Hooshix.Tunnel

open Gateway Agent Contract SessionStreams StepSystem

/-- In every run of a Gateway session, and in every run of an Agent session in which no half-close
    arrives for a stream that is not TCP, at most one end of each stream is on the wire. A stream for
    which the Agent has sent an error is out of its table and disconnected, as soon as the statements
    that finish it, which wait for nothing, have run. -/
theorem terminalFrames_once {flowControlled : Bool} {maxStreamsPerSession : Int} {nextID : Nat}
    (hnext : nextID < streamIDSpace) {gatewayLabels : List Label} {gateway : SessionStreams}
    (hgateway : run step
      (start flowControlled maxStreamsPerSession nextID) gatewayLabels = some gateway)
    {limits : Agent.Limits} {endpoints : List Endpoint} {agentLabels : List SessionLabel}
    {agent : ServingSession}
    (hguard : Along ServingSession.step (fun s l => s.strays l = false)
      (ServingSession.start flowControlled limits endpoints) agentLabels)
    (hagent : run ServingSession.step
      (ServingSession.start flowControlled limits endpoints) agentLabels = some agent)
    (streamID : Nat) :
    gateway.wireEnds streamID ≤ 1 ∧ agent.wireTerminals streamID ≤ 1 ∧
      ∀ (ref : Nat) (st : ServedStream), agent.streams[ref]? = some st → st.id = streamID →
        agent.errorSent streamID = true →
          (st.finishing agent.ending = false → st.registered = false ∧ st.conn ≠ .connected) ∧
          (st.finishing agent.ending = true →
            ∃ l ∈ [StreamLabel.handle, .serve, .closeConn], (st.step agent.ending l).isSome = true) := by
  have hs := ServingSession.terminalOnce_of_run hguard hagent
  refine ⟨wireEnds_le_one hnext hgateway streamID, hs.once streamID, ?_⟩
  rintro ref st hst rfl hsent
  exact ⟨hs.unserved hst hsent, ServedStream.finishing_enabled⟩

/-- A stream is opened and closed again on the Gateway. -/
def closedByGateway : List Label :=
  [.openStreamTarget false, .proceed 0, .send 0, .takeControl (errorsNew "expired"), .write .sent,
    .receive 0 none, .closeStream 1, .proceed 1, .proceed 1, .proceed 1, .send 1,
    .takeControl (errorsNew "expired"), .write .sent]

/-- The local target of the stream cannot be reached. -/
def unreachableTarget : List SessionLabel :=
  [.streamOpen 1
      { endpointID := "e", assignmentID := "a", localEndpointID := "web", requestID := "r", mode := .http },
    .stream 0 (.dial (some (errorsNew "connection refused"))), .stream 0 .serve,
    .stream 0 (.serverTerminal .sent), .stream 0 .serve, .stream 0 .serve]

theorem unreachableTarget_once :
    ∃ gateway agent,
      run step (start false 8 1) closedByGateway = some gateway ∧
      run ServingSession.step
        (ServingSession.start false defaultLimits [{ id := "web", protocol := .tcp }])
        unreachableTarget = some agent ∧
      agent.errorSent 1 = true ∧ gateway.wireEnds 1 ≤ 1 ∧ agent.wireTerminals 1 ≤ 1 ∧
      ∃ st, agent.streams[0]? = some st ∧ st.registered = false ∧ st.conn ≠ .connected := by
  have hguard : Along ServingSession.step (fun s l => s.strays l = false)
      (ServingSession.start false defaultLimits [{ id := "web", protocol := .tcp }])
      unreachableTarget := by
    decide +kernel
  have hgateway : run step (start false 8 1) closedByGateway = some _ := rfl
  have hagent : run ServingSession.step
      (ServingSession.start false defaultLimits [{ id := "web", protocol := .tcp }])
      unreachableTarget = some _ := rfl
  obtain ⟨hends, hterminals, hunserved⟩ := terminalFrames_once (by decide) hgateway hguard hagent 1
  exact ⟨_, _, hgateway, hagent, rfl, hends, hterminals, _, rfl, (hunserved 0 _ rfl rfl rfl).1 rfl⟩

/-- Two half-closes of an HTTP stream are answered by two errors, and the Agent serves the stream on. -/
theorem strayHalfClose_repeats :
    ∃ s st, run ServingSession.step
        (ServingSession.start false defaultLimits [{ id := "web", protocol := .tcp }])
        [.streamOpen 1
            { endpointID := "e", assignmentID := "a", localEndpointID := "web", requestID := "r",
              mode := .http },
          .stream 0 (.dial none), .streamHalfClose 1, .loopSend .sent, .streamHalfClose 1,
          .loopSend .sent] = some s ∧
      s.wireTerminals 1 = 2 ∧ s.errorSent 1 = true ∧ s.ending = false ∧ s.loop = .idle ∧
      s.streams = [st] ∧ st.finishing s.ending = false ∧ st.registered = true ∧ st.conn = .connected ∧
      st.server = .reading :=
  ⟨_, _, rfl, rfl, rfl, rfl, rfl, rfl, rfl, rfl, rfl, rfl⟩

end Hooshix.Tunnel
