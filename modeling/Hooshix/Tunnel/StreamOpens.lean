-- SUMMARY: Stream opens across the tunnel.
import Hooshix.Gateway.OpenStream
import Hooshix.Agent.StreamOpen

/-! # Stream opens across the tunnel

The Agent handles the frames of the wire in order and ends the whole session when a `stream_open`
does not exceed every earlier stream ID. If every call of the Gateway queues its `stream_open` in
turn, the wire order is strictly increasing and the Agent never does. The Gateway does not enforce
the turn: a call that took the smaller ID can be overtaken between the session mutex and the queue.
-/

namespace Hooshix.Tunnel

open Contract Gateway Agent StepSystem OpenSession

/-- A Gateway session, the Agent at the other end, the number of frames it has handled, its replies
    to `stream_open` frames and the error that ended its session. -/
structure StreamOpens where
  session : OpenSession
  handled : Nat
  agent : AgentSession
  replies : List OpenReply
  ended : Option GoError
  deriving DecidableEq, Repr

namespace StreamOpens

inductive Label where
  | gateway (l : OpenSession.Label)
  /-- the Agent handles the next frame; `sendErr` is the error of the message it sends for it -/
  | handleFrame (sendErr : Option GoError)
  /-- a stream of the Agent ends -/
  | finishStream (streamID : Nat)
  deriving DecidableEq, Repr

/-- A session and an Agent on a new connection. -/
def start (session : OpenSession) (agent : AgentSession) : StreamOpens where
  session := session
  handled := 0
  agent := { agent with maxStreamID := 0, streams := [] }
  replies := []
  ended := none

/-- The Agent handles the next frame of the wire. -/
def handleFrame (t : StreamOpens) (sendErr : Option GoError) : Option StreamOpens :=
  match t.ended, t.session.wire[t.handled]? with
  | none, some ⟨streamID, .streamOpen message⟩ =>
    let result := handleStreamOpen t.agent streamID message sendErr
    some { t with
      handled := t.handled + 1
      agent := result.1
      replies := t.replies ++ [(admitStream t.agent streamID message).2]
      ended := result.2 }
  | none, some _ => some { t with handled := t.handled + 1 }
  | _, _ => none

def step (t : StreamOpens) : Label → Option StreamOpens
  | .gateway l => (t.session.step l).map fun session => { t with session }
  | .handleFrame sendErr => t.handleFrame sendErr
  | .finishStream streamID =>
    some { t with agent := { t.agent with streams := t.agent.streams.erase streamID } }

/-- The step puts a `stream_open` into the control queue ahead of one with a smaller ID. -/
def outOfTurn (t : StreamOpens) : Label → Bool
  | .gateway l => t.session.outOfTurn l
  | _ => false

/-- The session's opens are in turn and the Agent has seen the IDs of the frames it handled. -/
structure InTurn (t : StreamOpens) : Prop where
  session : t.session.InTurn
  seen : t.agent.maxStreamID = 0 ∨
    t.agent.maxStreamID ∈ opens (t.session.wire.take t.handled)
  handled_le : t.handled ≤ t.session.wire.length
  survives : ∀ reply ∈ t.replies, ∀ err, reply ≠ .fatal err

theorem InTurn.start {flowControlled : Bool} {maxStreamsPerSession : Int} {nextID : Nat}
    {agent : AgentSession} (h : nextID < streamIDSpace) :
    (start (.start flowControlled maxStreamsPerSession nextID) agent).InTurn where
  session := OpenSession.InTurn.start h
  seen := .inl rfl
  handled_le := Nat.zero_le _
  survives := by simp [StreamOpens.start]

theorem InTurn.gateway {t : StreamOpens} {l : OpenSession.Label} {session : OpenSession}
    (ht : t.InTurn) (hturn : t.session.outOfTurn l = false)
    (h : t.session.step l = some session) : InTurn { t with session } := by
  obtain ⟨suffix, hwire⟩ := OpenSession.step_wire h
  have htake : session.wire.take t.handled = t.session.wire.take t.handled := by
    rw [← hwire, List.take_append_of_le_length ht.handled_le]
  refine ⟨ht.session.step hturn h, ?_, ?_, ht.survives⟩
  · rw [htake]
    exact ht.seen
  · have hle := ht.handled_le
    simp only [← hwire, List.length_append]
    omega

/-- The next `stream_open` of a sorted wire exceeds everything the Agent has seen. -/
theorem InTurn.next_lt {t : StreamOpens} {streamID : Nat} {message : StreamOpen} (ht : t.InTurn)
    (hnext : t.session.wire[t.handled]? = some ⟨streamID, .streamOpen message⟩) :
    t.agent.maxStreamID < streamID := by
  obtain ⟨hlt, hget⟩ := List.getElem?_eq_some_iff.mp hnext
  have hsplit : t.session.wire = t.session.wire.take t.handled ++
      ⟨streamID, .streamOpen message⟩ :: t.session.wire.drop (t.handled + 1) := by
    rw [← hget, ← List.drop_eq_getElem_cons hlt, List.take_append_drop]
  have hopens : opens t.session.wire = opens (t.session.wire.take t.handled) ++
      streamID :: opens (t.session.wire.drop (t.handled + 1)) := by
    conv_lhs => rw [hsplit]
    rw [opens_append, opens_streamOpen]
  have hsorted : (opens t.session.wire).Pairwise (· < ·) :=
    (List.pairwise_append.mp ht.session.sorted).1
  rcases ht.seen with hzero | hmem
  · rw [hzero]
    refine (ht.session.allocated streamID ?_).1
    rw [sent, hopens]
    simp
  · rw [hopens, List.pairwise_append] at hsorted
    exact hsorted.2.2 _ hmem _ List.mem_cons_self

variable {t t' : StreamOpens}

theorem InTurn.handleFrame {sendErr : Option GoError} (ht : t.InTurn)
    (h : t.handleFrame sendErr = some t') : t'.InTurn := by
  unfold StreamOpens.handleFrame at h
  split at h
  next streamID message hended hnext =>
    obtain ⟨hmax, hsurvives⟩ := admitStream_of_lt message (ht.next_lt hnext)
    have hlt : t.handled < t.session.wire.length := (List.getElem?_eq_some_iff.mp hnext).1
    simp only [Option.some.injEq] at h
    subst h
    refine ⟨ht.session, .inr ?_, hlt, ?_⟩
    · simp only [handleStreamOpen_maxStreamID, hmax]
      rw [List.take_add_one, hnext]
      simp
    · exact List.forall_mem_append.mpr ⟨ht.survives, List.forall_mem_singleton.mpr hsurvives⟩
  next request _ hended hnext =>
    cases h
    have hlt : t.handled < t.session.wire.length := (List.getElem?_eq_some_iff.mp hnext).1
    refine ⟨ht.session, ?_, hlt, ht.survives⟩
    rcases ht.seen with hzero | hmem
    · exact .inl hzero
    · refine .inr ?_
      rw [List.take_add_one, opens_append]
      exact List.mem_append_left _ hmem
  next => cases h

theorem InTurn.step {l : Label} (ht : t.InTurn)
    (hturn : t.outOfTurn l = false) (h : t.step l = some t') : t'.InTurn := by
  cases l with
  | gateway l =>
    obtain ⟨session, hsession, rfl⟩ := Option.map_eq_some_iff.mp h
    exact ht.gateway hturn hsession
  | handleFrame sendErr => exact ht.handleFrame h
  | finishStream streamID =>
    cases h
    exact { ht with }

/-- In every run whose calls queue their `stream_open` in turn, the `stream_open` frames are written
    in strictly increasing stream ID order and none of them ends the Agent's session. -/
theorem opens_strictly_increasing {flowControlled : Bool} {maxStreamsPerSession : Int}
    {nextID : Nat} {agent : AgentSession} {labels : List Label} {t : StreamOpens}
    (hnextID : nextID < streamIDSpace) (hturn : Along step (fun t l => t.outOfTurn l = false)
      (start (.start flowControlled maxStreamsPerSession nextID) agent) labels)
    (hrun : run step
      (start (.start flowControlled maxStreamsPerSession nextID) agent) labels = some t) :
    (opens t.session.wire).Pairwise (· < ·) ∧
      ∀ reply ∈ t.replies, ∀ err, reply ≠ .fatal err := by
  have ht : t.InTurn := invariant_along InTurn.step (InTurn.start hnextID) hturn hrun
  exact ⟨(List.pairwise_append.mp ht.session.sorted).1, ht.survives⟩

/-- A request for a local endpoint that the Agent does not have. -/
def someOpen : StreamOpen := ⟨"endpoint", "assignment", "local", "request", .http⟩

/-- An Agent with default limits. -/
def someAgent : AgentSession := ⟨true, Agent.defaultLimits, [], 0, []⟩

/-- Two calls that take their IDs one after the other and queue in turn. -/
def inTurnRun : List Label :=
  [.gateway (.call someOpen), .gateway (.call someOpen), .gateway (.allocate 0),
    .gateway (.allocate 1), .gateway (.queueOpen 0), .gateway (.queueOpen 1),
    .gateway (.writeControl false .sent), .gateway (.writeControl false .sent),
    .handleFrame none, .handleFrame none]

theorem inTurnRun_strictly_increasing :
    ∃ t, run step (start (.start true 64 1) someAgent) inTurnRun = some t ∧
      opens t.session.wire = [1, 2] ∧ t.replies.length = 2 ∧
      (opens t.session.wire).Pairwise (· < ·) ∧
      ∀ reply ∈ t.replies, ∀ err, reply ≠ .fatal err := by
  have hturn : Along step (fun t l => t.outOfTurn l = false)
      (start (.start true 64 1) someAgent) inTurnRun := by decide
  exact ⟨_, rfl, by decide, by decide, opens_strictly_increasing (by decide) hturn rfl⟩

/-- The same two calls, the second of which reaches the queue first. -/
def overtakenRun : List Label :=
  [.gateway (.call someOpen), .gateway (.call someOpen), .gateway (.allocate 0),
    .gateway (.allocate 1), .gateway (.queueOpen 1), .gateway (.queueOpen 0),
    .gateway (.writeControl false .sent), .gateway (.writeControl false .sent),
    .handleFrame none, .handleFrame none]

/-- The wire carries ID 2 before ID 1, and the Agent ends the session. -/
theorem overtakenRun_ends_session :
    ∃ t, run step (start (.start true 64 1) someAgent) overtakenRun = some t ∧
      opens t.session.wire = [2, 1] ∧ ¬ (opens t.session.wire).Pairwise (· < ·) ∧
      t.ended = some (errorsNew "stream ID reused or out of order: 1") :=
  ⟨_, rfl, by decide, by decide, by decide⟩

end StreamOpens

end Hooshix.Tunnel
