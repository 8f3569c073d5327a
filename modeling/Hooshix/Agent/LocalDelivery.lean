-- SUMMARY: What an Agent stream writes to its local connection, compared with what it accepted.
import Hooshix.Lib.Pipe
import Hooshix.Agent.Stream

/-! # Local delivery

The local connection should see the accepted payloads in order and without a gap. `finishStream`
throws queued payloads away while `writeLocal` still receives from the same channel, so this holds
exactly as long as `writeLocal` writes no payload it received behind a discarded one.
-/

namespace Hooshix.Agent

open Contract StepSystem AgentStream LocalWriter

/-- The bytes the writer received and has not written. -/
def LocalWriter.hand : LocalWriter → Bytes
  | .writing _ rest _ => rest
  | _ => []

def LocalWriter.stopped : LocalWriter → Bool
  | .returned _ => true
  | _ => false

theorem LocalWriter.hand_of_stopped {w : LocalWriter} (h : w.stopped = true) : w.hand = [] := by
  cases w with
  | returned err => rfl
  | selecting inner => cases h
  | writing inner rest size => cases h
  | granting inner size => cases h

namespace AgentStream

/-- The bytes the stream still has for the local connection. -/
def pending (st : AgentStream) : Bytes := st.writer.hand ++ payloadBytes st.incoming

/-- The step takes a non-empty payload from the channel into the writer's hand. -/
def takes (st : AgentStream) : Op → Bool
  | .receive none => st.incoming.head?.any fun queued => !queued.data.isEmpty
  | _ => false

/-- What a step with an event does to the bytes of a stream; `takes` says whether the step takes
    payload bytes from the channel. -/
def Moves (takes : Bool) (st st' : AgentStream) : StreamEvent → Prop
  | .accepted data =>
    st.closed = false ∧ st'.closed = false ∧ st'.writer = st.writer ∧
      payloadBytes st'.incoming = payloadBytes st.incoming ++ data
  | .discarded data =>
    st'.closed = st.closed ∧ st'.writer = st.writer ∧
      payloadBytes st.incoming = data ++ payloadBytes st'.incoming
  | .written data =>
    st'.closed = st.closed ∧ st'.incoming = st.incoming ∧
      (st.writer.hand = data ++ st'.writer.hand ∧ st'.writer.stopped = st.writer.stopped ∨
        data <+: st.writer.hand ∧ st'.writer.stopped = true)
  | _ =>
    (st'.closed = st.closed ∨ st'.closed = true) ∧
      (st'.writer.stopped = true ∨
        st'.pending = st.pending ∧ (takes = false → st'.writer.hand = st.writer.hand) ∧
          (st.writer.stopped = true → st'.writer.stopped = true))

section Steps

variable {session session' : ByteBudget} {st st' : AgentStream} {ev : StreamEvent} {takes : Bool}

theorem enqueue_moves {data : Bytes} (h : st.enqueue session data = some (session', st', ev)) :
    Moves takes st st' ev := by
  rcases enqueue_cases h with ⟨rfl, -, streamBudget, -, rfl⟩ | ⟨rfl, hopen, -, -, streamBudget, -, rfl⟩
  · exact ⟨.inl rfl, .inr ⟨rfl, fun _ => rfl, id⟩⟩
  · refine ⟨hopen, hopen, rfl, ?_⟩
    simp [QueuedPayload.ofData]

/-- A step between two states of the writer that hold no payload. -/
theorem Moves.of_idle {writer : LocalWriter} (hbefore : st.writer.hand = [])
    (hstopped : st.writer.stopped = false) (hafter : writer.hand = []) :
    Moves takes st { st with writer } .silent := by
  refine ⟨.inl rfl, .inr ⟨?_, ?_, ?_⟩⟩
  · simp [pending, hbefore, hafter]
  · simp [hbefore, hafter]
  · simp [hstopped]

/-- Every step moves bytes as its event says. -/
theorem step_moves {o : Op} (h : st.step session o = some (session', st', ev)) :
    Moves (st.takes o) st st' ev := by
  by_cases henqueue : ∃ data, o = .enqueue data
  · obtain ⟨data, rfl⟩ := henqueue
    exact enqueue_moves h
  cases steps_of_step (fun data ho => henqueue ⟨data, ho⟩) h with
  | receiveFails | contextDone | closeWrite | grantFails => exact ⟨.inl rfl, .inl rfl⟩
  | receive hwriter hincoming =>
    refine ⟨.inl rfl, .inr ⟨?_, ?_, ?_⟩⟩
    · simp [pending, hwriter, hincoming, hand]
    · intro hempty
      simpa [takes, hincoming, hwriter, hand] using hempty
    · simp [hwriter, stopped]
  | seeHalfClose hwriter | owesCredit hwriter | owesNothing hwriter =>
    exact Moves.of_idle (by rw [hwriter]; rfl) (by rw [hwriter]; rfl) rfl
  | writeFails hwriter =>
    refine ⟨rfl, rfl, .inr ⟨?_, rfl⟩⟩
    simpa [hwriter, hand] using List.take_prefix _ _
  | write hwriter =>
    refine ⟨rfl, rfl, .inl ⟨?_, ?_⟩⟩
    · simp [hwriter, hand]
    · simp [hwriter, stopped]
  | grant hwriter =>
    refine ⟨.inl rfl, .inr ⟨?_, ?_, ?_⟩⟩
    · simp [pending, hwriter, hand]
    · simp [hwriter, hand]
    · simp [hwriter, stopped]
  | finishReceive _ hincoming =>
    refine ⟨rfl, rfl, ?_⟩
    simp [hincoming]
  | finishStream => exact ⟨.inr rfl, .inr ⟨rfl, fun _ => rfl, id⟩⟩
  | finishDone | cancel | halfClose => exact ⟨.inl rfl, .inr ⟨rfl, fun _ => rfl, id⟩⟩

end Steps

end AgentStream

/-! ## The stream with its history -/

/-- A stream with what it accepted, what reached the local connection and what was thrown away. -/
structure LocalDelivery where
  session : ByteBudget
  stream : AgentStream
  accepted : List Bytes
  written : Bytes
  discarded : Bytes
  deriving DecidableEq, Repr

namespace LocalDelivery

/-- A step of the stream, or other streams changing the session's budget. -/
inductive Label where
  | op (o : Op)
  | budget (session : ByteBudget)
  deriving DecidableEq, Repr

/-- A fresh stream. -/
def init (session : ByteBudget) (mode : StreamMode) (flowControlled : Bool) (queueFrames : Nat)
    (inputBytes : Int) : LocalDelivery where
  session := session
  stream := new mode flowControlled queueFrames inputBytes
  accepted := []
  written := []
  discarded := []

/-- Adds an event to the history. -/
def record (d : LocalDelivery) : StreamEvent → LocalDelivery
  | .accepted data => { d with accepted := d.accepted ++ [data] }
  | .written data => { d with written := d.written ++ data }
  | .discarded data => { d with discarded := d.discarded ++ data }
  | _ => d

def step (d : LocalDelivery) : Label → Option LocalDelivery
  | .op o =>
    (d.stream.step d.session o).map fun (session, stream, ev) =>
      { d with session, stream }.record ev
  | .budget session => some { d with session }

/-- The writer takes a payload although `finishStream` has already thrown away earlier bytes. -/
def skipsDiscarded (d : LocalDelivery) : Label → Bool
  | .op o => d.stream.takes o && !d.discarded.isEmpty
  | .budget _ => false

/-- The pipe has the same history. As long as nothing is discarded and the writer runs, the bytes
    still on their way are the pipe's; later only what the writer has in hand is. -/
structure Refines (d : LocalDelivery) (p : Pipe UInt8) : Prop where
  sent : p.sent = d.accepted.flatten
  received : p.received = d.written
  closed : p.closed = d.stream.closed
  ahead : p.received ++ d.stream.writer.hand <+: p.sent
  flow : d.stream.writer.stopped = false → d.discarded = [] →
    p.sent = p.received ++ d.stream.pending

theorem Refines.init (session : ByteBudget) (mode : StreamMode) (flowControlled : Bool)
    (queueFrames : Nat) (inputBytes : Int) :
    (init session mode flowControlled queueFrames inputBytes).Refines Pipe.empty where
  sent := rfl
  received := rfl
  closed := rfl
  ahead := List.prefix_rfl
  flow := fun _ _ => rfl

section Steps

variable {d : LocalDelivery} {p : Pipe UInt8} {session : ByteBudget} {st' : AgentStream}
  {takes : Bool} {data : Bytes}

theorem Refines.accepted (hR : d.Refines p) (h : Moves takes d.stream st' (.accepted data)) :
    ∃ bs p', run Pipe.step p bs = some p' ∧
      Refines { d with session, stream := st', accepted := d.accepted ++ [data] } p' := by
  obtain ⟨hopen, hopen', hwriter, hqueue⟩ := h
  obtain ⟨p', hp', hsent, hreceived, hclosed, -⟩ := Pipe.step_send data (hR.closed.trans hopen)
  refine ⟨[.send data], p', run_singleton.mpr hp', ?_, hreceived.trans hR.received,
    hclosed.trans hopen'.symm, ?_, ?_⟩
  · rw [hsent, hR.sent]
    simp
  · rw [hsent, hreceived, hwriter]
    exact hR.ahead.trans (List.prefix_append _ _)
  · intro hruns hkept
    have hflow : p.sent = p.received ++ d.stream.pending := hR.flow (hwriter ▸ hruns) hkept
    rw [hsent, hreceived, hflow]
    simp [pending, hwriter, hqueue]

theorem Refines.written (hR : d.Refines p) (h : Moves takes d.stream st' (.written data)) :
    ∃ bs p', run Pipe.step p bs = some p' ∧
      Refines { d with session, stream := st', written := d.written ++ data } p' := by
  obtain ⟨hclosed', hincoming, hhand⟩ := h
  have hnext : p.received ++ data <+: p.sent := by
    have hdata : data <+: d.stream.writer.hand := by
      rcases hhand with ⟨hhand, -⟩ | ⟨hhand, -⟩
      · exact ⟨_, hhand.symm⟩
      · exact hhand
    exact ((List.prefix_append_right_inj _).mpr hdata).trans hR.ahead
  obtain ⟨p', hp', hsent, hreceived, hclosed, -⟩ := Pipe.step_receive hnext
  refine ⟨[.receive data], p', run_singleton.mpr hp', hsent.trans hR.sent, ?_,
    hclosed.trans (hR.closed.trans hclosed'.symm), ?_, ?_⟩
  · rw [hreceived, hR.received]
  · rw [hsent, hreceived]
    rcases hhand with ⟨hhand, -⟩ | ⟨-, hstopped⟩
    · have hahead := hR.ahead
      rwa [hhand, ← List.append_assoc] at hahead
    · simpa [hand_of_stopped hstopped] using hnext
  · intro hruns hkept
    rcases hhand with ⟨hhand, hwriter⟩ | ⟨-, hstopped⟩
    · rw [hsent, hreceived, hR.flow (hwriter ▸ hruns) hkept]
      simp [pending, hhand, hincoming]
    · simp [hstopped] at hruns

theorem Refines.discarded (hR : d.Refines p) (h : Moves takes d.stream st' (.discarded data)) :
    Refines { d with session, stream := st', discarded := d.discarded ++ data } p := by
  obtain ⟨hclosed, hwriter, hqueue⟩ := h
  refine ⟨hR.sent, hR.received, hR.closed.trans hclosed.symm, ?_, ?_⟩
  · rw [hwriter]
    exact hR.ahead
  · intro hruns hkept
    obtain ⟨hbefore, rfl⟩ := List.append_eq_nil_iff.mp hkept
    rw [hR.flow (hwriter ▸ hruns) hbefore]
    simp [pending, hwriter, hqueue]

/-- A step that neither takes bytes in nor writes any. -/
theorem Refines.silent (hR : d.Refines p) (h : Moves takes d.stream st' .silent)
    (horder : takes = true → d.discarded = []) :
    ∃ bs p', run Pipe.step p bs = some p' ∧
      Refines { d with session, stream := st' } p' := by
  obtain ⟨hclosed, hbytes⟩ := h
  have hahead : p.received ++ st'.writer.hand <+: p.sent := by
    rcases hbytes with hstopped | ⟨hpending, hhand, hstopped⟩
    · rw [hand_of_stopped hstopped, List.append_nil]
      exact p.inOrder
    cases takes with
    | false =>
      rw [hhand rfl]
      exact hR.ahead
    | true =>
      -- the payload taken is the next one: nothing before it was thrown away
      cases hruns : d.stream.writer.stopped with
      | true =>
        rw [hand_of_stopped (hstopped hruns), List.append_nil]
        exact p.inOrder
      | false =>
        rw [hR.flow hruns (horder rfl), ← hpending]
        exact (List.prefix_append_right_inj _).mpr (List.prefix_append _ _)
  have hflow : st'.writer.stopped = false → d.discarded = [] →
      p.sent = p.received ++ st'.pending := by
    intro hruns hkept
    rcases hbytes with hstopped | ⟨hpending, -, hstopped⟩
    · simp [hstopped] at hruns
    · rw [hpending]
      refine hR.flow ?_ hkept
      cases hbefore : d.stream.writer.stopped with
      | true => simp [hstopped hbefore] at hruns
      | false => rfl
  rcases hclosed with hclosed | hclosed
  · exact ⟨[], p, rfl, hR.sent, hR.received, hR.closed.trans hclosed.symm, hahead, hflow⟩
  · obtain ⟨p', hp', hsent, hreceived, hpclosed, -⟩ := Pipe.step_close p
    refine ⟨[.close], p', run_singleton.mpr hp', hsent.trans hR.sent,
      hreceived.trans hR.received, hpclosed.trans hclosed.symm, ?_, ?_⟩
    · rwa [hsent, hreceived]
    · rwa [hsent, hreceived]

end Steps

/-- Every step that skips no discarded payload is a step of the pipe. -/
theorem Refines.step {d d' : LocalDelivery} {p : Pipe UInt8} {a : Label} (hR : d.Refines p)
    (horder : d.skipsDiscarded a = false) (h : d.step a = some d') :
    ∃ bs p', run Pipe.step p bs = some p' ∧ d'.Refines p' := by
  cases a with
  | budget session =>
    cases h
    exact ⟨[], p, rfl, { hR with }⟩
  | op o =>
    simp only [LocalDelivery.step, Option.map_eq_some_iff] at h
    obtain ⟨⟨session, st', ev⟩, hstep, rfl⟩ := h
    have hmoves := step_moves hstep
    have hkept : d.stream.takes o = true → d.discarded = [] := by
      simpa [skipsDiscarded] using horder
    cases ev with
    | accepted data => exact hR.accepted hmoves
    | written data => exact hR.written hmoves
    | discarded data => exact ⟨[], p, rfl, hR.discarded hmoves⟩
    | silent => exact hR.silent hmoves hkept
    | rejected => exact hR.silent hmoves hkept
    | granted size => exact hR.silent hmoves hkept

/-- As long as the writer skips no discarded payload, the local connection sees a prefix of the
    accepted payloads. -/
theorem written_in_order {session : ByteBudget} {mode : StreamMode} {flowControlled : Bool}
    {queueFrames : Nat} {inputBytes : Int} {labels : List Label} {d : LocalDelivery}
    (horder : Along step (fun d a => d.skipsDiscarded a = false)
      (init session mode flowControlled queueFrames inputBytes) labels)
    (hrun : run step (init session mode flowControlled queueFrames inputBytes) labels =
      some d) :
    d.written <+: d.accepted.flatten := by
  obtain ⟨bs, p, -, hR⟩ := simulation_along Refines.step
    (Refines.init session mode flowControlled queueFrames inputBytes) horder hrun
  rw [← hR.sent, ← hR.received]
  exact p.inOrder

/-- Two payloads, of which the writer takes the first before the stream is closed. -/
def closedAfterReceive : List Label :=
  [.op (.enqueue [1]), .op (.enqueue [2]), .op (.receive none), .op .finishStream,
    .op .finishReceive, .op (.write 1 none), .op .finishDone]

theorem closedAfterReceive_written_in_order :
    ∃ d, run step (init (.new 16) .tcp true 4 16) closedAfterReceive = some d ∧
      d.written = [1] ∧ d.discarded = [2] ∧ d.written <+: d.accepted.flatten := by
  have horder : Along step (fun d a => d.skipsDiscarded a = false)
      (init (.new 16) .tcp true 4 16) closedAfterReceive := by decide
  exact ⟨_, rfl, rfl, rfl, written_in_order horder rfl⟩

/-- The same payloads, but the stream is closed first: `finishStream` throws the first one away, and
    the writer, whose context is not cancelled yet, takes the second. -/
def receivedBehindDiscard : List Label :=
  [.op (.enqueue [1]), .op (.enqueue [2]), .op .finishStream, .op .finishReceive,
    .op (.receive none), .op (.write 1 none)]

theorem receivedBehindDiscard_skips :
    ∃ d, run step (init (.new 16) .tcp true 4 16) receivedBehindDiscard = some d ∧
      d.accepted = [[1], [2]] ∧ d.written = [2] ∧ ¬ d.written <+: d.accepted.flatten := by
  refine ⟨_, rfl, rfl, rfl, ?_⟩
  decide

end LocalDelivery

end Hooshix.Agent
