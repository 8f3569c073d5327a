-- SUMMARY: In-order, exactly-once delivery on a Gateway byte stream, as a refinement of a pipe.
import Hooshix.Lib.Pipe
import Hooshix.Gateway.Stream

/-! # Delivery on a byte stream

The bytes accepted by `enqueue` travel through the channel, the reader's hand, the buffer and the
terminal tail before `Read` returns them. `pending` puts these places in the order in which `Read`
would return their bytes. As long as the reader takes no payload out of the channel while `finish`
holds earlier bytes in its tail, a stream is a pipe. Without that condition it is not: `finish` may
take the first payload and the reader the second, and then the second is returned first.
-/

namespace Hooshix.Gateway

open StepSystem Gateway.Stream

/-! ## The bytes on their way through a stream -/

/-- The call the reader is in. -/
def Reader.call? : Reader → Option ReadCall
  | .idle => none
  | .polling c | .locking c | .waiting c | .holding c _ _ => some c

/-- The reader is past the test of its buffer. -/
def Reader.pastTest : Reader → Bool
  | .locking _ | .waiting _ | .holding _ _ _ => true
  | _ => false

/-- The payload in the reader's hand. -/
def Reader.held : Reader → Bytes
  | .holding _ data _ => data
  | _ => []

attribute [local simp] Reader.call? Reader.pastTest

namespace Stream

/-- The bytes that `finish` took out of the channel and no reader has taken yet. -/
def tail (st : Stream) : Bytes :=
  match st.finishOnce with
  | .draining _ tail => tail
  | _ => st.terminalBuffer

/-- The accepted bytes that `Read` has not returned, in the order it would return them. -/
def pending (st : Stream) : Bytes :=
  st.buffer ++ st.reader.held ++ st.tail ++ payloadBytes st.incoming

/-- The facts about a byte stream that delivery rests on. -/
structure Sound (st : Stream) : Prop where
  bytes : st.datagram = false
  closed_iff : st.closed = true ↔ st.finishOnce ≠ .notStarted
  ready_iff : st.terminalReady = true ↔ st.finishOnce = .unlocked ∨ st.finishOnce = .done
  drained : st.terminalReady = true → st.incoming = []
  unpublished : st.terminalReady = false → st.terminalBuffer = []
  reads : ∀ c ∈ st.reader.call?, c ≠ .readDatagram
  tested : st.reader.pastTest = true → st.buffer = []

theorem Sound.new (queueFrames : Nat) (queueBytes : Int) :
    (newStream false queueFrames queueBytes).Sound := by
  constructor <;> simp [newStream]

/-- What a step does to the bytes on their way, by its event. -/
def Moves (st st' : Stream) : StreamEvent → Prop
  | .accepted data =>
    st.closed = false ∧ st'.closed = false ∧ st'.pending = st.pending ++ data
  | .returned data => st'.closed = st.closed ∧ st.pending = data ++ st'.pending
  | .ended _ => st.closed = true ∧ st'.closed = true ∧ st.pending = [] ∧ st'.pending = []
  | _ => (st'.closed = st.closed ∨ st'.closed = true) ∧ st'.pending = st.pending

/-- The reader takes the next payload while `finish` holds earlier bytes. -/
def overtaken (st : Stream) : Bool :=
  match st.finishOnce, st.incoming with
  | .draining _ (_ :: _), chunk :: _ => !chunk.data.isEmpty
  | _, _ => false

/-! ## Each step keeps the bytes in order -/

section Steps

variable {sh sh' : SharedBudgets} {st st' : Stream} {ev : StreamEvent}

variable (hst : st.Sound) {err : Option GoError} {c : ReadCall} {incoming : List QueuedPayload}
  {chunk : QueuedPayload} {drained : Bytes}

include hst

theorem Sound.accepts {data : Bytes} {streamBudget : ByteBudget} (hopen : st.closed = false) :
    let st' := { st with incoming := st.incoming ++ [QueuedPayload.ofData data], streamBudget }
    st'.Sound ∧ st.Moves st' (.accepted data) := by
  have hunready : st.terminalReady = false := by
    have honce : st.finishOnce = .notStarted := by
      simpa [hopen] using hst.closed_iff
    simpa [honce] using hst.ready_iff
  refine ⟨{ hst with drained := ?_ }, hopen, hopen, ?_⟩
  · simp [hunready]
  · simp [pending, tail, QueuedPayload.ofData]

/-- Taking the next payload into the reader's hand keeps the order unless it overtakes the tail. -/
theorem Sound.take
    (hcall : c ∈ st.reader.call?) (hbuffer : st.buffer = []) (hheld : st.reader.held = [])
    (hincoming : st.incoming = chunk :: incoming) (horder : st.overtaken = false) :
    let st' := { st with incoming, reader := .holding c chunk.data chunk.size }
    st'.Sound ∧ st.Moves st' .silent := by
  have htail : chunk.data ++ st.tail = st.tail ++ chunk.data := by
    have hunready : st.terminalReady = false := by
      by_contra hready
      simp [hst.drained (by simpa using hready)] at hincoming
    cases honce : st.finishOnce with
    | draining err tail =>
      cases tail with
      | nil => simp [tail, honce]
      | cons b tail =>
        have hempty : chunk.data = [] := by
          simpa [overtaken, honce, hincoming] using horder
        simp [hempty]
    | notStarted | unlocked | done => simp [tail, honce, hst.unpublished hunready]
  refine ⟨{ hst with drained := ?_, reads := ?_, tested := ?_ }, .inl rfl, ?_⟩
  · intro hready
    simp [hst.drained hready] at hincoming
  · simpa using hst.reads c hcall
  · intro _
    exact hbuffer
  · have hpending : st.pending = st.tail ++ (chunk.data ++ payloadBytes incoming) := by
      simp [pending, hbuffer, hheld, hincoming]
    rw [hpending, ← List.append_assoc, ← htail]
    simp [pending, hbuffer, Reader.held, tail]

/-- The reader tests its buffer before it goes on. -/
theorem Sound.buffer_empty (hreader : st.reader = .polling c) (hloops : st.loops c = true) :
    st.buffer = [] := by
  cases c with
  | read size => simpa [loops] using hloops
  | readDatagram => exact absurd rfl (hst.reads _ (by simp [hreader]))

/-- The reader moves with an empty hand. -/
theorem Sound.moveReader {reader : Reader} (hheld : st.reader.held = []) (hheld' : reader.held = [])
    (hreads : ∀ c ∈ reader.call?, c ≠ .readDatagram)
    (htested : reader.pastTest = true → st.buffer = []) :
    { st with reader }.Sound ∧ st.Moves { st with reader } .silent := by
  refine ⟨{ hst with reads := hreads, tested := htested }, .inl rfl, ?_⟩
  simp [pending, tail, hheld, hheld']

omit hst in
/-- Outside the drain the tail is the one of the terminal state. -/
theorem tail_of_unlocked (hfree : st.locked = false) : st.tail = st.terminalBuffer := by
  cases honce : st.finishOnce with
  | draining err tail => simp [locked, honce] at hfree
  | notStarted | unlocked | done => simp [tail, honce]

theorem Sound.reportEnd {err : GoError} (hfree : st.locked = false)
    (hreader : st.reader = .locking c) (hready : st.terminalReady = true)
    (hempty : c ≠ .readDatagram → st.terminalBuffer = []) :
    { st with reader := .idle }.Sound ∧ st.Moves { st with reader := .idle } (.ended err) := by
  have hread : c ≠ .readDatagram := hst.reads c (by simp [hreader])
  have hbuffer : st.buffer = [] := hst.tested (by simp [hreader])
  have hclosed : st.closed = true := by
    rw [hst.closed_iff]
    rcases hst.ready_iff.mp hready with honce | honce <;> simp [honce]
  have hpending : st.pending = [] := by
    simp [pending, hbuffer, hreader, Reader.held, tail_of_unlocked hfree, hempty hread,
      hst.drained hready]
  refine ⟨{ hst with reads := ?_, tested := ?_ }, hclosed, hclosed, hpending, ?_⟩
  · simp
  · simp
  · simpa [pending, tail, hreader, Reader.held] using hpending

/-- The tail moves from the stream into the reader's hand. -/
theorem Sound.takeTail (hfree : st.locked = false) (hreader : st.reader = .locking c)
    (hready : st.terminalReady = true) :
    let st' := { st with
      terminalBuffer := []
      terminalBytes := 0
      reader := .holding c st.terminalBuffer st.terminalBytes }
    st'.Sound ∧ st.Moves st' .silent := by
  refine ⟨{ hst with unpublished := ?_, reads := ?_, tested := ?_ }, .inl rfl, ?_⟩
  · intro _
    rfl
  · simpa using hst.reads c (by simp [hreader])
  · intro _
    exact hst.tested (by simp [hreader])
  · have htaken : tail { st with
        terminalBuffer := []
        terminalBytes := 0
        reader := .holding c st.terminalBuffer st.terminalBytes } = [] := by
      rcases hst.ready_iff.mp hready with honce | honce <;> simp [tail, honce]
    simp [pending, htaken, hreader, Reader.held, tail_of_unlocked hfree]

theorem Sound.finish (honce : st.finishOnce = .notStarted) :
    let st' := { st with closed := true, finishOnce := .draining err [] }
    st'.Sound ∧ st.Moves st' .silent := by
  have hunready : st.terminalReady = false := by
    simpa [honce] using hst.ready_iff
  refine ⟨{ hst with closed_iff := ?_, ready_iff := ?_ }, .inr rfl, ?_⟩
  · simp
  · simp [hunready]
  · simp [pending, tail, honce, hst.unpublished hunready]

/-- The drain moves the front of the channel to the back of the tail. -/
theorem Sound.finishBytes
    (honce : st.finishOnce = .draining err drained) (hincoming : st.incoming = chunk :: incoming) :
    let st' := { st with incoming, finishOnce := .draining err (drained ++ chunk.data) }
    st'.Sound ∧ st.Moves st' .silent := by
  have hunready : st.terminalReady = false := by
    simpa [honce] using hst.ready_iff
  have hclosed : st.closed = true := hst.closed_iff.mpr (by simp [honce])
  refine ⟨{ hst with closed_iff := ?_, ready_iff := ?_, drained := ?_ }, .inl rfl, ?_⟩
  · simp [hclosed]
  · simp [hunready]
  · simp [hunready]
  · simp [pending, tail, honce, hincoming]

theorem Sound.finishPublish {terminalBytes : Int}
    (honce : st.finishOnce = .draining err drained) (hincoming : st.incoming = []) :
    let st' := { st with
      terminalBuffer := drained, terminalBytes, terminalErr := err, terminalReady := true,
      finishOnce := .unlocked }
    st'.Sound ∧ st.Moves st' .silent := by
  have hclosed : st.closed = true := hst.closed_iff.mpr (by simp [honce])
  refine ⟨{ hst with
    closed_iff := ?_, ready_iff := ?_, drained := ?_, unpublished := ?_ }, .inl rfl, ?_⟩
  · simp [hclosed]
  · simp
  · intro _
    exact hincoming
  · simp
  · simp [pending, tail, honce]

theorem Sound.finishSignal (honce : st.finishOnce = .unlocked) :
    let st' := { st with terminal := true, finishOnce := .done }
    st'.Sound ∧ st.Moves st' .silent := by
  have hclosed : st.closed = true := hst.closed_iff.mpr (by simp [honce])
  have hready : st.terminalReady = true := hst.ready_iff.mpr (.inl honce)
  refine ⟨{ hst with closed_iff := ?_, ready_iff := ?_ }, .inl rfl, ?_⟩
  · simp [hclosed]
  · simp [hready]
  · simp [pending, tail, honce]

end Steps

end Stream

/-! ## The stream with its history -/

/-- A stream with what was accepted, what `Read` returned, and the terminal error it reported. -/
structure Delivery where
  shared : SharedBudgets
  stream : Stream
  accepted : List Bytes
  returned : Bytes
  ended : Option GoError
  deriving DecidableEq, Repr

namespace Delivery

/-- A step of the stream, or other streams changing the budgets they share with it. -/
inductive Label where
  | op (o : Op)
  | budgets (shared : SharedBudgets)
  deriving DecidableEq, Repr

/-- A fresh byte stream. -/
def init (shared : SharedBudgets) (queueFrames : Nat) (queueBytes : Int) : Delivery where
  shared := shared
  stream := newStream false queueFrames queueBytes
  accepted := []
  returned := []
  ended := none

/-- Adds an event to the history. -/
def record (d : Delivery) : StreamEvent → Delivery
  | .accepted data => { d with accepted := d.accepted ++ [data] }
  | .returned data => { d with returned := d.returned ++ data }
  | .ended err => { d with ended := some err }
  | _ => d

/-- The steps while the reader is in use: `detachStream` calls `releaseQueuedChunks` after `finish`
    returned, and `discardRetained` is called only once the reader has stopped. -/
def allowed (st : Stream) : Op → Bool
  | .discardReceive => st.finishOnce == .done
  | .discardTerminal => false
  | _ => true

def step (d : Delivery) : Label → Option Delivery
  | .op o =>
    if allowed d.stream o then
      (d.stream.step d.shared o).value?.map fun (shared, stream, ev) =>
        { d with shared, stream }.record ev
    else none
  | .budgets shared => some { d with shared }

/-- The step takes a payload from the channel into the reader's hand although `finish` already holds
    earlier bytes of the stream in its tail. -/
def overtakes (d : Delivery) : Label → Bool
  | .op .poll | .op .receive => d.stream.overtaken
  | _ => false

/-- A sound stream whose history, with the bytes still on their way, is the history of the pipe. -/
structure Refines (d : Delivery) (p : Pipe UInt8) : Prop where
  sound : d.stream.Sound
  sent : p.sent = d.accepted.flatten
  received : p.received = d.returned
  flow : p.sent = p.received ++ d.stream.pending
  closed : p.closed = d.stream.closed
  ended : p.ended = d.ended.isSome

theorem Refines.init (shared : SharedBudgets) (queueFrames : Nat) (queueBytes : Int) :
    (init shared queueFrames queueBytes).Refines Pipe.empty where
  sound := Sound.new queueFrames queueBytes
  sent := rfl
  received := rfl
  flow := rfl
  closed := rfl
  ended := rfl

/-- An allowed stream step that overtakes nothing keeps the stream sound and its bytes in order. -/
theorem stream_step {sh sh' : SharedBudgets} {st st' : Stream} {o : Op} {ev : StreamEvent}
    (hst : st.Sound) (hallowed : allowed st o = true)
    (horder : o = .poll ∨ o = .receive → st.overtaken = false)
    (h : st.step sh o = .next (sh', st', ev)) : st'.Sound ∧ st.Moves st' ev := by
  have hcall {c : ReadCall} (hc : c ∈ st.reader.call?) : c ≠ .readDatagram := hst.reads c hc
  cases steps_of_step h with
  | rejects | misuse => exact ⟨hst, .inl rfl, rfl⟩
  | accepts hopen => exact hst.accepts hopen
  | call hidle hfits =>
    refine hst.moveReader (by rw [hidle]; rfl) rfl ?_ (by simp)
    simp [hfits, hst.bytes]
  | poll hreader hloops hincoming =>
    exact hst.take (by rw [hreader]; rfl) (hst.buffer_empty hreader hloops) (by rw [hreader]; rfl)
      hincoming (horder (.inl rfl))
  | pollEmpty hreader hloops =>
    exact hst.moveReader (by rw [hreader]; rfl) rfl (by simpa [hreader] using hst.reads)
      fun _ => hst.buffer_empty hreader hloops
  | copy hreader =>
    refine ⟨{ hst with reads := ?_, tested := ?_ }, rfl, ?_⟩
    · simp
    · simp
    · simp [pending, tail, hreader, Reader.held, ← List.append_assoc]
  | wait hreader =>
    exact hst.moveReader (by rw [hreader]; rfl) rfl (by simpa [hreader] using hst.reads)
      fun _ => hst.tested (by rw [hreader]; rfl)
  | reportEnd hfree hreader hready hempty => exact hst.reportEnd hfree hreader hready hempty
  | takeTail hfree hreader hready => exact hst.takeTail hfree hreader hready
  | takePacket hreader | deliver hreader => exact absurd rfl (hcall (by rw [hreader]; rfl))
  | receive hreader hincoming =>
    exact hst.take (by rw [hreader]; rfl) (hst.tested (by rw [hreader]; rfl)) (by rw [hreader]; rfl)
      hincoming (horder (.inr rfl))
  | wake hreader =>
    exact hst.moveReader (by rw [hreader]; rfl) rfl (by simpa [hreader] using hst.reads)
      (by simp)
  | cancel hreader =>
    exact hst.moveReader (by rw [hreader]; rfl) rfl (by simp) (by simp)
  | keep hreader hrelease =>
    -- the payload moves from the reader's hand into the buffer, which is empty
    obtain ⟨streamBudget, rfl⟩ := releaseQueued_frame hrelease
    have hbuffer : st.buffer = [] := hst.tested (by rw [hreader]; rfl)
    refine ⟨{ hst with reads := ?_, tested := ?_ }, .inl rfl, ?_⟩
    · simp
    · simp
    · simp [pending, tail, hreader, hbuffer, Reader.held]
  | finish honce => exact hst.finish honce
  | finishPacket _ _ hdatagram => simp [hst.bytes] at hdatagram
  | finishBytes honce hincoming => exact hst.finishBytes honce hincoming
  | finishPublish honce hincoming => exact hst.finishPublish honce hincoming
  | finishSignal honce => exact hst.finishSignal honce
  | discardReceive hincoming =>
    -- `releaseQueuedChunks` follows `finish` in `detachStream`, so it finds the channel empty
    have hdone : st.finishOnce = .done := by simpa [allowed] using hallowed
    simp [hst.drained (hst.ready_iff.mpr (.inr hdone))] at hincoming
  | discardTerminal => simp [allowed] at hallowed
  | discardRelease _ hrelease =>
    obtain ⟨streamBudget, rfl⟩ := releaseQueued_frame hrelease
    exact ⟨{ hst with }, .inl rfl, rfl⟩

variable {shared : SharedBudgets} {p : Pipe UInt8} {d : Delivery} {st' : Stream}

/-- A step that takes no byte in or out closes the pipe or leaves it alone. -/
theorem Refines.quiet (hR : d.Refines p)
    (hsound : st'.Sound) (hclosed : st'.closed = d.stream.closed ∨ st'.closed = true)
    (hpending : st'.pending = d.stream.pending) :
    ∃ bs p', run Pipe.step p bs = some p' ∧
      Refines { d with shared, stream := st' } p' := by
  rcases hclosed with hclosed | hclosed
  · refine ⟨[], p, rfl, hsound, hR.sent, hR.received, ?_, ?_, hR.ended⟩
    · rw [hpending]
      exact hR.flow
    · rw [hclosed]
      exact hR.closed
  · obtain ⟨p', hp', hsent, hreceived, hpclosed, hpended⟩ := Pipe.step_close p
    refine ⟨[.close], p', run_singleton.mpr hp', hsound, hsent.trans hR.sent,
      hreceived.trans hR.received, ?_, hpclosed.trans hclosed.symm, hpended.trans hR.ended⟩
    rw [hsent, hreceived, hpending]
    exact hR.flow

/-- The pipe follows every event of a stream step. -/
theorem Refines.record {ev : StreamEvent}
    (hR : d.Refines p) (hsound : st'.Sound) (hmoves : d.stream.Moves st' ev) :
    ∃ bs p', run Pipe.step p bs = some p' ∧
      ({ d with shared, stream := st' }.record ev).Refines p' := by
  cases ev with
  | accepted data =>
    obtain ⟨hopen, hopen', hpending⟩ := hmoves
    obtain ⟨p', hp', hsent, hreceived, hpclosed, hpended⟩ :=
      Pipe.step_send data (hR.closed.trans hopen)
    refine ⟨[.send data], p', run_singleton.mpr hp', hsound, ?_, ?_, ?_, ?_, ?_⟩
    · simp [Delivery.record, hsent, hR.sent]
    · exact hreceived.trans hR.received
    · simp [Delivery.record, hsent, hreceived, hpending, hR.flow]
    · exact hpclosed.trans hopen'.symm
    · exact hpended.trans hR.ended
  | returned data =>
    obtain ⟨hclosed, hpending⟩ := hmoves
    have hnext : p.received ++ data <+: p.sent := by
      rw [hR.flow, hpending, ← List.append_assoc]
      exact List.prefix_append _ _
    obtain ⟨p', hp', hsent, hreceived, hpclosed, hpended⟩ := Pipe.step_receive hnext
    refine ⟨[.receive data], p', run_singleton.mpr hp', hsound, ?_, ?_, ?_, ?_, ?_⟩
    · exact hsent.trans hR.sent
    · simp [Delivery.record, hreceived, hR.received]
    · simp [Delivery.record, hsent, hreceived, hR.flow, hpending]
    · exact hpclosed.trans (hR.closed.trans hclosed.symm)
    · exact hpended.trans hR.ended
  | ended err =>
    obtain ⟨hclosed, hclosed', hpending, hpending'⟩ := hmoves
    have hall : p.received = p.sent := by simp [hR.flow, hpending]
    obtain ⟨p', hp', hsent, hreceived, hpclosed, hpended⟩ :=
      Pipe.step_reportEnd (hR.closed.trans hclosed) hall
    refine ⟨[.reportEnd], p', run_singleton.mpr hp', hsound, ?_, ?_, ?_, ?_, ?_⟩
    · exact hsent.trans hR.sent
    · exact hreceived.trans hR.received
    · simp [Delivery.record, hsent, hreceived, hall, hpending']
    · exact hpclosed.trans hclosed'.symm
    · simp [Delivery.record, hpended]
  | silent | rejected err | packet data | cancelled err | misused err | granted size =>
    exact hR.quiet hsound hmoves.1 hmoves.2

/-- One step that overtakes nothing is followed by the pipe. -/
theorem Refines.step {d d' : Delivery} {l : Label} (hR : d.Refines p)
    (horder : d.overtakes l = false) (h : d.step l = some d') :
    ∃ bs p', run Pipe.step p bs = some p' ∧ d'.Refines p' := by
  cases l with
  | budgets shared =>
    cases h
    exact ⟨[], p, rfl, { hR with }⟩
  | op o =>
    simp only [Delivery.step] at h
    split at h
    next hallowed =>
      obtain ⟨⟨shared, st', ev⟩, hnext, rfl⟩ := Option.map_eq_some_iff.mp h
      have hov : o = .poll ∨ o = .receive → d.stream.overtaken = false := by
        rintro (rfl | rfl) <;> exact horder
      obtain ⟨hsound, hmoves⟩ :=
        stream_step hR.sound hallowed hov (Outcome.value?_eq_some.mp hnext)
      exact hR.record hsound hmoves
    next => cases h

/-- Every run in which the reader overtakes nothing is a run of a pipe. -/
theorem refines_pipe {queueFrames : Nat} {queueBytes : Int} {labels : List Label}
    (horder : Along step (fun d l => d.overtakes l = false) (init shared queueFrames queueBytes) labels)
    (hrun : run step (init shared queueFrames queueBytes) labels = some d) :
    ∃ bs p, run Pipe.step Pipe.empty bs = some p ∧ d.Refines p :=
  simulation_along (fun hR hG h => Refines.step hR hG h)
    (Refines.init shared queueFrames queueBytes) horder hrun

/-- In every run in which no `Read` takes a payload from the channel while `finish` holds earlier
    bytes, `Read` returns the accepted bytes in order, each once, and reports the terminal error only
    after all of them. -/
theorem returned_in_order {shared : SharedBudgets} {queueFrames : Nat} {queueBytes : Int}
    {labels : List Label} {d : Delivery} (horder : Along step (fun d l => d.overtakes l = false)
      (init shared queueFrames queueBytes) labels)
    (hrun : run step (init shared queueFrames queueBytes) labels = some d) :
    d.returned <+: d.accepted.flatten ∧
      (d.ended.isSome = true → d.returned = d.accepted.flatten) := by
  obtain ⟨-, p, -, hR⟩ := refines_pipe horder hrun
  constructor
  · rw [← hR.received, ← hR.sent]
    exact p.inOrder
  · intro hended
    rw [← hR.received, ← hR.sent]
    exact (p.complete (hR.ended.trans hended)).2

/-- Two payloads are queued and the stream is closed by the peer while its reader is at work; the
    reader polls only before the drain began. -/
def orderlyRun : List Label :=
  [.op (.enqueue [1]), .op (.enqueue [2]), .op (.call (.read 8)), .op .poll, .op (.finish ioEOF),
    .op .finishReceive, .op .releaseHeld, .op .copy, .op .finishPublish, .op .finishSignal,
    .op (.call (.read 8)), .op .poll, .op .lockSection, .op .releaseHeld, .op .copy,
    .op (.call (.read 8)), .op .poll, .op .lockSection]

/-- The session and the Gateway with room for one stream. -/
def roomyBudgets : SharedBudgets :=
  ⟨ByteBudget.newByteBudget 8192, ByteBudget.newByteBudget 8192⟩

theorem orderlyRun_returned_in_order :
    ∃ d, run step (init roomyBudgets 2 8192) orderlyRun = some d ∧
      d.returned = [1, 2] ∧ d.ended = some ioEOF ∧
      d.returned <+: d.accepted.flatten ∧
      (d.ended.isSome = true → d.returned = d.accepted.flatten) := by
  have horder : Along step (fun d l => d.overtakes l = false)
      (init roomyBudgets 2 8192) orderlyRun := by decide
  exact ⟨_, rfl, by decide, by decide, returned_in_order horder rfl⟩

/-- The same stream with the reader's receive between two receives of the drain. -/
def overtakingRun : List Label :=
  [.op (.enqueue [1]), .op (.enqueue [2]), .op (.call (.read 8)), .op (.finish ioEOF),
    .op .finishReceive, .op .poll, .op .releaseHeld, .op .copy, .op .finishPublish,
    .op .finishSignal, .op (.call (.read 8)), .op .poll, .op .lockSection, .op .releaseHeld,
    .op .copy]

/-- The drain took the first payload and the reader the second, which `Read` returns first. -/
theorem overtakingRun_reorders :
    ∃ d, run step (init roomyBudgets 2 8192) overtakingRun = some d ∧
      d.accepted = [[1], [2]] ∧ d.returned = [2, 1] ∧
      ¬ d.returned <+: d.accepted.flatten :=
  ⟨_, rfl, by decide, by decide, by decide⟩

end Delivery

end Hooshix.Gateway
