-- SUMMARY: One logical stream of a Gateway session.
import Hooshix.Payload
import Hooshix.Gateway.Resources

/-! # Gateway streams

`gateway.stream`, cut into its atomic steps. A step is a whole `queueMu` critical section, one
receive from the channel `incoming`, or the code between two such points. `Read` and `ReadDatagram`
receive from `incoming` without holding `queueMu`, while `finish` holds it during its whole drain, so
receives of both may interleave.
-/

namespace Hooshix.Gateway

open Outcome ByteBudget

/-- The budgets that a stream shares with the streams of its session and of the Gateway. -/
structure SharedBudgets where
  sessionBudget : ByteBudget
  globalBudget : ByteBudget
  deriving DecidableEq, Repr

/-- Both budgets with `delta` more bytes in use. -/
def SharedBudgets.charge (sh : SharedBudgets) (delta : Int) : SharedBudgets where
  sessionBudget := sh.sessionBudget.charge delta
  globalBudget := sh.globalBudget.charge delta

/-- Progress of `finishOnce`: its function body holds `queueMu` while it drains. -/
inductive FinishOnce where
  | notStarted
  | draining (err : Option GoError) (tail : Bytes)
  | unlocked
  | done
  deriving DecidableEq, Repr

/-- A call of the stream's single reader. -/
inductive ReadCall where
  /-- `Read(data)` with `len(data)` -/
  | read (size : Nat)
  | readDatagram
  deriving DecidableEq, Repr

/-- Progress of the reader. -/
inductive Reader where
  | idle
  /-- at the head of the loop -/
  | polling (call : ReadCall)
  /-- the non-blocking receive found the channel empty -/
  | locking (call : ReadCall)
  /-- in the blocking `select` -/
  | waiting (call : ReadCall)
  /-- a payload was taken but its reservation is not yet released -/
  | holding (call : ReadCall) (data : Bytes) (size : Int)
  deriving DecidableEq, Repr

/-- A logical stream. `terminal` says whether the channel of that name is closed; `discarding` holds
    the reservations that `releaseQueuedChunks` and `discardRetained` have taken out of the stream and
    not yet released. -/
structure Stream where
  datagram : Bool
  capacity : Nat
  incoming : List QueuedPayload
  buffer : Bytes
  closed : Bool
  terminalBuffer : Bytes
  terminalPackets : List QueuedPayload
  terminalBytes : Int
  terminalErr : Option GoError
  terminalReady : Bool
  terminal : Bool
  streamBudget : ByteBudget
  finishOnce : FinishOnce
  reader : Reader
  discarding : List Int
  deriving DecidableEq, Repr

def minTunnelFrame : Int := 4096

/-- A fresh stream; its slots follow the byte budget and `queueFrames` is the floor. -/
def newStream (datagram : Bool) (queueFrames : Nat) (queueBytes : Int) : Stream where
  datagram := datagram
  capacity := max queueFrames (queueBytes.tdiv minTunnelFrame).toNat
  incoming := []
  buffer := []
  closed := false
  terminalBuffer := []
  terminalPackets := []
  terminalBytes := 0
  terminalErr := none
  terminalReady := false
  terminal := false
  streamBudget := newByteBudget queueBytes
  finishOnce := .notStarted
  reader := .idle
  discarding := []

/-- What a step of a stream does visibly. -/
inductive StreamEvent where
  | silent
  | accepted (data : Bytes)
  | rejected (err : GoError)
  /-- `Read` returns bytes -/
  | returned (data : Bytes)
  /-- `ReadDatagram` returns a packet -/
  | packet (data : Bytes)
  /-- the terminal error, or `io.EOF` for none, is reported to the reader -/
  | ended (err : GoError)
  /-- the reader's own context ended -/
  | cancelled (err : GoError)
  /-- the call does not fit the kind of stream -/
  | misused (err : GoError)
  /-- bytes taken from the queue are returned to the sender as credit -/
  | granted (size : Int)
  deriving DecidableEq, Repr

/-- The budgets, the stream and the event after a step. -/
abbrev StreamStep := Outcome (SharedBudgets × Stream × StreamEvent)

namespace Stream

/-- `finish` is inside its critical section. -/
def locked (st : Stream) : Bool :=
  match st.finishOnce with
  | .draining _ _ => true
  | _ => false

/-- Gives a reservation back to the three budgets. -/
def releaseQueued (sh : SharedBudgets) (st : Stream) (size : Int) :
    Outcome (SharedBudgets × Stream) := do
  let globalBudget ← sh.globalBudget.release size
  let sessionBudget ← sh.sessionBudget.release size
  let streamBudget ← st.streamBudget.release size
  return ({ sessionBudget, globalBudget }, { st with streamBudget })

/-! ## enqueue -/

/-- Accepts a data frame if the stream is open, all three budgets have room and the channel is not
    full. Each failing path gives back what it reserved. -/
def enqueue (sh : SharedBudgets) (st : Stream) (data : Bytes) : StreamStep :=
  let size : Int := data.length
  if st.locked then .blocked
  else if st.closed then .next (sh, st, .rejected (errorsNew "stream closed"))
  else match st.streamBudget.tryAcquire size with
  | none => .next (sh, st, .rejected errResourceBudget)
  | some streamBudget =>
    match sh.sessionBudget.tryAcquire size with
    | none => do
      let streamBudget ← streamBudget.release size
      return (sh, { st with streamBudget }, .rejected errResourceBudget)
    | some sessionBudget =>
      match sh.globalBudget.tryAcquire size with
      | none => do
        let sessionBudget ← sessionBudget.release size
        let streamBudget ← streamBudget.release size
        return ({ sh with sessionBudget }, { st with streamBudget }, .rejected errResourceBudget)
      | some globalBudget =>
        let payload := QueuedPayload.ofData data
        if st.incoming.length < st.capacity then
          .next ({ sessionBudget, globalBudget },
            { st with incoming := st.incoming ++ [payload], streamBudget }, .accepted data)
        else do
          let (sh', st') ←
            releaseQueued { sessionBudget, globalBudget } { st with streamBudget } size
          return (sh', st', .rejected (errorsNew "frame queue full"))

/-! ## Read and ReadDatagram -/

/-- A call begins: each method refuses the other kind of stream. -/
def call (sh : SharedBudgets) (st : Stream) (c : ReadCall) : StreamStep :=
  match st.reader, c, st.datagram with
  | .idle, .read _, true =>
    .next (sh, st, .misused (errorsNew "byte-stream read on UDP flow"))
  | .idle, .readDatagram, false =>
    .next (sh, st, .misused (errorsNew "datagram read on byte stream"))
  | .idle, c, _ => .next (sh, { st with reader := .polling c }, .silent)
  | _, _, _ => .blocked

/-- The loop of `Read` runs while its buffer is empty; the loop of `ReadDatagram` has no test. -/
def loops (st : Stream) : ReadCall → Bool
  | .read _ => st.buffer.isEmpty
  | .readDatagram => true

/-- The non-blocking receive at the head of the loop. -/
def poll (sh : SharedBudgets) (st : Stream) : StreamStep :=
  match st.reader with
  | .polling c =>
    if st.loops c then
      match st.incoming with
      | chunk :: incoming =>
        .next (sh, { st with incoming, reader := .holding c chunk.data chunk.size }, .silent)
      | [] => .next (sh, { st with reader := .locking c }, .silent)
    else .blocked
  | _ => .blocked

/-- The end of `Read`: copies from the buffer what fits the caller's slice. -/
def copy (sh : SharedBudgets) (st : Stream) : StreamStep :=
  match st.reader with
  | .polling (.read size) =>
    if st.buffer.isEmpty then .blocked
    else .next (sh, { st with buffer := st.buffer.drop size, reader := .idle },
      .returned (st.buffer.take size))
  | _ => .blocked

/-- The error that the reader sees at the terminal state. -/
def terminalError (st : Stream) : GoError := st.terminalErr.getD ioEOF

/-- The reader's critical section: takes the terminal tail, or the next terminal packet, or reports
    the terminal error, or goes on to wait. -/
def lockSection (sh : SharedBudgets) (st : Stream) : StreamStep :=
  if st.locked then .blocked
  else match st.reader with
  | .locking c =>
    if st.terminalReady then
      match c with
      | .read _ =>
        if st.terminalBuffer.isEmpty then
          .next (sh, { st with reader := .idle }, .ended st.terminalError)
        else
          .next (sh, { st with
            terminalBuffer := []
            terminalBytes := 0
            reader := .holding c st.terminalBuffer st.terminalBytes }, .silent)
      | .readDatagram =>
        match st.terminalPackets with
        | [] => .next (sh, { st with reader := .idle }, .ended st.terminalError)
        | packet :: terminalPackets =>
          .next (sh, { st with
            terminalPackets
            terminalBytes := st.terminalBytes - packet.size
            reader := .holding c packet.data packet.size }, .silent)
    else .next (sh, { st with reader := .waiting c }, .silent)
  | _ => .blocked

/-- The receive case of the blocking `select`. -/
def receive (sh : SharedBudgets) (st : Stream) : StreamStep :=
  match st.reader, st.incoming with
  | .waiting c, chunk :: incoming =>
    .next (sh, { st with incoming, reader := .holding c chunk.data chunk.size }, .silent)
  | _, _ => .blocked

/-- The `terminal` case of the blocking `select`. -/
def wake (sh : SharedBudgets) (st : Stream) : StreamStep :=
  match st.reader, st.terminal with
  | .waiting c, true => .next (sh, { st with reader := .polling c }, .silent)
  | _, _ => .blocked

/-- The `ctx.Done` case of the blocking `select`, with the error of the reader's context. -/
def cancel (sh : SharedBudgets) (st : Stream) (ctxErr : GoError) : StreamStep :=
  match st.reader with
  | .waiting _ => .next (sh, { st with reader := .idle }, .cancelled ctxErr)
  | _ => .blocked

/-- After a payload was taken: its reservation is released, and then `Read` keeps it as the buffer
    and returns the credit, while `ReadDatagram` returns the packet. -/
def releaseHeld (sh : SharedBudgets) (st : Stream) : StreamStep :=
  match st.reader with
  | .holding (.read size) data held => do
    let (sh', st') ← releaseQueued sh st held
    return (sh', { st' with buffer := data, reader := .polling (.read size) }, .granted held)
  | .holding .readDatagram data held => do
    let (sh', st') ← releaseQueued sh st held
    return (sh', { st' with reader := .idle }, .packet data)
  | _ => .blocked

/-! ## finish and the discards -/

/-- The first call of `finish`: later calls find `finishOnce` used. -/
def finish (sh : SharedBudgets) (st : Stream) (err : Option GoError) : StreamStep :=
  match st.finishOnce with
  | .notStarted =>
    .next (sh, { st with closed := true, finishOnce := .draining err [] }, .silent)
  | _ => .blocked

/-- One receive of the drain in `finish`. -/
def finishReceive (sh : SharedBudgets) (st : Stream) : StreamStep :=
  match st.finishOnce, st.incoming with
  | .draining err tail, chunk :: incoming =>
    if st.datagram then
      .next (sh, { st with
        incoming
        terminalPackets := st.terminalPackets ++ [chunk]
        terminalBytes := st.terminalBytes + chunk.size }, .silent)
    else
      .next (sh, { st with incoming, finishOnce := .draining err (tail ++ chunk.data) }, .silent)
  | _, _ => .blocked

/-- The drain found the channel empty: the terminal state is published and `queueMu` released. -/
def finishPublish (sh : SharedBudgets) (st : Stream) : StreamStep :=
  match st.finishOnce, st.incoming with
  | .draining err tail, [] =>
    .next (sh, { st with
      terminalBuffer := tail
      terminalBytes := if st.datagram then st.terminalBytes else tail.length
      terminalErr := err
      terminalReady := true
      finishOnce := .unlocked }, .silent)
  | _, _ => .blocked

/-- The last statement of `finish` closes the channel `terminal`. -/
def finishSignal (sh : SharedBudgets) (st : Stream) : StreamStep :=
  match st.finishOnce with
  | .unlocked => .next (sh, { st with terminal := true, finishOnce := .done }, .silent)
  | _ => .blocked

/-- The receive of `releaseQueuedChunks`. -/
def discardReceive (sh : SharedBudgets) (st : Stream) : StreamStep :=
  match st.incoming with
  | chunk :: incoming =>
    .next (sh, { st with incoming, discarding := st.discarding ++ [chunk.size] }, .silent)
  | [] => .blocked

/-- The critical section of `discardRetained`. -/
def discardTerminal (sh : SharedBudgets) (st : Stream) : StreamStep :=
  if st.locked then .blocked
  else
    let size := st.terminalBytes
    .next (sh, { st with
      terminalBuffer := []
      terminalPackets := []
      terminalBytes := 0
      discarding := if size > 0 then st.discarding ++ [size] else st.discarding }, .silent)

/-- The release that follows either of the two. -/
def discardRelease (sh : SharedBudgets) (st : Stream) (i : Nat) : StreamStep :=
  match st.discarding[i]? with
  | some size => do
    let (sh', st') ← releaseQueued sh { st with discarding := st.discarding.eraseIdx i } size
    return (sh', st', .silent)
  | none => .blocked

/-- The atomic steps of a stream. -/
inductive Op where
  | enqueue (data : Bytes)
  | call (c : ReadCall)
  | poll
  | copy
  | lockSection
  | receive
  | wake
  | cancel (ctxErr : GoError)
  | releaseHeld
  | finish (err : Option GoError)
  | finishReceive
  | finishPublish
  | finishSignal
  | discardReceive
  | discardTerminal
  | discardRelease (i : Nat)
  deriving DecidableEq, Repr

def step (sh : SharedBudgets) (st : Stream) : Op → StreamStep
  | .enqueue data => st.enqueue sh data
  | .call c => st.call sh c
  | .poll => st.poll sh
  | .copy => st.copy sh
  | .lockSection => st.lockSection sh
  | .receive => st.receive sh
  | .wake => st.wake sh
  | .cancel ctxErr => st.cancel sh ctxErr
  | .releaseHeld => st.releaseHeld sh
  | .finish err => st.finish sh err
  | .finishReceive => st.finishReceive sh
  | .finishPublish => st.finishPublish sh
  | .finishSignal => st.finishSignal sh
  | .discardReceive => st.discardReceive sh
  | .discardTerminal => st.discardTerminal sh
  | .discardRelease i => st.discardRelease sh i

/-! ## What each step can do -/

variable {sh sh' : SharedBudgets} {st st' : Stream} {ev : StreamEvent} {size : Int}

theorem releaseQueued_eq_next (hsize : 0 ≤ size) (h : releaseQueued sh st size = .next (sh', st')) :
    sh' = sh.charge (-size) ∧
      st' = { st with streamBudget := st.streamBudget.charge (-size) } := by
  simp only [releaseQueued, bind_eq_next, pure_eq, next.injEq,
    Prod.mk.injEq] at h
  obtain ⟨globalBudget, hglobal, sessionBudget, hsession, streamBudget, hstream, rfl, rfl⟩ := h
  rw [release_eq_next hsize hglobal, release_eq_next hsize hsession,
    release_eq_next hsize hstream]
  exact ⟨rfl, rfl⟩

/-- Whatever is released, the rest of the stream is unchanged. -/
theorem releaseQueued_frame (h : releaseQueued sh st size = .next (sh', st')) :
    ∃ streamBudget, st' = { st with streamBudget } := by
  simp only [releaseQueued, bind_eq_next, pure_eq, next.injEq,
    Prod.mk.injEq] at h
  obtain ⟨-, -, -, -, streamBudget, -, -, rfl⟩ := h
  exact ⟨streamBudget, rfl⟩

theorem releaseQueued_of_le (hsize : 0 ≤ size)
    (hglobal : size ≤ sh.globalBudget.used) (hsession : size ≤ sh.sessionBudget.used)
    (hstream : size ≤ st.streamBudget.used) :
    releaseQueued sh st size =
      .next (sh.charge (-size), { st with streamBudget := st.streamBudget.charge (-size) }) := by
  simp only [releaseQueued, release_of_le hsize hglobal,
    release_of_le hsize hsession, release_of_le hsize hstream,
    next_bind, pure_eq]
  rfl

/-- A payload is accepted by an open stream with room for it, or nothing changes. -/
theorem enqueue_cases {data : Bytes} (h : st.enqueue sh data = .next (sh', st', ev)) :
    st.locked = false ∧
    ((∃ err, ev = .rejected err ∧ sh' = sh ∧ st' = st) ∨
      (ev = .accepted data ∧ st.closed = false ∧ st.incoming.length < st.capacity ∧
        sh' = sh.charge data.length ∧
        st' = { st with
          incoming := st.incoming ++ [QueuedPayload.ofData data]
          streamBudget := st.streamBudget.charge data.length })) := by
  simp only [enqueue] at h
  split at h
  · cases h
  next hlocked =>
    refine ⟨by simpa using hlocked, ?_⟩
    repeat' split at h
    case isTrue | h_1 =>
      cases h
      exact .inl ⟨_, rfl, rfl, rfl⟩
    next hstream _ _ =>
      -- the session budget is exhausted: the stream's reservation is given back
      simp only [bind_eq_next, pure_eq, next.injEq, Prod.mk.injEq] at h
      obtain ⟨b, hb, rfl, rfl, rfl⟩ := h
      rw [release_of_tryAcquire hstream hb]
      exact .inl ⟨_, rfl, rfl, rfl⟩
    next hstream _ _ hsession _ _ =>
      simp only [bind_eq_next, pure_eq, next.injEq, Prod.mk.injEq] at h
      obtain ⟨b, hb, b', hb', rfl, rfl, rfl⟩ := h
      rw [release_of_tryAcquire hsession hb, release_of_tryAcquire hstream hb']
      exact .inl ⟨_, rfl, rfl, rfl⟩
    all_goals
      obtain ⟨hsize, rfl, -⟩ := tryAcquire_eq_some ‹st.streamBudget.tryAcquire _ = _›
      obtain ⟨-, rfl, -⟩ := tryAcquire_eq_some ‹sh.sessionBudget.tryAcquire _ = _›
      obtain ⟨-, rfl, -⟩ := tryAcquire_eq_some ‹sh.globalBudget.tryAcquire _ = _›
    · cases h
      exact .inr ⟨rfl, by simpa using ‹¬ st.closed = true›, ‹_›, rfl, rfl⟩
    · simp only [bind_eq_next, pure_eq, next.injEq, Prod.mk.injEq] at h
      obtain ⟨⟨sh₁, st₁⟩, hrelease, rfl, rfl, rfl⟩ := h
      obtain ⟨rfl, rfl⟩ := releaseQueued_eq_next hsize hrelease
      exact .inl ⟨_, rfl, by simp [SharedBudgets.charge], by simp⟩

/-- The ways through the steps of a stream. -/
inductive Steps (sh : SharedBudgets) (st : Stream) :
    Op → SharedBudgets → Stream → StreamEvent → Prop
  | rejects {data : Bytes} (err : GoError) : Steps sh st (.enqueue data) sh st (.rejected err)
  | accepts {data : Bytes} (hopen : st.closed = false)
      (hroom : st.incoming.length < st.capacity) :
    Steps sh st (.enqueue data) (sh.charge data.length)
      { st with
        incoming := st.incoming ++ [QueuedPayload.ofData data]
        streamBudget := st.streamBudget.charge data.length } (.accepted data)
  | misuse {c : ReadCall} (err : GoError) : Steps sh st (.call c) sh st (.misused err)
  | call {c : ReadCall} (hidle : st.reader = .idle)
      (hfits : c = .readDatagram ↔ st.datagram = true) :
    Steps sh st (.call c) sh { st with reader := .polling c } .silent
  | poll {c : ReadCall} {chunk : QueuedPayload} {incoming : List QueuedPayload}
      (hreader : st.reader = .polling c) (hloops : st.loops c = true)
      (hincoming : st.incoming = chunk :: incoming) :
    Steps sh st .poll sh { st with incoming, reader := .holding c chunk.data chunk.size } .silent
  | pollEmpty {c : ReadCall} (hreader : st.reader = .polling c) (hloops : st.loops c = true) :
    Steps sh st .poll sh { st with reader := .locking c } .silent
  | copy {size : Nat} (hreader : st.reader = .polling (.read size)) :
    Steps sh st .copy sh { st with buffer := st.buffer.drop size, reader := .idle }
      (.returned (st.buffer.take size))
  | wait {c : ReadCall} (hreader : st.reader = .locking c) :
    Steps sh st .lockSection sh { st with reader := .waiting c } .silent
  | reportEnd {c : ReadCall} (hlocked : st.locked = false) (hreader : st.reader = .locking c)
      (hready : st.terminalReady = true) (hempty : c ≠ .readDatagram → st.terminalBuffer = []) :
    Steps sh st .lockSection sh { st with reader := .idle } (.ended st.terminalError)
  | takeTail {c : ReadCall} (hlocked : st.locked = false) (hreader : st.reader = .locking c)
      (hready : st.terminalReady = true) (hread : c ≠ .readDatagram) :
    Steps sh st .lockSection sh
      { st with
        terminalBuffer := []
        terminalBytes := 0
        reader := .holding c st.terminalBuffer st.terminalBytes } .silent
  | takePacket {packet : QueuedPayload} {packets : List QueuedPayload}
      (hreader : st.reader = .locking .readDatagram) (hpackets : st.terminalPackets = packet :: packets) :
    Steps sh st .lockSection sh
      { st with
        terminalPackets := packets
        terminalBytes := st.terminalBytes - packet.size
        reader := .holding .readDatagram packet.data packet.size } .silent
  | receive {c : ReadCall} {chunk : QueuedPayload} {incoming : List QueuedPayload}
      (hreader : st.reader = .waiting c) (hincoming : st.incoming = chunk :: incoming) :
    Steps sh st .receive sh { st with incoming, reader := .holding c chunk.data chunk.size } .silent
  | wake {c : ReadCall} (hreader : st.reader = .waiting c) :
    Steps sh st .wake sh { st with reader := .polling c } .silent
  | cancel {c : ReadCall} {ctxErr : GoError} (hreader : st.reader = .waiting c) :
    Steps sh st (.cancel ctxErr) sh { st with reader := .idle } (.cancelled ctxErr)
  | keep {sh' : SharedBudgets} {st₁ : Stream} {size : Nat} {data : Bytes} {held : Int}
      (hreader : st.reader = .holding (.read size) data held)
      (hrelease : releaseQueued sh st held = .next (sh', st₁)) :
    Steps sh st .releaseHeld sh' { st₁ with buffer := data, reader := .polling (.read size) }
      (.granted held)
  | deliver {sh' : SharedBudgets} {st₁ : Stream} {data : Bytes} {held : Int}
      (hreader : st.reader = .holding .readDatagram data held)
      (hrelease : releaseQueued sh st held = .next (sh', st₁)) :
    Steps sh st .releaseHeld sh' { st₁ with reader := .idle } (.packet data)
  | finish {err : Option GoError} (honce : st.finishOnce = .notStarted) :
    Steps sh st (.finish err) sh { st with closed := true, finishOnce := .draining err [] } .silent
  | finishPacket {err : Option GoError} {tail : Bytes} {chunk : QueuedPayload}
      {incoming : List QueuedPayload} (honce : st.finishOnce = .draining err tail)
      (hincoming : st.incoming = chunk :: incoming) (hdatagram : st.datagram = true) :
    Steps sh st .finishReceive sh
      { st with
        incoming
        terminalPackets := st.terminalPackets ++ [chunk]
        terminalBytes := st.terminalBytes + chunk.size } .silent
  | finishBytes {err : Option GoError} {tail : Bytes} {chunk : QueuedPayload}
      {incoming : List QueuedPayload} (honce : st.finishOnce = .draining err tail)
      (hincoming : st.incoming = chunk :: incoming) (hbytes : st.datagram = false) :
    Steps sh st .finishReceive sh
      { st with incoming, finishOnce := .draining err (tail ++ chunk.data) } .silent
  | finishPublish {err : Option GoError} {tail : Bytes} (honce : st.finishOnce = .draining err tail)
      (hincoming : st.incoming = []) :
    Steps sh st .finishPublish sh
      { st with
        terminalBuffer := tail
        terminalBytes := if st.datagram then st.terminalBytes else tail.length
        terminalErr := err
        terminalReady := true
        finishOnce := .unlocked } .silent
  | finishSignal (honce : st.finishOnce = .unlocked) :
    Steps sh st .finishSignal sh { st with terminal := true, finishOnce := .done } .silent
  | discardReceive {chunk : QueuedPayload} {incoming : List QueuedPayload}
      (hincoming : st.incoming = chunk :: incoming) :
    Steps sh st .discardReceive sh
      { st with incoming, discarding := st.discarding ++ [chunk.size] } .silent
  | discardTerminal :
    Steps sh st .discardTerminal sh
      { st with
        terminalBuffer := []
        terminalPackets := []
        terminalBytes := 0
        discarding := if st.terminalBytes > 0 then st.discarding ++ [st.terminalBytes]
          else st.discarding } .silent
  | discardRelease {sh' : SharedBudgets} {st' : Stream} {i : Nat} {size : Int}
      (hsize : st.discarding[i]? = some size)
      (hrelease : releaseQueued sh { st with discarding := st.discarding.eraseIdx i } size =
        .next (sh', st')) :
    Steps sh st (.discardRelease i) sh' st' .silent

theorem lockSection_steps (h : st.lockSection sh = .next (sh', st', ev)) :
    st.Steps sh .lockSection sh' st' ev := by
  unfold lockSection at h
  split at h
  · cases h
  next hlocked =>
    have hlocked : st.locked = false := by simpa using hlocked
    repeat' split at h
    all_goals cases h
    next hready _ _ hreader hempty =>
      exact .reportEnd hlocked hreader hready fun _ => by simpa using hempty
    next hready _ _ hreader _ => exact .takeTail hlocked hreader hready (by simp)
    next hready _ hreader _ _ =>
      exact .reportEnd hlocked hreader hready fun hcall => absurd rfl hcall
    next hreader _ _ _ hpackets => exact .takePacket hreader hpackets
    next hreader _ => exact .wait hreader

theorem call_steps {c : ReadCall} (h : st.call sh c = .next (sh', st', ev)) :
    st.Steps sh (.call c) sh' st' ev := by
  unfold call at h
  split at h <;> cases h
  · exact .misuse _
  · exact .misuse _
  next c _ _ _ hidle hread hpacket =>
    refine .call hidle ⟨fun hcall => by simpa using hpacket hcall, fun hdatagram => ?_⟩
    cases c with
    | read size => exact absurd hdatagram (hread size rfl)
    | readDatagram => rfl

theorem poll_steps (h : st.poll sh = .next (sh', st', ev)) : st.Steps sh .poll sh' st' ev := by
  unfold poll at h
  repeat' split at h
  all_goals cases h
  next hreader hloops _ _ _ hincoming => exact .poll hreader hloops hincoming
  next hreader hloops _ _ => exact .pollEmpty hreader hloops

theorem releaseHeld_steps (h : st.releaseHeld sh = .next (sh', st', ev)) :
    st.Steps sh .releaseHeld sh' st' ev := by
  unfold releaseHeld at h
  split at h
  next hreader =>
    obtain ⟨⟨sh₁, st₁⟩, hrelease, hnext⟩ := bind_eq_next.mp h
    cases hnext
    exact .keep hreader hrelease
  next hreader =>
    obtain ⟨⟨sh₁, st₁⟩, hrelease, hnext⟩ := bind_eq_next.mp h
    cases hnext
    exact .deliver hreader hrelease
  next => cases h

theorem finishReceive_steps (h : st.finishReceive sh = .next (sh', st', ev)) :
    st.Steps sh .finishReceive sh' st' ev := by
  unfold finishReceive at h
  split at h
  next honce hincoming =>
    split at h <;> cases h
    next hdatagram => exact .finishPacket honce hincoming hdatagram
    next hdatagram => exact .finishBytes honce hincoming (by simpa using hdatagram)
  next => cases h

theorem discardRelease_steps {i : Nat} (h : st.discardRelease sh i = .next (sh', st', ev)) :
    st.Steps sh (.discardRelease i) sh' st' ev := by
  unfold discardRelease at h
  split at h
  next hsize =>
    obtain ⟨⟨sh₁, st₁⟩, hrelease, hnext⟩ := bind_eq_next.mp h
    cases hnext
    exact .discardRelease hsize hrelease
  next => cases h

/-- Every step goes one of these ways. -/
theorem steps_of_step {o : Op} (h : st.step sh o = .next (sh', st', ev)) :
    st.Steps sh o sh' st' ev := by
  cases o with
  | enqueue data =>
    obtain ⟨-, ⟨err, rfl, rfl, rfl⟩ | ⟨rfl, hopen, hroom, rfl, rfl⟩⟩ := enqueue_cases h
    · exact .rejects err
    · exact .accepts hopen hroom
  | call c => exact call_steps h
  | poll => exact poll_steps h
  | lockSection => exact lockSection_steps h
  | releaseHeld => exact releaseHeld_steps h
  | finishReceive => exact finishReceive_steps h
  | discardRelease i => exact discardRelease_steps h
  | copy =>
    simp only [step, copy] at h
    split at h
    next hreader =>
      split at h <;> cases h
      exact .copy hreader
    next => cases h
  | receive =>
    simp only [step, receive] at h
    split at h <;> cases h
    next hreader hincoming => exact .receive hreader hincoming
  | wake =>
    simp only [step, wake] at h
    split at h <;> cases h
    next hreader _ => exact .wake hreader
  | cancel ctxErr =>
    simp only [step, cancel] at h
    split at h <;> cases h
    next hreader => exact .cancel hreader
  | finish err =>
    simp only [step, finish] at h
    split at h <;> cases h
    next honce => exact .finish honce
  | finishPublish =>
    simp only [step, finishPublish] at h
    split at h <;> cases h
    next honce hincoming => exact .finishPublish honce hincoming
  | finishSignal =>
    simp only [step, finishSignal] at h
    split at h <;> cases h
    next honce => exact .finishSignal honce
  | discardReceive =>
    simp only [step, discardReceive] at h
    split at h <;> cases h
    next hincoming => exact .discardReceive hincoming
  | discardTerminal =>
    simp only [step, discardTerminal] at h
    split at h <;> cases h
    exact .discardTerminal

end Stream

end Hooshix.Gateway
