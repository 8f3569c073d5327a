-- SUMMARY: One logical stream of an Agent session.
import Hooshix.Payload
import Hooshix.Contract
import Hooshix.Agent.Resources

/-! # Agent streams

`agentStream` in the modes `http` and `tcp`, cut into its atomic steps. The local writer receives from
the channel `incoming` without holding `queueMu`, while `finishStream` holds it during its whole drain
and cancels the stream's context only afterwards, so receives of both may interleave.
-/

namespace Hooshix.Agent

open Contract

/-- Progress of the `sync.Once` in `finishStream`. -/
inductive Finish where
  | notStarted
  | draining
  | done
  deriving DecidableEq, Repr

/-- Progress of `writeLocal`. `inner` says that it is in the loop entered after the peer's half-close. -/
inductive LocalWriter where
  /-- in one of the two `select` statements -/
  | selecting (inner : Bool)
  /-- has `rest` of a payload of `size` bytes still to write -/
  | writing (inner : Bool) (rest : Bytes) (size : Int)
  /-- is sending the credit of a written payload -/
  | granting (inner : Bool) (size : Int)
  | returned (err : Option GoError)
  deriving DecidableEq, Repr

structure AgentStream where
  mode : StreamMode
  flowControlled : Bool
  capacity : Nat
  incoming : List QueuedPayload
  closed : Bool
  cancelled : Bool
  peerHalfClose : Bool
  streamBudget : ByteBudget
  finish : Finish
  writer : LocalWriter
  deriving DecidableEq, Repr

/-- What a step does visibly. -/
inductive StreamEvent where
  | silent
  | accepted (data : Bytes)
  | rejected
  /-- bytes reach the local connection -/
  | written (data : Bytes)
  /-- queued bytes are thrown away -/
  | discarded (data : Bytes)
  /-- credit is returned to the Gateway -/
  | granted (size : Int)
  deriving DecidableEq, Repr

/-- The session's budget, the stream and the event after a step that can be taken. -/
abbrev StreamStep := Option (ByteBudget × AgentStream × StreamEvent)

namespace AgentStream

/-- A stream as `handleStreamOpen` creates it. -/
def new (mode : StreamMode) (flowControlled : Bool) (queueFrames : Nat) (inputBytes : Int) :
    AgentStream where
  mode := mode
  flowControlled := flowControlled
  capacity := queueFrames
  incoming := []
  closed := false
  cancelled := false
  peerHalfClose := false
  streamBudget := ByteBudget.new inputBytes
  finish := .notStarted
  writer := .selecting false

/-- Accepts a data frame if the stream is open, both budgets have room and the channel is not full. -/
def enqueue (session : ByteBudget) (st : AgentStream) (data : Bytes) : StreamStep :=
  let size : Int := data.length
  if st.finish = .draining then none
  else if st.closed then some (session, st, .rejected)
  else match st.streamBudget.tryAcquire size with
  | none => some (session, st, .rejected)
  | some streamBudget =>
    match session.tryAcquire size with
    | none => some (session, { st with streamBudget := (streamBudget.release size).1 }, .rejected)
    | some session' =>
      if st.incoming.length < st.capacity then
        some (session',
          { st with incoming := st.incoming ++ [QueuedPayload.ofData data], streamBudget },
          .accepted data)
      else
        some ((session'.release size).1,
          { st with streamBudget := (streamBudget.release size).1 }, .rejected)

/-- Gives a reservation back to both budgets. The wake-up of waiting senders carries no data. -/
def releaseQueued (session : ByteBudget) (st : AgentStream) (size : Int) :
    ByteBudget × AgentStream :=
  ((session.release size).1, { st with streamBudget := (st.streamBudget.release size).1 })

/-- The receive of either `select`; `writeLocalPayload` releases the payload before it writes it. A
    write deadline that cannot be set ends the writer. -/
def receive (session : ByteBudget) (st : AgentStream) (deadlineErr : Option GoError) : StreamStep :=
  match st.writer, st.incoming with
  | .selecting inner, queued :: incoming =>
    let (session', st') := releaseQueued session { st with incoming } queued.size
    match deadlineErr with
    | some err => some (session', { st' with writer := .returned err }, .silent)
    | none => some (session', { st' with writer := .writing inner queued.data queued.size }, .silent)
  | _, _ => none

/-- The `ctx.Done` case of the outer `select`. -/
def contextDone (session : ByteBudget) (st : AgentStream) : StreamStep :=
  match st.writer, st.cancelled with
  | .selecting false, true => some (session, { st with writer := .returned none }, .silent)
  | _, _ => none

/-- The `peerHalfClose` case of the outer `select`. -/
def seeHalfClose (session : ByteBudget) (st : AgentStream) : StreamStep :=
  match st.writer, st.peerHalfClose with
  | .selecting false, true => some (session, { st with writer := .selecting true }, .silent)
  | _, _ => none

/-- The inner loop found the channel empty and closes the local connection for writing. -/
def closeWrite (session : ByteBudget) (st : AgentStream) (err : Option GoError) : StreamStep :=
  match st.writer, st.incoming with
  | .selecting true, [] => some (session, { st with writer := .returned err }, .silent)
  | _, _ => none

/-- One `conn.Write`, which takes `n` bytes and may fail after them. -/
def write (session : ByteBudget) (st : AgentStream) (n : Nat) (err : Option GoError) : StreamStep :=
  match st.writer with
  | .writing inner rest size =>
    if rest = [] then none
    else match err with
      | some err =>
        some (session, { st with writer := .returned err }, .written (rest.take n))
      | none =>
        some (session, { st with writer := .writing inner (rest.drop n) size },
          .written (rest.take n))
  | _ => none

/-- The payload is written: a flow-controlled stream returns its credit. -/
def payloadDone (session : ByteBudget) (st : AgentStream) : StreamStep :=
  match st.writer with
  | .writing inner [] size =>
    if st.flowControlled && size > 0 then
      some (session, { st with writer := .granting inner size }, .silent)
    else some (session, { st with writer := .selecting inner }, .silent)
  | _ => none

/-- The `stream_window_update` was sent or failed. -/
def grant (session : ByteBudget) (st : AgentStream) (err : Option GoError) : StreamStep :=
  match st.writer with
  | .granting inner size =>
    match err with
    | some err => some (session, { st with writer := .returned err }, .silent)
    | none => some (session, { st with writer := .selecting inner }, .granted size)
  | _ => none

/-- The first call of `finishStream`. -/
def finishStream (session : ByteBudget) (st : AgentStream) : StreamStep :=
  match st.finish with
  | .notStarted => some (session, { st with closed := true, finish := .draining }, .silent)
  | _ => none

/-- One receive of the drain, which throws the payload away. -/
def finishReceive (session : ByteBudget) (st : AgentStream) : StreamStep :=
  match st.finish, st.incoming with
  | .draining, queued :: incoming =>
    let (session', st') := releaseQueued session { st with incoming } queued.size
    some (session', st', .discarded queued.data)
  | _, _ => none

/-- The drain found the channel empty: `queueMu` is released and the context cancelled. -/
def finishDone (session : ByteBudget) (st : AgentStream) : StreamStep :=
  match st.finish, st.incoming with
  | .draining, [] => some (session, { st with cancelled := true, finish := .done }, .silent)
  | _, _ => none

/-- The atomic steps of a stream. -/
inductive Op where
  | enqueue (data : Bytes)
  | receive (deadlineErr : Option GoError)
  | contextDone
  | seeHalfClose
  | closeWrite (err : Option GoError)
  | write (n : Nat) (err : Option GoError)
  | payloadDone
  | grant (err : Option GoError)
  | finishStream
  | finishReceive
  | finishDone
  /-- the session's context ends, or `serveStream` cancels the stream -/
  | cancel
  /-- the Gateway's `stream_half_close`, which is valid for TCP streams -/
  | halfClose
  deriving DecidableEq, Repr

def step (session : ByteBudget) (st : AgentStream) : Op → StreamStep
  | .enqueue data => st.enqueue session data
  | .receive deadlineErr => st.receive session deadlineErr
  | .contextDone => st.contextDone session
  | .seeHalfClose => st.seeHalfClose session
  | .closeWrite err => st.closeWrite session err
  | .write n err => st.write session n err
  | .payloadDone => st.payloadDone session
  | .grant err => st.grant session err
  | .finishStream => st.finishStream session
  | .finishReceive => st.finishReceive session
  | .finishDone => st.finishDone session
  | .cancel => some (session, { st with cancelled := true }, .silent)
  | .halfClose =>
    if st.mode = .tcp then some (session, { st with peerHalfClose := true }, .silent) else none

/-! ## What a step does to the queue -/

section Queue

variable {session session' : ByteBudget} {st st' : AgentStream} {ev : StreamEvent}
  {err : Option GoError} {data : Bytes}

/-- `enqueue` refuses the payload and keeps nothing reserved for it, or the payload is the last of the
    queue. -/
theorem enqueue_cases (h : st.enqueue session data = some (session', st', ev)) :
    (ev = .rejected ∧ ByteBudget.Refunded session session' ∧ ∃ streamBudget,
      ByteBudget.Refunded st.streamBudget streamBudget ∧ st' = { st with streamBudget }) ∨
    (ev = .accepted data ∧ st.closed = false ∧ st.incoming.length < st.capacity ∧
      session.tryAcquire data.length = some session' ∧ ∃ streamBudget,
        st.streamBudget.tryAcquire data.length = some streamBudget ∧
        st' = { st with
          incoming := st.incoming ++ [QueuedPayload.ofData data]
          streamBudget }) := by
  simp only [enqueue] at h
  repeat' split at h
  all_goals cases h
  · exact .inl ⟨rfl, .inl rfl, _, .inl rfl, rfl⟩
  · exact .inl ⟨rfl, .inl rfl, _, .inl rfl, rfl⟩
  next hstream _ _ => exact .inl ⟨rfl, .inl rfl, _, .inr ⟨_, _, hstream, rfl⟩, rfl⟩
  next hopen _ _ hstream _ hroom hsession =>
    exact .inr ⟨rfl, by simpa using hopen, hroom, hsession, _, hstream, rfl⟩
  next hstream _ _ hsession _ =>
    exact .inl ⟨rfl, .inr ⟨_, _, hsession, rfl⟩, _, .inr ⟨_, _, hstream, rfl⟩, rfl⟩

/-- An open stream takes data with room in both budgets and in the queue. -/
theorem enqueue_of_room (hopen : st.closed = false)
    (hstream : st.streamBudget.tryAcquire data.length ≠ none)
    (hsession : session.tryAcquire data.length ≠ none) (hroom : st.incoming.length < st.capacity)
    (h : st.enqueue session data = some (session', st', ev)) : ev = .accepted data := by
  obtain ⟨streamBudget, hstream⟩ := Option.ne_none_iff_exists'.mp hstream
  obtain ⟨sessionBudget, hsession⟩ := Option.ne_none_iff_exists'.mp hsession
  simp only [enqueue, hopen, hstream, hsession, hroom, if_true, Bool.false_eq_true, if_false] at h
  split at h <;> cases h
  rfl

/-- A payload without bytes takes a slot and nothing else. -/
theorem enqueue_empty (hopen : st.closed = false) (hfinish : st.finish = .notStarted)
    (hstream : 0 ≤ st.streamBudget.limit) (hsession : 0 ≤ session.limit)
    (hroom : st.incoming.length < st.capacity) :
    st.enqueue session [] =
      some (session, { st with incoming := st.incoming ++ [QueuedPayload.ofData []] },
        .accepted []) := by
  simp [enqueue, hopen, hfinish, ByteBudget.tryAcquire_zero hstream,
    ByteBudget.tryAcquire_zero hsession, hroom]

/-- The ways through the steps of a stream, without `enqueue`. -/
inductive Steps (session : ByteBudget) (st : AgentStream) :
    Op → ByteBudget → AgentStream → StreamEvent → Prop
  | receiveFails {inner : Bool} {queued : QueuedPayload} {incoming : List QueuedPayload} {err : GoError}
      (hwriter : st.writer = .selecting inner) (hincoming : st.incoming = queued :: incoming) :
    Steps session st (.receive (some err)) (session.release queued.size).1
      { st with
        incoming
        streamBudget := (st.streamBudget.release queued.size).1
        writer := .returned err } .silent
  | receive {inner : Bool} {queued : QueuedPayload} {incoming : List QueuedPayload}
      (hwriter : st.writer = .selecting inner) (hincoming : st.incoming = queued :: incoming) :
    Steps session st (.receive none) (session.release queued.size).1
      { st with
        incoming
        streamBudget := (st.streamBudget.release queued.size).1
        writer := .writing inner queued.data queued.size } .silent
  | contextDone (hwriter : st.writer = .selecting false) :
    Steps session st .contextDone session { st with writer := .returned none } .silent
  | seeHalfClose (hwriter : st.writer = .selecting false) :
    Steps session st .seeHalfClose session { st with writer := .selecting true } .silent
  | closeWrite {err : Option GoError} (hwriter : st.writer = .selecting true) :
    Steps session st (.closeWrite err) session { st with writer := .returned err } .silent
  | writeFails {inner : Bool} {rest : Bytes} {size : Int} {n : Nat} {err : GoError}
      (hwriter : st.writer = .writing inner rest size) :
    Steps session st (.write n (some err)) session { st with writer := .returned err }
      (.written (rest.take n))
  | write {inner : Bool} {rest : Bytes} {size : Int} {n : Nat}
      (hwriter : st.writer = .writing inner rest size) :
    Steps session st (.write n none) session { st with writer := .writing inner (rest.drop n) size }
      (.written (rest.take n))
  | owesCredit {inner : Bool} {size : Int} (hwriter : st.writer = .writing inner [] size)
      (hsize : 0 < size) :
    Steps session st .payloadDone session { st with writer := .granting inner size } .silent
  | owesNothing {inner : Bool} {size : Int} (hwriter : st.writer = .writing inner [] size)
      (hunpaid : st.flowControlled = true → size ≤ 0) :
    Steps session st .payloadDone session { st with writer := .selecting inner } .silent
  | grantFails {inner : Bool} {size : Int} {err : GoError} (hwriter : st.writer = .granting inner size) :
    Steps session st (.grant (some err)) session { st with writer := .returned err } .silent
  | grant {inner : Bool} {size : Int} (hwriter : st.writer = .granting inner size) :
    Steps session st (.grant none) session { st with writer := .selecting inner } (.granted size)
  | finishStream :
    Steps session st .finishStream session { st with closed := true, finish := .draining } .silent
  | finishReceive {queued : QueuedPayload} {incoming : List QueuedPayload}
      (hfinish : st.finish = .draining) (hincoming : st.incoming = queued :: incoming) :
    Steps session st .finishReceive (session.release queued.size).1
      { st with incoming, streamBudget := (st.streamBudget.release queued.size).1 }
      (.discarded queued.data)
  | finishDone :
    Steps session st .finishDone session { st with cancelled := true, finish := .done } .silent
  | cancel : Steps session st .cancel session { st with cancelled := true } .silent
  | halfClose : Steps session st .halfClose session { st with peerHalfClose := true } .silent

theorem receive_steps {deadlineErr : Option GoError}
    (h : st.receive session deadlineErr = some (session', st', ev)) :
    st.Steps session (.receive deadlineErr) session' st' ev := by
  simp only [receive, releaseQueued] at h
  split at h
  next hwriter hincoming =>
    cases deadlineErr <;> cases h
    · exact .receive hwriter hincoming
    · exact .receiveFails hwriter hincoming
  next => cases h

theorem write_steps {n : Nat} (h : st.write session n err = some (session', st', ev)) :
    st.Steps session (.write n err) session' st' ev := by
  unfold write at h
  split at h
  next hwriter =>
    split at h
    · cases h
    cases err <;> cases h
    · exact .write hwriter
    · exact .writeFails hwriter
  next => cases h

theorem payloadDone_steps (h : st.payloadDone session = some (session', st', ev)) :
    st.Steps session .payloadDone session' st' ev := by
  unfold payloadDone at h
  split at h
  next hwriter =>
    split at h <;> cases h
    next hpaced =>
      simp only [Bool.and_eq_true, decide_eq_true_eq] at hpaced
      exact .owesCredit hwriter hpaced.2
    next hfree =>
      simp only [Bool.and_eq_true, decide_eq_true_eq, not_and, Int.not_lt] at hfree
      exact .owesNothing hwriter hfree
  next => cases h

theorem grant_steps (h : st.grant session err = some (session', st', ev)) :
    st.Steps session (.grant err) session' st' ev := by
  unfold grant at h
  split at h
  next hwriter =>
    cases err <;> cases h
    · exact .grant hwriter
    · exact .grantFails hwriter
  next => cases h

theorem steps_of_step {o : Op} (hother : ∀ data, o ≠ .enqueue data)
    (h : st.step session o = some (session', st', ev)) : st.Steps session o session' st' ev := by
  cases o with
  | enqueue data => exact absurd rfl (hother data)
  | receive deadlineErr => exact receive_steps h
  | write n err => exact write_steps h
  | payloadDone => exact payloadDone_steps h
  | grant err => exact grant_steps h
  | contextDone =>
    simp only [step, contextDone] at h
    split at h <;> cases h
    next hwriter _ => exact .contextDone hwriter
  | seeHalfClose =>
    simp only [step, seeHalfClose] at h
    split at h <;> cases h
    next hwriter _ => exact .seeHalfClose hwriter
  | closeWrite err =>
    simp only [step, closeWrite] at h
    split at h <;> cases h
    next hwriter _ => exact .closeWrite hwriter
  | finishStream =>
    simp only [step, finishStream] at h
    split at h <;> cases h
    exact .finishStream
  | finishReceive =>
    simp only [step, finishReceive, releaseQueued] at h
    split at h <;> cases h
    next hfinish hincoming => exact .finishReceive hfinish hincoming
  | finishDone =>
    simp only [step, finishDone] at h
    split at h <;> cases h
    exact .finishDone
  | cancel =>
    cases h
    exact .cancel
  | halfClose =>
    simp only [step] at h
    split at h <;> cases h
    exact .halfClose

/-- The first payload leaves the queue and its reservation is released, or the queue and the budgets
    stay as they are. -/
structure Dequeues (session session' : ByteBudget) (st st' : AgentStream) : Prop where
  mode : st'.mode = st.mode
  flowControlled : st'.flowControlled = st.flowControlled
  capacity : st'.capacity = st.capacity
  queue : (∃ queued, st.incoming = queued :: st'.incoming ∧
      session' = (session.release queued.size).1 ∧
      st'.streamBudget = (st.streamBudget.release queued.size).1) ∨
    (st'.incoming = st.incoming ∧ session' = session ∧ st'.streamBudget = st.streamBudget)

/-- Every step but `enqueue` at most takes the first payload out of the queue. -/
theorem step_dequeues {o : Op} (hother : ∀ data, o ≠ .enqueue data)
    (h : st.step session o = some (session', st', ev)) : Dequeues session session' st st' := by
  cases steps_of_step hother h with
  | receiveFails _ hincoming | receive _ hincoming | finishReceive _ hincoming =>
    exact ⟨rfl, rfl, rfl, .inl ⟨_, hincoming, rfl, rfl⟩⟩
  | _ => exact ⟨rfl, rfl, rfl, .inr ⟨rfl, rfl, rfl⟩⟩

end Queue

end AgentStream

end Hooshix.Agent
