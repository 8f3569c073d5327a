-- SUMMARY: How a Gateway stream ends and which ends its three consumers report as clean.
import Hooshix.Gateway.Delivery

/-! # The end of a stream

The error given to the first `finish` of a stream reaches its consumer through `Read`. Each consumer
decides from that error alone whether the stream ended cleanly, and each asks whether `io.EOF` is
anywhere in the error's chain. The Agent's `stream_close` and `stream_half_close` do arrive as
`io.EOF`, but so does a lost connection whose read error wraps it.
-/

namespace Hooshix.Gateway

/-! ## Causes -/

/-- The calls of `finish`, by who ends the stream. -/
inductive EndCause where
  /-- the Agent's `stream_close` -/
  | streamClose
  /-- the Agent's `stream_half_close` -/
  | streamHalfClose
  /-- the Agent's `stream_error` -/
  | streamError (code message : String)
  /-- the session ends, for example with the error of the WebSocket read -/
  | failAll (err : GoError)
  /-- the Gateway gives up on this stream: `errorStream`, or a failed open -/
  | errorStream (err : GoError)
  /-- the handler that owns the stream closes it after it stopped consuming -/
  | handlerClose
  deriving DecidableEq, Repr

namespace EndCause

/-- The argument of `finish`. -/
def terminalErr : EndCause → Option GoError
  | streamClose => some ioEOF
  | streamHalfClose => none
  | streamError code message => some (errorsNew s!"agent stream error {code.quote}: {message.quote}")
  | failAll err => some err
  | errorStream err => some err
  | handlerClose => some ioEOF

/-- The Agent ended its direction of the stream. -/
def byAgent : EndCause → Bool
  | streamClose | streamHalfClose => true
  | _ => false

/-- The error `Read` reports at the end. -/
def readErr (cause : EndCause) : GoError := cause.terminalErr.getD ioEOF

end EndCause

/-! ## Consumers -/

/-- An error of a write to the public side. The writers of `net` and `net/http` report broken
    connections and deadlines and never `io.EOF`. -/
structure WriteError where
  err : GoError
  notEOF : err.is .eof = false
  deriving DecidableEq, Repr

/-- What a chunked transfer encoding makes of the bytes received so far. -/
inductive ChunkedBody where
  | complete (content : Bytes)
  | malformed (content : Bytes) (message : String)
  | incomplete (content : Bytes)
  deriving DecidableEq, Repr

/-- How a response of undeclared length marks its end; the chunk decoder of `net/http` is a
    parameter. -/
inductive BodyFraming where
  | untilClose
  | chunked (decode : Bytes → ChunkedBody)

/-- The framing itself marks the body as complete. -/
def BodyFraming.isComplete (received : Bytes) : BodyFraming → Bool
  | .untilClose => false
  | .chunked decode => match decode received with
    | .complete _ => true
    | _ => false

/-- The content of the body and the error that its reader returns after it. The readers of `net/http`
    compare with `io.EOF` by identity and pass every other error on. -/
def BodyFraming.read (received : Bytes) (readErr : GoError) : BodyFraming → Bytes × GoError
  | .untilClose => (received, readErr)
  | .chunked decode => match decode received with
    | .complete content => (content, ioEOF)
    | .malformed content message => (content, errorsNew message)
    | .incomplete content =>
      (content, if readErr = ioEOF then .sentinel .unexpectedEOF else readErr)

/-- A writer that takes everything, or fails once it has taken a number of bytes. -/
abbrev BodyWriter := Option (Nat × WriteError)

/-- `io.CopyN`: stops at the limit, at the writer's error or at the reader's error. A reader that ends
    early is reported as `io.EOF`. -/
def copyN (writer : BodyWriter) (content : Bytes) (endErr : GoError) (limit : Nat) :
    Nat × Option GoError :=
  let copied :=
    if content.length ≥ limit then (limit, none) else (content.length, some endErr)
  match writer with
  | some (taken, failure) =>
    if taken < min content.length limit then (taken, some failure.err) else copied
  | none => copied

/-- What is read of a response besides its body. `contentLength` is negative if undeclared. -/
structure TunneledResponse where
  isHead : Bool
  statusCode : Int
  contentLength : Int
  deriving DecidableEq, Repr

def responseHasBody (response : TunneledResponse) : Bool :=
  !response.isHead && response.statusCode ≠ 204 && response.statusCode ≠ 304 &&
    response.statusCode ≥ 200

/-- Copies the body of a response; the result is the number of bytes, whether the body exceeds the
    limit, and the error. -/
def copyTunneledResponseBody (writer : BodyWriter) (response : TunneledResponse)
    (content : Bytes) (endErr : GoError) (limit : Nat) : Nat × Bool × Option GoError :=
  if !responseHasBody response then (0, false, none)
  else if response.contentLength ≥ 0 then
    if response.contentLength = 0 then (0, false, none)
    else
      let (written, err) := copyN writer content endErr response.contentLength.toNat
      (written, false, err)
  else match copyN writer content endErr limit with
  | (written, some err) =>
    if err.is .eof then (written, false, none) else (written, false, some err)
  | (written, none) =>
    if content.length > limit then (written, true, none)
    else if endErr.is .eof then (written, false, none)
    else (written, false, some endErr)

/-- Frames written to a connector. -/
inductive ConnectorFrame where
  | data (payload : Bytes)
  | halfClose
  deriving DecidableEq, Repr

/-- Forwards what `Read` returns to a connector; `write k` is the result of the write numbered `k`. -/
def writeConnector (write : Nat → Option GoError) (k : Nat) (readErr : GoError) :
    List Bytes → List ConnectorFrame × Option GoError
  | [] =>
    if readErr.is .eof then
      match write k with
      | none => ([.halfClose], none)
      | some err => ([], some err)
    else ([], some readErr)
  | chunk :: reads =>
    if chunk.isEmpty then writeConnector write k readErr reads
    else match write k with
      | some err => ([], some err)
      | none =>
        let (frames, err) := writeConnector write (k + 1) readErr reads
        (.data chunk :: frames, err)

/-- Forwards what `Read` returns to a public TCP client; the result says whether the client's side was
    half-closed. -/
def writePublicTCP (write : Nat → Option GoError) (closeWrite : Option GoError) (k : Nat)
    (readErr : GoError) : List Bytes → Bool × Option GoError
  | [] =>
    if readErr.is .eof then (true, closeWrite)
    else (false, some (.wrap "read public TCP stream" readErr))
  | chunk :: reads =>
    if chunk.isEmpty then writePublicTCP write closeWrite k readErr reads
    else match write k with
      | some err => (false, some err)
      | none => writePublicTCP write closeWrite (k + 1) readErr reads

/-- The consumers of a byte stream with what they meet on the public side. -/
inductive Consumer where
  /-- an HTTP response, whose header takes `head` bytes of the stream -/
  | http (response : TunneledResponse) (framing : BodyFraming) (head limit : Nat)
    (writer : BodyWriter)
  | connector (write : Nat → Option GoError)
  | publicTCP (write : Nat → Option GoError) (closeWrite : Option GoError)

/-- The consumer tells the public side that the stream is complete. For an HTTP response this is about
    a body of undeclared length that its own framing does not mark as complete. -/
def Consumer.signalsClean (reads : List Bytes) (readErr : GoError) : Consumer → Prop
  | .http response framing head limit writer =>
    let received := reads.flatten.drop head
    let body := framing.read received readErr
    responseHasBody response = true ∧ response.contentLength < 0 ∧
      framing.isComplete received = false ∧
      (copyTunneledResponseBody writer response body.1 body.2 limit).2 = (false, none)
  | .connector write => .halfClose ∈ (writeConnector write 0 readErr reads).1
  | .publicTCP write closeWrite => (writePublicTCP write closeWrite 0 readErr reads).1 = true

/-! ### A clean signal needs `io.EOF` in the error -/

variable {writer : BodyWriter} {content : Bytes}

theorem copyN_is_eof {endErr err : GoError}
    {limit written : Nat} (h : copyN writer content endErr limit = (written, some err))
    (heof : err.is .eof = true) : endErr.is .eof = true := by
  have hcopied : ∀ {n : Nat} {e : GoError},
      (if content.length ≥ limit then (limit, none) else (content.length, some endErr)) =
        (n, some e) → e = endErr := by
    intro n e hcopied
    split at hcopied <;> cases hcopied
    rfl
  unfold copyN at h
  simp only at h
  split at h
  next taken failure =>
    split at h
    · cases h
      simp [failure.notEOF] at heof
    · rw [← hcopied h]
      exact heof
  next =>
    rw [← hcopied h]
    exact heof

theorem copyTunneledResponseBody_clean {response : TunneledResponse}
    {endErr : GoError} {limit : Nat}
    (hbody : responseHasBody response = true) (hlength : response.contentLength < 0)
    (h : (copyTunneledResponseBody writer response content endErr limit).2 = (false, none)) :
    endErr.is .eof = true := by
  have hundeclared : ¬ response.contentLength ≥ 0 := by omega
  simp only [copyTunneledResponseBody, hbody, hundeclared, Bool.not_true, Bool.false_eq_true,
    if_false] at h
  split at h
  next written err hcopy =>
    split at h
    next heof => exact copyN_is_eof hcopy heof
    next => cases h
  repeat' split at h
  all_goals cases h
  assumption

variable {readErr : GoError} {reads : List Bytes} {arg : Option (Option GoError)}
  {write : Nat → Option GoError} {sh sh' : SharedBudgets} {ev : StreamEvent} {st st' : Stream}
  {k : Nat}

/-- The end error of an incomplete body has `io.EOF` in it only if the stream's has. -/
theorem BodyFraming.read_is_eof {framing : BodyFraming} {received : Bytes}
    (hincomplete : framing.isComplete received = false)
    (h : (framing.read received readErr).2.is .eof = true) : readErr.is .eof = true := by
  cases framing with
  | untilClose => exact h
  | chunked decode =>
    simp only [BodyFraming.isComplete] at hincomplete
    simp only [BodyFraming.read] at h
    split at h
    next hdecode => simp [hdecode] at hincomplete
    next => simp at h
    next =>
      split at h
      · simp [ErrorChain.is] at h
      · exact h

theorem writeConnector_halfClose
    (h : ConnectorFrame.halfClose ∈ (writeConnector write k readErr reads).1) :
    readErr.is .eof = true := by
  induction reads generalizing k with
  | nil =>
    simp only [writeConnector] at h
    split at h
    next heof => exact heof
    next => simp at h
  | cons chunk reads ih =>
    simp only [writeConnector] at h
    split at h
    · exact ih h
    · split at h
      · simp at h
      · exact ih (by simpa using h)

theorem writePublicTCP_halfClosed {closeWrite : Option GoError}
    (h : (writePublicTCP write closeWrite k readErr reads).1 = true) :
    readErr.is .eof = true := by
  induction reads generalizing k with
  | nil =>
    simp only [writePublicTCP] at h
    split at h
    next heof => exact heof
    next => simp at h
  | cons chunk reads ih =>
    simp only [writePublicTCP] at h
    split at h
    · exact ih h
    · split at h
      · simp at h
      · exact ih h

/-- No consumer reports a clean end unless `io.EOF` is in the error it read. -/
theorem Consumer.is_eof_of_signalsClean {consumer : Consumer}
    (h : consumer.signalsClean reads readErr) : readErr.is .eof = true := by
  cases consumer with
  | http response framing head limit writer =>
    obtain ⟨hbody, hlength, hincomplete, hclean⟩ := h
    exact BodyFraming.read_is_eof hincomplete
      (copyTunneledResponseBody_clean hbody hlength hclean)
  | connector write => exact writeConnector_halfClose h
  | publicTCP write closeWrite => exact writePublicTCP_halfClosed h

/-! ## The error that reaches the reader -/

/-- The terminal state of the stream comes from the argument of its first `finish`, if any. -/
structure Stream.EndsWith (st : Stream) (arg : Option (Option GoError)) : Prop where
  idle : st.finishOnce = .notStarted → arg = none ∧ st.terminalReady = false
  draining : ∀ err tail, st.finishOnce = .draining err tail → arg = some err
  ready : st.terminalReady = true → arg = some st.terminalErr

theorem Stream.EndsWith.new (datagram : Bool) (queueFrames : Nat) (queueBytes : Int) :
    (newStream datagram queueFrames queueBytes).EndsWith none := by
  constructor <;> simp [newStream]

theorem Stream.EndsWith.finish {err : Option GoError} (hst : st.EndsWith arg)
    (h : st.finish sh err = .next (sh', st', ev)) :
    arg = none ∧ ev = .silent ∧ st'.EndsWith (some err) := by
  cases steps_of_step (o := .finish err) h with
  | finish honce =>
    obtain ⟨rfl, hready⟩ := hst.idle honce
    refine ⟨rfl, rfl, by simp, ?_, by simp [hready]⟩
    rintro err' tail ⟨⟩
    rfl

/-- Only `finish` decides the terminal state, `Read` reports what it decided, and a cancelled `Read`
    reports the error of its own context. -/
theorem Stream.EndsWith.step {o : Stream.Op} (hst : st.EndsWith arg)
    (hfinish : ∀ err, o ≠ .finish err) (h : st.step sh o = .next (sh', st', ev)) :
    st'.EndsWith arg ∧ (∀ e, ev = .ended e → ∃ err, arg = some err ∧ e = err.getD ioEOF) ∧
      ∀ e, ev = .cancelled e → o = .cancel e := by
  cases steps_of_step h with
  | rejects | misuse => exact ⟨hst, by simp, by simp⟩
  | reportEnd _ _ hready =>
    refine ⟨⟨hst.idle, hst.draining, hst.ready⟩, ?_, by simp⟩
    rintro e ⟨⟩
    exact ⟨st.terminalErr, hst.ready hready, rfl⟩
  | keep _ hrelease | deliver _ hrelease | discardRelease _ hrelease =>
    obtain ⟨streamBudget, rfl⟩ := releaseQueued_frame hrelease
    exact ⟨⟨hst.idle, hst.draining, hst.ready⟩, by simp, by simp⟩
  | finish => exact absurd rfl (hfinish _)
  | finishBytes honce =>
    refine ⟨⟨by simp, ?_, hst.ready⟩, by simp, by simp⟩
    rintro err' tail' ⟨⟩
    exact hst.draining _ _ honce
  | finishPublish honce =>
    exact ⟨⟨by simp, by simp, fun _ => hst.draining _ _ honce⟩, by simp, by simp⟩
  | finishSignal => exact ⟨⟨by simp, by simp, hst.ready⟩, by simp, by simp⟩
  | _ => exact ⟨⟨hst.idle, hst.draining, hst.ready⟩, by simp, by simp⟩

/-! ## Streams with their consumer -/

/-- A stream with the cause of its end and what its consumer read. `readErr` is the error that ended
    the consumer's loop; `stopped` says that the consumer left on its own account, or that its public
    connection is closed, so that it signals nothing any more. -/
structure Ending where
  shared : SharedBudgets
  stream : Stream
  cause : Option EndCause
  reads : List Bytes
  readErr : Option GoError
  stopped : Bool
  deriving DecidableEq, Repr

namespace Ending

/-- The two values of `ctx.Err()`. -/
inductive ContextErr where
  | canceled
  | deadlineExceeded
  deriving DecidableEq, Repr

def ContextErr.err : ContextErr → GoError
  | canceled => .sentinel .canceled
  | deadlineExceeded => .sentinel .deadlineExceeded

inductive Label where
  | op (o : Stream.Op)
  | finish (cause : EndCause)
  | cancel (ctxErr : ContextErr)
  | stop
  | budgets (shared : SharedBudgets)
  deriving DecidableEq, Repr

def start (shared : SharedBudgets) (queueFrames : Nat) (queueBytes : Int) : Ending where
  shared := shared
  stream := newStream false queueFrames queueBytes
  cause := none
  reads := []
  readErr := none
  stopped := false

/-- The consumer sees what its reads return until it has left its loop. -/
def observe (e : Ending) (ev : StreamEvent) : Ending :=
  if e.stopped || e.readErr.isSome then e
  else match ev with
    | .returned data => { e with reads := e.reads ++ [data] }
    | .ended err => { e with readErr := some err }
    | .cancelled err => { e with readErr := some err }
    | _ => e

/-- One step of the stream, seen by the consumer. -/
def advance (e : Ending) (o : Stream.Op) : Option Ending :=
  (e.stream.step e.shared o).value?.map fun (shared, stream, ev) =>
    observe { e with shared, stream } ev

def step (e : Ending) : Label → Option Ending
  | .op (.finish _) => none
  | .op (.cancel _) => none
  | .op o => e.advance o
  | .finish cause =>
    if cause = .handlerClose ∧ e.stopped = false ∧ e.readErr = none then none
    else (e.advance (.finish cause.terminalErr)).map fun e' => { e' with cause := some cause }
  | .cancel ctxErr => e.advance (.cancel ctxErr.err)
  | .stop => some { e with stopped := true }
  | .budgets shared => some { e with shared }

/-- The error the consumer read comes from the cause of the end, and the handler's own close is not
    such a cause. -/
structure Traced (e : Ending) : Prop where
  ends : e.stream.EndsWith (e.cause.map EndCause.terminalErr)
  closesLast : e.cause = some .handlerClose → e.stopped = true ∨ e.readErr.isSome = true
  readErr : ∀ err, e.readErr = some err → err.is .eof = true →
    ∃ c, e.cause = some c ∧ c ≠ .handlerClose ∧ err = c.readErr

theorem Traced.start (shared : SharedBudgets) (queueFrames : Nat) (queueBytes : Int) :
    (start shared queueFrames queueBytes).Traced where
  ends := Stream.EndsWith.new false queueFrames queueBytes
  closesLast := by simp [Ending.start]
  readErr := by simp [Ending.start]

/-- An observed event keeps the trace if a terminal error in it comes from the cause. -/
theorem Traced.observe {e : Ending} {shared : SharedBudgets} {stream : Stream} {ev : StreamEvent}
    (he : e.Traced) (hends : stream.EndsWith (e.cause.map EndCause.terminalErr))
    (hended : ∀ err, ev = .ended err →
      ∃ arg, e.cause.map EndCause.terminalErr = some arg ∧ err = arg.getD ioEOF)
    (hcancelled : ∀ err, ev = .cancelled err → err.is .eof = false) :
    (observe { e with shared, stream } ev).Traced := by
  unfold Ending.observe
  split
  · exact ⟨hends, he.closesLast, he.readErr⟩
  next hlive =>
    simp only [Bool.or_eq_true, not_or, Bool.not_eq_true, Option.isSome_eq_false_iff,
      Option.isNone_iff_eq_none] at hlive
    split
    · exact ⟨hends, he.closesLast, he.readErr⟩
    next err =>
      obtain ⟨arg, hcause, harg⟩ := hended err rfl
      obtain ⟨c, hc, hterminal⟩ := Option.map_eq_some_iff.mp hcause
      refine ⟨hends, fun _ => .inr rfl, ?_⟩
      intro err' herr' _
      cases herr'
      refine ⟨c, hc, ?_, ?_⟩
      · rintro rfl
        rcases he.closesLast hc with hstopped | hread
        · simp [hlive.1] at hstopped
        · simp [hlive.2] at hread
      · rw [harg, ← hterminal]
        rfl
    next err =>
      refine ⟨hends, fun _ => .inr rfl, ?_⟩
      intro err' herr' heof
      cases herr'
      simp [hcancelled err rfl] at heof
    · exact ⟨hends, he.closesLast, he.readErr⟩

variable {e e' : Ending} {cause : EndCause} {o : Stream.Op}

theorem advance_cases (h : e.advance o = some e') :
    ∃ shared stream ev, e.stream.step e.shared o = .next (shared, stream, ev) ∧
      e' = observe { e with shared, stream } ev := by
  obtain ⟨⟨shared, stream, ev⟩, hnext, rfl⟩ := Option.map_eq_some_iff.mp h
  exact ⟨shared, stream, ev, Outcome.value?_eq_some.mp hnext, rfl⟩

theorem Traced.advance (he : e.Traced) (hfinish : ∀ err, o ≠ .finish err)
    (hcancel : ∀ err, o = .cancel err → err.is .eof = false) (h : e.advance o = some e') :
    e'.Traced := by
  obtain ⟨shared, stream, ev, hstep, rfl⟩ := advance_cases h
  obtain ⟨hends, hended, hcancelled⟩ := he.ends.step hfinish hstep
  exact he.observe hends hended fun err hev => hcancel err (hcancelled err hev)

theorem Traced.finish (he : e.Traced)
    (hlast : cause = .handlerClose → e.stopped = true ∨ e.readErr.isSome = true)
    (h : e.advance (.finish cause.terminalErr) = some e') :
    Traced { e' with cause := some cause } := by
  obtain ⟨shared, stream, ev, hstep, rfl⟩ := advance_cases h
  obtain ⟨hnone, rfl, hends⟩ := he.ends.finish hstep
  have hcause : e.cause = none := Option.map_eq_none_iff.mp hnone
  have hobserve : Ending.observe { e with shared, stream } .silent = { e with shared, stream } := by
    simp [Ending.observe]
  rw [hobserve]
  refine ⟨hends, ?_, ?_⟩
  · intro hhandler
    exact hlast (Option.some.inj hhandler)
  · intro err herr heof
    obtain ⟨c, hc, -⟩ := he.readErr err herr heof
    simp [hcause] at hc

theorem Traced.step {l : Label} (he : e.Traced) (h : e.step l = some e') : e'.Traced := by
  cases l with
  | op o =>
    unfold Ending.step at h
    split at h
    next => cases h
    next => cases h
    next o' hfinish hcancel heq =>
      cases heq
      exact he.advance (fun err hop => hfinish err (by rw [hop]))
        (fun err hop => absurd hop (fun hop => hcancel err (by rw [hop]))) h
    all_goals
      next heq => cases heq
  | finish cause =>
    simp only [Ending.step] at h
    split at h
    · cases h
    next hlast =>
      obtain ⟨e₁, hadvance, rfl⟩ := Option.map_eq_some_iff.mp h
      refine he.finish ?_ hadvance
      intro hhandler
      cases hstopped : e.stopped with
      | true => exact .inl rfl
      | false =>
        refine .inr (Option.isSome_iff_ne_none.mpr ?_)
        intro hnone
        exact hlast ⟨hhandler, hstopped, hnone⟩
  | cancel ctxErr =>
    refine he.advance (by simp) ?_ h
    intro err herr
    cases herr
    cases ctxErr <;> rfl
  | stop =>
    cases h
    exact ⟨he.ends, fun _ => .inl rfl, he.readErr⟩
  | budgets shared =>
    cases h
    exact ⟨he.ends, he.closesLast, he.readErr⟩

/-- A stream that ends for `cause` before any data, read to its end. -/
def emptyRun (cause : EndCause) : List Label :=
  [.finish cause, .op .finishPublish, .op .finishSignal, .op (.call (.read 1)), .op .poll,
    .op .lockSection]

theorem emptyRun_readErr (hcause : cause ≠ .handlerClose) :
    ∃ e, StepSystem.run step (start Delivery.roomyBudgets 2 8192) (emptyRun cause) = some e ∧
      e.cause = some cause ∧ e.readErr = some cause.readErr ∧ e.reads = [] := by
  simp [emptyRun, StepSystem.run, step, advance, start, Stream.step, Stream.finish, newStream,
    hcause, observe, Stream.finishPublish, Stream.finishSignal, Stream.call, Stream.poll,
    Stream.loops, Stream.lockSection, Stream.locked, Stream.terminalError, EndCause.readErr]

end Ending

/-- For every run of a stream that ends for `cause`, and every consumer, a clean end is signalled to
    the public side only if the Agent ended the stream. -/
def EndCause.OnlyAgentEndsClean (cause : EndCause) : Prop :=
  ∀ (shared : SharedBudgets) (queueFrames : Nat) (queueBytes : Int) (labels : List Ending.Label)
    (e : Ending) (err : GoError) (consumer : Consumer),
    StepSystem.run Ending.step (Ending.start shared queueFrames queueBytes) labels = some e →
    e.cause = some cause → e.readErr = some err → consumer.signalsClean e.reads err →
    cause.byAgent = true

/-- The ends for which a clean signal always means that the Agent ended the stream: the Agent's own,
    the handler's close of a stream it no longer consumes, and those whose error has no `io.EOF` in
    its chain. -/
theorem EndCause.onlyAgentEndsClean_iff (cause : EndCause) :
    cause.OnlyAgentEndsClean ↔
      cause.byAgent = true ∨ cause = .handlerClose ∨ cause.readErr.is .eof = false := by
  constructor
  · intro honly
    by_cases hhandler : cause = .handlerClose
    · exact .inr (.inl hhandler)
    · obtain ⟨e, hrun, hcause, hread, hreads⟩ := Ending.emptyRun_readErr hhandler
      cases heof : cause.readErr.is .eof with
      | false => exact .inr (.inr rfl)
      | true =>
        refine .inl (honly _ _ _ _ e _ (.connector fun _ => none) hrun hcause hread ?_)
        simp [Consumer.signalsClean, writeConnector, hreads, heof]
  · intro hcases shared queueFrames queueBytes labels e err consumer hrun hcause hread hclean
    have he : e.Traced :=
      StepSystem.invariant Ending.Traced.step (Ending.Traced.start _ _ _) hrun
    have heof : err.is .eof = true := Consumer.is_eof_of_signalsClean hclean
    obtain ⟨c, hc, hhandler, herr⟩ := he.readErr err hread heof
    have hsame : c = cause := Option.some.inj (hc.symm.trans hcause)
    subst hsame
    rcases hcases with hagent | rfl | hplain
    · exact hagent
    · exact absurd rfl hhandler
    · simp [← herr, heof] at hplain

/-- The error of a WebSocket read that lost its connection. -/
def lostConnection : GoError := .wrap "failed to read frame header: %w" ioEOF

/-- A data frame arrives and is read before the connection is lost. -/
def lostConnectionRun : List Ending.Label :=
  [.op (.enqueue [1, 2]), .op (.call (.read 8)), .op .poll, .op .releaseHeld, .op .copy,
    .finish (.failAll lostConnection), .op .finishPublish, .op .finishSignal,
    .op (.call (.read 8)), .op .poll, .op .lockSection]

/-- All three consumers report the lost connection as the clean end of the stream. -/
theorem lostConnectionRun_reported_clean :
    ∃ e, StepSystem.run Ending.step (Ending.start Delivery.roomyBudgets 2 8192)
        lostConnectionRun = some e ∧
      e.cause = some (.failAll lostConnection) ∧
      EndCause.byAgent (.failAll lostConnection) = false ∧
      e.readErr = some lostConnection ∧ e.reads = [[1, 2]] ∧
      copyTunneledResponseBody none ⟨false, 200, -1⟩ e.reads.flatten lostConnection 1024 =
        (2, false, none) ∧
      writeConnector (fun _ => none) 0 lostConnection e.reads =
        ([.data [1, 2], .halfClose], none) ∧
      writePublicTCP (fun _ => none) none 0 lostConnection e.reads = (true, none) :=
  ⟨_, rfl, by decide, by decide, by decide, by decide, by decide, by decide, by decide⟩

end Hooshix.Gateway
