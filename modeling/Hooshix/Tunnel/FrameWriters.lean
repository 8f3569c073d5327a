-- SUMMARY: One direction of a connection: the session writer, the wire and the sequence tracker.
import Hooshix.Contract.Control
import Hooshix.Contract.FrameCodec
import Hooshix.Lib.Exclusive

/-! # Frame writers

Before a session exists its frames are written and numbered by hand;
then the single writer of the session takes the requests of any number of senders from two bounded
queues. The other end reads the frames in the order of the wire and gives each to its
`SequenceTracker`.

The context of a request is asked when the writer takes it, and its answer is an argument, as is what
the WebSocket does with a frame.
-/

namespace Hooshix.Tunnel

open Contract

/-- `sessionWriteRequest` and `agentWriteRequest`; only the Agent stamps an `order`. -/
structure WriteRequest where
  kind : UInt8
  streamID : UInt32
  payload : Bytes
  order : Nat
  deriving DecidableEq, Repr, Inhabited

/-- What `writeMessage` does with a frame. A write that fails may have put it on the wire. -/
inductive Sent where
  | written
  | failed (err : GoError) (reached : Bool)
  deriving DecidableEq, Repr

/-- Where the writer goroutine stands. -/
inductive WriterLoop where
  /-- before it looks whether the session is closed -/
  | top
  /-- past that look, receiving from the queues -/
  | select
  | writing (request : WriteRequest)
  | returned
  deriving DecidableEq, Repr

structure Writer where
  outbound : Nat
  controlWrites : List WriteRequest
  dataWrites : List WriteRequest
  /-- requests taken from a queue and not written yet: `pendingData` or the Agent's `pending` -/
  pending : List WriteRequest
  nextWrite : Nat
  closed : Bool
  loop : WriterLoop
  deriving DecidableEq, Repr

def newWriter (lastOutbound : Nat) : Writer where
  outbound := lastOutbound
  controlWrites := []
  dataWrites := []
  pending := []
  nextWrite := 0
  closed := false
  loop := .top

/-- Every request that the writer still holds. -/
def Writer.requests (w : Writer) : List WriteRequest :=
  w.controlWrites ++ w.dataWrites ++ w.pending ++
    match w.loop with
    | .writing request => [request]
    | _ => []

/-! ## Senders -/

/-- The queue of the kind of a request, if it has room. -/
def Writer.enqueue (w : Writer) (request : WriteRequest) : Option Writer :=
  if request.kind = kindControl then
    if w.controlWrites.length < 32 then
      some { w with controlWrites := w.controlWrites ++ [request] }
    else none
  else if w.dataWrites.length < 2 then some { w with dataWrites := w.dataWrites ++ [request] }
  else none

/-- `session.sendFrame` up to its wait for the result. -/
def Writer.sessionSendFrame (w : Writer) (request : WriteRequest) : Option Writer :=
  w.enqueue request

/-- `agentSession.sendFrame` up to its wait for the result. -/
def Writer.agentSendFrame (w : Writer) (request : WriteRequest) : Option Writer :=
  { w with nextWrite := w.nextWrite + 1 }.enqueue { request with order := w.nextWrite + 1 }

/-! ## Writer loops -/

inductive LoopAct where
  /-- look whether the session is closed -/
  | check
  | takeControl
  | takeData
  /-- choose the oldest of the Agent's pending requests -/
  | pick
  /-- leave a select through the closed session -/
  | leave
  deriving DecidableEq, Repr

/-- `session.writeLoop`: control frames are written as they come, a data frame is held and written
    after the next look. -/
def Writer.sessionTurn (w : Writer) : LoopAct → Option Writer
  | .check =>
    if w.loop ≠ .top then none
    else if w.closed then some { w with loop := .returned }
    else match w.pending with
    | request :: rest => some { w with pending := rest, loop := .writing request }
    | [] => some { w with loop := .select }
  | .takeControl =>
    match w.loop, w.controlWrites with
    | .select, request :: rest => some { w with controlWrites := rest, loop := .writing request }
    | _, _ => none
  | .takeData =>
    match w.loop, w.dataWrites with
    | .select, request :: rest =>
      some { w with dataWrites := rest, pending := [request], loop := .top }
    | _, _ => none
  | .pick => none
  | .leave => if w.loop = .select ∧ w.closed then some { w with loop := .returned } else none

/-- The index of the request with the lowest order, the first one of equals. -/
def oldest (pending : List WriteRequest) : Nat :=
  (List.range pending.length).foldl
    (fun oldest i =>
      if (pending.getD i default).order < (pending.getD oldest default).order then i else oldest) 0

/-- `agentSession.writeLoop`: the queues are drained into `pending` and the oldest is written. A
    request that arrives after the drain is drained in the next round. -/
def Writer.agentTurn (w : Writer) : LoopAct → Option Writer
  | .check =>
    if w.loop ≠ .top then none
    else if w.closed then some { w with loop := .returned }
    else some { w with loop := .select }
  | .takeControl =>
    match w.loop, w.controlWrites with
    | .select, request :: rest =>
      some { w with controlWrites := rest, pending := w.pending ++ [request] }
    | _, _ => none
  | .takeData =>
    match w.loop, w.dataWrites with
    | .select, request :: rest => some { w with dataWrites := rest, pending := w.pending ++ [request] }
    | _, _ => none
  | .pick =>
    match w.loop, w.pending[oldest w.pending]? with
    | .select, some request =>
      some { w with pending := w.pending.eraseIdx (oldest w.pending), loop := .writing request }
    | _, _ => none
  | .leave =>
    if w.loop = .select ∧ w.pending = [] ∧ w.closed then some { w with loop := .returned } else none

def errSequenceExhausted : GoError :=
  errorsNew "sequence space exhausted; session must terminate before wrap"

/-- `writeQueued`: the writer and the wire after it, and the result that the sender is given. A frame
    of a kind in `drops` is abandoned when its context has ended. -/
def Writer.writeQueued (drops : UInt8 → Bool) (w : Writer) (wire : List Bytes)
    (request : WriteRequest) (ended : Option GoError) (sent : Sent) :
    Writer × List Bytes × Option GoError :=
  let w := { w with loop := .top }
  match if drops request.kind then ended else none with
  | some err => (w, wire, some err)
  | none =>
    match nextSequence w.outbound with
    | none => ({ w with closed := true }, wire, some errSequenceExhausted)
    | some sequence =>
      match encodeFrame ⟨request.kind, request.streamID, UInt64.ofNat sequence, request.payload⟩ with
      | .error err => (w, wire, some err.err)
      | .ok encoded =>
        match sent with
        | .written => ({ w with outbound := sequence }, wire ++ [encoded], none)
        | .failed err reached =>
          ({ w with outbound := sequence, closed := true },
            if reached then wire ++ [encoded] else wire, some err)

/-- The Gateway abandons what is not data. -/
def sessionDrops (kind : UInt8) : Bool := kind ≠ kindData

/-- The Agent abandons what is control. -/
def agentDrops (kind : UInt8) : Bool := kind = kindControl

/-! ## One direction -/

structure Channel where
  /-- the messages written, oldest first -/
  wire : List Bytes
  /-- the writer of the session, once there is one -/
  writer : Option Writer
  /-- how many messages the other end has read -/
  read : Nat
  /-- `SequenceTracker.last` of the other end -/
  last : Nat
  /-- a message was not decoded or not accepted by the tracker -/
  refused : Bool
  deriving DecidableEq, Repr

def Channel.empty : Channel := ⟨[], none, 0, 0, false⟩

/-- `writeControlFrame` and `writeInitialControl`: a session control frame numbered by hand. -/
def Channel.writeInitial (c : Channel) (sequence : Nat) (payload : Bytes) (sent : Sent) :
    Channel × Option GoError :=
  match encodeFrame ⟨kindControl, 0, UInt64.ofNat sequence, payload⟩ with
  | .error err => (c, some err.err)
  | .ok encoded =>
    match sent with
    | .written => ({ c with wire := c.wire ++ [encoded] }, none)
    | .failed err reached =>
      ({ c with wire := if reached then c.wire ++ [encoded] else c.wire }, some err)

def Channel.startWriter (c : Channel) (lastOutbound : Nat) : Channel :=
  { c with writer := some (newWriter lastOutbound) }

/-- The session is closed. -/
def Channel.close (c : Channel) : Channel :=
  { c with writer := c.writer.map fun w => { w with closed := true } }

/-- A step of the writer that writes nothing. -/
def Channel.turn (move : Writer → Option Writer) (c : Channel) : Option Channel :=
  (c.writer.bind move).map fun w => { c with writer := some w }

/-- The writer works off the request it holds. -/
def Channel.write (drops : UInt8 → Bool) (c : Channel) (ended : Option GoError) (sent : Sent) :
    Option (Channel × Option GoError) :=
  match c.writer with
  | none => none
  | some w =>
    match w.loop with
    | .writing request =>
      let (w', wire, result) := w.writeQueued drops c.wire request ended sent
      some ({ c with wire, writer := some w' }, result)
    | _ => none

/-- The other end reads a message, decodes it and asks its tracker; `none` is a refused message. -/
def Channel.receive (c : Channel) : Option (Channel × Option WireFrame) :=
  match c.wire[c.read]? with
  | none => none
  | some encoded =>
    match decodeFrame encoded with
    | .error _ => some ({ c with read := c.read + 1, refused := true }, none)
    | .ok frame =>
      match acceptSequence c.last frame.sequence.toNat with
      | .error _ => some ({ c with read := c.read + 1, refused := true }, none)
      | .ok last => some ({ c with read := c.read + 1, last }, some frame)

/-! ## Contiguous numbers -/

/-- Both ends of a direction agree on its sequence numbers. -/
structure Channel.Contiguous (c : Channel) : Prop where
  /-- the frames written are numbered from one without gap or repetition -/
  numbered : ∀ {i encoded}, c.wire[i]? = some encoded →
    ∃ frame, decodeFrame encoded = .ok frame ∧ frame.sequence.toNat = i + 1
  /-- no frame follows the last sequence number -/
  bound : c.wire.length ≤ maxSequence
  /-- the tracker has accepted exactly the frames read -/
  last_eq : c.last = c.read
  read_le : c.read ≤ c.wire.length
  accepted : c.refused = false
  /-- the writer continues from the last frame; after a write that failed it writes nothing -/
  outbound : ∀ {w}, c.writer = some w →
    w.outbound = c.wire.length ∨ w.closed = true ∧ (w.loop = .top ∨ w.loop = .returned)

theorem Channel.contiguous_empty : Channel.empty.Contiguous where
  numbered h := by simp [empty] at h
  bound := Nat.zero_le _
  last_eq := rfl
  read_le := Nat.le_refl _
  accepted := rfl
  outbound h := by cases h

/-- What `EncodeFrame` makes of a frame is decoded to that frame. -/
theorem decodeFrame_of_encodeFrame {frame : WireFrame} {encoded : Bytes}
    (h : encodeFrame frame = .ok encoded) : decodeFrame encoded = .ok frame := by
  simp only [encodeFrame] at h
  split at h
  · cases h
  next hvalid =>
  cases h
  rw [(frameLanguage_frameBytes hvalid).decodeFrame, frameFields_frameBytes]

theorem toNat_sequence {n : Nat} (h : n ≤ maxSequence) : (UInt64.ofNat n).toNat = n := by
  rw [UInt64.toNat_ofNat']
  apply Nat.mod_eq_of_lt
  have hmax : maxSequence < 2 ^ 64 := by decide
  omega

theorem nextSequence_eq_some {last sequence : Nat} (h : nextSequence last = some sequence) :
    last ≠ maxSequence ∧ sequence = last + 1 := by
  simp only [nextSequence] at h
  split at h
  · cases h
  next hlast => exact ⟨hlast, (Option.some.inj h).symm⟩

section Wire

variable {c : Channel} {kind : UInt8} {streamID : UInt32} {payload encoded : Bytes}
  {writer : Option Writer} {sequence : Nat}

/-- A frame with the next number keeps the numbering of the wire. -/
theorem Channel.Contiguous.numbered_append (h : c.Contiguous)
    (hsequence : sequence = c.wire.length + 1) (hbound : sequence ≤ maxSequence)
    (hencode : encodeFrame ⟨kind, streamID, UInt64.ofNat sequence, payload⟩ = .ok encoded)
    {i : Nat} {message : Bytes} (hmessage : (c.wire ++ [encoded])[i]? = some message) :
    ∃ frame, decodeFrame message = .ok frame ∧ frame.sequence.toNat = i + 1 := by
  rcases List.of_getElem?_concat hmessage with hmessage | ⟨rfl, rfl⟩
  · exact h.numbered hmessage
  · refine ⟨_, decodeFrame_of_encodeFrame hencode, ?_⟩
    rw [toNat_sequence hbound, hsequence]

/-- The wire after a frame with the next number, whatever the writer is afterwards. -/
theorem Channel.Contiguous.append (h : c.Contiguous)
    (hsequence : sequence = c.wire.length + 1) (hbound : sequence ≤ maxSequence)
    (hencode : encodeFrame ⟨kind, streamID, UInt64.ofNat sequence, payload⟩ = .ok encoded)
    (hwriter : ∀ {w}, writer = some w →
      w.outbound = sequence ∨ w.closed = true ∧ (w.loop = .top ∨ w.loop = .returned)) :
    Channel.Contiguous { c with wire := c.wire ++ [encoded], writer } := by
  have hlength : (c.wire ++ [encoded]).length = sequence := by simp [hsequence]
  exact { h with
    numbered := h.numbered_append hsequence hbound hencode
    bound := hlength.trans_le hbound
    read_le := h.read_le.trans (by simp)
    outbound := by rw [hlength]; exact hwriter }

/-- A change of the writer that writes nothing. -/
theorem Channel.Contiguous.withWriter (h : c.Contiguous) (hwriter : ∀ {w}, writer = some w →
      w.outbound = c.wire.length ∨ w.closed = true ∧ (w.loop = .top ∨ w.loop = .returned)) :
    Channel.Contiguous { c with writer } :=
  { h with outbound := hwriter }

end Wire

/-! ## Steps of a direction -/

section Steps

variable {c c' : Channel} {w : Writer} {request : WriteRequest} {w' : Writer}
  {result : Option GoError} {ended : Option GoError} {drops : UInt8 → Bool} {act : LoopAct}
  {sent : Sent}

theorem Channel.Contiguous.writeInitial (h : c.Contiguous) (hnone : c.writer = none)
    {sequence : Nat} (hsequence : sequence = c.wire.length + 1) (hbound : sequence ≤ maxSequence)
    (payload : Bytes) (sent : Sent) : (c.writeInitial sequence payload sent).1.Contiguous := by
  have hwriter : ∀ {w}, c.writer = some w →
      w.outbound = sequence ∨ w.closed = true ∧ (w.loop = .top ∨ w.loop = .returned) := by
    intro w hw
    rw [hnone] at hw
    cases hw
  simp only [Channel.writeInitial]
  split
  · exact h
  next encoded hencode =>
    split
    · exact h.append hsequence hbound hencode hwriter
    next err reached =>
      cases reached
      · exact h
      · exact h.append hsequence hbound hencode hwriter

theorem Channel.Contiguous.startWriter (h : c.Contiguous) {lastOutbound : Nat}
    (hlast : lastOutbound = c.wire.length) : (c.startWriter lastOutbound).Contiguous := by
  apply h.withWriter
  intro w hw
  cases hw
  exact .inl hlast

theorem Channel.Contiguous.close (h : c.Contiguous) : c.close.Contiguous := by
  apply h.withWriter
  intro w hw
  obtain ⟨v, hv, rfl⟩ := Option.map_eq_some_iff.mp hw
  rcases h.outbound hv with houtbound | ⟨-, hloop⟩
  · exact .inl houtbound
  · exact .inr ⟨rfl, hloop⟩

/-- What a writer does between two frames: its numbers stay, and a closed session is left. -/
structure Writer.Between (w w' : Writer) : Prop where
  outbound : w'.outbound = w.outbound
  closed : w'.closed = w.closed
  stopped : w.closed = true → w.loop = .top ∨ w.loop = .returned → w'.loop = .top ∨ w'.loop = .returned

theorem Channel.Contiguous.turn (h : c.Contiguous) {move : Writer → Option Writer}
    (hmove : ∀ {w w'}, move w = some w' → w.Between w') (hturn : c.turn move = some c') :
    c'.Contiguous := by
  obtain ⟨w', hw', rfl⟩ := Option.map_eq_some_iff.mp hturn
  obtain ⟨w, hw, hmoved⟩ := Option.bind_eq_some_iff.mp hw'
  have hbetween := hmove hmoved
  apply h.withWriter
  intro v hv
  cases hv
  rw [hbetween.outbound, hbetween.closed]
  rcases h.outbound hw with houtbound | ⟨hclosed, hloop⟩
  · exact .inl houtbound
  · exact .inr ⟨hclosed, hbetween.stopped hclosed hloop⟩

theorem Writer.Between.enqueue (h : w.enqueue request = some w') : w.Between w' := by
  simp only [Writer.enqueue] at h
  split at h <;> split at h <;> cases h <;> exact ⟨rfl, rfl, fun _ hloop => hloop⟩

theorem Writer.Between.agentSendFrame (h : w.agentSendFrame request = some w') : w.Between w' :=
  { Writer.Between.enqueue h with }

/-- A writer that looks at a closed session returns. -/
theorem Writer.Between.sessionTurn (h : w.sessionTurn act = some w') :
    w.Between w' := by
  cases act <;> simp only [Writer.sessionTurn] at h
  all_goals repeat' split at h
  all_goals cases h
  all_goals exact ⟨rfl, rfl, by grind⟩

theorem Writer.Between.agentTurn (h : w.agentTurn act = some w') :
    w.Between w' := by
  cases act <;> simp only [Writer.agentTurn] at h
  all_goals repeat' split at h
  all_goals cases h
  all_goals exact ⟨rfl, rfl, by grind⟩

/-- A request that is written takes the next number, one that is abandoned takes none, and after a
    failure the session is closed. -/
theorem Channel.Contiguous.write (h : c.Contiguous)
    (hwrite : c.write drops ended sent = some (c', result)) :
    c'.Contiguous := by
  simp only [Channel.write] at hwrite
  split at hwrite
  · cases hwrite
  next w hw =>
  split at hwrite <;> cases hwrite
  next request hloop =>
    have houtbound : w.outbound = c.wire.length := by
      rcases h.outbound hw with houtbound | ⟨-, htop | hreturned⟩
      · exact houtbound
      · rw [htop] at hloop; cases hloop
      · rw [hreturned] at hloop; cases hloop
    -- without a frame the wire stays
    have hkeep : ∀ {v : Writer}, (v.outbound = c.wire.length ∨
        v.closed = true ∧ (v.loop = .top ∨ v.loop = .returned)) →
        Channel.Contiguous { c with writer := some v } := by
      intro v hv
      refine h.withWriter ?_
      rintro _ ⟨⟩
      exact hv
    simp only [Writer.writeQueued]
    split
    · exact hkeep (.inl houtbound)
    split
    · exact hkeep (.inr ⟨rfl, .inl rfl⟩)
    next sequence hnext =>
      obtain ⟨hlast, hsequence⟩ := nextSequence_eq_some hnext
      simp only [houtbound] at hlast hsequence
      have hbound : sequence ≤ maxSequence := by
        have hwire := h.bound
        omega
      split
      · exact hkeep (.inl houtbound)
      next encoded hencode =>
        have hwritten : ∀ closed, Channel.Contiguous { c with
            wire := c.wire ++ [encoded]
            writer := some { w with loop := .top, outbound := sequence, closed } } := by
          intro closed
          refine h.append hsequence hbound hencode ?_
          rintro _ ⟨⟩
          exact .inl rfl
        split
        · exact hwritten _
        next err reached =>
          cases reached
          · exact hkeep (.inr ⟨rfl, .inl rfl⟩)
          · exact hwritten _

/-- A message that is read has the number that the tracker expects. -/
theorem Channel.Contiguous.receive (h : c.Contiguous) {result : Option WireFrame}
    (hreceive : c.receive = some (c', result)) :
    c'.Contiguous ∧ c'.wire = c.wire ∧ c'.writer = c.writer ∧
      ∃ frame encoded, result = some frame ∧ c.wire[c.read]? = some encoded ∧
        decodeFrame encoded = .ok frame ∧ frame.sequence.toNat = c.read + 1 := by
  simp only [Channel.receive] at hreceive
  split at hreceive
  · cases hreceive
  next encoded hencoded =>
    obtain ⟨frame, hdecode, hsequence⟩ := h.numbered hencoded
    have hread : c.read < c.wire.length := (List.getElem?_eq_some_iff.mp hencoded).1
    have hlast : c.read ≠ maxSequence := by
      have hbound := h.bound
      omega
    have haccept : acceptSequence c.last frame.sequence.toNat = .ok (c.read + 1) := by
      simp [acceptSequence, nextSequence, hlast, hsequence, h.last_eq]
    simp only [hdecode, haccept] at hreceive
    cases hreceive
    refine ⟨⟨h.numbered, h.bound, rfl, hread, h.accepted, h.outbound⟩, rfl, rfl, frame, encoded, rfl,
      hencoded, hdecode, hsequence⟩

/-- After the last sequence number nothing is written: what is not abandoned closes the session. -/
theorem Channel.write_exhausted (hw : c.writer = some w) (hloop : w.loop = .writing request)
    (hmax : w.outbound = maxSequence) (hwrite : c.write drops ended sent = some (c', result)) :
    c'.wire = c.wire ∧ result ≠ none ∧
      (ended ≠ none ∧ drops request.kind = true ∨ ∃ w', c'.writer = some w' ∧ w'.closed = true) := by
  have hnext : nextSequence w.outbound = none := by simp [nextSequence, hmax]
  simp only [Channel.write, hw, hloop, Writer.writeQueued, hnext] at hwrite
  split at hwrite
  next err hended =>
    cases hwrite
    refine ⟨rfl, by simp, .inl ?_⟩
    split at hended
    next hdrops => exact ⟨by simp [hended], hdrops⟩
    · cases hended
  · cases hwrite
    exact ⟨rfl, by simp, .inr ⟨_, rfl, rfl⟩⟩

end Steps

end Hooshix.Tunnel
