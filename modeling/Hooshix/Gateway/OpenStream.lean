-- SUMMARY: Concurrent stream opens of a Gateway session and its frame writer.
import Hooshix.Contract
import Hooshix.Errors
import Hooshix.Lib.Exclusive
import Hooshix.Lib.StepSystem

/-! # Opening streams on a Gateway session

Any number of `openStreamTarget` calls run at once. Each takes its stream ID under the session mutex,
and only afterwards puts its `stream_open` into the bounded queue of control writes, which the writer
loop empties onto the connection. The steps of a call are those of the mutex and of the channels.
-/

namespace Hooshix.Gateway

open Contract

/-- What a frame carries, as far as stream opening needs to know. -/
inductive FramePayload where
  | streamOpen (message : StreamOpen)
  | otherControl
  | data
  deriving DecidableEq, Repr

/-- A `sessionWriteRequest`, and the frame the writer makes of it. -/
structure WriteRequest where
  streamID : Nat
  payload : FramePayload
  deriving DecidableEq, Repr

/-- The stream IDs of the `stream_open` frames in a queue, in its order. -/
def opens (queue : List WriteRequest) : List Nat :=
  queue.filterMap fun request =>
    match request.payload with
    | .streamOpen _ => some request.streamID
    | _ => none

/-- Progress of one `openStreamTarget` call. -/
inductive Opener where
  /-- has its request ID and is about to lock the session -/
  | allocating (message : StreamOpen)
  /-- holds a stream ID and has not queued its `stream_open` -/
  | opening (streamID : Nat) (message : StreamOpen)
  /-- waits for the result of its `stream_open` -/
  | opened (streamID : Nat) (message : StreamOpen)
  /-- is about to queue the first credit grant -/
  | granting (streamID : Nat)
  /-- waits for the result of the grant -/
  | granted (streamID : Nat)
  | returned (err : Option GoError)
  deriving DecidableEq, Repr

/-- The fields of a Gateway session that stream opening and the writer use. `streams` are the keys of
    the stream table and `wire` is everything written to the connection. -/
structure OpenSession where
  flowControlled : Bool
  maxStreamsPerSession : Int
  nextID : Nat
  streams : List Nat
  openers : List Opener
  controlWrites : List WriteRequest
  dataWrites : List WriteRequest
  pendingData : Option WriteRequest
  outbound : Nat
  done : Bool
  wire : List WriteRequest
  deriving DecidableEq, Repr

namespace OpenSession

/-- A session on a new connection; `resumeInto` keeps the ID counter of the session it replaces. -/
def start (flowControlled : Bool) (maxStreamsPerSession : Int) (nextID : Nat) : OpenSession where
  flowControlled := flowControlled
  maxStreamsPerSession := maxStreamsPerSession
  nextID := nextID
  streams := []
  openers := []
  controlWrites := []
  dataWrites := []
  pendingData := none
  outbound := 0
  done := false
  wire := []

/-- `make(chan sessionWriteRequest, 32)` -/
def controlCapacity : Nat := 32

/-- `make(chan sessionWriteRequest, 2)` -/
def dataCapacity : Nat := 2

/-- How the connection takes an encoded frame; a failed write may still have reached the peer. -/
inductive Transport where
  | encodeError
  | sent
  | failed (reached : Bool)
  deriving DecidableEq, Repr

/-- The atomic steps of a session. -/
inductive Label where
  /-- a call of `openStreamTarget` whose request ID was generated -/
  | call (message : StreamOpen)
  | allocate (i : Nat)
  | queueOpen (i : Nat)
  /-- the result of the queued frame arrives, or the context or the session ended -/
  | settle (i : Nat) (err : Option GoError)
  | queueGrant (i : Nat)
  /-- other senders: heartbeats, credit, stream ends, stream data -/
  | queueControl (streamID : Nat)
  | queueData (streamID : Nat)
  /-- a stream leaves the table -/
  | detach (streamID : Nat)
  | writeControl (expired : Bool) (transport : Transport)
  | takeData
  | writeData (transport : Transport)
  | close
  deriving DecidableEq, Repr

/-- The critical section of `openStreamTarget`. -/
def allocate (s : OpenSession) (i : Nat) : Option OpenSession :=
  match s.openers[i]? with
  | some (.allocating message) =>
    if (s.streams.length : Int) ≥ s.maxStreamsPerSession then
      some { s with openers := s.openers.set i (.returned (errorsNew "stream limit reached")) }
    else if s.nextID = 0 then
      some { s with openers := s.openers.set i (.returned (errorsNew "stream ID exhausted")) }
    else
      some { s with
        nextID := (s.nextID + 1) % streamIDSpace
        streams := s.streams ++ [s.nextID]
        openers := s.openers.set i (.opening s.nextID message) }
  | _ => none

/-- The send of the `stream_open` into the control queue. -/
def queueOpen (s : OpenSession) (i : Nat) : Option OpenSession :=
  match s.openers[i]? with
  | some (.opening streamID message) =>
    if s.controlWrites.length < controlCapacity then
      some { s with
        openers := s.openers.set i (.opened streamID message)
        controlWrites := s.controlWrites ++ [⟨streamID, .streamOpen message⟩] }
    else none
  | _ => none

/-- An error at any point after the allocation finishes the stream and is returned; without one the
    call goes on to its grant or returns its stream. -/
def settle (s : OpenSession) (i : Nat) (err : Option GoError) : Option OpenSession :=
  let failed (streamID : Nat) (err : GoError) :=
    { s with
      streams := s.streams.erase streamID
      openers := s.openers.set i (.returned err) }
  match s.openers[i]?, err with
  | some (.opening streamID _), some err => some (failed streamID err)
  | some (.opened streamID _), some err => some (failed streamID err)
  | some (.granting streamID), some err => some (failed streamID err)
  | some (.granted streamID), some err => some (failed streamID err)
  | some (.opened streamID message), none =>
    -- only a stream of bytes has a window
    let windowed := s.flowControlled && message.mode != .udp
    some { s with openers := s.openers.set i (if windowed then .granting streamID else .returned none) }
  | some (.granted _), none => some { s with openers := s.openers.set i (.returned none) }
  | _, _ => none

/-- The send of the first credit grant into the control queue. -/
def queueGrant (s : OpenSession) (i : Nat) : Option OpenSession :=
  match s.openers[i]? with
  | some (.granting streamID) =>
    if s.controlWrites.length < controlCapacity then
      some { s with
        openers := s.openers.set i (.granted streamID)
        controlWrites := s.controlWrites ++ [⟨streamID, .otherControl⟩] }
    else none
  | _ => none

/-- `failAll` and `close`. -/
def shutdown (s : OpenSession) : OpenSession := { s with streams := [], done := true }

/-- Writes one request. A control frame whose caller gave up is dropped, a data frame never is. -/
def writeQueued (s : OpenSession) (request : WriteRequest) (expired : Bool)
    (transport : Transport) : OpenSession :=
  if expired && request.payload != .data then s
  else match nextSequence s.outbound with
  | none => s.shutdown
  | some sequence =>
    match transport with
    | .encodeError => s
    | .sent => { s with outbound := sequence, wire := s.wire ++ [request] }
    | .failed reached =>
      { s with
        outbound := sequence
        wire := if reached then s.wire ++ [request] else s.wire }.shutdown

/-- One step. The writer tests `done` before it receives, so it may still write a request that it
    takes while the session closes. -/
def step (s : OpenSession) : Label → Option OpenSession
  | .call message => some { s with openers := s.openers ++ [.allocating message] }
  | .allocate i => s.allocate i
  | .queueOpen i => s.queueOpen i
  | .settle i err => s.settle i err
  | .queueGrant i => s.queueGrant i
  | .queueControl streamID =>
    if s.controlWrites.length < controlCapacity then
      some { s with controlWrites := s.controlWrites ++ [⟨streamID, .otherControl⟩] }
    else none
  | .queueData streamID =>
    if s.dataWrites.length < dataCapacity then
      some { s with dataWrites := s.dataWrites ++ [⟨streamID, .data⟩] }
    else none
  | .detach streamID => some { s with streams := s.streams.erase streamID }
  | .writeControl expired transport =>
    match s.pendingData, s.controlWrites with
    | none, request :: controlWrites =>
      some (writeQueued { s with controlWrites } request expired transport)
    | _, _ => none
  | .takeData =>
    match s.pendingData, s.dataWrites with
    | none, request :: dataWrites => some { s with dataWrites, pendingData := some request }
    | _, _ => none
  | .writeData transport =>
    match s.pendingData with
    | some request => some (writeQueued { s with pendingData := none } request false transport)
    | none => none
  | .close => some s.shutdown

/-- The call puts its `stream_open` into the queue although a call that was given a smaller stream ID
    still has its own to queue. -/
def outOfTurn (s : OpenSession) : Label → Bool
  | .queueOpen i =>
    match s.openers[i]? with
    | some (.opening streamID _) => s.openers.any fun
      | .opening earlier _ => earlier < streamID
      | _ => false
    | _ => false
  | _ => false

/-! ## Opens in turn -/

/-- The `stream_open` IDs that left their calls, in the order in which they reach the wire. -/
def sent (s : OpenSession) : List Nat := opens s.wire ++ opens s.controlWrites

/-- All allocated stream IDs are below this one. -/
def ceiling (s : OpenSession) : Nat := if s.nextID = 0 then streamIDSpace else s.nextID

/-- Call `i` holds stream ID `id` and has not queued its `stream_open`. -/
def Waits (openers : List Opener) (i id : Nat) : Prop :=
  ∃ message, openers[i]? = some (Opener.opening id message)

/-- The invariant of sessions whose calls queue their `stream_open` in turn. -/
structure InTurn (s : OpenSession) : Prop where
  counter : s.nextID < streamIDSpace
  sorted : s.sent.Pairwise (· < ·)
  allocated : ∀ id ∈ s.sent, 0 < id ∧ id < s.ceiling
  waiting : ∀ {i id}, Waits s.openers i id →
    0 < id ∧ id < s.ceiling ∧ ∀ earlier ∈ s.sent, earlier < id
  distinct : ∀ {i j id}, Waits s.openers i id → Waits s.openers j id → i = j
  dataOnly : ∀ request, request ∈ s.dataWrites ∨ s.pendingData = some request →
    request.payload = .data

theorem InTurn.start {flowControlled : Bool} {maxStreamsPerSession : Int} {nextID : Nat}
    (h : nextID < streamIDSpace) : (start flowControlled maxStreamsPerSession nextID).InTurn := by
  constructor
  · exact h
  all_goals simp [OpenSession.start, sent, opens, Waits]

@[simp] theorem opens_append (first second : List WriteRequest) :
    opens (first ++ second) = opens first ++ opens second := by
  simp [opens]

@[simp] theorem opens_nil : opens [] = [] := rfl

@[simp] theorem opens_streamOpen (streamID : Nat) (message : StreamOpen)
    (queue : List WriteRequest) :
    opens (⟨streamID, .streamOpen message⟩ :: queue) = streamID :: opens queue := by
  simp [opens]

@[simp] theorem opens_otherControl (streamID : Nat) (queue : List WriteRequest) :
    opens (⟨streamID, .otherControl⟩ :: queue) = opens queue := by
  simp [opens]

variable {request : WriteRequest} {s s' : OpenSession} {i : Nat} {openers : List Opener}
  {j id : Nat} {l : Label}

theorem opens_data (h : request.payload = .data) :
    opens [request] = [] := by
  simp [opens, h]

theorem opens_cons_sublist (request : WriteRequest) (queue : List WriteRequest) :
    (opens queue).Sublist (opens (request :: queue)) :=
  (List.sublist_cons_self request queue).filterMap _

/-- A step that allocates nothing, queues no `stream_open` and may drop some keeps the invariant. -/
theorem InTurn.mono (hs : s.InTurn) (hnextID : s'.nextID = s.nextID)
    (hsent : s'.sent.Sublist s.sent)
    (hwaits : ∀ {i id}, Waits s'.openers i id → Waits s.openers i id)
    (hdata : ∀ request, request ∈ s'.dataWrites ∨ s'.pendingData = some request →
      request.payload = .data) : s'.InTurn := by
  have hceiling : s'.ceiling = s.ceiling := by simp [ceiling, hnextID]
  constructor
  · rw [hnextID]
    exact hs.counter
  · exact hs.sorted.sublist hsent
  · intro id hid
    rw [hceiling]
    exact hs.allocated id (hsent.subset hid)
  · intro i id hi
    obtain ⟨hpos, hlt, hearlier⟩ := hs.waiting (hwaits hi)
    rw [hceiling]
    exact ⟨hpos, hlt, fun earlier h => hearlier earlier (hsent.subset h)⟩
  · intro i j id hi hj
    exact hs.distinct (hwaits hi) (hwaits hj)
  · exact hdata

/-- A call that moves on without taking an ID is not a waiting one. -/
theorem waits_of_set {o : Opener} (ho : ∀ id m, o ≠ .opening id m)
    (h : Waits (openers.set i o) j id) : Waits openers j id ∧ j ≠ i := by
  obtain ⟨m, h⟩ := h
  rcases List.of_getElem?_set h with ⟨-, hopening⟩ | ⟨hne, h⟩
  · exact absurd hopening.symm (ho id m)
  · exact ⟨⟨m, h⟩, hne.symm⟩

theorem waits_of_set_opening {i streamID : Nat} {message : StreamOpen}
    (h : Waits (openers.set i (.opening streamID message)) j id) :
    (j = i ∧ id = streamID) ∨ Waits openers j id := by
  obtain ⟨m, h⟩ := h
  rcases List.of_getElem?_set h with ⟨rfl, hopening⟩ | ⟨-, h⟩
  · cases hopening
    exact .inl ⟨rfl, rfl⟩
  · exact .inr ⟨m, h⟩

/-- A new ID is above every ID allocated before it. -/
theorem InTurn.allocate (hs : s.InTurn) (h : s.allocate i = some s') : s'.InTurn := by
  unfold OpenSession.allocate at h
  repeat' split at h
  case h_2 => cases h
  case isTrue | isTrue =>
    cases h
    exact hs.mono rfl (List.Sublist.refl _) (fun hw => (waits_of_set (by simp) hw).1) hs.dataOnly
  next hnextID =>
    -- the counter may wrap to zero here, so the bound on allocated IDs is `ceiling` and not `nextID`
    have hold : s.ceiling = s.nextID := by simp [ceiling, hnextID]
    have hcounter := hs.counter
    have hnew : s'.ceiling = s.nextID + 1 := by
      cases h
      simp only [ceiling]
      split
      all_goals
        simp only [streamIDSpace] at *
        omega
    cases h
    constructor
    · exact Nat.mod_lt _ (by decide)
    · exact hs.sorted
    · intro id hid
      obtain ⟨hpos, hlt⟩ := hs.allocated id hid
      rw [hnew]
      omega
    -- the new ID is above everything sent or waiting, so only its own opener needs an argument
    · intro j id hj
      rw [hnew]
      rcases waits_of_set_opening hj with ⟨-, rfl⟩ | hj
      · refine ⟨by omega, by omega, ?_⟩
        intro earlier hearlier
        have hlt := (hs.allocated earlier hearlier).2
        omega
      · obtain ⟨hpos, hlt, hearlier⟩ := hs.waiting hj
        exact ⟨hpos, by omega, hearlier⟩
    · intro j k id hj hk
      rcases waits_of_set_opening hj with ⟨hji, hid⟩ | hj'
      · rcases waits_of_set_opening hk with ⟨hki, -⟩ | hk'
        · rw [hji, hki]
        · have hlt := (hs.waiting hk').2.1
          omega
      · rcases waits_of_set_opening hk with ⟨-, hid⟩ | hk'
        · have hlt := (hs.waiting hj').2.1
          omega
        · exact hs.distinct hj' hk'
    · exact hs.dataOnly

/-- A call in turn queues the smallest waiting ID. -/
theorem InTurn.queueOpen (hs : s.InTurn) (hturn : s.outOfTurn (.queueOpen i) = false)
    (h : s.queueOpen i = some s') : s'.InTurn := by
  unfold OpenSession.queueOpen at h
  repeat' split at h
  case h_2 | isFalse => cases h
  next streamID message hopener _ =>
    have hsent : s'.sent = s.sent ++ [streamID] := by
      cases h
      simp [sent]
    have hi : Waits s.openers i streamID := ⟨message, hopener⟩
    obtain ⟨hpos, hlt, hearlier⟩ := hs.waiting hi
    -- the guard excludes a smaller ID, and IDs are distinct, so every other waiting ID is larger
    have hsmallest : ∀ j id, Waits s.openers j id → j ≠ i → streamID < id := by
      rintro j id ⟨m, hj⟩ hne
      have hnot : ¬ id < streamID := by
        simp only [outOfTurn, hopener, List.any_eq_false] at hturn
        simpa using hturn _ (List.mem_of_getElem? hj)
      have hdiff : id ≠ streamID := by
        rintro rfl
        exact hne (hs.distinct ⟨m, hj⟩ hi)
      omega
    cases h
    constructor
    · exact hs.counter
    · rw [hsent, List.pairwise_append]
      refine ⟨hs.sorted, by simp, ?_⟩
      intro earlier hmem id hid
      rw [List.mem_singleton.mp hid]
      exact hearlier earlier hmem
    · intro id hid
      rw [hsent, List.mem_append, List.mem_singleton] at hid
      rcases hid with hid | rfl
      · exact hs.allocated id hid
      · exact ⟨hpos, hlt⟩
    · intro j id hj
      obtain ⟨hj', hne⟩ := waits_of_set (by simp) hj
      obtain ⟨hpos', hlt', hearlier'⟩ := hs.waiting hj'
      refine ⟨hpos', hlt', ?_⟩
      intro earlier hmem
      rw [hsent, List.mem_append, List.mem_singleton] at hmem
      rcases hmem with hmem | heq
      · exact hearlier' earlier hmem
      · rw [heq]
        exact hsmallest j id hj' hne
    · intro j k id hj hk
      exact hs.distinct (waits_of_set (by simp) hj).1 (waits_of_set (by simp) hk).1
    · exact hs.dataOnly

theorem InTurn.settle {err : Option GoError} (hs : s.InTurn) (h : s.settle i err = some s') :
    s'.InTurn := by
  unfold OpenSession.settle at h
  simp only at h
  split at h
  case h_5 streamID hopener =>
    cases h
    refine hs.mono rfl (List.Sublist.refl _) (fun hw => (waits_of_set ?_ hw).1) hs.dataOnly
    intro id m
    split <;> simp
  case h_7 => cases h
  all_goals
    cases h
    exact hs.mono rfl (List.Sublist.refl _) (fun hw => (waits_of_set (by simp) hw).1) hs.dataOnly

theorem InTurn.queueGrant (hs : s.InTurn) (h : s.queueGrant i = some s') : s'.InTurn := by
  unfold OpenSession.queueGrant at h
  split at h
  · split at h <;> cases h
    refine hs.mono rfl ?_ (fun hw => (waits_of_set (by simp) hw).1) hs.dataOnly
    simp [sent]
  · cases h

/-- A write moves the request to the end of the wire or drops it, and touches nothing else. -/
theorem writeQueued_frame (s : OpenSession) (request : WriteRequest) (expired : Bool)
    (transport : Transport) :
    let s' := s.writeQueued request expired transport
    s'.nextID = s.nextID ∧ s'.openers = s.openers ∧ s'.controlWrites = s.controlWrites ∧
      s'.dataWrites = s.dataWrites ∧ s'.pendingData = s.pendingData ∧
      (s'.wire = s.wire ∨ s'.wire = s.wire ++ [request]) := by
  simp only [writeQueued]
  split
  · simp
  · split
    · simp [shutdown]
    · split
      · simp
      · simp
      next reached =>
        cases reached with
        | false | true => simp [shutdown]

theorem InTurn.writeControl {controlWrites : List WriteRequest} (hs : s.InTurn)
    (hcontrol : s.controlWrites = request :: controlWrites) (expired : Bool)
    (transport : Transport) :
    (writeQueued { s with controlWrites } request expired transport).InTurn := by
  obtain ⟨hnextID, hopeners, hqueue, hdata, hpending, hwire⟩ :=
    writeQueued_frame { s with controlWrites } request expired transport
  refine hs.mono hnextID ?_ (by rw [hopeners]; exact id) (by rw [hdata, hpending]; exact hs.dataOnly)
  have hall : s.sent = opens s.wire ++ opens (request :: controlWrites) := by
    rw [sent, hcontrol]
  rw [hall, sent, hqueue]
  rcases hwire with hwire | hwire
  · rw [hwire]
    exact (List.Sublist.refl _).append (opens_cons_sublist request controlWrites)
  · rw [hwire, opens_append, List.append_assoc, ← opens_append]
    exact List.Sublist.refl _

theorem InTurn.writeData (hs : s.InTurn) (hpendingData : s.pendingData = some request)
    (transport : Transport) :
    (writeQueued { s with pendingData := none } request false transport).InTurn := by
  obtain ⟨hnextID, hopeners, hqueue, hdata, hpending, hwire⟩ :=
    writeQueued_frame { s with pendingData := none } request false transport
  have hpayload : request.payload = .data := hs.dataOnly request (.inr hpendingData)
  refine hs.mono hnextID ?_ (by rw [hopeners]; exact id) ?_
  · rw [sent, sent, hqueue]
    rcases hwire with hwire | hwire
    · rw [hwire]
    · rw [hwire, opens_append, opens_data hpayload, List.append_nil]
  · intro r hr
    rw [hdata, hpending] at hr
    rcases hr with hr | hr
    · exact hs.dataOnly r (.inl hr)
    · cases hr

/-- Every step in turn keeps the invariant. -/
theorem InTurn.step (hs : s.InTurn) (hturn : s.outOfTurn l = false)
    (h : s.step l = some s') : s'.InTurn := by
  cases l with
  | call message =>
    cases h
    refine hs.mono rfl (List.Sublist.refl _) ?_ hs.dataOnly
    rintro i id ⟨m, hi⟩
    rcases List.of_getElem?_concat hi with hi | ⟨-, hi⟩
    · exact ⟨m, hi⟩
    · cases hi
  | allocate i => exact hs.allocate h
  | queueOpen i => exact hs.queueOpen hturn h
  | settle i err => exact hs.settle h
  | queueGrant i => exact hs.queueGrant h
  | queueControl streamID =>
    simp only [OpenSession.step] at h
    split at h <;> cases h
    exact hs.mono rfl (by simp [sent]) id hs.dataOnly
  | queueData streamID =>
    simp only [OpenSession.step] at h
    split at h <;> cases h
    refine hs.mono rfl (List.Sublist.refl _) id ?_
    rintro request (hmem | hpending)
    · rw [List.mem_append, List.mem_singleton] at hmem
      rcases hmem with hmem | rfl
      · exact hs.dataOnly request (.inl hmem)
      · rfl
    · exact hs.dataOnly request (.inr hpending)
  | detach streamID | close =>
    cases h
    exact hs.mono rfl (List.Sublist.refl _) id hs.dataOnly
  | writeControl expired transport =>
    simp only [OpenSession.step] at h
    split at h <;> cases h
    next request controlWrites hpending hcontrol => exact hs.writeControl hcontrol expired transport
  | takeData =>
    simp only [OpenSession.step] at h
    split at h <;> cases h
    next request dataWrites hpending hdata =>
      refine hs.mono rfl (List.Sublist.refl _) id ?_
      rintro r (hmem | heq)
      · exact hs.dataOnly r (.inl (by rw [hdata]; exact List.mem_cons_of_mem _ hmem))
      · cases heq
        exact hs.dataOnly request (.inl (by rw [hdata]; exact List.mem_cons_self))
  | writeData transport =>
    simp only [OpenSession.step] at h
    split at h <;> cases h
    next request hpending => exact hs.writeData hpending transport

theorem writeQueued_wire (s : OpenSession) (request : WriteRequest) (expired : Bool)
    (transport : Transport) : s.wire <+: (s.writeQueued request expired transport).wire := by
  obtain ⟨-, -, -, -, -, hwire⟩ := writeQueued_frame s request expired transport
  rcases hwire with hwire | hwire
  · exact ⟨[], by rw [hwire, List.append_nil]⟩
  · rw [hwire]
    exact List.prefix_append _ _

/-- The wire only grows. -/
theorem step_wire (h : s.step l = some s') :
    s.wire <+: s'.wire := by
  cases l with
  | writeControl expired transport =>
    simp only [step] at h
    split at h <;> cases h
    next request controlWrites hpending hcontrol =>
      exact writeQueued_wire { s with controlWrites } request expired transport
  | writeData transport =>
    simp only [step] at h
    split at h <;> cases h
    next request hpending =>
      exact writeQueued_wire { s with pendingData := none } request false transport
  | _ =>
    simp only [step, allocate, queueOpen, settle, queueGrant, shutdown] at h
    repeat' split at h
    all_goals
      cases h
      try exact List.prefix_rfl

end OpenSession

end Hooshix.Gateway
