-- SUMMARY: The Gateway sends at most one end of each stream.
import Hooshix.Gateway.OpenCalls
import Hooshix.Lib.Ledger

/-! # Ends of streams

`closeStream` and `errorStream` send an end only for a stream that their `detachStream` took out of the
table, and no ID enters the table twice. So an ID has its table entry, a call that is about to send
its end, or the request with the end: one of them at most.
-/

namespace Hooshix.Gateway

open Contract Ledger

/-- The stream stands in the table under this ID. -/
def StreamObject.entered (streamID : Nat) (stream : StreamObject) : Int :=
  if stream.registered = true ∧ stream.id = streamID then 1 else 0

def AfterDetach.owes (streamID : Nat) : AfterDetach → Int
  | .sendEnd id _ => if id = streamID then 1 else 0
  | _ => 0

/-- The call has detached the stream and is about to send its end. -/
def Call.owes (streamID : Nat) : Call → Int
  | .finishing _ after | .closingWindow _ after => after.owes streamID
  | .sendingEnd id _ => if id = streamID then 1 else 0
  | _ => 0

/-- The request carries an end of this stream. -/
def ControlRequest.ends (streamID : Nat) (request : ControlRequest) : Int :=
  if request.message.isEnd = true ∧ request.streamID = streamID then 1 else 0

theorem AfterDetach.owes_next (after : AfterDetach) (streamID : Nat) :
    (after.next true).owes streamID = after.owes streamID ∧ (after.next false).owes streamID = 0 := by
  cases after with
  | finishOnly | sendEnd id message | failOpen ref err => exact ⟨rfl, rfl⟩

theorem AfterDetach.next_ne (after : AfterDetach) (detached : Bool) {streamID id : Nat}
    {message : EndMessage} : after.next detached ≠ .detaching streamID (.sendEnd id message) := by
  cases after with
  | finishOnly | failOpen => simp [AfterDetach.next]
  | sendEnd => cases detached <;> simp [AfterDetach.next]

theorem StreamObject.entered_nonneg (streamID : Nat) (stream : StreamObject) :
    0 ≤ stream.entered streamID := by
  unfold StreamObject.entered
  split <;> decide

theorem Call.owes_nonneg (streamID : Nat) (call : Call) : 0 ≤ call.owes streamID := by
  have hafter : ∀ after : AfterDetach, 0 ≤ after.owes streamID := by
    intro after
    cases after with
    | sendEnd id message =>
      simp only [AfterDetach.owes]
      split <;> decide
    | _ => exact le_rfl
  cases call with
  | finishing ref after | closingWindow ref after => exact hafter after
  | sendingEnd id message =>
    simp only [Call.owes]
    split <;> decide
  | _ => exact le_rfl

namespace SessionStreams

/-- The table entry, the calls and the requests that can be, or are, an end of the stream. -/
def ends (s : SessionStreams) (streamID : Nat) : Int :=
  total (StreamObject.entered streamID) s.streams + total (Call.owes streamID) s.calls +
    total (ControlRequest.ends streamID) s.requests

/-- Each ID has at most one end, and one that was not given out has none. -/
structure EndsOnce (s : SessionStreams) : Prop where
  named : ∀ {streamID id : Nat} {message : EndMessage},
    .detaching streamID (.sendEnd id message) ∈ s.calls → id = streamID
  once : ∀ id, s.ends id ≤ 1
  unused : ∀ id, id ∉ s.ids → s.ends id ≤ 0

variable {maxStreamsPerSession : Int} {flowControlled : Bool} {nextID : Nat}

theorem EndsOnce.start :
    (start flowControlled maxStreamsPerSession nextID).EndsOnce where
  named := by simp [SessionStreams.start]
  once := by simp [SessionStreams.ends, SessionStreams.start]
  unused := by simp [SessionStreams.ends, SessionStreams.start]

section Steps

variable {s s' : SessionStreams} {i : Nat} {call call' : Call} (hs : s.EndsOnce)

include hs

/-- A step that gives out no ID and adds no end. -/
theorem EndsOnce.of_le (hids : s'.ids = s.ids) (hends : ∀ id, s'.ends id ≤ s.ends id)
    (hnamed : ∀ {streamID id message},
      .detaching streamID (.sendEnd id message) ∈ s'.calls → id = streamID) :
    s'.EndsOnce where
  named := hnamed
  once := by
    intro id
    have := hends id
    have := hs.once id
    omega
  unused := by
    intro id hid
    rw [hids] at hid
    have := hends id
    have := hs.unused id hid
    omega

/-- A call begins. -/
theorem EndsOnce.begin (howes : ∀ id, call.owes id = 0) (hnamed : ∀ {streamID id message},
      call = .detaching streamID (.sendEnd id message) → id = streamID) :
    (s.begin call).EndsOnce := by
  refine hs.of_le rfl ?_ ?_
  · intro id
    simp [SessionStreams.ends, SessionStreams.begin, howes]
  · intro streamID id message hmem
    rcases List.mem_append.mp hmem with hmem | hmem
    · exact hs.named hmem
    · exact hnamed (List.mem_singleton.mp hmem).symm

/-- A call moves on, and what it owes more is taken from elsewhere. -/
theorem EndsOnce.set (hcall : s.calls[i]? = some call) (hcalls : s'.calls = s.calls.set i call')
    (hids : s'.ids = s.ids) (hends : ∀ id,
      total (StreamObject.entered id) s'.streams + call'.owes id +
          total (ControlRequest.ends id) s'.requests ≤
        total (StreamObject.entered id) s.streams + call.owes id +
          total (ControlRequest.ends id) s.requests)
    (hnamed : ∀ {streamID id message}, call' ≠ .detaching streamID (.sendEnd id message)) :
    s'.EndsOnce := by
  refine hs.of_le hids ?_ ?_
  · intro id
    have hle := hends id
    simp only [SessionStreams.ends, hcalls, total_set hcall]
    omega
  · intro streamID id message hmem
    rw [hcalls] at hmem
    rcases List.mem_or_eq_of_mem_set hmem with hmem | heq
    · exact hs.named hmem
    · exact absurd heq.symm hnamed

/-- A call moves on and owes no more than before. -/
theorem EndsOnce.goto (hcall : s.calls[i]? = some call) (howes : ∀ id, call'.owes id ≤ call.owes id)
    (hnamed : ∀ {streamID id message}, call' ≠ .detaching streamID (.sendEnd id message)) :
    (s.goto i call').EndsOnce := by
  refine hs.set hcall rfl rfl ?_ hnamed
  intro id
  have := howes id
  simp only [SessionStreams.goto]
  omega

/-- A call queues a request: its debt becomes the request. -/
theorem EndsOnce.send {streamID : Nat} {message : StreamMessage} (hcall : s.calls[i]? = some call)
    (howes : ∀ id, call'.owes id + (if message.isEnd = true ∧ streamID = id then 1 else 0) ≤ call.owes id)
    (hnamed : ∀ {streamID id message}, call' ≠ .detaching streamID (.sendEnd id message)) :
    ((s.enqueue streamID message).goto i call').EndsOnce := by
  refine hs.set hcall rfl rfl ?_ hnamed
  intro id
  have := howes id
  simp only [SessionStreams.goto, enqueue, total_append, total_cons, total_nil, ControlRequest.ends]
  omega

/-- A request is updated; its stream ID and its message stay. -/
theorem EndsOnce.updateRequest {ticket : Nat} {f : ControlRequest → ControlRequest}
    (hf : ∀ request, (f request).streamID = request.streamID ∧ (f request).message = request.message) :
    (s.updateRequest ticket f).EndsOnce := by
  refine hs.of_le rfl ?_ hs.named
  intro id
  have hends : total (ControlRequest.ends id) (s.updateRequest ticket f).requests =
      total (ControlRequest.ends id) s.requests := by
    apply total_modify_of_worth
    intro request
    rw [ControlRequest.ends, ControlRequest.ends, (hf request).1, (hf request).2]
  rw [SessionStreams.ends, hends]
  exact le_rfl

/-- A stream is updated; its ID and its place in the table stay. -/
theorem EndsOnce.updateStream {ref : Nat} {f : StreamObject → StreamObject}
    (hf : ∀ stream, (f stream).id = stream.id ∧ (f stream).registered = stream.registered) :
    (s.updateStream ref f).EndsOnce := by
  refine hs.of_le (ids_updateStream fun stream => (hf stream).1) ?_ hs.named
  intro id
  have hentered : total (StreamObject.entered id) (s.updateStream ref f).streams =
      total (StreamObject.entered id) s.streams := by
    apply total_modify_of_worth
    intro stream
    rw [StreamObject.entered, StreamObject.entered, (hf stream).1, (hf stream).2]
  rw [SessionStreams.ends, hentered]
  exact le_rfl

theorem EndsOnce.setWriter (controlWrites : List Nat) (writer : Writer) :
    EndsOnce { s with controlWrites, writer } :=
  { hs with }

omit hs

/-- The new ID had nothing, and every other ID has what it had. -/
theorem EndsOnce.allocate {datagram windowed : Bool} (howned : s.Owned) (hs : s.EndsOnce)
    (hcall : s.calls[i]? = some (.allocating datagram)) (hnext : s.nextID ≠ 0) :
    (s.enter i windowed).EndsOnce := by
  have hfresh : s.nextID ∉ s.ids := by
    intro hin
    have := howned.idsLt hnext _ hin
    omega
  have hends : ∀ id, (s.enter i windowed).ends id = s.ends id + if s.nextID = id then 1 else 0 := by
    intro id
    simp only [SessionStreams.ends, enter, total_append, total_cons, total_nil, total_set hcall, Call.owes,
      StreamObject.entered, true_and]
    omega
  constructor
  · intro streamID id message hmem
    rcases List.mem_or_eq_of_mem_set hmem with hmem | heq
    · exact hs.named hmem
    · cases heq
  · intro id
    rw [hends id]
    split
    next heq =>
      subst heq
      have := hs.unused _ hfresh
      omega
    next =>
      have := hs.once id
      omega
  · intro id hid
    rw [hends id]
    rw [ids_enter, List.mem_append, List.mem_singleton, not_or] at hid
    rw [if_neg (Ne.symm hid.2)]
    have := hs.unused id hid.1
    omega

/-- The table entry becomes the call's debt. -/
theorem EndsOnce.detach {streamID ref : Nat} {after : AfterDetach} (hs : s.EndsOnce)
    (hcall : s.calls[i]? = some (.detaching streamID after)) (hlookup : s.lookup streamID = some ref) :
    ((s.updateStream ref fun stream => { stream with registered := false }).goto i
      (.finishing ref after)).EndsOnce := by
  obtain ⟨stream, hstream, hregistered, hid⟩ := lookup_cases hlookup
  refine hs.set hcall rfl (ids_updateStream fun _ => rfl) ?_ (by simp)
  intro id
  have htable : total (StreamObject.entered id)
      (s.streams.modify ref fun stream => { stream with registered := false }) =
      total (StreamObject.entered id) s.streams - if stream.id = id then 1 else 0 := by
    simp [total_modify hstream, StreamObject.entered, hregistered, sub_eq_add_neg]
  have howes : after.owes id ≤ if stream.id = id then 1 else 0 := by
    cases after with
    | sendEnd id' message =>
      have hnamed := hs.named (List.mem_of_getElem? hcall)
      rw [AfterDetach.owes, hnamed, hid]
    | finishOnly | failOpen =>
      simp only [AfterDetach.owes]
      split <;> decide
  simp only [SessionStreams.goto, SessionStreams.updateStream, htable, Call.owes]
  omega

/-- The table is emptied. -/
theorem EndsOnce.swap (hs : s.EndsOnce) (hcall : s.calls[i]? = some .swapping) :
    (s.swap i).EndsOnce := by
  have hcalls : (s.swap i).calls = s.calls.set i (.failing s.table) := rfl
  refine hs.set hcall hcalls (by simp [SessionStreams.ids, SessionStreams.swap]) ?_ (by simp)
  intro id
  have hempty : total (StreamObject.entered id) (s.swap i).streams = 0 := by
    apply total_eq_zero
    intro stream hstream
    obtain ⟨old, -, rfl⟩ := List.mem_map.mp hstream
    simp [StreamObject.entered]
  have hentered : 0 ≤ total (StreamObject.entered id) s.streams :=
    total_nonneg fun stream _ => stream.entered_nonneg id
  rw [hempty]
  simp only [SessionStreams.swap, Call.owes]
  omega

theorem EndsOnce.step {l : Label} (howned : s.Owned) (hs : s.EndsOnce) (h : s.step l = some s') :
    s'.EndsOnce := by
  cases steps_of_step h with
  | opens | finishes | closes | errors | terminates => exact hs.begin (fun _ => rfl) (by simp)
  | halfClose => exact hs.updateStream fun _ => ⟨rfl, rfl⟩
  | allocate hcall hnext => exact hs.allocate howned hcall hnext
  | refuse hcall | failedAll hcall | abandonOpen hcall | abandonGrant hcall =>
    exact hs.goto hcall (fun _ => le_rfl) (by simp)
  | abandonEnd hcall => exact hs.goto hcall (fun id => Call.owes_nonneg id _) (by simp)
  | close hcall =>
    have hended : (s.goto _ .ended).EndsOnce := hs.goto hcall (fun _ => le_rfl) (by simp)
    exact { hended with }
  | @notFound _ _ after hcall =>
    exact hs.goto hcall (fun id => (after.owes_next id).2.le) (after.next_ne false)
  | detach hcall hlookup => exact hs.detach hcall hlookup
  | finish hcall | failWindow hcall | failOne hcall =>
    exact EndsOnce.goto (hs.updateStream fun _ => ⟨rfl, rfl⟩) hcall (fun _ => le_rfl) (by simp)
  | @closeWindow _ _ after hcall =>
    exact EndsOnce.goto (hs.updateStream fun _ => ⟨rfl, rfl⟩) hcall
      (fun id => (after.owes_next id).1.le) (after.next_ne true)
  | swap hcall => exact hs.swap hcall
  | sendOpen hcall | sendGrant hcall | sendEnd hcall =>
    exact hs.send hcall (by simp [Call.owes, StreamMessage.isEnd]) (by simp)
  | openFails hcall | grantFails hcall | opened hcall | ended hcall =>
    exact EndsOnce.goto (hs.updateRequest fun _ => ⟨rfl, rfl⟩) hcall (fun _ => le_rfl) (by simp)
  | returned hcall =>
    exact EndsOnce.goto (hs.updateRequest fun _ => ⟨rfl, rfl⟩) hcall (fun id => Call.owes_nonneg id _)
      (by simp)
  | queueOther =>
    refine hs.of_le rfl ?_ hs.named
    intro id
    simp [SessionStreams.ends, enqueue, ControlRequest.ends, StreamMessage.isEnd]
  | expire => exact hs.updateRequest fun _ => ⟨rfl, rfl⟩
  | takeExpired | take | encodeFails | sent | answerExhausted =>
    refine EndsOnce.setWriter (hs.updateRequest ?_) _ _
    exact fun request => ⟨rfl, rfl⟩
  | exhaust => exact EndsOnce.setWriter (hs.begin (fun _ => rfl) (by simp)) _ _
  | writeFails =>
    refine EndsOnce.setWriter (EndsOnce.begin (hs.updateRequest ?_) (fun _ => rfl) (by simp)) _ _
    exact fun request => ⟨rfl, rfl⟩

end Steps

/-! ## Ends on the wire -/

/-- The ends of the stream that are on the wire. -/
def wireEnds (s : SessionStreams) (streamID : Nat) : Nat :=
  s.requests.countP fun request =>
    request.message.isEnd && request.streamID == streamID && request.onWire

theorem wireEnds_le (s : SessionStreams) (streamID : Nat) :
    (s.wireEnds streamID : Int) ≤ s.ends streamID := by
  have hstreams : 0 ≤ total (StreamObject.entered streamID) s.streams :=
    total_nonneg fun stream _ => stream.entered_nonneg streamID
  have hcalls : 0 ≤ total (Call.owes streamID) s.calls :=
    total_nonneg fun call _ => call.owes_nonneg streamID
  have hrequests : ∀ requests : List ControlRequest,
      ((requests.countP fun request =>
        request.message.isEnd && request.streamID == streamID && request.onWire : Nat) : Int) ≤
        total (ControlRequest.ends streamID) requests := by
    intro requests
    induction requests with
    | nil => exact le_rfl
    | cons request requests ih =>
      rw [List.countP_cons, total_cons]
      by_cases hend : request.message.isEnd = true ∧ request.streamID = streamID
      · rw [ControlRequest.ends, if_pos hend]
        split <;> omega
      · have hnone : (request.message.isEnd && request.streamID == streamID && request.onWire) = false := by
          rw [Bool.eq_false_iff]
          intro h
          simp only [Bool.and_eq_true, beq_iff_eq] at h
          exact hend h.1
        rw [ControlRequest.ends, if_neg hend, hnone]
        simpa using ih
  have := hrequests s.requests
  rw [SessionStreams.ends, wireEnds]
  omega

/-- In every run at most one end of each stream is on the wire. -/
theorem wireEnds_le_one (hnext : nextID < streamIDSpace) {labels : List Label} {s : SessionStreams}
    (hrun : StepSystem.run step (start flowControlled maxStreamsPerSession nextID) labels = some s)
    (streamID : Nat) : s.wireEnds streamID ≤ 1 := by
  have hs : s.Owned ∧ s.EndsOnce :=
    StepSystem.invariant (I := fun s => s.Owned ∧ s.EndsOnce)
      (fun hs h => ⟨hs.1.step h, hs.2.step hs.1 h⟩) ⟨Owned.start hnext, EndsOnce.start⟩ hrun
  have honce := hs.2.once streamID
  have hle := s.wireEnds_le streamID
  omega

end SessionStreams

end Hooshix.Gateway
