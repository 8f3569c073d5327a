-- SUMMARY: Which stream and which control request each call of a session owns.
import Hooshix.Gateway.SessionStreams

/-! # What a call owns

Each call of `openStreamTarget` has its own stream object under its own ID, and each waiting call
has its own result channel. Stream IDs are never given out twice: `nextID` only grows, and stays at
zero once it has wrapped around.
-/

namespace Hooshix.Gateway

open Contract

/-- The request whose result the call waits for. -/
def Call.ticket? : Call → Option Nat
  | .opened _ ticket | .granted _ ticket | .waitingEnd ticket => some ticket
  | _ => none

def AfterDetach.gaveUp? : AfterDetach → Option Nat
  | .failOpen ref _ => some ref
  | _ => none

/-- The stream that a failing `openStreamTarget` has given up. -/
def Call.gaveUp? : Call → Option Nat
  | .detaching _ after | .finishing _ after | .closingWindow _ after => after.gaveUp?
  | .failed ref _ => some ref
  | _ => none

/-- The stream that a call of `openStreamTarget` has allocated. -/
def Call.opens? : Call → Option Nat
  | .opening ref | .opened ref _ | .granting ref | .granted ref _ | .returned ref => some ref
  | call => call.gaveUp?

theorem Call.opens?_of_gaveUp? {call : Call} {ref : Nat} (h : call.gaveUp? = some ref) :
    call.opens? = some ref := by
  cases call with
  | opening ref => cases h
  | opened ref ticket => cases h
  | granting ref => cases h
  | granted ref ticket => cases h
  | returned ref => cases h
  | _ => exact h

/-- Once a call has detached its stream it waits for nothing and is no running open. -/
theorem AfterDetach.next_detached (after : AfterDetach) (detached : Bool) :
    (after.next detached).ticket? = none ∧
      (after.next detached).opens? = after.gaveUp? ∧ (after.next detached).gaveUp? = after.gaveUp? := by
  cases after with
  | finishOnly | failOpen ref err => exact ⟨rfl, rfl, rfl⟩
  | sendEnd streamID message => cases detached <;> exact ⟨rfl, rfl, rfl⟩

attribute [local simp] SessionStreams.start

namespace SessionStreams

/-- The IDs given out so far, in the order of the stream objects. -/
def ids (s : SessionStreams) : List Nat := s.streams.map (·.id)

@[simp] theorem length_ids {s : SessionStreams} : s.ids.length = s.streams.length := by
  simp [ids]

theorem ids_enter (s : SessionStreams) (i : Nat) (windowed : Bool) :
    (s.enter i windowed).ids = s.ids ++ [s.nextID] := by
  simp [ids, enter]

/-! ## Exclusive ownership -/

/-- Every call owns its ticket and its stream alone, and no ID is given out twice. -/
structure Owned (s : SessionStreams) : Prop where
  tickets : Exclusive Call.ticket? s.calls
  ticketsLt : ∀ {call : Call} {ticket : Nat}, call ∈ s.calls → call.ticket? = some ticket →
    ticket < s.requests.length
  refs : Exclusive Call.opens? s.calls
  refsLt : ∀ {call : Call} {ref : Nat}, call ∈ s.calls → call.opens? = some ref →
    ref < s.streams.length
  ids : s.ids.Nodup
  idsLt : s.nextID ≠ 0 → ∀ id ∈ s.ids, id < s.nextID
  nextID : s.nextID < streamIDSpace
  opened : ∀ request ∈ s.requests, request.message = .streamOpen → request.streamID ∈ s.ids

theorem Owned.start {flowControlled : Bool} {maxStreamsPerSession : Int} {nextID : Nat}
    (hnext : nextID < streamIDSpace) : (start flowControlled maxStreamsPerSession nextID).Owned where
  tickets := Exclusive.nil
  ticketsLt := by simp
  refs := Exclusive.nil
  refsLt := by simp
  ids := by simp [SessionStreams.ids]
  idsLt := by simp [SessionStreams.ids]
  nextID := hnext
  opened := by simp

section Steps

variable {s s' : SessionStreams} {i : Nat} {call call' : Call}

variable (hs : s.Owned) {f : StreamObject → StreamObject} {message : StreamMessage} {streamID : Nat}
  {ref : Nat}

include hs

/-- A call begins. -/
theorem Owned.begin (hticket : call.ticket? = none) (hopens : call.opens? = none) :
    (s.begin call).Owned := by
  refine { hs with
    tickets := hs.tickets.append hticket
    ticketsLt := ?_
    refs := hs.refs.append hopens
    refsLt := ?_ }
  · intro c ticket hc h
    rcases List.mem_append.mp hc with hc | hc
    · exact hs.ticketsLt hc h
    · rw [List.mem_singleton.mp hc, hticket] at h
      cases h
  · intro c ref hc h
    rcases List.mem_append.mp hc with hc | hc
    · exact hs.refsLt hc h
    · rw [List.mem_singleton.mp hc, hopens] at h
      cases h

/-- A call moves on: it keeps its stream, and its ticket is new. -/
theorem Owned.goto (hcall : s.calls[i]? = some call)
    (hticket : ∀ ticket, call'.ticket? = some ticket →
      ticket < s.requests.length ∧ ∀ c ∈ s.calls, c.ticket? ≠ some ticket)
    (hopens : call'.opens? = none ∨ call'.opens? = call.opens?) : (s.goto i call').Owned := by
  have hopens : ∀ ref, call'.opens? = some ref → call.opens? = some ref := by
    intro ref h
    rcases hopens with hnone | hkeeps
    · cases hnone.symm.trans h
    · exact hkeeps ▸ h
  refine { hs with
    tickets := hs.tickets.set hcall fun ticket h => Or.inr (hticket ticket h).2
    ticketsLt := ?_
    refs := hs.refs.set hcall fun ref h => Or.inl (hopens ref h)
    refsLt := ?_ }
  · intro c ticket hc h
    rcases List.mem_or_eq_of_mem_set hc with hc | rfl
    · exact hs.ticketsLt hc h
    · exact (hticket ticket h).1
  · intro c ref hc h
    rcases List.mem_or_eq_of_mem_set hc with hc | rfl
    · exact hs.refsLt hc h
    · exact hs.refsLt (List.mem_of_getElem? hcall) (hopens ref h)

/-- A call moves on and waits for nothing. -/
theorem Owned.leave (hcall : s.calls[i]? = some call) (hticket : call'.ticket? = none)
    (hopens : call'.opens? = none ∨ call'.opens? = call.opens?) : (s.goto i call').Owned :=
  hs.goto hcall (fun ticket h => by cases hticket.symm.trans h) hopens

/-- Streams change, and no ID. -/
theorem Owned.setStreams {streams : List StreamObject}
    (hids : ({ s with streams } : SessionStreams).ids = s.ids) : Owned { s with streams } := by
  have hlength : streams.length = s.streams.length := by
    rw [← length_ids, ← hids, length_ids]
  exact { hs with
    refsLt := fun hc h => hlength ▸ hs.refsLt hc h
    ids := hids.symm ▸ hs.ids
    idsLt := fun hnext id hid => hs.idsLt hnext id (hids ▸ hid)
    opened := fun request hrequest hopen => hids.symm ▸ hs.opened request hrequest hopen }

omit hs in
/-- An update of a stream that leaves its ID alone. -/
theorem ids_updateStream
    (hf : ∀ stream, (f stream).id = stream.id) : (s.updateStream ref f).ids = s.ids := by
  apply List.ext_getElem?
  intro r
  simp only [ids, updateStream, List.getElem?_map, List.getElem?_modify]
  cases s.streams[r]? with
  | none => rfl
  | some stream =>
    simp only [Option.map_eq_map, Option.map_some]
    split
    · rw [hf stream]
    · rfl

theorem Owned.updateStream
    (hf : ∀ stream, (f stream).id = stream.id) : (s.updateStream ref f).Owned :=
  hs.setStreams (ids_updateStream hf)

/-- A request is updated; its stream ID and its message stay. -/
theorem Owned.updateRequest {ticket : Nat} {f : ControlRequest → ControlRequest}
    (hf : ∀ request, (f request).streamID = request.streamID ∧ (f request).message = request.message) :
    (s.updateRequest ticket f).Owned := by
  have hlength : (s.updateRequest ticket f).requests.length = s.requests.length :=
    List.length_modify _ _ _
  refine { hs with ticketsLt := fun hc h => hlength ▸ hs.ticketsLt hc h, opened := ?_ }
  intro request hrequest hopen
  obtain ⟨k, hk⟩ := List.getElem?_of_mem hrequest
  obtain ⟨old, hold, rfl⟩ := request_of_updateRequest hk
  split at hopen
  next heq =>
    rw [if_pos heq, (hf old).1]
    rw [(hf old).2] at hopen
    exact hs.opened old (List.mem_of_getElem? hold) hopen
  next hne =>
    rw [if_neg hne]
    exact hs.opened old (List.mem_of_getElem? hold) hopen

theorem Owned.enqueue
    (hnew : message = .streamOpen → streamID ∈ s.ids) : (s.enqueue streamID message).Owned := by
  have hlength : (s.enqueue streamID message).requests.length = s.requests.length + 1 := by
    simp [SessionStreams.enqueue]
  refine { hs with ticketsLt := ?_, opened := ?_ }
  · intro c ticket hc h
    have := hs.ticketsLt hc h
    omega
  · exact List.forall_mem_append.mpr ⟨hs.opened, List.forall_mem_singleton.mpr hnew⟩

theorem Owned.setWriter (controlWrites : List Nat) (writer : Writer) :
    Owned { s with controlWrites, writer } :=
  { hs with }

/-- A call queues a request and waits for its result. -/
theorem Owned.wait (hcall : s.calls[i]? = some call)
    (hnew : message = .streamOpen → streamID ∈ s.ids)
    (hticket : call'.ticket? = some s.requests.length)
    (hopens : call'.opens? = none ∨ call'.opens? = call.opens?) :
    ((s.enqueue streamID message).goto i call').Owned := by
  refine (hs.enqueue hnew).goto hcall ?_ hopens
  intro ticket h
  cases hticket.symm.trans h
  refine ⟨by simp [SessionStreams.enqueue], fun c hc hown => ?_⟩
  exact absurd (hs.ticketsLt hc hown) (Nat.lt_irrefl _)

/-- The new ID is above all others, and the next one is above it or zero. -/
theorem Owned.allocate {datagram windowed : Bool}
    (hcall : s.calls[i]? = some (.allocating datagram)) (hnext : s.nextID ≠ 0) :
    (s.enter i windowed).Owned := by
  have hlt := hs.idsLt hnext
  refine {
    tickets := hs.tickets.set hcall (by simp [Call.ticket?])
    ticketsLt := ?_
    refs := hs.refs.set hcall ?_
    refsLt := ?_
    ids := ?_
    idsLt := ?_
    nextID := Nat.mod_lt _ (by decide)
    opened := ?_ }
  · intro c ticket hc hown
    rcases List.mem_or_eq_of_mem_set hc with hc | rfl
    · exact hs.ticketsLt hc hown
    · cases hown
  · intro ref hopens
    cases hopens
    exact Or.inr fun c hc hown => absurd (hs.refsLt hc hown) (Nat.lt_irrefl _)
  · intro c ref hc hown
    rw [enter, List.length_append, List.length_singleton]
    rcases List.mem_or_eq_of_mem_set hc with hc | rfl
    · exact Nat.lt_succ_of_lt (hs.refsLt hc hown)
    · cases hown
      exact Nat.lt_succ_self _
  · rw [ids_enter, List.nodup_append]
    refine ⟨hs.ids, by simp, ?_⟩
    intro id hid new hnew
    rw [List.mem_singleton] at hnew
    have := hlt id hid
    omega
  · intro hnext' id hid
    rw [ids_enter, List.mem_append, List.mem_singleton] at hid
    have hspace := hs.nextID
    have hmod : (s.nextID + 1) % streamIDSpace = s.nextID + 1 := by
      by_cases hlast : s.nextID + 1 = streamIDSpace
      · exact absurd (by simp [enter, hlast]) hnext'
      · exact Nat.mod_eq_of_lt (by omega)
    rw [enter, hmod]
    rcases hid with hid | rfl
    · exact Nat.lt_succ_of_lt (hlt id hid)
    · exact Nat.lt_succ_self _
  · intro request hrequest hopen
    rw [ids_enter]
    exact List.mem_append_left _ (hs.opened request hrequest hopen)

theorem Owned.step {l : Label} (h : s.step l = some s') : s'.Owned := by
  cases steps_of_step h with
  | opens | finishes | closes | errors | terminates => exact hs.begin rfl rfl
  | halfClose => exact hs.updateStream fun _ => rfl
  | allocate hcall hnext => exact hs.allocate hcall hnext
  | refuse hcall | failedAll hcall | abandonEnd hcall => exact hs.leave hcall rfl (.inl rfl)
  | close hcall =>
    have hended : (s.goto _ .ended).Owned := hs.leave hcall rfl (.inl rfl)
    exact { hended with }
  | @notFound _ _ after hcall =>
    obtain ⟨hticket, hopens, -⟩ := after.next_detached false
    exact hs.leave hcall hticket (.inr hopens)
  | @closeWindow _ _ after hcall =>
    obtain ⟨hticket, hopens, -⟩ := after.next_detached true
    exact Owned.leave (hs.updateStream fun _ => rfl) hcall hticket (.inr hopens)
  | detach hcall | finish hcall =>
    exact Owned.leave (hs.updateStream fun _ => rfl) hcall rfl (.inr rfl)
  | failWindow hcall | failOne hcall =>
    exact Owned.leave (hs.updateStream fun _ => rfl) hcall rfl (.inl rfl)
  | swap hcall =>
    have hunregistered : Owned { s with
        streams := s.streams.map fun stream => { stream with registered := false } } :=
      hs.setStreams (by simp [SessionStreams.ids])
    exact { @Owned.leave _ _ _ (.failing s.table) hunregistered hcall rfl (.inl rfl) with }
  | sendOpen hcall hstream =>
    have hmem := List.mem_map_of_mem (f := (·.id)) (List.mem_of_getElem? hstream)
    exact hs.wait hcall (fun _ => hmem) rfl (.inr rfl)
  | sendGrant hcall => exact hs.wait hcall nofun rfl (.inr rfl)
  | sendEnd hcall => exact hs.wait hcall nofun rfl (.inl rfl)
  | abandonOpen hcall | abandonGrant hcall => exact hs.leave hcall rfl (.inr rfl)
  | openFails hcall | grantFails hcall | opened hcall =>
    exact Owned.leave (hs.updateRequest fun _ => ⟨rfl, rfl⟩) hcall rfl (.inr rfl)
  | returned hcall hwaits =>
    refine Owned.leave (hs.updateRequest fun _ => ⟨rfl, rfl⟩) hcall rfl (.inr ?_)
    rcases hwaits with rfl | rfl <;> rfl
  | ended hcall => exact Owned.leave (hs.updateRequest fun _ => ⟨rfl, rfl⟩) hcall rfl (.inl rfl)
  | queueOther => exact hs.enqueue nofun
  | expire => exact hs.updateRequest fun _ => ⟨rfl, rfl⟩
  | takeExpired | take | encodeFails | sent | answerExhausted =>
    refine Owned.setWriter (hs.updateRequest ?_) _ _
    exact fun request => ⟨rfl, rfl⟩
  | exhaust => exact Owned.setWriter (hs.begin rfl rfl) _ _
  | writeFails =>
    refine Owned.setWriter (Owned.begin (hs.updateRequest ?_) rfl rfl) _ _
    exact fun request => ⟨rfl, rfl⟩

end Steps

/-- However calls, ends and the writer interleave, each ID, stream and result has one owner. -/
theorem streams_never_shared {flowControlled : Bool} {maxStreamsPerSession : Int} {nextID : Nat}
    (hnext : nextID < streamIDSpace) {labels : List Label} {s : SessionStreams}
    (hrun : StepSystem.run step (start flowControlled maxStreamsPerSession nextID) labels = some s) :
    s.ids.Nodup ∧ Exclusive Call.opens? s.calls ∧ Exclusive Call.ticket? s.calls := by
  have hs : s.Owned := StepSystem.invariant (fun hs h => hs.step h) (.start hnext) hrun
  exact ⟨hs.ids, hs.refs, hs.tickets⟩

/-- The last stream ID goes to the first call, and none to the other. -/
theorem streams_never_shared_last : ∃ s,
    StepSystem.run step (start true 8 (streamIDSpace - 1))
      [.openStreamTarget false, .openStreamTarget true, .proceed 1, .proceed 0] = some s ∧
    s.ids = [streamIDSpace - 1] ∧ s.ids.Nodup :=
  StepSystem.exists_run rfl fun h => ⟨by cases h; rfl, (streams_never_shared (by decide) h).1⟩

end SessionStreams

end Hooshix.Gateway
