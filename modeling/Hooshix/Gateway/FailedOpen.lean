-- SUMMARY: When an open that fails leaves its stream behind at the Agent.
import Hooshix.Gateway.OpenCalls

/-! # Failed opens

An `openStreamTarget` that fails ends its stream at the Gateway and tells the Agent nothing. The Agent
is left with the stream if the `stream_open` still gets on the wire: the writer may be past the test
of the request's context when the call gives up, and the first window update may fail behind a
`stream_open` that was sent.
-/

namespace Hooshix.Gateway

open Contract ControlRequest StepSystem

/-- The writer has not failed. -/
def Writer.alive : Writer → Bool
  | .idle | .writing _ => true
  | .exhausted _ _ | .stopped => false

namespace ControlRequest

/-- The `stream_open` of this stream. -/
def opens (streamID : Nat) (request : ControlRequest) : Bool :=
  request.message == .streamOpen && request.streamID == streamID

/-- The frame is not on the wire and will not be. -/
def dropped (request : ControlRequest) : Bool :=
  !request.onWire && match request.status with
    | .queued => request.expired
    | .writing => false
    | .answered err => err.isSome

/-- No failure of the frame has been decided. -/
def promising (request : ControlRequest) : Bool :=
  match request.status with
  | .queued => !request.expired
  | .writing => true
  | .answered err => err.isNone

def answered (request : ControlRequest) : Bool :=
  match request.status with
  | .answered _ => true
  | _ => false

end ControlRequest

attribute [local simp] dropped promising

namespace SessionStreams

/-- An end of the stream is on the wire. -/
def endSent (s : SessionStreams) (streamID : Nat) : Bool :=
  s.requests.any fun request =>
    request.streamID == streamID && request.message.isEnd && request.onWire

/-- The stream object has an ID for which no end is on the wire. -/
def unended (s : SessionStreams) (ref : Nat) : Bool :=
  s.ids[ref]?.any fun id => !s.endSent id

/-- The step fails an open whose `stream_open` is past the writer's test of its context, while no end
    of the stream is on the wire: the call stops waiting, or the first window update comes to grief. -/
def orphans (s : SessionStreams) : Label → Bool
  | .abandonSend i _ =>
    match s.calls[i]? with
    | some (.granting ref) => s.unended ref
    | _ => false
  | .receive i (some _) =>
    match s.calls[i]? with
    | some (.opened ref ticket) => s.unended ref && s.requests[ticket]?.any (·.status == .writing)
    | some (.granted ref ticket) => s.unended ref && s.requests[ticket]?.any (!·.answered)
    | _ => false
  | .expire ticket => s.requests[ticket]?.any fun request =>
    request.message == .windowUpdate && request.status == .queued && !s.endSent request.streamID
  | .write (.encodeError _) =>
    match s.writer with
    | .writing ticket => s.requests[ticket]?.any fun request =>
      request.message == .windowUpdate && !s.endSent request.streamID
    | _ => false
  | _ => false

/-! ## The control queue -/

/-- The queue holds the queued requests, the writer the one that it writes, and a frame that is on the
    wire was reported as sent. -/
structure InQueue (s : SessionStreams) : Prop where
  queued : ∀ {ticket : Nat}, ticket ∈ s.controlWrites →
    ∃ request, s.requests[ticket]? = some request ∧ request.status = .queued
  nodup : s.controlWrites.Nodup
  writing : ∀ {ticket : Nat}, s.writer = .writing ticket →
    ∃ request, s.requests[ticket]? = some request ∧ request.status = .writing
  onWire : ∀ {request : ControlRequest}, request ∈ s.requests → request.onWire = true →
    request.status = .answered none

variable {maxStreamsPerSession : Int} {flowControlled : Bool} {nextID : Nat}

theorem InQueue.start :
    (start flowControlled maxStreamsPerSession nextID).InQueue := by
  constructor
  all_goals simp [SessionStreams.start]

section Queue

variable {s s' : SessionStreams} {i ticket : Nat}

variable (hs : s.InQueue)

include hs

theorem InQueue.enqueue {streamID : Nat} {message : StreamMessage} :
    (s.enqueue streamID message).InQueue := by
  have hkeep : ∀ {ticket : Nat} {request : ControlRequest}, s.requests[ticket]? = some request →
      (s.enqueue streamID message).requests[ticket]? = some request := by
    intro ticket request h
    simp only [SessionStreams.enqueue]
    rw [List.getElem?_append_left (List.getElem?_eq_some_iff.mp h).1]
    exact h
  constructor
  · intro ticket hticket
    simp only [SessionStreams.enqueue, List.mem_append, List.mem_singleton] at hticket
    rcases hticket with hticket | rfl
    · obtain ⟨request, hrequest, hstatus⟩ := hs.queued hticket
      exact ⟨request, hkeep hrequest, hstatus⟩
    · exact ⟨{ streamID, message, expired := false, status := .queued, onWire := false },
        by simp [SessionStreams.enqueue], rfl⟩
  · simp only [SessionStreams.enqueue, List.nodup_append]
    refine ⟨hs.nodup, by simp, ?_⟩
    intro ticket hticket new hnew
    obtain ⟨request, hrequest, -⟩ := hs.queued hticket
    have hlt := (List.getElem?_eq_some_iff.mp hrequest).1
    rw [List.mem_singleton] at hnew
    omega
  · intro ticket hwriter
    obtain ⟨request, hrequest, hstatus⟩ := hs.writing hwriter
    exact ⟨request, hkeep hrequest, hstatus⟩
  · intro request hrequest hwire
    simp only [SessionStreams.enqueue, List.mem_append, List.mem_singleton] at hrequest
    rcases hrequest with hrequest | rfl
    · exact hs.onWire hrequest hwire
    · cases hwire

/-- The writer's ticket is none of those in the queue. -/
theorem InQueue.ne_writing {other : Nat} (hwriter : s.writer = .writing ticket)
    (hother : other ∈ s.controlWrites) : ticket ≠ other := by
  rintro rfl
  obtain ⟨request, hrequest, hwriting⟩ := hs.writing hwriter
  obtain ⟨request', hrequest', hqueued⟩ := hs.queued hother
  rw [hrequest] at hrequest'
  cases hrequest'
  rw [hwriting] at hqueued
  cases hqueued

/-- The queue does not ask whether a request has expired. -/
theorem InQueue.expire : (s.expire ticket).InQueue := by
  have hkeep : ∀ {k : Nat} {request : ControlRequest}, s.requests[k]? = some request →
      ∃ request', (s.expire ticket).requests[k]? = some request' ∧ request'.status = request.status := by
    intro k request h
    refine ⟨if ticket = k then { request with expired := true } else request, ?_, ?_⟩
    · simp [SessionStreams.expire, updateRequest, List.getElem?_modify, h]
    · split
      · rfl
      · rfl
  constructor
  · intro k hk
    obtain ⟨request, hrequest, hstatus⟩ := hs.queued hk
    obtain ⟨request', hrequest', hsame⟩ := hkeep hrequest
    exact ⟨request', hrequest', hsame.trans hstatus⟩
  · exact hs.nodup
  · intro k hwriter
    obtain ⟨request, hrequest, hstatus⟩ := hs.writing hwriter
    obtain ⟨request', hrequest', hsame⟩ := hkeep hrequest
    exact ⟨request', hrequest', hsame.trans hstatus⟩
  · intro request hrequest hwire
    obtain ⟨k, hk⟩ := List.getElem?_of_mem hrequest
    obtain ⟨old, hold, rfl⟩ := request_of_updateRequest hk
    have hmem := List.mem_of_getElem? hold
    split at hwire
    next heq =>
      have hstatus : old.status = .answered none := hs.onWire hmem hwire
      rw [if_pos heq]
      exact hstatus
    next hne =>
      rw [if_neg hne]
      exact hs.onWire hmem hwire

/-- A request leaves the queue or the writer's hand. -/
theorem InQueue.settle {f : ControlRequest → ControlRequest} {controlWrites : List Nat}
    {writer : Writer} (hcontrol : controlWrites.Sublist s.controlWrites)
    (hout : ticket ∉ controlWrites) (hwriting : ∀ {t : Nat}, writer = .writing t →
      t = ticket ∧ ∃ request, s.requests[ticket]? = some request ∧ (f request).status = .writing)
    (hwire : ∀ {request : ControlRequest}, s.requests[ticket]? = some request →
      (f request).onWire = true → (f request).status = .answered none) :
    InQueue { s.updateRequest ticket f with controlWrites, writer } := by
  constructor
  · intro k hk
    obtain ⟨request, hrequest, hstatus⟩ := hs.queued (hcontrol.subset hk)
    have hne : ticket ≠ k := fun h => hout (h ▸ hk)
    exact ⟨request, by simp [updateRequest, hne, hrequest], hstatus⟩
  · exact hcontrol.nodup hs.nodup
  · intro t ht
    obtain ⟨rfl, request, hrequest, hstatus⟩ := hwriting ht
    exact ⟨f request, by simp [updateRequest, hrequest], hstatus⟩
  · intro request hrequest hon
    obtain ⟨k, hk⟩ := List.getElem?_of_mem hrequest
    obtain ⟨old, hold, rfl⟩ := request_of_updateRequest hk
    split at hon
    next heq =>
      subst heq
      rw [if_pos rfl]
      exact hwire hold hon
    next hne =>
      rw [if_neg hne]
      exact hs.onWire (List.mem_of_getElem? hold) hon

/-- Only a request that is reported as sent is on the wire. -/
theorem InQueue.off_wire {request r : ControlRequest}
    (hrequest : s.requests[ticket]? = some request) (hstatus : request.status ≠ .answered none)
    (hr : s.requests[ticket]? = some r) : r.onWire ≠ true := by
  intro hwire
  cases hrequest.symm.trans hr
  exact hstatus (hs.onWire (List.mem_of_getElem? hr) hwire)

/-- The first request of the queue is there once, and not on the wire. -/
theorem InQueue.head {rest : List Nat} (hcontrol : s.controlWrites = ticket :: rest) :
    ∃ request, s.requests[ticket]? = some request ∧ ticket ∉ rest ∧
      ∀ {r}, s.requests[ticket]? = some r → r.onWire ≠ true := by
  obtain ⟨request, hrequest, hstatus⟩ := hs.queued (hcontrol ▸ List.mem_cons_self)
  have hnodup := hs.nodup
  rw [hcontrol, List.nodup_cons] at hnodup
  exact ⟨request, hrequest, hnodup.1, hs.off_wire hrequest (by simp [hstatus])⟩

theorem InQueue.goto {call : Call} : (s.goto i call).InQueue :=
  { hs with }

theorem InQueue.step {l : Label} (h : s.step l = some s') (halive : s'.writer.alive = true) :
    s'.InQueue := by
  cases steps_of_step h with
  | sendOpen | sendGrant | sendEnd => exact hs.enqueue.goto
  | queueOther => exact hs.enqueue
  | expire => exact hs.expire
  | openFails | grantFails | opened | returned | ended => exact hs.expire.goto
  | takeExpired hwriter hcontrol =>
    obtain ⟨request, hrequest, hout, hoff⟩ := hs.head hcontrol
    refine hs.settle (hcontrol ▸ List.sublist_cons_self _ _) hout ?_ fun hr hwire => (hoff hr hwire).elim
    intro t ht
    cases hwriter.symm.trans ht
  | take hwriter hcontrol =>
    obtain ⟨request, hrequest, hout, hoff⟩ := hs.head hcontrol
    refine hs.settle (hcontrol ▸ List.sublist_cons_self _ _) hout ?_ fun hr hwire => (hoff hr hwire).elim
    intro t ht
    cases ht
    exact ⟨rfl, request, hrequest, rfl⟩
  | encodeFails hwriter =>
    obtain ⟨request, hrequest, hstatus⟩ := hs.writing hwriter
    refine hs.settle (List.Sublist.refl _) (fun hin => hs.ne_writing hwriter hin rfl) nofun ?_
    intro r hr hwire
    exact (hs.off_wire hrequest (by simp [hstatus]) hr hwire).elim
  | sent hwriter =>
    refine hs.settle (List.Sublist.refl _) (fun hin => hs.ne_writing hwriter hin rfl) nofun ?_
    exact fun _ _ => rfl
  | exhaust | writeFails | answerExhausted => cases halive
  | _ => exact { hs with }

end Queue

/-! ## Running and failed opens -/

/-- What a call knows of a request, given the ID of its stream: an open that has not sent has no
    `stream_open`, one that waits for its `stream_open` has that one only, one that waits for its window
    update can still get it, and one that has given up has its `stream_open` dropped or its stream
    ended. -/
def FitsRequest (s : SessionStreams) (call : Call) (id k : Nat) (request : ControlRequest) : Prop :=
  match call with
  | .opening _ => request.opens id = false
  | .opened _ ticket => request.opens id = true → k = ticket
  | .granted _ ticket => k = ticket → request.message = .windowUpdate ∧ request.streamID = id ∧
    (request.promising = true ∨ s.endSent id = true)
  | call => call.gaveUp? ≠ none → request.opens id = true →
    request.dropped = true ∨ s.endSent id = true

def Fits (s : SessionStreams) (call : Call) : Prop :=
  ∀ ref id k request, call.opens? = some ref → s.ids[ref]? = some id → s.requests[k]? = some request →
    s.FitsRequest call id k request

section Fits

variable {s s' : SessionStreams} {i : Nat} {call : Call} {request : ControlRequest}
  {f : ControlRequest → ControlRequest} {message : StreamMessage} {id k : Nat}

/-- A call without a stream of its own is known nothing of. -/
theorem fits_of_opens? (h : call.opens? = none) : s.Fits call := by
  intro ref id k request href
  cases h.symm.trans href

/-- What a call that has given up must satisfy. -/
theorem fits_of_gaveUp? (hopens : call.opens? = call.gaveUp?)
    (h : ∀ ref id, call.gaveUp? = some ref → s.ids[ref]? = some id → ∀ request ∈ s.requests,
      request.opens id = true → request.dropped = true ∨ s.endSent id = true) : s.Fits call := by
  intro ref id k request href hid hk
  rw [hopens] at href
  cases call with
  | opening ref => cases href
  | opened ref ticket => cases href
  | granted ref ticket => cases href
  | _ => exact fun _ => h ref id href hid request (List.mem_of_getElem? hk)

theorem Fits.gaveUp (h : s.Fits call) {ref id : Nat} (hgaveUp : call.gaveUp? = some ref)
    (hid : s.ids[ref]? = some id) (hrequest : request ∈ s.requests)
    (hopen : request.opens id = true) : request.dropped = true ∨ s.endSent id = true := by
  obtain ⟨k, hk⟩ := List.getElem?_of_mem hrequest
  have hfits := h _ _ k _ (Call.opens?_of_gaveUp? hgaveUp) hid hk
  cases call with
  | opening ref | opened ref ticket | granted ref ticket => cases hgaveUp
  | _ => exact hfits (by simp [hgaveUp]) hopen

/-- The request keeps its stream and message: if it was dropped it stays so, and if the call waits for
    it as its window update it stays promising. -/
theorem FitsRequest.update {request' : ControlRequest}
    (h : s.FitsRequest call id k request) (hstreamID : request'.streamID = request.streamID)
    (hmessage : request'.message = request.message)
    (hends : ∀ {id}, s.endSent id = true → s'.endSent id = true)
    (hdropped : request.dropped = true → request'.dropped = true)
    (hpromising : call.ticket? = some k → request.message = .windowUpdate →
      request.promising = true → request'.promising = true ∨ s.endSent request.streamID = true) :
    s'.FitsRequest call id k request' := by
  have hopens : request'.opens id = request.opens id := by
    rw [ControlRequest.opens, ControlRequest.opens, hstreamID, hmessage]
  cases call with
  | opening ref => exact hopens.trans h
  | opened ref ticket => exact fun hopen => h (hopens ▸ hopen)
  | granted ref ticket =>
    rintro rfl
    obtain ⟨hupdate, rfl, hfine⟩ := h rfl
    refine ⟨hmessage.trans hupdate, hstreamID, ?_⟩
    rcases hfine with hfine | hended
    · exact (hpromising rfl hupdate hfine).imp_right hends
    · exact .inr (hends hended)
  | _ => exact fun hup hopen => (h hup (hopens ▸ hopen)).imp hdropped hends

theorem FitsRequest.mono (h : s.FitsRequest call id k request)
    (hends : ∀ {id}, s.endSent id = true → s'.endSent id = true) :
    s'.FitsRequest call id k request :=
  h.update rfl rfl hends (fun hdropped => hdropped) fun _ _ hfine => .inl hfine

/-- IDs are added behind those of the call, and no request. -/
theorem Fits.same (h : s.Fits call) (hrequests : s'.requests = s.requests)
    (hids : ∀ ref, call.opens? = some ref → s'.ids[ref]? = s.ids[ref]?) : s'.Fits call := by
  intro ref id k request href hid hk
  rw [hids ref href] at hid
  rw [hrequests] at hk
  refine (h _ _ _ _ href hid hk).mono ?_
  intro id hended
  rw [endSent, hrequests]
  exact hended

theorem endSent_enqueue {streamID id : Nat} (h : s.endSent id = true) :
    (s.enqueue streamID message).endSent id = true := by
  simp only [endSent, SessionStreams.enqueue, List.any_append, Bool.or_eq_true]
  exact .inl h

/-- A request that opens no stream of the call is queued. -/
theorem Fits.enqueue {streamID : Nat} (h : s.Fits call)
    (hother : ∀ ref id, call.opens? = some ref → s.ids[ref]? = some id →
      message = .streamOpen → streamID ≠ id)
    (hticket : ∀ ticket, call.ticket? = some ticket → ticket < s.requests.length) :
    (s.enqueue streamID message).Fits call := by
  have hnew : ∀ ref id, call.opens? = some ref → s.ids[ref]? = some id →
      ControlRequest.opens id ⟨streamID, message, false, .queued, false⟩ = false := by
    intro ref id href hid
    simp only [ControlRequest.opens, Bool.and_eq_false_iff, beq_eq_false_iff_ne]
    by_cases hmessage : message = .streamOpen
    · exact .inr (hother ref id href hid hmessage)
    · exact .inl hmessage
  intro ref id k request href hid hk
  rcases List.of_getElem?_concat hk with hk | ⟨rfl, rfl⟩
  · exact (h _ _ _ _ href hid hk).mono endSent_enqueue
  · have hnone := hnew ref id href hid
    cases call with
    | opening ref => exact hnone
    | granted ref ticket =>
      rintro rfl
      exact absurd (hticket _ rfl) (Nat.lt_irrefl _)
    | opened ref ticket => exact fun hopen => absurd (hnone.symm.trans hopen) (by simp)
    | _ => exact fun _ hopen => absurd (hnone.symm.trans hopen) (by simp)

/-- An update of a request that keeps its stream and message and takes nothing off the wire. -/
structure Keeps (f : ControlRequest → ControlRequest) : Prop where
  streamID : ∀ request, (f request).streamID = request.streamID
  message : ∀ request, (f request).message = request.message
  onWire : ∀ request, request.onWire = true → (f request).onWire = true

theorem endSent_update {ticket id : Nat} (hf : Keeps f)
    (h : s.endSent id = true) : (s.updateRequest ticket f).endSent id = true := by
  simp only [endSent, List.any_eq_true, Bool.and_eq_true, beq_iff_eq] at h ⊢
  obtain ⟨request, hrequest, ⟨hid, hend⟩, hwire⟩ := h
  obtain ⟨k, hk⟩ := List.getElem?_of_mem hrequest
  refine ⟨if ticket = k then f request else request, List.mem_of_getElem? (i := k) ?_, ?_⟩
  · simp only [updateRequest, List.getElem?_modify, hk]
    rfl
  · split
    · rw [hf.streamID, hf.message]
      exact ⟨⟨hid, hend⟩, hf.onWire request hwire⟩
    · exact ⟨⟨hid, hend⟩, hwire⟩

/-- A request is updated: if it was dropped it stays so, and if the call waits for it as its window
    update it stays promising. -/
theorem Fits.update {ticket : Nat} (h : s.Fits call) (hf : Keeps f)
    (hdropped : ∀ request, s.requests[ticket]? = some request → request.dropped = true →
      (f request).dropped = true)
    (hpromising : ∀ request, s.requests[ticket]? = some request → call.ticket? = some ticket →
      request.message = .windowUpdate → request.promising = true →
      (f request).promising = true ∨ s.endSent request.streamID = true) :
    (s.updateRequest ticket f).Fits call := by
  intro ref id k request href hid hk
  obtain ⟨old, hold, rfl⟩ := request_of_updateRequest hk
  have hfits := h _ _ _ _ href hid hold
  split
  next heq =>
    subst heq
    exact hfits.update (hf.streamID old) (hf.message old) (endSent_update hf) (hdropped old hold)
      (hpromising old hold)
  · exact hfits.mono (endSent_update hf)

theorem keeps_expire : Keeps fun request => { request with expired := true } where
  streamID := fun _ => rfl
  message := fun _ => rfl
  onWire := fun _ h => h

theorem keeps_status (status : RequestStatus) : Keeps fun request => { request with status } where
  streamID := fun _ => rfl
  message := fun _ => rfl
  onWire := fun _ h => h

theorem keeps_sent :
    Keeps fun request => { request with status := .answered none, onWire := true } where
  streamID := fun _ => rfl
  message := fun _ => rfl
  onWire := fun _ _ => rfl

/-- A context that ends brings no dropped request back. -/
theorem dropped_expire (h : request.dropped = true) :
    { request with expired := true }.dropped = true := by
  simp only [dropped, Bool.and_eq_true] at h ⊢
  refine ⟨h.1, ?_⟩
  cases hstatus : request.status with
  | queued => rfl
  | writing | answered err =>
    rw [hstatus] at h
    exact h.2

end Fits

/-! ## Steps -/

/-- Every call fits its requests. -/
def AllFit (s : SessionStreams) : Prop := ∀ call ∈ s.calls, s.Fits call

section Steps

variable {s s' : SessionStreams} {i ref streamID ticket : Nat} {call' : Call}
  {stream : StreamObject} {err : GoError} {reason : Option GiveUp} {request : ControlRequest}
  {call : Call} {l : Label}

/-- One call moves on, and the others still fit. -/
theorem AllFit.set (hcalls : s'.calls = s.calls.set i call')
    (hother : ∀ {j : Nat} {c : Call}, i ≠ j → s.calls[j]? = some c → s'.Fits c)
    (hself : s'.Fits call') : s'.AllFit := by
  intro c hc
  rw [hcalls] at hc
  rcases call_of_set hc with rfl | ⟨j, hne, hj⟩
  · exact hself
  · exact hother hne hj

/-- Another call's stream has another ID. -/
theorem Owned.ids_ne (howned : s.Owned) {j ref' id id' : Nat} {call c : Call} (hne : i ≠ j)
    (hcall : s.calls[i]? = some call) (hj : s.calls[j]? = some c) (href : call.opens? = some ref)
    (href' : c.opens? = some ref') (hid : s.ids[ref]? = some id) (hid' : s.ids[ref']? = some id') :
    id ≠ id' := by
  rintro rfl
  have hlt : ref < s.ids.length := (List.getElem?_eq_some_iff.mp hid).1
  have heq : ref = ref' := (List.getElem?_inj hlt howned.ids).mp (hid.trans hid'.symm)
  subst heq
  exact hne (howned.refs hcall hj href href')

theorem ids_of_stream (h : s.streams[ref]? = some stream) :
    s.ids[ref]? = some stream.id := by
  simp [ids, h]

/-- A stream that counts as ended has an end on the wire. -/
theorem endSent_of_unended {id : Nat} (hid : s.ids[ref]? = some id) (h : s.unended ref = false) :
    s.endSent id = true := by
  rw [unended, hid] at h
  simpa using h

section Failed

variable (hresult : s.sendResult ticket reason = some (some err))

include hresult

/-- The `stream_open` that a call gives up on is dropped, unless the writer has it. -/
theorem dropped_of_sendResult (hqueue : s.InQueue) (hrequest : s.requests[ticket]? = some request)
    (hguard : reason.isSome = true → request.status ≠ .writing) :
    { request with expired := true }.dropped = true := by
  obtain ⟨request', hrequest', hcases⟩ := sendResult_cases hresult
  rw [hrequest] at hrequest'
  cases hrequest'
  have hoff : request.status ≠ .answered none → request.onWire = false := by
    intro hstatus
    by_contra hwire
    exact hstatus (hqueue.onWire (List.mem_of_getElem? hrequest) (by simpa using hwire))
  rcases hcases with hanswered | ⟨hunanswered, -, hreason⟩
  · have hwire := hoff (by simp [hanswered])
    simp [hwire, hanswered]
  · have hwire := hoff (hunanswered none)
    cases hstatus : request.status with
    | queued => simp [hwire]
    | writing => exact absurd hstatus (hguard hreason)
    | answered result => exact absurd hstatus (hunanswered result)

/-- A window update that is reported as failed was not promising, or the call gave up on it. -/
theorem gaveUp_of_promising (hrequest : s.requests[ticket]? = some request)
    (hpromising : request.promising = true) :
    reason.isSome = true ∧ request.answered = false := by
  obtain ⟨request', hrequest', hcases⟩ := sendResult_cases hresult
  rw [hrequest] at hrequest'
  cases hrequest'
  rcases hcases with hanswered | ⟨hunanswered, -, hreason⟩
  · simp [hanswered] at hpromising
  · refine ⟨hreason, ?_⟩
    cases hstatus : request.status with
    | queued | writing => simp [answered, hstatus]
    | answered result => exact absurd hstatus (hunanswered result)

/-- The only `stream_open` of the stream is the one the call waited for. -/
theorem Fits.openFails (hqueue : s.InQueue) (hs : s.Fits (.opened ref ticket))
    (hcall : s.calls[i]? = some (.opened ref ticket))
    (hguard : s.orphans (.receive i reason) = false) :
    (s.expire ticket).Fits (.detaching streamID (.failOpen ref err)) := by
  rintro ref' id k request ⟨⟩ hid hk - hopen
  obtain ⟨old, hold, rfl⟩ := request_of_updateRequest hk
  by_cases hended : s.endSent id = true
  · exact .inr (endSent_update keeps_expire hended)
  have hunended : s.unended ref = true := by
    have hid' : s.ids[ref]? = some id := hid
    rw [unended, hid']
    simpa using hended
  have hopen' : old.opens id = true := by
    split at hopen <;> exact hopen
  obtain rfl : k = ticket := hs _ _ _ _ rfl hid hold hopen'
  rw [if_pos rfl]
  left
  refine dropped_of_sendResult hresult hqueue hold ?_
  intro hreason hwriting
  obtain ⟨why, rfl⟩ := Option.isSome_iff_exists.mp hreason
  simp [orphans, hcall, hunended, hold, hwriting] at hguard

/-- A window update can only fail behind the writer's back. -/
theorem Fits.grantFails (hs : s.Fits (.granted ref ticket))
    (hcall : s.calls[i]? = some (.granted ref ticket))
    (hguard : s.orphans (.receive i reason) = false) :
    (s.expire ticket).Fits (.detaching streamID (.failOpen ref err)) := by
  rintro ref' id k request ⟨⟩ hid hk - hopen
  refine .inr (endSent_update keeps_expire ?_)
  obtain ⟨update, hupdate, -⟩ := sendResult_cases hresult
  obtain ⟨-, -, hpromising | hended⟩ := hs _ _ _ _ rfl hid hupdate rfl
  · obtain ⟨hreason, hunanswered⟩ := gaveUp_of_promising hresult hupdate hpromising
    obtain ⟨why, rfl⟩ := Option.isSome_iff_exists.mp hreason
    refine endSent_of_unended hid ?_
    simpa [orphans, hcall, hupdate, hunanswered] using hguard
  · exact hended

end Failed

/-- The request in the writer's hand is not dropped. -/
theorem InQueue.writing_live {r : ControlRequest} (hqueue : s.InQueue)
    (hwriter : s.writer = .writing ticket) (hr : s.requests[ticket]? = some r) :
    r.dropped ≠ true := by
  intro hdropped
  obtain ⟨request, hrequest, hstatus⟩ := hqueue.writing hwriter
  cases hrequest.symm.trans hr
  simp [hstatus] at hdropped

/-- A writer that has failed stays so. -/
theorem alive_of_step (h : s.step l = some s') (halive : s'.writer.alive = true) :
    s.writer.alive = true := by
  cases steps_of_step h with
  | takeExpired hwriter | take hwriter | exhaust hwriter | encodeFails hwriter | sent hwriter
  | writeFails hwriter =>
    rw [hwriter]
    rfl
  | answerExhausted => cases halive
  | _ => exact halive

variable (hs : s.AllFit)

include hs

/-- A call begins. -/
theorem AllFit.begin (hopens : call.opens? = none) : (s.begin call).AllFit :=
  List.forall_mem_append.mpr ⟨hs, List.forall_mem_singleton.mpr (fits_of_opens? hopens)⟩

/-- Streams change, and no ID. -/
theorem AllFit.setStreams {streams : List StreamObject}
    (hids : ({ s with streams } : SessionStreams).ids = s.ids) : AllFit { s with streams } :=
  fun c hc => (hs c hc).same rfl fun _ _ => by rw [hids]

theorem AllFit.updateStream {f : StreamObject → StreamObject}
    (hf : ∀ stream, (f stream).id = stream.id) : (s.updateStream ref f).AllFit :=
  hs.setStreams (ids_updateStream hf)

theorem AllFit.goto (hself : s.Fits call') : (s.goto i call').AllFit :=
  AllFit.set rfl (fun _ hj => hs _ (List.mem_of_getElem? hj)) hself

/-- A call that has no open running moves on; what it gave up before, it has given up. -/
theorem AllFit.leave (hcall : s.calls[i]? = some call)
    (hopens : call'.opens? = call'.gaveUp?) (hgaveUp : call'.gaveUp? = call.gaveUp?) :
    (s.goto i call').AllFit := by
  refine hs.goto (fits_of_gaveUp? hopens ?_)
  intro ref id hup hid request hrequest hopen
  rw [hgaveUp] at hup
  exact (hs call (List.mem_of_getElem? hcall)).gaveUp hup hid hrequest hopen

/-- A new ID has no `stream_open` yet. -/
theorem AllFit.allocate {windowed : Bool} (howned : s.Owned) (hnext : s.nextID ≠ 0) :
    (s.enter i windowed).AllFit := by
  refine AllFit.set rfl ?_ ?_
  · intro j c _ hj
    have hmem := List.mem_of_getElem? hj
    refine (hs c hmem).same rfl ?_
    intro ref hopens
    have hlt := howned.refsLt hmem hopens
    rw [ids_enter, List.getElem?_append_left (by simpa using hlt)]
  · intro ref id k request href hid hrequest
    cases href
    rw [ids_enter, List.getElem?_append_right (by simp), length_ids, Nat.sub_self] at hid
    cases hid
    simp only [FitsRequest]
    simp only [ControlRequest.opens, Bool.and_eq_false_iff, beq_eq_false_iff_ne]
    by_cases hmessage : request.message = .streamOpen
    · right
      have hlt := howned.idsLt hnext _ (howned.opened request (List.mem_of_getElem? hrequest) hmessage)
      omega
    · exact .inl hmessage

/-- A call queues a request and waits for it; a `stream_open` is for its own stream. -/
theorem AllFit.wait {message : StreamMessage} (howned : s.Owned) (hcall : s.calls[i]? = some call)
    (hown : message = .streamOpen → ∃ ref, call.opens? = some ref ∧ s.ids[ref]? = some streamID)
    (hself : (s.enqueue streamID message).Fits call') :
    ((s.enqueue streamID message).goto i call').AllFit := by
  refine AllFit.set rfl ?_ hself
  intro j c hne hj
  have hmem := List.mem_of_getElem? hj
  refine (hs c hmem).enqueue ?_ fun ticket hticket => howned.ticketsLt hmem hticket
  intro ref' id' href' hid' hmessage
  obtain ⟨ref, href, hid⟩ := hown hmessage
  exact howned.ids_ne hne hcall hj href href' hid hid'

theorem AllFit.sendOpen (howned : s.Owned)
    (hcall : s.calls[i]? = some (.opening ref)) (hstream : s.streams[ref]? = some stream) :
    ((s.enqueue stream.id .streamOpen).goto i (.opened ref s.requests.length)).AllFit := by
  refine hs.wait howned hcall (fun _ => ⟨ref, rfl, ids_of_stream hstream⟩) ?_
  intro ref' id k request href hid hrequest hopen
  cases href
  rcases List.of_getElem?_concat hrequest with hrequest | ⟨hk, -⟩
  · have hnone := hs _ (List.mem_of_getElem? hcall) _ _ _ _ rfl hid hrequest
    cases hnone.symm.trans hopen
  · exact hk

theorem AllFit.sendGrant (howned : s.Owned)
    (hcall : s.calls[i]? = some (.granting ref)) (hstream : s.streams[ref]? = some stream) :
    ((s.enqueue stream.id .windowUpdate).goto i (.granted ref s.requests.length)).AllFit := by
  refine hs.wait howned hcall nofun ?_
  rintro ref' id _ request ⟨⟩ hid hrequest rfl
  cases (ids_of_stream hstream).symm.trans hid
  simp only [SessionStreams.enqueue] at hrequest
  rw [List.getElem?_append_right le_rfl, Nat.sub_self] at hrequest
  cases hrequest
  exact ⟨rfl, rfl, .inl rfl⟩

/-- A call whose stream nothing was sent for, or whose stream has ended, gives up. -/
theorem AllFit.giveUp
    (hdropped : ∀ id, s.ids[ref]? = some id → ∀ request ∈ s.requests, request.opens id = true →
      request.dropped = true ∨ s.endSent id = true) :
    (s.goto i (.detaching streamID (.failOpen ref err))).AllFit := by
  refine hs.goto (fits_of_gaveUp? rfl ?_)
  intro ref' id hup
  cases hup
  exact hdropped id

/-- A call that waited for a request moves on. -/
theorem AllFit.receive (howned : s.Owned) (hcall : s.calls[i]? = some call)
    (hown : call.ticket? = some ticket) (hself : (s.expire ticket).Fits call') :
    ((s.expire ticket).goto i call').AllFit := by
  refine AllFit.set rfl ?_ hself
  intro j c hne hj
  refine (hs c (List.mem_of_getElem? hj)).update keeps_expire (fun _ _ => dropped_expire) ?_
  intro _ _ hticket
  exact absurd (howned.tickets hcall hj hown hticket) hne

theorem AllFit.expire (hguard : s.orphans (.expire ticket) = false) :
    (s.expire ticket).AllFit := by
  intro c hc
  refine (hs c hc).update keeps_expire (fun _ _ => dropped_expire) ?_
  intro request hrequest _ hmessage hpromising
  by_cases hended : s.endSent request.streamID = true
  · exact .inr hended
  left
  cases hstatus : request.status with
  | queued => simp [orphans, hrequest, hmessage, hstatus, hended] at hguard
  | writing => simp
  | answered err =>
    simp only [promising, hstatus] at hpromising ⊢
    exact hpromising

theorem AllFit.take (hrequest : s.requests[ticket]? = some request)
    (hstatus : request.status = .queued) (hlive : request.expired = false) :
    (s.updateRequest ticket fun request => { request with status := .writing }).AllFit := by
  intro c hc
  refine (hs c hc).update (keeps_status _) ?_ fun _ _ _ _ _ => .inl rfl
  intro r hr hdropped
  cases hrequest.symm.trans hr
  simp [hstatus, hlive] at hdropped

theorem AllFit.takeExpired {ctxErr : GoError}
    (hrequest : s.requests[ticket]? = some request) (hstatus : request.status = .queued)
    (hexpired : request.expired = true) : (s.answer ticket (some ctxErr)).AllFit := by
  intro c hc
  refine (hs c hc).update (keeps_status _) ?_ ?_
  · intro r hr hdropped
    simp only [dropped, Bool.and_eq_true] at hdropped ⊢
    exact ⟨hdropped.1, rfl⟩
  · intro r hr _ _ hpromising
    cases hrequest.symm.trans hr
    simp [hstatus, hexpired] at hpromising

theorem AllFit.encodeFails (hqueue : s.InQueue)
    (hguard : s.orphans (.write (.encodeError err)) = false)
    (hwriter : s.writer = .writing ticket) :
    (s.answer ticket (some err)).AllFit := by
  intro c hc
  refine (hs c hc).update (keeps_status _)
    (fun r hr hdropped => (hqueue.writing_live hwriter hr hdropped).elim) ?_
  intro r hr _ hmessage _
  right
  simpa [orphans, hwriter, hr, hmessage] using hguard

theorem AllFit.sent (hqueue : s.InQueue) (hwriter : s.writer = .writing ticket) :
    (s.updateRequest ticket fun request =>
      { request with status := .answered none, onWire := true }).AllFit := by
  intro c hc
  exact (hs c hc).update keeps_sent
    (fun r hr hdropped => (hqueue.writing_live hwriter hr hdropped).elim) fun _ _ _ _ _ => .inl rfl

theorem AllFit.step (howned : s.Owned) (hqueue : s.InQueue)
    (hguard : s.orphans l = false) (h : s.step l = some s') (halive : s'.writer.alive = true) :
    s'.AllFit := by
  cases steps_of_step h with
  | opens | finishes | closes | errors | terminates => exact hs.begin rfl
  | halfClose => exact hs.updateStream fun _ => rfl
  | allocate hcall hnext => exact hs.allocate howned hnext
  | @notFound _ _ after hcall =>
    obtain ⟨-, hopens, hgaveUp⟩ := after.next_detached false
    exact hs.leave hcall (hopens.trans hgaveUp.symm) hgaveUp
  | @closeWindow _ _ after hcall =>
    obtain ⟨-, hopens, hgaveUp⟩ := after.next_detached true
    exact AllFit.leave (hs.updateStream fun _ => rfl) hcall (hopens.trans hgaveUp.symm) hgaveUp
  | detach hcall | finish hcall | failWindow hcall | failOne hcall =>
    exact AllFit.leave (hs.updateStream fun _ => rfl) hcall rfl rfl
  | refuse hcall | failedAll hcall | close hcall | abandonEnd hcall => exact hs.leave hcall rfl rfl
  | swap hcall =>
    have hunregistered : AllFit { s with
        streams := s.streams.map fun stream => { stream with registered := false } } :=
      hs.setStreams (by simp [ids])
    exact @AllFit.leave _ _ (.failing s.table) _ hunregistered hcall rfl rfl
  | sendOpen hcall hstream => exact hs.sendOpen howned hcall hstream
  | sendGrant hcall hstream => exact hs.sendGrant howned hcall hstream
  | sendEnd hcall => exact hs.wait howned hcall (by simp) (fits_of_opens? rfl)
  | abandonOpen hcall =>
    refine hs.giveUp fun id hid request hrequest hopen => ?_
    obtain ⟨k, hk⟩ := List.getElem?_of_mem hrequest
    have hnone := hs _ (List.mem_of_getElem? hcall) _ _ _ _ rfl hid hk
    cases hnone.symm.trans hopen
  | abandonGrant hcall =>
    refine hs.giveUp fun id hid _ _ _ => .inr (endSent_of_unended hid ?_)
    simpa [orphans, hcall] using hguard
  | openFails hcall hresult =>
    have hfits := hs _ (List.mem_of_getElem? hcall)
    exact hs.receive howned hcall rfl (hfits.openFails hresult hqueue hcall hguard)
  | grantFails hcall hresult =>
    have hfits := hs _ (List.mem_of_getElem? hcall)
    exact hs.receive howned hcall rfl (hfits.grantFails hresult hcall hguard)
  | opened hcall => exact hs.receive howned hcall rfl fun _ _ _ _ _ _ _ hup => absurd rfl hup
  | returned hcall hwaits =>
    refine hs.receive howned hcall ?_ fun _ _ _ _ _ _ _ hup => absurd rfl hup
    rcases hwaits with rfl | rfl <;> rfl
  | ended hcall => exact hs.receive howned hcall rfl (fits_of_opens? rfl)
  | queueOther =>
    intro c hc
    exact (hs c hc).enqueue (by simp) fun ticket hticket => howned.ticketsLt hc hticket
  | expire => exact hs.expire hguard
  | takeExpired hwriter hcontrol hexpired =>
    obtain ⟨request, hrequest, hstatus⟩ := hqueue.queued (hcontrol ▸ List.mem_cons_self)
    rw [hrequest, Option.any_some] at hexpired
    exact hs.takeExpired hrequest hstatus hexpired
  | take hwriter hcontrol hlive =>
    obtain ⟨request, hrequest, hstatus⟩ := hqueue.queued (hcontrol ▸ List.mem_cons_self)
    rw [hrequest, Option.any_some] at hlive
    exact hs.take hrequest hstatus hlive
  | encodeFails hwriter => exact hs.encodeFails hqueue hguard hwriter
  | sent hwriter => exact hs.sent hqueue hwriter
  | exhaust | writeFails | answerExhausted => cases halive

end Steps

/-! ## Failed opens -/

/-- The books of a session whose writer has not failed. -/
structure OpensKnown (s : SessionStreams) : Prop where
  owned : s.Owned
  inQueue : s.writer.alive = true → s.InQueue
  allFit : s.writer.alive = true → s.AllFit

theorem OpensKnown.start (hnext : nextID < streamIDSpace) :
    (start flowControlled maxStreamsPerSession nextID).OpensKnown where
  owned := Owned.start hnext
  inQueue := fun _ => InQueue.start
  allFit := fun _ => by simp [AllFit, SessionStreams.start]

theorem OpensKnown.step {s s' : SessionStreams} {l : Label} (hs : s.OpensKnown)
    (hguard : s.orphans l = false) (h : s.step l = some s') : s'.OpensKnown where
  owned := hs.owned.step h
  inQueue := by
    intro halive
    exact (hs.inQueue (alive_of_step h halive)).step h halive
  allFit := by
    intro halive
    have hbefore := alive_of_step h halive
    exact (hs.allFit hbefore).step hs.owned (hs.inQueue hbefore) hguard h halive

/-- In every run in which no open fails behind the writer's back: the `stream_open` of an open that
    failed is not on the wire, or an end of its stream is. -/
theorem failedOpen_leaves_no_orphan {flowControlled : Bool} {maxStreamsPerSession : Int} {nextID : Nat}
    (hnext : nextID < streamIDSpace) {labels : List Label} {s : SessionStreams}
    (hguard : Along step (fun s l => s.orphans l = false)
      (start flowControlled maxStreamsPerSession nextID) labels)
    (hrun : run step (start flowControlled maxStreamsPerSession nextID) labels = some s)
    (halive : s.writer.alive = true) {ref id : Nat} {err : GoError} (hfailed : .failed ref err ∈ s.calls)
    (hid : s.ids[ref]? = some id) {request : ControlRequest} (hrequest : request ∈ s.requests)
    (hopens : request.opens id = true) :
    request.onWire = false ∨ s.endSent id = true := by
  have hs : s.OpensKnown :=
    invariant_along OpensKnown.step (OpensKnown.start hnext) hguard hrun
  rcases (hs.allFit halive _ hfailed).gaveUp rfl hid hrequest hopens with hdropped | hended
  · left
    simp only [dropped, Bool.and_eq_true, Bool.not_eq_true'] at hdropped
    exact hdropped.1
  · exact .inr hended

/-- A v2 stream whose `stream_open` is written and that is ended by `errorStream` before its first
    window update is sent; the open gives up behind that. -/
def endedOpenLabels : List Label :=
  [.openStreamTarget false, .proceed 0, .send 0, .takeControl (errorsNew "expired"), .write .sent,
    .receive 0 none, .errorStream 1, .proceed 1, .proceed 1, .proceed 1, .send 1,
    .takeControl (errorsNew "expired"), .write .sent,
    .abandonSend 0 (.context (errorsNew "context canceled")), .proceed 0]

theorem endedOpen_leaves_no_orphan :
    ∃ s, run step (start true 8 1) endedOpenLabels = some s ∧
      ∃ request ∈ s.requests, request.opens 1 = true ∧ request.onWire = true ∧
        (request.onWire = false ∨ s.endSent 1 = true) :=
  have hguard : Along step (fun s l => s.orphans l = false) (start true 8 1)
      endedOpenLabels := by decide +kernel
  ⟨_, rfl, _, List.mem_cons_self, rfl, rfl,
    failedOpen_leaves_no_orphan (by decide) hguard rfl rfl List.mem_cons_self rfl List.mem_cons_self rfl⟩

/-- The call's deadline passes while the writer has its `stream_open`: the call returns the error and
    is gone, the frame is sent, and nothing ends the stream at the Agent. -/
theorem deadlineBehindWriter_orphans :
    ∃ s err, run step (start false 8 1)
        [.openStreamTarget false, .proceed 0, .send 0, .takeControl (errorsNew "expired"),
          .receive 0 (some (.context (errorsNew "context deadline exceeded"))), .write .sent,
          .proceed 0, .proceed 0, .proceed 0] = some s ∧
      s.calls = [.failed 0 err] ∧ s.ids = [1] ∧ s.done = false ∧ s.writer = .idle ∧
      s.controlWrites = [] ∧
      ∃ request, s.requests = [request] ∧ request.opens 1 = true ∧ request.onWire = true :=
  ⟨_, _, rfl, rfl, rfl, rfl, rfl, rfl, _, rfl, rfl, rfl⟩

end SessionStreams

end Hooshix.Gateway
