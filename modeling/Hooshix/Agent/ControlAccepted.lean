-- SUMMARY: What an Agent session counts and sends stays within bounds that its limits and endpoints give.
import Hooshix.Agent.ConfigLimits
import Hooshix.Agent.ControlTraffic

/-! # Bounds of control traffic

A report counts the frames in the queues of the streams in the table. Their number is at most the limit
of streams times the slots of the largest queue that a stream of the session can have. Everything else
that is sent is within the contract for all limits.
-/

namespace Hooshix.Agent

open Contract ContractV1 StructDecode TunnelWindow

/-! ## The largest queue -/

/-- The slots of a stream's queue. -/
def queueSlots (limits : Limits) (mode : StreamMode) : Nat :=
  (streamQueueFrames limits.maxQueueFrames (streamInputBudget mode limits)).toNat

/-- The endpoints that a `stream_open` can name. -/
def openable (endpoints : List Endpoint) : List Endpoint :=
  endpoints.filter fun endpoint =>
    decide (endpointByID endpoints endpoint.id = some endpoint) && idPattern (codes endpoint.id)

/-- The slots of the largest queue that a stream to one of the endpoints has: those of HTTP, unless all
    endpoints are UDP. -/
def mostSlots (limits : Limits) (endpoints : List Endpoint) : Nat :=
  if (openable endpoints).any (·.protocol != .udp) then queueSlots limits .http
  else if openable endpoints = [] then 0
  else queueSlots limits .udp

theorem streamQueueFrames_mono {maxFrames small large : Int} (hle : small ≤ large) :
    streamQueueFrames maxFrames small ≤ streamQueueFrames maxFrames large := by
  have hdiv : small.tdiv minTunnelFrame ≤ large.tdiv minTunnelFrame :=
    Int.tdiv_le_tdiv (by decide) hle
  simp only [streamQueueFrames]
  split <;> split <;> omega

/-- No queue has more slots than that of an HTTP stream. -/
theorem queueSlots_le_http (limits : Limits) (mode : StreamMode) :
    queueSlots limits mode ≤ queueSlots limits .http := by
  have hbudget : streamInputBudget mode limits ≤ streamInputBudget .http limits := by
    cases mode with
    | http => exact Int.le_refl _
    | tcp | udp => exact le_streamInputBudget .http limits
  exact Int.toNat_le_toNat (streamQueueFrames_mono hbudget)

/-- A stream of a mode can be opened to an endpoint. -/
def Serves (endpoint : Endpoint) (mode : StreamMode) : Prop :=
  endpoint.protocol = .udp ↔ mode = .udp

variable {endpoints : List Endpoint} {mode : StreamMode} {limits : Limits}

theorem queueSlots_le_mostSlots {endpoint : Endpoint}
    (hmem : endpoint ∈ openable endpoints) (hserves : Serves endpoint mode) :
    queueSlots limits mode ≤ mostSlots limits endpoints := by
  unfold mostSlots
  split
  · exact queueSlots_le_http limits mode
  next hudp =>
    have hprotocol : endpoint.protocol = .udp := by
      by_contra hne
      exact hudp (List.any_eq_true.mpr ⟨endpoint, hmem, by simpa using hne⟩)
    rw [if_neg (List.ne_nil_of_mem hmem), hserves.mp hprotocol]

theorem exists_mostSlots (h : mostSlots limits endpoints ≠ 0) :
    ∃ endpoint ∈ openable endpoints, ∃ mode, Serves endpoint mode ∧
      queueSlots limits mode = mostSlots limits endpoints := by
  unfold mostSlots at h ⊢
  split
  next hany =>
    obtain ⟨endpoint, hmem, hprotocol⟩ := List.any_eq_true.mp hany
    refine ⟨endpoint, hmem, .http, ?_, rfl⟩
    simpa [Serves] using hprotocol
  next hudp =>
    rw [if_neg hudp] at h
    split at h
    · exact absurd rfl h
    next hsome =>
      obtain ⟨endpoint, hmem⟩ := List.exists_mem_of_ne_nil _ hsome
      refine ⟨endpoint, hmem, .udp, ?_, by rw [if_neg hsome]⟩
      simp only [List.any_eq_true, not_exists, not_and, bne_iff_ne, ne_eq, not_not] at hudp
      simp [Serves, hudp endpoint hmem]

/-! ## Bounded sessions -/

/-- A stream with a queue of at most so many slots and frames of at most the size of a data frame. -/
structure LiveStream.Within (slots : Nat) (st : LiveStream) : Prop where
  id : st.id ≠ 0
  solvent : st.stream.Solvent maxDataPayload
  capacity : st.stream.capacity ≤ slots
  queue : st.stream.incoming.length ≤ slots

theorem LiveStream.Within.spent {slots : Nat} {st : LiveStream} (h : st.Within slots) :
    LiveStream.Within slots { st with terminal := true } := ⟨h.id, h.solvent, h.capacity, h.queue⟩

/-- What was counted leaves room for what is still to be counted. -/
def Reporter.Within (streams slots : Nat) : Reporter → Prop
  | idle => True
  | counted active => active ≤ streams
  | counting active rest queued =>
    active ≤ streams ∧ queued + rest.length * slots ≤ streams * slots

namespace LiveSession

/-- A session with at most so many streams, each with so many slots, that has sent proper messages
    only. -/
structure Lawful (streams slots : Nat) (s : LiveSession) : Prop where
  table : s.table.size ≤ streams
  opened : ∀ st ∈ s.opened, st.Within slots
  reporter : s.reporter.Within streams slots
  reconnects : s.reconnectCount ≤ 1
  sent : ∀ m ∈ s.sent, m.message.Proper m.streamID

section Lawful

variable {streams slots : Nat} {s : LiveSession} {st : LiveStream}

theorem Lawful.start (setup : SessionSetup) (reconnected : Option Stamp) :
    (LiveSession.start setup reconnected).Lawful streams slots := by
  have hnew : (LiveSession.new setup).Lawful streams slots :=
    { table := by simp [LiveSession.new]
      opened := by simp [LiveSession.new]
      reporter := by simp [LiveSession.new, Reporter.Within]
      reconnects := by simp [LiveSession.new]
      sent := by simp [LiveSession.new] }
  cases reconnected with
  | none => exact hnew
  | some stamp => exact { hnew with reconnects := Nat.le_refl 1 }

variable (h : s.Lawful streams slots) {ref : Nat}

include h

theorem Lawful.send {streamID : Nat} {message : ControlMessage}
    (hproper : message.Proper streamID) : (s.send streamID message).Lawful streams slots :=
  { h with sent := List.forall_mem_append.mpr ⟨h.sent, List.forall_mem_singleton.mpr hproper⟩ }

theorem Lawful.stop : s.stop.Lawful streams slots := { h with }

theorem Lawful.setStream (ref : Nat) (hst : st.Within slots) :
    (s.setStream ref st).Lawful streams slots := by
  refine { h with opened := ?_ }
  intro other hother
  rcases List.mem_or_eq_of_mem_set hother with hold | rfl
  · exact h.opened other hold
  · exact hst

theorem Lawful.stream (hst : s.opened[ref]? = some st) : st.Within slots :=
  h.opened st (List.mem_of_getElem? hst)

theorem Lawful.lookup {streamID ref : Nat} (hlookup : s.lookup streamID = some (ref, st)) :
    st.Within slots := by
  simp only [LiveSession.lookup, bind, Option.bind_eq_some_iff, pure, Option.some.injEq,
    Prod.mk.injEq] at hlookup
  obtain ⟨_, -, _, hst, rfl, rfl⟩ := hlookup
  exact h.stream hst

theorem Lawful.sendTerminal {frame : TerminalFrame} (hst : st.Within slots)
    (hproper : frame.control.Proper st.id) :
    (s.sendTerminal ref st frame).Lawful streams slots := by
  unfold LiveSession.sendTerminal
  split
  · exact h
  · exact (h.setStream ref hst.spent).send hproper

end Lawful

end LiveSession

/-! ## Frames from the Gateway -/

theorem toUint32_bounds {n : Int} (hpos : 0 < n) (hle : n ≤ maxWindowCreditBytes) :
    1 ≤ toUint32 n ∧ toUint32 n ≤ 8388608 := by
  have hmax : maxWindowCreditBytes = 8388608 := rfl
  have hmod : n % 2 ^ 32 = n := Int.emod_eq_of_lt (Int.le_of_lt hpos) (by omega)
  rw [toUint32, hmod]
  omega

theorem bodyCredit_bounds {sess : AgentSession} {credit : Int}
    (h : (openedStream sess mode).bodyCredit = some credit) :
    0 < credit ∧ credit ≤ maxWindowCreditBytes := by
  simp only [openedStream] at h
  split at h <;> cases h
  exact ⟨initialCredit_pos _, initialCredit_le_max _⟩

namespace LiveSession

section Frames

variable {setup : SessionSetup} {s s' : LiveSession} {streamID : Nat} {st : LiveStream}
  {message : StreamOpen}

/-- The bounds of a session that is set up in this way. -/
def Orderly (setup : SessionSetup) (s : LiveSession) : Prop :=
  s.Lawful setup.limits.maxStreams.toNat (mostSlots setup.limits setup.endpoints)

/-- A stream as it is opened. -/
theorem opened_within {endpoint : Endpoint} (sess : AgentSession)
    (hstreamID : streamID ≠ 0) (hlimits : sess.limits = setup.limits)
    (hid : idPattern (codes message.localEndpointID) = true)
    (hendpoint : endpointByID setup.endpoints message.localEndpointID = some endpoint)
    (hserves : Serves endpoint message.mode) :
    LiveStream.Within (mostSlots setup.limits setup.endpoints)
      { id := streamID
        terminal := false
        stream := .new message.mode (openedStream sess message.mode).window.isSome
          (openedStream sess message.mode).queueFrames.toNat
          (openedStream sess message.mode).inputBytes } := by
  have hname : endpoint.id = message.localEndpointID := by
    simpa using List.find?_some hendpoint
  have hopenable : endpoint ∈ openable setup.endpoints := by
    refine List.mem_filter.mpr ⟨List.mem_of_find?_eq_some hendpoint, ?_⟩
    rw [hname, hendpoint, hid]
    simp
  have hslots : (openedStream sess message.mode).queueFrames.toNat =
      queueSlots setup.limits message.mode := by
    rw [← hlimits]
    rfl
  refine ⟨hstreamID, .new (Int.natCast_nonneg _), ?_, Nat.zero_le _⟩
  rw [AgentStream.new, hslots]
  exact queueSlots_le_mostSlots hopenable hserves

variable (h : s.Orderly setup) {streamID : Nat} {op : AgentStream.Op} {payload : Bytes}
  {writeErr : Option GoError} {queueBudget : ByteBudget} {ref : Nat} {stream : AgentStream}
  {event : StreamEvent} {serveEnd : ServeEnd} {overflows : Bool} {stamp : Stamp} {slots : Nat}

include h

theorem Orderly.openStream (streamID maxStreamID : Nat)
    (hst : st.Within (mostSlots setup.limits setup.endpoints))
    (hroom : s.table.size < setup.limits.maxStreams.toNat) :
    Orderly setup { s with
      maxStreamID
      table := s.table.insert streamID s.opened.length
      opened := s.opened ++ [st] } := by
  refine { h with table := (Table.size_insert_le _ _ _).trans hroom, opened := ?_ }
  exact List.forall_mem_append.mpr ⟨h.opened, List.forall_mem_singleton.mpr hst⟩

theorem Orderly.handleStreamOpen (hid : idPattern (codes message.localEndpointID) = true) :
    (s.handleStreamOpen setup streamID message).Orderly setup := by
  unfold LiveSession.handleStreamOpen
  split
  · exact Lawful.stop h
  next sess code text retryable hrefused =>
    obtain ⟨hstreamID, htexts⟩ := admitStream_refused hrefused
    have hnext : Orderly setup { s with maxStreamID := sess.maxStreamID } := { h with }
    refine Lawful.send hnext ⟨hstreamID, ?_⟩
    simp only [List.mem_cons, Prod.mk.injEq, List.not_mem_nil, or_false] at htexts
    rcases htexts with ⟨rfl, rfl, rfl⟩ | ⟨rfl, rfl, rfl⟩ | ⟨rfl, rfl, rfl⟩ <;> decide
  next sess stream hopened =>
    obtain ⟨hstreamID, hroom, endpoint, hendpoint, hserves, rfl⟩ := admitStream_opened hopened
    have hsize : s.table.size < setup.limits.maxStreams.toNat := by
      have hroom : (s.table.keys.length : Int) < setup.limits.maxStreams := hroom
      rw [Table.length_keys] at hroom
      omega
    have hnext := h.openStream streamID sess.maxStreamID
      (opened_within { s.admission setup with maxStreamID := streamID } hstreamID rfl hid hendpoint
        hserves) hsize
    split
    next credit hcredit =>
      obtain ⟨hpos, hle⟩ := bodyCredit_bounds hcredit
      exact Lawful.send hnext ⟨hstreamID, toUint32_bounds hpos hle⟩
    next => exact hnext

theorem Orderly.finishStreamFromPeer : (s.finishStreamFromPeer streamID).Orderly setup := by
  unfold LiveSession.finishStreamFromPeer
  split
  next ref st hlookup => exact Lawful.setStream h ref (Lawful.lookup h hlookup).spent
  next => exact h

theorem Orderly.handleHalfClose (hstreamID : streamID ≠ 0) :
    (s.handleHalfClose streamID).Orderly setup := by
  unfold LiveSession.handleHalfClose
  split
  · exact h
  next ref st hlookup =>
    have hst := Lawful.lookup h hlookup
    split
    · exact Lawful.send h ⟨hstreamID, by decide⟩
    · refine Lawful.setStream h ref ⟨hst.id, ?_, hst.capacity, hst.queue⟩
      exact { hst.solvent with }

theorem Orderly.handleWindowUpdate :
    (s.handleWindowUpdate setup streamID overflows).Orderly setup := by
  unfold LiveSession.handleWindowUpdate
  split
  · exact Lawful.stop h
  · split
    · exact h
    next ref st hlookup =>
      have hst := Lawful.lookup h hlookup
      split
      · exact Lawful.sendTerminal h hst ⟨hst.id, by decide⟩
      · exact h

/-- Every accepted frame of the Gateway is answered in order. -/
theorem Orderly.handleControl {now : Int} :
    (s.handleControl setup streamID payload now stamp overflows).Orderly setup := by
  unfold LiveSession.handleControl
  split
  · exact Lawful.stop h
  next haccepted =>
    obtain ⟨type, message, hreceives⟩ := exists_receives haccepted
    obtain ⟨envelope, henvelope, hname⟩ := hreceives.exists_typeName
    obtain ⟨part, hpart, hstrings⟩ := hreceives.exists_message
    have hofName : MessageType.ofName? type.name = some type :=
      MessageType.ofName?_eq_some_iff.mpr rfl
    rw [henvelope]
    simp only [LiveSession.dispatchControl, hname, hofName]
    -- only `ping` and `stream_open` look into the message
    cases type with
    | ping =>
      simp only [hpart]
      refine Lawful.send h ⟨rfl, ?_⟩
      rw [hstrings "ping_id" (by decide)]
      exact hreceives.checks (required "ping_id" .id) (by decide) rfl
    | streamOpen =>
      simp only [hpart]
      refine h.handleStreamOpen ?_
      simp only [streamOpenMessage]
      rw [hstrings "local_endpoint_id" (by decide)]
      exact hreceives.checks (required "local_endpoint_id" .id) (by decide) rfl
    | pong => exact h
    | streamClose | streamError => exact h.finishStreamFromPeer
    | streamHalfClose =>
      refine h.handleHalfClose fun hzero => ?_
      cases hreceives.scope.mp hzero
    | streamWindowUpdate => exact h.handleWindowUpdate
    | clientHello | serverChallenge | clientAuth | sessionReady | healthReport | sessionRevoked
    | resumeSession | sessionResumed => exact Lawful.stop h

omit h

/-- A step of a stream keeps its bounds. -/
theorem within_of_enqueue (hst : st.Within slots) (hpayload : payload.length ≤ maxDataPayload)
    (henqueue : st.stream.enqueue s.queueBudget payload = some (queueBudget, stream, event)) :
    LiveStream.Within slots { st with stream } := by
  have hsolvent := (hst.solvent.enqueue (by exact_mod_cast hpayload) henqueue).1
  rcases AgentStream.enqueue_cases henqueue with
    ⟨-, -, streamBudget, -, rfl⟩ | ⟨-, -, hroom, -, streamBudget, -, rfl⟩
  · exact ⟨hst.id, hsolvent, hst.capacity, hst.queue⟩
  · refine ⟨hst.id, hsolvent, hst.capacity, ?_⟩
    have hcapacity := hst.capacity
    simp only [List.length_append, List.length_singleton]
    omega

theorem Orderly.handleData (h : s.Orderly setup) (hpayload : payload.length ≤ maxDataPayload)
    (hstep : s.handleData streamID payload = some s') : s'.Orderly setup := by
  unfold LiveSession.handleData at hstep
  split at hstep
  · cases hstep
    split
    · exact h
    · exact Lawful.stop h
  next ref st hlookup =>
    have hst := Lawful.lookup h hlookup
    split at hstep
    · cases hstep
      exact Lawful.sendTerminal h hst ⟨hst.id, by decide⟩
    · obtain ⟨⟨queueBudget, stream, event⟩, henqueue, rfl⟩ := Option.map_eq_some_iff.mp hstep
      have hwithin := within_of_enqueue hst hpayload henqueue
      have hbudget : Orderly setup { s with queueBudget } := { h with }
      have hset := Lawful.setStream hbudget ref hwithin
      simp only
      split
      · exact Lawful.sendTerminal hset hwithin ⟨hst.id, by decide⟩
      · exact hset

/-! ## Routines of the Agent -/

theorem within_of_step (hst : st.Within slots) (hother : ∀ data, op ≠ .enqueue data)
    (hstep : st.stream.step s.queueBudget op = some (queueBudget, stream, event)) :
    LiveStream.Within slots { st with stream } := by
  have hdequeues := AgentStream.step_dequeues hother hstep
  refine ⟨hst.id, (hst.solvent.step hother hstep).1, ?_, ?_⟩
  · rw [hdequeues.capacity]
    exact hst.capacity
  · have hqueue := hst.queue
    rcases hdequeues.queue with ⟨queued, hincoming, -⟩ | ⟨hincoming, -⟩
    · rw [hincoming, List.length_cons] at hqueue
      simp only
      omega
    · simp only [hincoming]
      exact hqueue

theorem work_cases (h : s.work ref op = some s') :
    ∃ st result, s.opened[ref]? = some st ∧ byLoop op = false ∧
      st.stream.step s.queueBudget op = some result ∧ s' = s.worked ref st op result := by
  unfold LiveSession.work at h
  repeat' split at h
  all_goals try cases h
  next st hst hloop =>
    obtain ⟨result, hstep, rfl⟩ := Option.map_eq_some_iff.mp h
    exact ⟨st, result, hst, by simpa using hloop, hstep, rfl⟩

theorem Orderly.work (h : s.Orderly setup) (hwork : s.work ref op = some s') :
    s'.Orderly setup := by
  obtain ⟨st, ⟨queueBudget, stream, event⟩, hst, hloop, hstep, rfl⟩ := work_cases hwork
  have hst := Lawful.stream h hst
  have hother : ∀ data, op ≠ .enqueue data := by
    rintro data rfl
    cases hloop
  have hbudget : Orderly setup { s with queueBudget } := { h with }
  have hset := Lawful.setStream hbudget ref (within_of_step hst hother hstep)
  simp only [worked]
  split
  next size hcredit =>
    obtain ⟨hpos, hle⟩ := hst.solvent.credit_bounds hcredit
    have hmax : (maxDataPayload : Int) ≤ maxWindowCreditBytes := by decide
    exact Lawful.send hset ⟨hst.id, toUint32_bounds hpos (hle.trans hmax)⟩
  next => exact hset

theorem dialFailed_proper (mode : StreamMode) (h : streamID ≠ 0) :
    (Agent.dialFailed mode).control.Proper streamID := by
  cases mode with
  | http | tcp | udp => exact ⟨h, by decide⟩

theorem serveReport_proper (serveEnd : ServeEnd) (h : streamID ≠ 0) :
    (serveReport serveEnd).control.Proper streamID := by
  unfold serveReport
  split
  · exact ⟨h, by decide⟩
  · exact ⟨h, by decide⟩
  next err _ _ =>
    cases isTimeout err with
    | true | false => exact ⟨h, by decide⟩

theorem serveUDPReport_proper (readErr writeErr : Option GoError) (h : streamID ≠ 0) :
    (serveUDPReport readErr writeErr).control.Proper streamID := by
  unfold serveUDPReport
  split
  · exact ⟨h, by decide⟩
  · split
    · exact ⟨h, by decide⟩
    · exact ⟨h, by decide⟩

/-- What a server reports at its end is proper on the stream. -/
theorem afterServe_proper {mode : StreamMode} {frame : TerminalFrame} (hstreamID : streamID ≠ 0)
    (h : afterServe mode serveEnd writeErr = .reporting frame) : frame.control.Proper streamID := by
  unfold afterServe at h
  repeat' split at h
  all_goals cases h
  · exact serveUDPReport_proper _ _ hstreamID
  all_goals exact serveReport_proper _ hstreamID

include h

theorem Orderly.served
    (hst : s.opened[ref]? = some st) : (s.served ref st serveEnd writeErr).Orderly setup := by
  have hst := Lawful.stream h hst
  unfold LiveSession.served
  split
  next frame hframe => exact Lawful.sendTerminal h hst (afterServe_proper hst.id hframe)
  next => exact h

theorem Orderly.countActiveStreams (hcount : s.countActiveStreams = some s') :
    s'.Orderly setup := by
  unfold LiveSession.countActiveStreams at hcount
  split at hcount <;> cases hcount
  exact { h with reporter := h.table }

theorem Orderly.snapshotStreams (hcount : s.snapshotStreams = some s') : s'.Orderly setup := by
  unfold LiveSession.snapshotStreams at hcount
  split at hcount <;> cases hcount
  next active hreporter =>
    have hactive := h.reporter
    rw [hreporter] at hactive
    refine { h with reporter := ⟨hactive, ?_⟩ }
    rw [Nat.zero_add, Table.length_values]
    exact Nat.mul_le_mul_right _ h.table

/-- A queue has no more frames than were left for it. -/
theorem Orderly.countQueuedFrames (hcount : s.countQueuedFrames = some s') : s'.Orderly setup := by
  unfold LiveSession.countQueuedFrames at hcount
  split at hcount
  next active ref rest queued hreporter =>
    obtain ⟨st, hst, rfl⟩ := Option.map_eq_some_iff.mp hcount
    have hqueue := (Lawful.stream h hst).queue
    have hrest := h.reporter
    rw [hreporter] at hrest
    refine { h with reporter := ⟨hrest.1, ?_⟩ }
    have hleft := hrest.2
    rw [List.length_cons, Nat.add_mul, Nat.one_mul] at hleft
    omega
  next => cases hcount

/-- A report within the bounds of the session is proper where these are within the contract. -/
theorem Orderly.sendHealthReport (hstreams : setup.limits.maxStreams ≤ 4096)
    (hslots : setup.limits.maxStreams.toNat * mostSlots setup.limits setup.endpoints ≤ 65536)
    {entropy : Bytes} (hreport : s.sendHealthReport setup entropy stamp = some s') :
    s'.Orderly setup := by
  unfold LiveSession.sendHealthReport at hreport
  split at hreport <;> cases hreport
  next active queued hreporter =>
    obtain ⟨hactive, hqueued⟩ : Reporter.Within _ _ (.counting active [] queued) := by
      rw [← hreporter]
      exact h.reporter
    have hidle : Orderly setup { s with reporter := .idle } := { h with reporter := trivial }
    have hreconnects := h.reconnects
    rw [List.length_nil, Nat.zero_mul] at hqueued
    refine Lawful.send hidle ⟨rfl, idPattern_randomID entropy, ?_, ?_, ?_⟩
    · simp only
      omega
    · exact hqueued.trans hslots
    · simp only
      omega

/-- Every step keeps a session within its bounds, as long as these are within the contract. -/
theorem Orderly.step (hstreams : setup.limits.maxStreams ≤ 4096)
    (hslots : setup.limits.maxStreams.toNat * mostSlots setup.limits setup.endpoints ≤ 65536)
    {label : TrafficLabel} (hstep : s.step setup label = some s') : s'.Orderly setup := by
  cases label with
  | control streamID payload now stamp overflows =>
    simp only [LiveSession.step] at hstep
    split at hstep <;> cases hstep
    exact h.handleControl
  | data streamID payload =>
    simp only [LiveSession.step] at hstep
    split at hstep
    next hframe => exact h.handleData hframe.2 hstep
    next => cases hstep
  | work ref op => exact h.work hstep
  | dialFailed ref =>
    obtain ⟨st, hst, rfl⟩ := Option.map_eq_some_iff.mp hstep
    have hst := Lawful.stream h hst
    exact Lawful.sendTerminal h hst (dialFailed_proper _ hst.id)
  | halfClose ref =>
    simp only [LiveSession.step] at hstep
    split at hstep
    next st hst =>
      split at hstep <;> cases hstep
      exact Lawful.send h (Lawful.stream h hst).id
    next => cases hstep
  | served ref serveEnd writeErr =>
    obtain ⟨st, hst, rfl⟩ := Option.map_eq_some_iff.mp hstep
    exact h.served hst
  | finishStream streamID =>
    cases hstep
    exact { h with table := (Table.size_erase_le _ _).trans h.table }
  | countActive => exact h.countActiveStreams hstep
  | snapshot => exact h.snapshotStreams hstep
  | countQueued => exact h.countQueuedFrames hstep
  | report entropy stamp =>
    simp only [LiveSession.step] at hstep
    split at hstep
    · exact h.sendHealthReport hstreams hslots hstep
    · cases hstep
  | shutdown =>
    cases hstep
    exact { h with table := Nat.zero_le _ }

omit h

theorem Orderly.run (hstreams : setup.limits.maxStreams ≤ 4096)
    (hslots : setup.limits.maxStreams.toNat * mostSlots setup.limits setup.endpoints ≤ 65536)
    (h : s.Orderly setup) {labels : List TrafficLabel}
    (hrun : StepSystem.run (LiveSession.step setup) s labels = some s') : s'.Orderly setup :=
  StepSystem.invariant (fun h hstep => Orderly.step h hstreams hslots hstep) h hrun

end Frames

end LiveSession

end Hooshix.Agent
