-- SUMMARY: The limits and endpoints for which no message of an Agent session is ever refused by the Gateway.
import Hooshix.Agent.ControlAccepted

/-! # The bound of telemetry

The slots of a queue follow from the byte budget of its stream, and a frame without bytes takes a slot
but none of the budget. So a Gateway can fill every slot of every stream, and the next report counts
them all. The bound of the contract is kept exactly by the sessions whose slots are within it.
-/

namespace Hooshix.Agent

open Contract ContractV1 StructDecode StepSystem LiveSession

/-! ## Opening streams -/

def modeText : StreamMode → String
  | .http => "http"
  | .tcp => "tcp"
  | .udp => "udp"

/-- The body of a `stream_open` to an endpoint. -/
def openBody (localEndpointID : String) (mode : StreamMode) : Members :=
  [("endpoint_id", .string "endpoint"), ("assignment_id", .string "assignment"),
    ("local_endpoint_id", .string localEndpointID), ("request_id", .string "request"),
    ("mode", .string (modeText mode))]

def openPayload (localEndpointID : String) (mode : StreamMode) : Bytes :=
  (Json.object (marshalled .streamOpen (openBody localEndpointID mode))).bytes

theorem marshals_openBody (localEndpointID : String) (mode : StreamMode) :
    Marshals .streamOpen (openBody localEndpointID mode) where
  names := List.Sublist.refl _
  complete := by simp [openBody, MessageType.bodyProperties, required, ContractV1.optional]
  scalar := by simp [openBody, isScalar]
  mode := by cases mode <;> simp [openBody, modeText]

variable {localEndpointID : String} {streamID : Nat}

theorem openPayload_accepted (mode : StreamMode) (now : Int)
    (hstreamID : streamID ≠ 0) (hid : idPattern (codes localEndpointID) = true) :
    validateControlPayload (openPayload localEndpointID mode) streamID now = .ok () := by
  have hfixed : idPattern (codes "endpoint") = true ∧ idPattern (codes "assignment") = true ∧
      idPattern (codes "request") = true := by decide
  obtain ⟨hendpoint, hassignment, hrequest⟩ := hfixed
  have hmode : modeText mode ∈ ["http", "tcp", "udp"] := by cases mode <;> decide
  rw [openPayload, (marshals_openBody localEndpointID mode).accepted_iff fun _ => trivial]
  refine ⟨by simp [hstreamID, MessageType.scope], ?_⟩
  simp [MessageType.bodyProperties, required, ContractV1.optional, openBody, Kind.valid_string,
    accepts_id_iff, hendpoint, hassignment, hrequest, hid]
  exact hmode

theorem streamMode_modeText (mode : StreamMode) : streamMode (modeText mode) = mode := by
  cases mode <;> decide

/-- What the Agent reads from the payload. -/
theorem unmarshal_openPayload (mode : StreamMode) {now : Int}
    (haccepted : validateControlPayload (openPayload localEndpointID mode) streamID now = .ok ()) :
    ∃ envelope message,
      unmarshal [⟨"message_type", .string⟩] (openPayload localEndpointID mode) = .ok envelope ∧
      envelope.string "message_type" = "stream_open" ∧
      unmarshal MessageType.streamOpen.fields (openPayload localEndpointID mode) = .ok message ∧
      (streamOpenMessage message).localEndpointID = localEndpointID ∧
      (streamOpenMessage message).mode = mode := by
  obtain ⟨message, hreceives, hstrings⟩ := (marshals_openBody localEndpointID mode).receives haccepted
  obtain ⟨envelope, henvelope, hname⟩ := hreceives.exists_typeName
  obtain ⟨part, hpart, hsame⟩ := hreceives.exists_message
  refine ⟨envelope, part, henvelope, hname, hpart, ?_, ?_⟩
  · show part.string "local_endpoint_id" = localEndpointID
    rw [hsame _ (by decide), hstrings "local_endpoint_id" localEndpointID (by decide) (by simp [openBody])]
  · show streamMode (part.string "mode") = mode
    rw [hsame _ (by decide), hstrings "mode" (modeText mode) (by decide) (by simp [openBody]),
      streamMode_modeText]

/-! ## Filling the queues -/

/-- A stream that takes frames. -/
structure LiveStream.Open (st : LiveStream) : Prop where
  closed : st.stream.closed = false
  finish : st.stream.finish = .notStarted
  budget : 0 ≤ st.stream.streamBudget.limit

/-- The stream with `n` more frames without bytes in its queue. -/
def LiveStream.padded (st : LiveStream) (n : Nat) : LiveStream :=
  { st with stream := { st.stream with
      incoming := st.stream.incoming ++ List.replicate n (QueuedPayload.ofData []) } }

theorem LiveStream.Open.padded {st : LiveStream} (h : st.Open) (n : Nat) : (st.padded n).Open :=
  ⟨h.closed, h.finish, h.budget⟩

attribute [local simp] LiveStream.padded step

theorem LiveStream.length_padded (st : LiveStream) (n : Nat) :
    (st.padded n).stream.incoming.length = st.stream.incoming.length + n := by
  simp

theorem LiveStream.padded_padded (st : LiveStream) (n m : Nat) :
    (st.padded n).padded m = st.padded (n + m) := by
  simp

namespace LiveSession

section Fill

variable {s : LiveSession} {streamID : Nat} {earlier : List LiveStream} {st : LiveStream}
  {setup : SessionSetup} {endpoint : Endpoint} {mode : StreamMode} {n : Nat}

theorem lookup_last (hopened : s.opened = earlier ++ [st])
    (htable : s.table.lookup streamID = some earlier.length) :
    s.lookup streamID = some (earlier.length, st) := by
  simp [lookup, htable, hopened]

/-- One frame without bytes for the stream that was opened last. -/
theorem step_pad (setup : SessionSetup) (hrunning : s.running = true)
    (hbudget : 0 ≤ s.queueBudget.limit) (hopened : s.opened = earlier ++ [st])
    (htable : s.table.lookup streamID = some earlier.length)
    (hopen : st.Open) (hroom : st.stream.incoming.length < st.stream.capacity) :
    s.step setup (.data streamID []) = some { s with opened := earlier ++ [st.padded 1] } := by
  have henqueue := AgentStream.enqueue_empty hopen.closed hopen.finish hopen.budget hbudget hroom
  have hsize : ¬ maxUDPDatagram < ([] : Bytes).length := by decide
  have hpayload : ([] : Bytes).length ≤ maxDataPayload := by decide
  simp only [step, hrunning, hpayload, handleData,
    lookup_last hopened htable, hsize, henqueue, and_false, and_self, if_true, if_false,
    Option.map_some, setStream, hopened]
  simp

/-- As many frames as the queue has room for. -/
theorem run_pad (setup : SessionSetup) (hrunning : s.running = true)
    (hbudget : 0 ≤ s.queueBudget.limit) (hopened : s.opened = earlier ++ [st])
    (htable : s.table.lookup streamID = some earlier.length)
    (hopen : st.Open) (hroom : st.stream.incoming.length + n ≤ st.stream.capacity) :
    run (step setup) s (List.replicate n (.data streamID [])) =
      some { s with opened := earlier ++ [st.padded n] } := by
  induction n with
  | zero => simp [← hopened]
  | succ n ih =>
    have hlength := st.length_padded n
    rw [List.replicate_succ', run_append]
    refine ⟨_, ih (by omega), run_singleton.mpr ?_⟩
    have hless : (st.padded n).stream.incoming.length < (st.padded n).stream.capacity := by
      rw [hlength]
      exact hroom
    have hstep := step_pad setup (s := { s with opened := earlier ++ [st.padded n] }) hrunning hbudget
      rfl htable (hopen.padded n) hless
    rw [hstep, st.padded_padded]

/-- A session with `n` streams in its table, each with so many frames in its queue. -/
structure Filled (slots n : Nat) (s : LiveSession) : Prop where
  running : s.running = true
  idle : s.reporter = .idle
  budget : 0 ≤ s.queueBudget.limit
  maxStreamID : s.maxStreamID = n
  size : s.table.size = n
  ids : ∀ streamID ref, s.table.lookup streamID = some ref → streamID ≤ n
  queues : ∀ streamID ref, s.table.lookup streamID = some ref →
    ∃ st, s.opened[ref]? = some st ∧ st.stream.incoming.length = slots

theorem Filled.start (hbudget : 0 ≤ setup.limits.maxSessionQueueBytes) (slots : Nat) :
    (LiveSession.start setup none).Filled slots 0 := by
  refine ⟨rfl, rfl, hbudget, rfl, rfl, ?_, ?_⟩
  all_goals
    intro streamID ref h
    simp [LiveSession.start, LiveSession.new] at h

/-- A stream as the Agent opens it. -/
def freshStream (setup : SessionSetup) (streamID : Nat) (mode : StreamMode) : LiveStream where
  id := streamID
  terminal := false
  stream := .new mode (setup.flowControlled && mode != .udp) (queueSlots setup.limits mode)
    (streamInputBudget mode setup.limits)

theorem freshStream_open (hbudget : 0 ≤ setup.limits.maxStreamQueueBytes) (mode : StreamMode) :
    (freshStream setup streamID mode).Open :=
  ⟨rfl, rfl, hbudget.trans (le_streamInputBudget mode setup.limits)⟩

theorem isSome_window (sess : AgentSession) (mode : StreamMode) :
    (openedStream sess mode).window.isSome = (sess.flowControlled && mode != .udp) := by
  simp only [openedStream]
  cases sess.flowControlled && mode != .udp with
  | true => rfl
  | false => rfl

theorem handleStreamOpen_opened {message : StreamOpen} {sess : AgentSession}
    (h : admitStream (s.admission setup) streamID message =
      (sess, .opened (openedStream { s.admission setup with maxStreamID := streamID } message.mode))) :
    ∃ sent, s.handleStreamOpen setup streamID message = { s with
      maxStreamID := sess.maxStreamID
      table := s.table.insert streamID s.opened.length
      opened := s.opened ++ [freshStream setup streamID message.mode]
      sent } := by
  have hstream : freshStream setup streamID message.mode =
      let stream := openedStream { s.admission setup with maxStreamID := streamID } message.mode
      { id := streamID
        terminal := false
        stream := .new stream.mode stream.window.isSome stream.queueFrames.toNat stream.inputBytes } := by
    simp only [isSome_window]
    rfl
  simp only [handleStreamOpen, h]
  split
  · rw [hstream]
    exact ⟨_, rfl⟩
  · rw [hstream]
    exact ⟨s.sent, rfl⟩

/-- The Gateway opens the next stream. -/
theorem step_open {slots n : Nat} (h : s.Filled slots n)
    (hroom : (n : Int) < setup.limits.maxStreams) (hmem : endpoint ∈ openable setup.endpoints)
    (hserves : Serves endpoint mode) (now : Int) (stamp : Stamp) :
    ∃ sent, s.step setup (.control (n + 1) (openPayload endpoint.id mode) now stamp false) =
      some { s with
        maxStreamID := n + 1
        table := s.table.insert (n + 1) s.opened.length
        opened := s.opened ++ [freshStream setup (n + 1) mode]
        sent } := by
  obtain ⟨-, hopenable⟩ := List.mem_filter.mp hmem
  simp only [Bool.and_eq_true, decide_eq_true_eq] at hopenable
  obtain ⟨hendpoint, hid⟩ := hopenable
  have haccepted := openPayload_accepted mode now (Nat.succ_ne_zero n) hid
  obtain ⟨envelope, message, henvelope, hname, hmessage, hlocal, hmode⟩ :=
    unmarshal_openPayload mode haccepted
  have hofName : MessageType.ofName? "stream_open" = some .streamOpen := by decide
  have hlength : ((s.admission setup).streams.length : Int) < setup.limits.maxStreams := by
    show (s.table.keys.length : Int) < setup.limits.maxStreams
    rw [Table.length_keys, h.size]
    exact hroom
  have hnew : (s.admission setup).maxStreamID < n + 1 := by
    show s.maxStreamID < n + 1
    rw [h.maxStreamID]
    exact Nat.lt_succ_self n
  have hadmit : admitStream (s.admission setup) (n + 1) (streamOpenMessage message) = _ :=
    admitStream_eq_opened hnew hlength (by rw [hlocal]; exact hendpoint) (by rw [hmode]; exact hserves)
  obtain ⟨sent, hopened⟩ := handleStreamOpen_opened hadmit
  refine ⟨sent, ?_⟩
  simp only [step, h.running, if_true, handleControl, haccepted, henvelope,
    dispatchControl, hname, hofName, hmessage, hopened, hmode]

/-- The Gateway opens one more stream and fills its queue. -/
theorem Filled.next
    (h : s.Filled (queueSlots setup.limits mode) n) (hroom : (n : Int) < setup.limits.maxStreams)
    (hbudget : 0 ≤ setup.limits.maxStreamQueueBytes) (hmem : endpoint ∈ openable setup.endpoints)
    (hserves : Serves endpoint mode) (stamp : Stamp) :
    ∃ labels s', run (step setup) s labels = some s' ∧
      s'.Filled (queueSlots setup.limits mode) (n + 1) := by
  obtain ⟨sent, hopen⟩ := step_open h hroom hmem hserves 0 stamp
  have hfresh : s.table.lookup (n + 1) = none := by
    cases hlookup : s.table.lookup (n + 1) with
    | none => rfl
    | some ref =>
      have hle := h.ids _ _ hlookup
      omega
  have hfill := run_pad setup
    (s := { s with
      maxStreamID := n + 1
      table := s.table.insert (n + 1) s.opened.length
      opened := s.opened ++ [freshStream setup (n + 1) mode]
      sent }) (n := queueSlots setup.limits mode)
    h.running h.budget rfl (AList.lookup_insert _) (freshStream_open hbudget mode)
    (Nat.le_of_eq (Nat.zero_add _))
  refine ⟨_, _, run_cons.mpr ⟨_, hopen, hfill⟩, h.running, h.idle, h.budget, rfl, ?_, ?_, ?_⟩
  · rw [Table.size_insert_of_none hfresh, h.size]
  · intro streamID ref hlookup
    simp only [Table.lookup_insert_of] at hlookup
    split at hlookup
    · omega
    · exact (h.ids streamID ref hlookup).trans (Nat.le_succ n)
  · intro streamID ref hlookup
    simp only [Table.lookup_insert_of] at hlookup
    split at hlookup
    · cases hlookup
      refine ⟨_, List.getElem?_concat_length, ?_⟩
      rw [LiveStream.length_padded]
      exact Nat.zero_add _
    · obtain ⟨st, hst, hqueue⟩ := h.queues streamID ref hlookup
      refine ⟨st, ?_, hqueue⟩
      rw [List.getElem?_append_left (List.getElem?_eq_some_iff.mp hst).1]
      exact hst

end Fill

end LiveSession

/-! ## The report of a full session -/

namespace LiveSession

section Report

variable {s : LiveSession}

/-- The loop of `countQueuedFrames` over streams whose queues are full. -/
theorem run_count (setup : SessionSetup) {slots active queued : Nat} {rest : List Nat}
    (hreporter : s.reporter = .counting active rest queued)
    (hqueues : ∀ ref ∈ rest, ∃ st, s.opened[ref]? = some st ∧ st.stream.incoming.length = slots) :
    run (step setup) s (List.replicate rest.length .countQueued) =
      some { s with reporter := .counting active [] (queued + rest.length * slots) } := by
  induction rest generalizing s queued with
  | nil => simp [← hreporter]
  | cons ref rest ih =>
    obtain ⟨⟨st, hst, hqueue⟩, hrest⟩ := List.forall_mem_cons.mp hqueues
    have hcount : s.step setup .countQueued =
        some { s with reporter := .counting active rest (queued + slots) } := by
      simp [countQueuedFrames, hreporter, hst, hqueue]
    have hloop := ih (s := { s with reporter := .counting active rest (queued + slots) }) rfl hrest
    have htotal : queued + slots + rest.length * slots = queued + (rest.length + 1) * slots := by
      rw [Nat.add_mul, Nat.one_mul]
      omega
    rw [List.length_cons, List.replicate_succ, ← htotal]
    exact run_cons.mpr ⟨_, hcount, hloop⟩

/-- What was counted is reported. -/
theorem step_report (setup : SessionSetup) {active queued : Nat} (entropy : Bytes)
    (hreporter : s.reporter = .counting active [] queued) (hentropy : entropy.length = 32)
    (stamp : Stamp) :
    ∃ s' report, s.step setup (.report entropy stamp) = some s' ∧
      ⟨0, .healthReport report⟩ ∈ s'.sent ∧ report.queuedFrames = queued := by
  simp only [step, hentropy, if_true, sendHealthReport, hreporter]
  exact ⟨_, _, rfl, List.mem_append_right _ (List.mem_singleton_self _), rfl⟩

/-- A full session reports all of its slots. -/
theorem Filled.report {slots n : Nat} (h : s.Filled slots n) (setup : SessionSetup) (stamp : Stamp) :
    ∃ labels s' report, run (step setup) s labels = some s' ∧
      ⟨0, .healthReport report⟩ ∈ s'.sent ∧ report.queuedFrames = n * slots := by
  have hqueues : ∀ ref ∈ s.table.values, ∃ st, s.opened[ref]? = some st ∧
      st.stream.incoming.length = slots := by
    intro ref href
    obtain ⟨streamID, hlookup⟩ := Table.mem_values.mp href
    exact h.queues streamID ref hlookup
  have hactive : s.step setup .countActive = some { s with reporter := .counted s.table.size } := by
    simp [countActiveStreams, h.idle]
  have hsnapshot : step setup { s with reporter := .counted s.table.size } .snapshot =
      some { s with reporter := .counting s.table.size s.table.values 0 } := by
    simp [snapshotStreams]
  have hcount := run_count setup
    (s := { s with reporter := .counting s.table.size s.table.values 0 }) rfl hqueues
  obtain ⟨s', report, hreport, hsent, hframes⟩ := step_report setup
    (s := { s with
      reporter := .counting s.table.size [] (0 + s.table.values.length * slots) })
    (List.replicate 32 0) rfl List.length_replicate stamp
  refine ⟨_, s', report, run_cons.mpr ⟨_, hactive, run_cons.mpr
    ⟨_, hsnapshot, run_append.mpr ⟨_, hcount, run_singleton.mpr hreport⟩⟩⟩,
    hsent, ?_⟩
  rw [hframes, Nat.zero_add, Table.length_values, h.size]

/-- The Gateway fills as many streams as the limit allows. -/
theorem exists_filled {setup : SessionSetup} {endpoint : Endpoint} {mode : StreamMode}
    (hsession : 0 ≤ setup.limits.maxSessionQueueBytes) (hstream : 0 ≤ setup.limits.maxStreamQueueBytes)
    (hmem : endpoint ∈ openable setup.endpoints) (hserves : Serves endpoint mode) (stamp : Stamp)
    {n : Nat} (hn : n ≤ setup.limits.maxStreams.toNat) :
    ∃ labels s, run (step setup) (LiveSession.start setup none) labels = some s ∧
      s.Filled (queueSlots setup.limits mode) n := by
  induction n with
  | zero => exact ⟨[], _, rfl, Filled.start hsession _⟩
  | succ n ih =>
    obtain ⟨labels, s, hrun, hfilled⟩ := ih (Nat.le_of_succ_le hn)
    obtain ⟨more, s', hmore, hnext⟩ := hfilled.next (by omega) hstream hmem hserves stamp
    exact ⟨labels ++ more, s', run_append.mpr ⟨s, hrun, hmore⟩, hnext⟩

/-- The Gateway makes a session report all the slots it has. -/
theorem exists_report (setup : SessionSetup) (hsession : 0 ≤ setup.limits.maxSessionQueueBytes)
    (hstream : 0 ≤ setup.limits.maxStreamQueueBytes)
    (hslots : mostSlots setup.limits setup.endpoints ≠ 0) (stamp : Stamp) :
    ∃ labels s report,
      run (step setup) (LiveSession.start setup none) labels = some s ∧
      ⟨0, .healthReport report⟩ ∈ s.sent ∧
      report.queuedFrames =
        setup.limits.maxStreams.toNat * mostSlots setup.limits setup.endpoints := by
  obtain ⟨endpoint, hmem, mode, hserves, hmost⟩ := exists_mostSlots hslots
  obtain ⟨labels, s, hrun, hfilled⟩ :=
    exists_filled hsession hstream hmem hserves stamp (Nat.le_refl _)
  obtain ⟨more, s', report, hmore, hsent, hframes⟩ := hfilled.report setup stamp
  refine ⟨labels ++ more, s', report, run_append.mpr ⟨s, hrun, hmore⟩, hsent, ?_⟩
  rw [hframes, hmost]

end Report

end LiveSession

/-! ## Accepted messages -/

/-- Whatever the Gateway and the local targets do, it accepts every control message of the session, on
    the stream it is sent on and at any time. -/
def AlwaysAccepted (setup : SessionSetup) : Prop :=
  ∀ reconnected labels s,
    run (step setup) (LiveSession.start setup reconnected) labels = some s →
      ∀ m ∈ s.sent, ∀ now, validateControlPayload m.message.payload m.streamID now = .ok ()

/-- The first second of a year. -/
def sampleStamp : Stamp where
  text := "2026-01-01T00:00:00Z"
  valid := ⟨_, rfl⟩

theorem not_alwaysAccepted {setup : SessionSetup} (hadmitted : setup.limits.Admitted)
    (hslots : 65536 < setup.limits.maxStreams.toNat * mostSlots setup.limits setup.endpoints) :
    ¬ AlwaysAccepted setup := by
  intro haccepted
  have hsome : mostSlots setup.limits setup.endpoints ≠ 0 := by
    intro hzero
    rw [hzero, Nat.mul_zero] at hslots
    omega
  obtain ⟨labels, s, report, hrun, hsent, hframes⟩ := exists_report setup
    (Int.le_of_lt hadmitted.maxSessionQueueBytes.1) (Int.le_of_lt hadmitted.maxStreamQueueBytes.1) hsome
    sampleStamp
  have hproper := (ControlMessage.accepted_iff _ _ 0).mp (haccepted none labels s hrun _ hsent 0)
  have hbound : report.queuedFrames ≤ 65536 := hproper.2.2.2.1
  omega

/-- With limits from a settings file, the messages of a session are always accepted exactly when its
    streams have no more slots than the contract lets a report count. -/
theorem alwaysAccepted_iff (text : TextLibrary) (config : Option LimitsConfig) (setup : SessionSetup)
    (hlimits : applyLimits text config defaultLimits = .ok setup.limits) :
    AlwaysAccepted setup ↔
      setup.limits.maxStreams.toNat * mostSlots setup.limits setup.endpoints ≤ 65536 := by
  have hadmitted := admitted_of_applyLimits hlimits
  have hstreams : setup.limits.maxStreams ≤ 4096 := hadmitted.maxStreams.2.trans (by decide)
  constructor
  · intro haccepted
    by_contra hslots
    exact not_alwaysAccepted hadmitted (by omega) haccepted
  · intro hslots reconnected labels s hrun m hm now
    have hlawful := Orderly.run hstreams hslots (Lawful.start setup reconnected)
      hrun
    exact (ControlMessage.accepted_iff _ _ now).mpr (hlawful.sent m hm)

/-- A session with the default limits and one endpoint. -/
def defaultSetup (protocol : EndpointProtocol) : SessionSetup where
  flowControlled := true
  limits := defaultLimits
  endpoints := [⟨"local", protocol⟩]
  agentVersion := ⟨"1.0.0", by decide⟩

/-- The text library of a settings file without a limits block, which is not read. -/
def unusedLibrary : TextLibrary where
  trimSpace := id
  toUpper := id
  parseInt := fun _ => .error (errorsNew "invalid syntax")
  parseDuration := fun _ => .error (errorsNew "invalid duration")
  quote := id

/-- With the default limits, sessions to UDP endpoints have 64 streams with 512 slots each. -/
theorem alwaysAccepted_iff_defaultUDP :
    applyLimits unusedLibrary none defaultLimits = .ok (defaultSetup .udp).limits ∧
      AlwaysAccepted (defaultSetup .udp) :=
  ⟨rfl, (alwaysAccepted_iff unusedLibrary none (defaultSetup .udp) rfl).mpr (by decide)⟩

/-- With the default limits, 64 HTTP streams have 2048 slots each, and the Gateway refuses the report
    that counts them. -/
theorem defaultHTTP_report_refused :
    ∃ labels s report,
      run (step (defaultSetup .tcp)) (LiveSession.start (defaultSetup .tcp) none)
        labels = some s ∧
      ⟨0, .healthReport report⟩ ∈ s.sent ∧ report.queuedFrames = 131072 ∧
      ∀ now, validateControlPayload (ControlMessage.healthReport report).payload 0 now ≠ .ok () := by
  obtain ⟨labels, s, report, hrun, hsent, hframes⟩ := exists_report
    (defaultSetup .tcp) (by decide) (by decide) (by decide) sampleStamp
  have hcount : report.queuedFrames = 131072 := hframes.trans (by decide)
  refine ⟨labels, s, report, hrun, hsent, hcount, fun now haccepted => ?_⟩
  have hproper := (ControlMessage.accepted_iff _ _ now).mp haccepted
  have hbound : report.queuedFrames ≤ 65536 := hproper.2.2.2.1
  omega

end Hooshix.Agent
