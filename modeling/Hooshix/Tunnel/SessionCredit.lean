-- SUMMARY: All streams of a flow-controlled session, and when their receivers have room for what is sent.
import Hooshix.Tunnel.ReceiverQueues

/-! # The streams of a session

A session has any number of streams, each of which sends and receives under its own credit. They meet
in two places: the Agent's session budget and the Gateway's. A step of one stream works on these
budgets as the steps of the others left them, and both hold exactly what the queues of all streams hold.

Credit keeps a stream within its own byte budget. It says nothing about the slots of the receiver's
queue and the budget of the session, so those are kept only by senders who do not use them up.
-/

namespace Hooshix.Tunnel

open Contract TunnelWindow CreditState Ledger StepSystem

structure SessionStream where
  mode : StreamMode
  credit : CreditState
  deriving DecidableEq, Repr

/-- The streams of a session and the budgets they share. -/
structure SessionCredit where
  shared : Gateway.SharedBudgets
  agentBudget : Agent.ByteBudget
  streams : List SessionStream
  deriving DecidableEq, Repr

namespace SessionCredit

/-- A new session. The Gateway's own budget is shared with other devices. -/
def start (limits : Gateway.Limits) (sess : Agent.AgentSession)
    (globalBudget : Gateway.ByteBudget) : SessionCredit where
  shared := ⟨.newByteBudget limits.maxSessionQueueBytes, globalBudget⟩
  agentBudget := .new sess.limits.maxSessionQueueBytes
  streams := []

/-- A stream sees the budgets of the session. -/
def atWork (s : SessionCredit) (credit : CreditState) : CreditState :=
  { credit with shared := s.shared, agentBudget := s.agentBudget }

section AtWork

variable (s : SessionCredit) (credit : CreditState)

@[simp] theorem atWork_shared : (s.atWork credit).shared = s.shared := rfl

@[simp] theorem atWork_agentBudget : (s.atWork credit).agentBudget = s.agentBudget := rfl

@[simp] theorem atWork_gateway : (s.atWork credit).gateway = credit.gateway := rfl

@[simp] theorem atWork_agentQueue : (s.atWork credit).agentQueue = credit.agentQueue := rfl

@[simp] theorem atWork_gatewayInbox : (s.atWork credit).gatewayInbox = credit.gatewayInbox := rfl

@[simp] theorem atWork_agentInbox : (s.atWork credit).agentInbox = credit.agentInbox := rfl

end AtWork

inductive Label where
  /-- `openStreamTarget` creates a stream -/
  | openStream (mode : StreamMode)
  /-- a step of the stream at place `i` -/
  | stream (i : Nat) (label : CreditState.Label)
  /-- other devices use the Gateway's budget -/
  | shareGlobal (globalBudget : Gateway.ByteBudget)

def step (limits : Gateway.Limits) (sess : Agent.AgentSession) (s : SessionCredit) :
    Label → Option SessionCredit
  | .openStream mode =>
    some { s with
      streams := s.streams ++ [⟨mode, CreditState.start limits s.shared s.agentBudget⟩] }
  | .stream i label =>
    match label.shares, s.streams[i]? with
    | false, some st =>
      (CreditState.step sess st.mode (s.atWork st.credit) label).map fun credit =>
        { shared := credit.shared
          agentBudget := credit.agentBudget
          streams := s.streams.set i { st with credit } }
    | _, _ => none
  | .shareGlobal globalBudget => some { s with shared := { s.shared with globalBudget } }

end SessionCredit

/-! ## Room -/

/-- The slots of a stream's queue at the Gateway. -/
def gatewaySlots (limits : Gateway.Limits) : Nat :=
  (Gateway.newStream false limits.maxStreamQueueFrames.toNat limits.maxStreamQueueBytes).capacity

/-- The slots of a stream's queue at the Agent. -/
def agentSlots (sess : Agent.AgentSession) (mode : StreamMode) : Nat :=
  (Agent.openedStream sess mode).queueFrames.toNat

namespace SessionStream

/-- The frames in the Gateway's queue and on their way to it. -/
def gatewayFrames (st : SessionStream) : Int :=
  st.credit.gateway.stream.incoming.length + total (·.weigh oneSlot) st.credit.gatewayInbox

/-- The frames in the Agent's queue and on their way to it. -/
def agentFrames (st : SessionStream) : Int :=
  st.credit.agentQueue.length + total (·.weigh oneSlot) st.credit.agentInbox

/-- A stream that has the queues it was opened with and does not overfill them. -/
structure Roomy (limits : Gateway.Limits) (sess : Agent.AgentSession) (st : SessionStream) :
    Prop where
  sound : st.credit.Sound (terms limits sess st.mode)
  gatewayCapacity : st.credit.gateway.stream.capacity = gatewaySlots limits
  gatewayLimit : st.credit.gateway.stream.streamBudget.limit = limits.maxStreamQueueBytes
  gatewayFrames : st.gatewayFrames ≤ gatewaySlots limits
  agentOpened : st.credit.AgentOpened sess st.mode
  agentFrames : st.agentFrames ≤ agentSlots sess st.mode

end SessionStream

namespace SessionCredit

/-- The data on its way to the Gateway, over all streams. -/
def toGatewayBytes (s : SessionCredit) : Int :=
  total (fun st => total (·.weigh byteSize) st.credit.gatewayInbox) s.streams

/-- The data on its way to the Agent, over all streams. -/
def toAgentBytes (s : SessionCredit) : Int :=
  total (fun st => total (·.weigh byteSize) st.credit.agentInbox) s.streams

/-- A sender that counts for its receiver: the queue has a slot for the chunk, and the budget of the
    receiver's session has its bytes, behind all that is already on the way. -/
def leavesRoom (limits : Gateway.Limits) (sess : Agent.AgentSession) (s : SessionCredit) :
    Label → Bool
  | .stream i (.gatewaySend payload) =>
    (s.streams[i]?).all fun st => decide (st.agentFrames + 1 ≤ (agentSlots sess st.mode : Int)) &&
      s.agentBudget.used + s.toAgentBytes + byteSize (payload.take maxDataPayload) ≤
        s.agentBudget.limit
  | .stream i (.agentSend payload) =>
    (s.streams[i]?).all fun st => decide (st.gatewayFrames + 1 ≤ (gatewaySlots limits : Int)) &&
      s.shared.sessionBudget.used + s.toGatewayBytes + byteSize (payload.take maxDataPayload) ≤
        s.shared.sessionBudget.limit
  | _ => true

/-- Both budgets of the session hold what the queues hold, and have room for all that is on its way. -/
structure Roomy (limits : Gateway.Limits) (sess : Agent.AgentSession) (s : SessionCredit) : Prop where
  streams : ∀ st ∈ s.streams, st.Roomy limits sess
  gatewayUsed : s.shared.sessionBudget.used =
    total (fun st => st.credit.gateway.stream.retained) s.streams
  gatewayRoom : s.shared.sessionBudget.used + s.toGatewayBytes ≤ s.shared.sessionBudget.limit
  agentUsed : s.agentBudget.used = total (fun st => reserved st.credit.agentQueue) s.streams
  agentRoom : s.agentBudget.used + s.toAgentBytes ≤ s.agentBudget.limit

section Steps

variable {limits : Gateway.Limits} {sess : Agent.AgentSession} {s s' : SessionCredit}
  {label : CreditState.Label} {payload : Bytes} {st : SessionStream} {i : Nat} {w : Bytes → Int}
  {c : CreditState} {terms : Terms}

theorem Roomy.start (hlimits : limits.valid = true) (hsess : sess.limits.valid = true)
    (globalBudget : Gateway.ByteBudget) : (start limits sess globalBudget).Roomy limits sess where
  streams := by simp [SessionCredit.start]
  gatewayUsed := rfl
  gatewayRoom := by
    simp only [Gateway.Limits.valid, Bool.and_eq_true, decide_eq_true_eq] at hlimits
    show (0 : Int) + 0 ≤ limits.maxSessionQueueBytes
    omega
  agentUsed := rfl
  agentRoom := by
    simp only [Agent.Limits.valid, Bool.and_eq_true, decide_eq_true_eq] at hsess
    show (0 : Int) + 0 ≤ sess.limits.maxSessionQueueBytes
    omega

theorem SessionStream.Roomy.new (shared : Gateway.SharedBudgets) (agentBudget : Agent.ByteBudget)
    (mode : StreamMode) :
    SessionStream.Roomy limits sess ⟨mode, CreditState.start limits shared agentBudget⟩ where
  sound := Sound.start
  gatewayCapacity := rfl
  gatewayLimit := rfl
  gatewayFrames := Int.natCast_nonneg _
  agentOpened := by
    intro agent hagent
    cases hagent
  agentFrames := Int.natCast_nonneg _

theorem Roomy.openStream (hs : s.Roomy limits sess) (mode : StreamMode) :
    Roomy limits sess { s with
      streams := s.streams ++ [⟨mode, CreditState.start limits s.shared s.agentBudget⟩] } where
  streams := List.forall_mem_append.mpr ⟨hs.streams,
    List.forall_mem_singleton.mpr (SessionStream.Roomy.new s.shared s.agentBudget mode)⟩
  gatewayUsed := by
    have hused := hs.gatewayUsed
    simpa [CreditState.start] using hused
  gatewayRoom := by
    have hroom := hs.gatewayRoom
    simpa [toGatewayBytes, gatewayInbox, CreditState.start] using hroom
  agentUsed := by
    have hused := hs.agentUsed
    simpa [agentQueue, CreditState.start] using hused
  agentRoom := by
    have hroom := hs.agentRoom
    simpa [toAgentBytes, agentInbox, CreditState.start, StreamFrame.weigh] using hroom

/-- Behind what is on its way there is room for what a step sends. -/
theorem Roomy.sends (hs : s.Roomy limits sess) (hst : s.streams[i]? = some st)
    (hroom : s.leavesRoom limits sess (.stream i label) = true) :
    st.gatewayFrames + label.toGateway oneSlot ≤ gatewaySlots limits ∧
      s.shared.sessionBudget.used + s.toGatewayBytes + label.toGateway byteSize ≤
        s.shared.sessionBudget.limit ∧
      st.agentFrames + label.toAgent oneSlot ≤ agentSlots sess st.mode ∧
      s.agentBudget.used + s.toAgentBytes + label.toAgent byteSize ≤ s.agentBudget.limit := by
  have hstream := hs.streams st (List.mem_of_getElem? hst)
  have hgatewayFrames := hstream.gatewayFrames
  have hgatewayRoom := hs.gatewayRoom
  have hagentFrames := hstream.agentFrames
  have hagentRoom := hs.agentRoom
  cases label with
  | gatewaySend payload =>
    simp only [leavesRoom, hst, Option.all_some, Bool.and_eq_true, decide_eq_true_eq] at hroom
    exact ⟨by simpa [CreditState.Label.toGateway] using hgatewayFrames,
      by simpa [CreditState.Label.toGateway] using hgatewayRoom, hroom.1, hroom.2⟩
  | agentSend payload =>
    simp only [leavesRoom, hst, Option.all_some, Bool.and_eq_true, decide_eq_true_eq] at hroom
    exact ⟨hroom.1, hroom.2, by simpa [CreditState.Label.toAgent] using hagentFrames,
      by simpa [CreditState.Label.toAgent] using hagentRoom⟩
  | _ =>
    simp only [CreditState.Label.toGateway, CreditState.Label.toAgent, Int.add_zero]
    exact ⟨hgatewayFrames, hgatewayRoom, hagentFrames, hagentRoom⟩

theorem stream_cases (h : step limits sess s (.stream i label) = some s') :
    label.shares = false ∧ ∃ st credit, s.streams[i]? = some st ∧
      CreditState.step sess st.mode (s.atWork st.credit) label = some credit ∧
      s' = { shared := credit.shared
             agentBudget := credit.agentBudget
             streams := s.streams.set i { st with credit } } := by
  simp only [step] at h
  split at h
  next st hlocal hst =>
    obtain ⟨credit, hstep, rfl⟩ := Option.map_eq_some_iff.mp h
    exact ⟨hlocal, st, credit, hst, hstep, rfl⟩
  next => cases h

/-- A step of one stream for which its sender left room. -/
theorem Roomy.stream (hs : s.Roomy limits sess)
    (hroom : s.leavesRoom limits sess (.stream i label) = true)
    (h : step limits sess s (.stream i label) = some s') : s'.Roomy limits sess := by
  obtain ⟨hlocal, st, credit, hst, hstep, rfl⟩ := stream_cases h
  obtain ⟨hgatewayFrames, hgatewayRoom, hagentFrames, hagentRoom⟩ := hs.sends hst hroom
  have hstream := hs.streams st (List.mem_of_getElem? hst)
  have hsound : (s.atWork st.credit).Sound (terms limits sess st.mode) :=
    { hstream.sound with }
  have hgateway := (gatewayQueue_of_step hsound hlocal hstep).books hsound
  have hagent := (agentQueue_of_step hsound hlocal hstep).books
  -- the Agent's budget covers the queue of this stream, so no release of it underflows
  have hcovered : reserved st.credit.agentQueue ≤ s.agentBudget.used := by
    rw [hs.agentUsed]
    exact le_total (fun other _ => reserved_nonneg other.credit.agentQueue)
      (List.mem_of_getElem? hst)
  have hsession := hagent.session hcovered
  have hslots := hgateway.slots
  have hbytes := hgateway.bytes
  have hagentSlots := hagent.slots
  have hagentBytes := hagent.bytes
  refine
    { streams := ?_, gatewayUsed := ?_, gatewayRoom := ?_, agentUsed := ?_, agentRoom := ?_ }
  · intro other hother
    rcases List.mem_or_eq_of_mem_set hother with hold | rfl
    · exact hs.streams other hold
    · exact
        { sound := hsound.step rfl hstep
          gatewayCapacity := hgateway.capacity.trans hstream.gatewayCapacity
          gatewayLimit := hgateway.limit.trans hstream.gatewayLimit
          gatewayFrames := Int.le_trans hslots hgatewayFrames
          agentOpened := hagent.opened hstream.agentOpened
          agentFrames := Int.le_trans hagentSlots hagentFrames }
  · have hused := hs.gatewayUsed
    rw [total_set hst, hgateway.session, ← hused]
    rfl
  · simp only [toGatewayBytes, weight, atWork_gateway, atWork_gatewayInbox] at hgatewayRoom hbytes ⊢
    rw [total_set hst, hgateway.session]
    simp only [atWork_shared, atWork_gateway, Gateway.ByteBudget.charge_used,
      Gateway.ByteBudget.charge_limit]
    omega
  · have hused := hs.agentUsed
    rw [total_set hst, hsession, ← hused]
    rfl
  · simp only [toAgentBytes, weight, atWork_agentQueue, atWork_agentInbox] at hagentRoom hagentBytes ⊢
    rw [total_set hst, hsession]
    simp only [atWork_agentBudget, atWork_agentQueue]
    omega

theorem Roomy.step {label : Label} (hs : s.Roomy limits sess)
    (hroom : s.leavesRoom limits sess label = true) (h : step limits sess s label = some s') :
    s'.Roomy limits sess := by
  cases label with
  | openStream mode =>
    cases h
    exact hs.openStream mode
  | stream i label => exact hs.stream hroom h
  | shareGlobal globalBudget =>
    cases h
    exact { hs with }

/-! ## What a receiver with room accepts -/

theorem weigh_nonneg (hw : ∀ payload, 0 ≤ w payload) (frames : List StreamFrame) :
    0 ≤ total (·.weigh w) frames :=
  total_nonneg fun frame _ => frame.weigh_nonneg hw

/-- A frame that is on its way is part of what is on its way. -/
theorem weigh_le_total (hw : ∀ payload, 0 ≤ w payload) {frames : List StreamFrame}
    (h : .data payload ∈ frames) :
    w payload ≤ total (·.weigh w) frames := by
  have hle : (StreamFrame.data payload).weigh w ≤ total (·.weigh w) frames :=
    le_total (fun frame _ => frame.weigh_nonneg hw) h
  exact hle

/-- By conservation, data on its way to the Gateway fits behind what the stream retains. -/
theorem retained_add_le (hc : c.Sound terms) (hmem : .data payload ∈ c.gatewayInbox) :
    c.gateway.stream.retained + payload.length ≤ terms.grant := by
  have hsum := hc.toGateway
  have hcredit := hc.agentCredit_nonneg
  have hback := total_credit_nonneg c.agentInbox
  have hfirst := hc.first_nonneg
  have hpayload : (StreamFrame.data payload).bytes 0 ≤ total (·.bytes 0) c.gatewayInbox :=
    le_total (fun frame _ => frame.bytes_nonneg (Int.le_refl 0)) hmem
  rw [bytes_data] at hpayload
  simp only [toGatewaySum, outstanding] at hsum
  omega

/-- By conservation, data on its way to the Agent fits behind what the stream has not returned. -/
theorem agentHeld_add_le (hc : c.Sound terms) (hmem : .data payload ∈ c.agentInbox) :
    c.agentHeld + payload.length ≤ headerAllowanceBytes + terms.body := by
  have hsum := hc.toAgent
  have hcredit := hc.window.credit
  have hback := total_credit_nonneg c.gatewayInbox
  have hpayload : (StreamFrame.data payload).bytes terms.body ≤
      total (·.bytes terms.body) c.agentInbox :=
    le_total (fun frame _ => frame.bytes_nonneg terms.body_nonneg) hmem
  rw [bytes_data] at hpayload
  simp only [toAgentSum, outstanding] at hsum
  omega

/-- Data in the hand of the Gateway's reader loop fits the stream, the session and the queue. -/
theorem Roomy.gateway_accepts {shared : Gateway.SharedBudgets} {stream : Gateway.Stream}
    {ev : Gateway.StreamEvent} (hs : s.Roomy limits sess) (hlimits : limits.valid = true)
    (hst : st ∈ s.streams) (hhand : st.credit.gateway.handling = some (.data payload))
    (hopen : st.credit.gateway.stream.closed = false)
    (h : st.credit.gateway.stream.enqueue s.shared payload = .next (shared, stream, ev)) :
    ev = .accepted payload ∨ s.shared.globalBudget.tryAcquire payload.length = none := by
  have hstream := hs.streams st hst
  have haccounted := hstream.sound.accounted
  have hmem : .data payload ∈ st.credit.gatewayInbox := by simp [gatewayInbox, hhand]
  have hlength := Int.natCast_nonneg payload.length
  refine Gateway.Stream.enqueue_of_room hopen ?_ ?_ ?_ h
  · have hqueue : 1 ≤ limits.maxStreamQueueBytes := by
      simp only [Gateway.Limits.valid, Bool.and_eq_true, decide_eq_true_eq] at hlimits
      omega
    refine Gateway.ByteBudget.tryAcquire_of_le ?_ hlength ?_
    · rw [haccounted.used]
      exact haccounted.retained_nonneg
    · rw [haccounted.used, hstream.gatewayLimit]
      exact Int.le_trans (retained_add_le hstream.sound hmem) (initialCredit_le hqueue)
  · have hroom := hs.gatewayRoom
    have hframe : _ ≤ total (·.weigh byteSize) st.credit.gatewayInbox :=
      weigh_le_total byteSize_nonneg hmem
    have hall : _ ≤ s.toGatewayBytes :=
      le_total (fun other _ => weigh_nonneg byteSize_nonneg other.credit.gatewayInbox) hst
    refine Gateway.ByteBudget.tryAcquire_of_le ?_ hlength ?_
    · rw [hs.gatewayUsed]
      exact total_nonneg fun other hother =>
        (hs.streams other hother).sound.accounted.retained_nonneg
    · simp only [byteSize] at hframe
      omega
  · have hslots := hstream.gatewayFrames
    have hframe : _ ≤ total (·.weigh oneSlot) st.credit.gatewayInbox :=
      weigh_le_total oneSlot_nonneg hmem
    rw [hstream.gatewayCapacity]
    simp only [SessionStream.gatewayFrames, oneSlot] at hslots hframe
    omega

/-- Data in the hand of the Agent's reader loop fits the stream, the session and the queue. -/
theorem Roomy.agent_accepts {agent : Side Agent.AgentStream} {budget : Agent.ByteBudget}
    {stream : Agent.AgentStream} {ev : Agent.StreamEvent} (hs : s.Roomy limits sess)
    (hbudget : headerAllowanceBytes ≤ sess.limits.maxStreamQueueBytes) (hst : st ∈ s.streams)
    (hagent : st.credit.agent = some agent) (hhand : agent.handling = some (.data payload))
    (hopen : agent.stream.closed = false)
    (h : agent.stream.enqueue s.agentBudget payload = some (budget, stream, ev)) :
    ev = .accepted payload := by
  have hstream := hs.streams st hst
  obtain ⟨hcapacity, hlimit, hused⟩ := hstream.agentOpened agent hagent
  have hmem : .data payload ∈ st.credit.agentInbox := by
    simp [agentInbox, hagent, hhand]
  have hlength := Int.natCast_nonneg payload.length
  have hqueued := reserved_nonneg agent.stream.incoming
  refine Agent.AgentStream.enqueue_of_room hopen ?_ ?_ ?_ h
  · have hheld := agentHeld_add_le hstream.sound hmem
    have howed := (hstream.sound.solvent agent hagent).owed
    have htotal : toAgentTotal sess st.mode ≤ _ :=
      toAgentTotal_le (Int.le_trans hbudget (Agent.le_streamInputBudget st.mode sess.limits))
    simp only [agentHeld, hagent, Agent.AgentStream.unreturned] at hheld
    refine Agent.ByteBudget.tryAcquire_of_le (by omega) hlength ?_
    rw [hlimit, hused]
    refine Int.le_trans ?_ htotal
    show _ ≤ headerAllowanceBytes + (terms limits sess st.mode).body
    omega
  · have hroom := hs.agentRoom
    have hframe : _ ≤ total (·.weigh byteSize) st.credit.agentInbox :=
      weigh_le_total byteSize_nonneg hmem
    have hall : _ ≤ s.toAgentBytes :=
      le_total (fun other _ => weigh_nonneg byteSize_nonneg other.credit.agentInbox) hst
    refine Agent.ByteBudget.tryAcquire_of_le ?_ hlength ?_
    · rw [hs.agentUsed]
      exact total_nonneg fun other _ => reserved_nonneg other.credit.agentQueue
    · simp only [byteSize] at hframe
      omega
  · have hslots := hstream.agentFrames
    have hframe : _ ≤ total (·.weigh oneSlot) st.credit.agentInbox :=
      weigh_le_total oneSlot_nonneg hmem
    rw [hcapacity]
    simp only [SessionStream.agentFrames, agentQueue_of_some hagent, agentSlots,
      oneSlot] at hslots hframe
    omega

end Steps

/-! ## Sessions whose senders leave room -/

/-- No data in the hand of a reader loop is refused for want of room in its stream, its session or its
    queue. -/
structure Accepting (s : SessionCredit) : Prop where
  gateway : ∀ st ∈ s.streams, ∀ payload shared stream ev,
    st.credit.gateway.handling = some (.data payload) →
    st.credit.gateway.stream.closed = false →
    st.credit.gateway.stream.enqueue s.shared payload = .next (shared, stream, ev) →
    ev = .accepted payload ∨ s.shared.globalBudget.tryAcquire payload.length = none
  agent : ∀ st ∈ s.streams, ∀ agent payload budget stream ev, st.credit.agent = some agent →
    agent.handling = some (.data payload) → agent.stream.closed = false →
    agent.stream.enqueue s.agentBudget payload = some (budget, stream, ev) → ev = .accepted payload

/-- With a header allowance that fits the Agent's budget, and senders that leave room in the queues and
    in the sessions' budgets, no data sent under credit is refused, however many streams there are. -/
theorem credited_data_accepted {limits : Gateway.Limits} {sess : Agent.AgentSession}
    {globalBudget : Gateway.ByteBudget} {labels : List Label} {s : SessionCredit}
    (hlimits : limits.valid = true) (hsess : sess.limits.valid = true)
    (hbudget : headerAllowanceBytes ≤ sess.limits.maxStreamQueueBytes)
    (hroom : Along (SessionCredit.step limits sess)
      (fun s label => s.leavesRoom limits sess label = true)
      (SessionCredit.start limits sess globalBudget) labels)
    (hrun : run (SessionCredit.step limits sess)
      (SessionCredit.start limits sess globalBudget) labels = some s) : s.Accepting := by
  have hs : s.Roomy limits sess :=
    invariant_along (fun hs hroom hstep => hs.step hroom hstep)
      (Roomy.start hlimits hsess globalBudget) hroom hrun
  refine ⟨?_, ?_⟩
  · intro st hst payload shared stream ev hhand hopen henqueue
    exact hs.gateway_accepts hlimits hst hhand hopen henqueue
  · intro st hst agent payload budget stream ev hagent hhand hopen henqueue
    exact hs.agent_accepts hbudget hst hagent hhand hopen henqueue

/-- The Gateway opens a stream, both first grants arrive, and the Gateway sends two bytes, which are in
    the hand of the Agent's reader loop. -/
def firstData : List Label :=
  [.openStream .tcp, .stream 0 .grantFirst, .stream 0 (.agentReceive 0 true),
    .stream 0 (.agentReceive 0 true), .stream 0 .agentHandle, .stream 0 (.gatewayReceive 0),
    .stream 0 .gatewayHandle, .stream 0 (.gatewaySend [1, 2]), .stream 0 (.agentReceive 0 true)]

theorem firstData_accepted :
    ∃ s st agent, run
        (step Gateway.defaultLimits (idleSession Agent.defaultLimits))
        (start Gateway.defaultLimits (idleSession Agent.defaultLimits)
          (.newByteBudget Gateway.defaultLimits.maxGlobalQueueBytes)) firstData = some s ∧
      s.streams = [st] ∧ st.credit.agent = some agent ∧ agent.handling = some (.data [1, 2]) ∧
      agent.stream.closed = false ∧ s.Accepting := by
  refine ⟨_, _, _, rfl, rfl, rfl, rfl, rfl, ?_⟩
  exact @credited_data_accepted Gateway.defaultLimits (idleSession Agent.defaultLimits) _ firstData _
    (by decide) (by decide) (by decide) (by decide +kernel) rfl

/-- Limits that the Gateway accepts: a queue of one slot for streams with two bytes of credit. -/
def slimLimits : Gateway.Limits :=
  { Gateway.defaultLimits with maxStreamQueueFrames := 1, maxStreamQueueBytes := 2 }

/-- The Agent sends its two bytes of credit in two frames, which both reach the Gateway. -/
def twoFrames : List Label :=
  [.openStream .tcp, .stream 0 .grantFirst, .stream 0 (.agentReceive 0 true),
    .stream 0 (.agentReceive 0 true), .stream 0 .agentHandle, .stream 0 (.agentSend [1]),
    .stream 0 (.agentSend [2]), .stream 0 (.gatewayReceive 1), .stream 0 .gatewayHandle,
    .stream 0 (.gatewayReceive 1)]

/-- The second frame is within the credit and within all budgets, but finds the queue full. -/
theorem twoFrames_refused :
    slimLimits.valid = true ∧ Agent.defaultLimits.valid = true ∧
      ∃ s st shared stream, run
          (step slimLimits (idleSession Agent.defaultLimits))
          (start slimLimits (idleSession Agent.defaultLimits)
            (.newByteBudget slimLimits.maxGlobalQueueBytes)) twoFrames = some s ∧
        s.streams = [st] ∧ st.credit.gateway.handling = some (.data [2]) ∧
        st.credit.gateway.stream.enqueue s.shared [2] =
          .next (shared, stream, .rejected (errorsNew "frame queue full")) :=
  ⟨by decide, by decide, _, _, _, _, rfl, rfl, rfl, rfl⟩

end SessionCredit

end Hooshix.Tunnel
