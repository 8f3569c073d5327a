-- SUMMARY: What a step of a flow-controlled stream does to the queues and budgets of its receivers.
import Hooshix.Tunnel.CreditBudget

/-! # Receiver queues

Credit counts bytes. The receiver of a stream also has a queue with a number of slots and shares a byte
budget with the other streams of the session. Here every step is seen from these: it leaves the queue
alone, works on it, enqueues the data in the hand of the reader loop, or creates the stream.

The data for a receiver is weighed by `w`: with the payload's length for its budgets, and with one for
the slots of its queue.
-/

namespace Hooshix.Tunnel

open Contract TunnelWindow

/-! ## What data weighs -/

/-- What a data frame weighs. -/
def StreamFrame.weigh (w : Bytes → Int) : StreamFrame → Int
  | .data payload => w payload
  | _ => 0

variable {w : Bytes → Int}

theorem StreamFrame.weigh_nonneg (hw : ∀ payload, 0 ≤ w payload) (frame : StreamFrame) :
    0 ≤ frame.weigh w := by
  cases frame with
  | data payload => exact hw payload
  | _ => exact Int.le_refl 0

@[simp] theorem weigh_data (w : Bytes → Int) (payload : Bytes) :
    (StreamFrame.data payload).weigh w = w payload := rfl

@[simp] theorem weigh_windowUpdate (w : Bytes → Int) (creditBytes : Nat) :
    (StreamFrame.windowUpdate creditBytes).weigh w = 0 := rfl

@[simp] theorem weigh_sendWindowUpdate (w : Bytes → Int) (size : Int) :
    (sendWindowUpdate size).weigh w = 0 := rfl

/-- What the frames on a way weigh. -/
abbrev weight (w : Bytes → Int) (frames : List StreamFrame) : Int := Ledger.total (·.weigh w) frames

theorem weight_append {frames more : List StreamFrame} :
    weight w (frames ++ more) = weight w frames + weight w more := Ledger.total_append

theorem weigh_eraseIdx_le (hw : ∀ payload, 0 ≤ w payload) (frames : List StreamFrame) (i : Nat) :
    weight w (frames.eraseIdx i) ≤ weight w frames :=
  Ledger.total_eraseIdx_le (fun frame _ => frame.weigh_nonneg hw) i

/-- A frame in the queue takes one slot. -/
def oneSlot (_ : Bytes) : Int := 1

/-- A frame in the queue takes its size of each budget. -/
def byteSize (payload : Bytes) : Int := payload.length

theorem oneSlot_nonneg (payload : Bytes) : 0 ≤ oneSlot payload := Int.one_nonneg

theorem byteSize_nonneg (payload : Bytes) : 0 ≤ byteSize payload := Int.natCast_nonneg _

/-! ## What a step does to a queue -/

namespace CreditState

/-- The budgets that a stream shares with others are changed by those. -/
def Label.shares : Label → Bool
  | .shareGateway _ | .shareAgent _ => true
  | _ => false

/-- What a step sends to the Agent. -/
def Label.toAgent (w : Bytes → Int) : Label → Int
  | .gatewaySend payload => w (payload.take maxDataPayload)
  | _ => 0

/-- What a step sends to the Gateway. -/
def Label.toGateway (w : Bytes → Int) : Label → Int
  | .agentSend payload => w (payload.take maxDataPayload)
  | _ => 0

/-- What one step does to the Gateway's queue, its budgets and the data on the way to it. -/
inductive GatewayQueue (s s' : CreditState) (label : Label) : Prop where
  /-- the queue is not touched, and what is on the way was there or has just been sent -/
  | passed (hstream : s'.gateway.stream = s.gateway.stream) (hshared : s'.shared = s.shared)
      (hinbox : ∀ w, (∀ payload, 0 ≤ w payload) →
        weight w s'.gatewayInbox ≤ weight w s.gatewayInbox + label.toGateway w)
  /-- the stream takes another step than `enqueue` -/
  | worked (o : Gateway.Stream.Op) (ev : Gateway.StreamEvent) (hother : ∀ data, o ≠ .enqueue data)
      (hstep : s.gateway.stream.step s.shared o = .next (s'.shared, s'.gateway.stream, ev))
      (hinbox : s'.gatewayInbox = s.gatewayInbox)
  /-- the data in the hand of the reader loop is enqueued -/
  | entered (payload : Bytes) (ev : Gateway.StreamEvent)
      (hhand : s.gateway.handling = some (.data payload))
      (hstep : s.gateway.stream.enqueue s.shared payload = .next (s'.shared, s'.gateway.stream, ev))
      (hinbox : ∀ w, weight w s.gatewayInbox = weight w s'.gatewayInbox + w payload)

/-- What one step does to the Agent's queue, its budget and the data on the way to it. -/
inductive AgentQueue (sess : Agent.AgentSession) (mode : StreamMode) (s s' : CreditState)
    (label : Label) : Prop where
  | passed (hagent : s'.agent.map (·.stream) = s.agent.map (·.stream))
      (hbudget : s'.agentBudget = s.agentBudget)
      (hinbox : ∀ w, (∀ payload, 0 ≤ w payload) →
        weight w s'.agentInbox ≤ weight w s.agentInbox + label.toAgent w)
  | worked (agent agent' : Side Agent.AgentStream) (o : Agent.AgentStream.Op)
      (ev : Agent.StreamEvent) (hagent : s.agent = some agent) (hagent' : s'.agent = some agent')
      (hother : ∀ data, o ≠ .enqueue data)
      (hstep : agent.stream.step s.agentBudget o = some (s'.agentBudget, agent'.stream, ev))
      (hinbox : s'.agentInbox = s.agentInbox)
  | entered (agent agent' : Side Agent.AgentStream) (payload : Bytes) (ev : Agent.StreamEvent)
      (hagent : s.agent = some agent) (hagent' : s'.agent = some agent')
      (hhand : agent.handling = some (.data payload))
      (hstep : agent.stream.enqueue s.agentBudget payload = some (s'.agentBudget, agent'.stream, ev))
      (hinbox : ∀ w, weight w s.agentInbox = weight w s'.agentInbox + w payload)
  /-- the `stream_open` creates the stream -/
  | opened (agent' : Side Agent.AgentStream) (hagent : s.agent = none)
      (hagent' : s'.agent = some agent')
      (hstream : agent'.stream = Agent.AgentStream.new mode true
        (Agent.openedStream sess mode).queueFrames.toNat (Agent.openedStream sess mode).inputBytes)
      (hbudget : s'.agentBudget = s.agentBudget)
      (hinbox : ∀ w, (∀ payload, 0 ≤ w payload) →
        weight w s'.agentInbox ≤ weight w s.agentInbox)

section Steps

variable {terms : Terms} {sess : Agent.AgentSession} {mode : StreamMode} {s s' : CreditState}
  {label : Label} {agent agent' : Side Agent.AgentStream} {agent : Side Agent.AgentStream}
  {frames : List StreamFrame} {w : Bytes → Int}

theorem weigh_gatewayInbox (w : Bytes → Int) (s : CreditState) :
    weight w s.gatewayInbox = weight w s.gateway.handling.toList + weight w s.toGateway := by
  rw [gatewayInbox, weight_append]

theorem weigh_agentInbox (w : Bytes → Int) (s : CreditState) :
    weight w s.agentInbox = weight w (s.agent.bind (·.handling)).toList + weight w s.toAgent := by
  rw [agentInbox, weight_append]

theorem Label.toGateway_nonneg (hw : ∀ payload, 0 ≤ w payload) (label : Label) :
    0 ≤ label.toGateway w := by
  cases label with
  | agentSend payload => exact hw _
  | _ => exact Int.le_refl 0

theorem Label.toAgent_nonneg (hw : ∀ payload, 0 ≤ w payload) (label : Label) :
    0 ≤ label.toAgent w := by
  cases label with
  | gatewaySend payload => exact hw _
  | _ => exact Int.le_refl 0

/-! ### The Gateway's queue -/

/-- A step that sends nothing to the Gateway but control frames, or takes frames off their way. -/
theorem GatewayQueue.of_le (hstream : s'.gateway.stream = s.gateway.stream)
    (hshared : s'.shared = s.shared) (hinbox : ∀ w, (∀ payload, 0 ≤ w payload) →
      weight w s'.gatewayInbox ≤ weight w s.gatewayInbox) :
    GatewayQueue s s' label := by
  refine .passed hstream hshared ?_
  intro w hw
  have hsent := label.toGateway_nonneg hw
  have hle := hinbox w hw
  omega

theorem gatewayQueue_of_agent (hgateway : s'.gateway = s.gateway) (hshared : s'.shared = s.shared)
    (htoGateway : s'.toGateway = s.toGateway ++ frames)
    (hframes : ∀ w, weight w frames = label.toGateway w) :
    GatewayQueue s s' label := by
  refine .passed (by rw [hgateway]) hshared ?_
  intro w hw
  have hsent := hframes w
  rw [weigh_gatewayInbox, weigh_gatewayInbox, hgateway, htoGateway, weight_append]
  omega

theorem weigh_grant (w : Bytes → Int) (grant : Option Int) :
    weight w (grant.map sendWindowUpdate).toList = 0 := by
  cases grant with
  | none => rfl
  | some size => rfl

theorem gatewayQueue_of_step (hs : s.Sound terms) (hlocal : label.shares = false)
    (h : step sess mode s label = some s') : GatewayQueue s s' label := by
  rcases steps_of_step hs h with h | h
  · cases h with
    | stream hother hstep => exact .worked _ _ hother hstep rfl
    | take hframe hfree =>
      refine .of_le rfl rfl fun w _ => ?_
      simp [weigh_gatewayInbox, hfree, Ledger.total_eraseIdx hframe]
    | drop | lose =>
      refine .of_le rfl rfl fun w hw => ?_
      simpa [weigh_gatewayInbox] using weigh_eraseIdx_le hw s.toGateway _
    | credit hhand | refuse hhand =>
      refine .of_le rfl rfl fun w _ => ?_
      simp [weigh_gatewayInbox, hhand]
    | enqueue hhand henqueue | reject hhand henqueue =>
      refine .entered _ _ hhand henqueue fun w => ?_
      simp [weigh_gatewayInbox, hhand, Int.add_comm]
    | share => cases hlocal
    | _ => exact .of_le rfl rfl fun w _ => Int.le_refl _
  · cases h with
    | send hagent hchunk => exact gatewayQueue_of_agent rfl rfl rfl (by simp [hchunk, Label.toGateway])
    | stream => exact gatewayQueue_of_agent rfl rfl rfl fun w => weigh_grant w _
    | opened hnone hframe hopen =>
      obtain ⟨-, -, -, -, -, rfl⟩ := openAgent_cases hopen
      exact gatewayQueue_of_agent rfl rfl rfl fun w => weigh_grant w _
    | share => cases hlocal
    | _ => exact .of_le rfl rfl fun w _ => Int.le_refl _

/-! ### The Agent's queue -/

theorem AgentQueue.of_le (hagent : s'.agent.map (·.stream) = s.agent.map (·.stream))
    (hbudget : s'.agentBudget = s.agentBudget) (hinbox : ∀ w, (∀ payload, 0 ≤ w payload) →
      weight w s'.agentInbox ≤ weight w s.agentInbox) :
    AgentQueue sess mode s s' label := by
  refine .passed hagent hbudget ?_
  intro w hw
  have hsent := label.toAgent_nonneg hw
  have hle := hinbox w hw
  omega

theorem agentQueue_of_gateway (hagent : s'.agent = s.agent) (hbudget : s'.agentBudget = s.agentBudget)
    (htoAgent : s'.toAgent = s.toAgent ++ frames)
    (hframes : ∀ w, weight w frames = label.toAgent w) :
    AgentQueue sess mode s s' label := by
  refine .passed (by rw [hagent]) hbudget ?_
  intro w hw
  have hsent := hframes w
  rw [weigh_agentInbox, weigh_agentInbox, hagent, htoAgent, weight_append]
  omega

theorem weigh_grantCredit (w : Bytes → Int) (ev : Gateway.StreamEvent) :
    weight w (grantCredit ev) = 0 := by
  cases ev with
  | granted size =>
    by_cases hsize : size ≤ 0 <;> simp [grantCredit, hsize]
  | _ => rfl

theorem openAgent_stream {grants : List StreamFrame}
    (h : openAgent sess mode = some (agent, grants)) :
    agent.stream = Agent.AgentStream.new mode true (Agent.openedStream sess mode).queueFrames.toNat
      (Agent.openedStream sess mode).inputBytes := by
  simp only [openAgent] at h
  split at h <;> cases h
  rfl

theorem agentQueue_of_step (hs : s.Sound terms) (hlocal : label.shares = false)
    (h : step sess mode s label = some s') : AgentQueue sess mode s s' label := by
  rcases steps_of_step hs h with h | h
  · cases h with
    | grantFirst => exact agentQueue_of_gateway rfl rfl rfl fun w => rfl
    | send hchunk => exact agentQueue_of_gateway rfl rfl rfl (by simp [hchunk, Label.toAgent])
    | stream => exact agentQueue_of_gateway rfl rfl rfl fun w => weigh_grantCredit w _
    | share => cases hlocal
    | _ => exact .of_le rfl rfl fun w _ => Int.le_refl _
  · cases h with
    | stream hagent hother hstep =>
      refine .worked _ _ _ _ hagent rfl hother hstep ?_
      simp [agentInbox, hagent]
    | opened hnone hframe hopen =>
      obtain ⟨-, -, -, -, hfree, -⟩ := openAgent_cases hopen
      refine .opened _ hnone rfl (openAgent_stream hopen) rfl fun w hw => ?_
      simpa [weigh_agentInbox, hnone, hfree] using weigh_eraseIdx_le hw s.toAgent _
    | miss | drop | lose =>
      refine .of_le rfl rfl fun w hw => ?_
      simpa [weigh_agentInbox] using weigh_eraseIdx_le hw s.toAgent _
    | take hagent hframe hfree =>
      refine .of_le (by simp [hagent]) rfl fun w _ => ?_
      simp [weigh_agentInbox, hagent, hfree, Ledger.total_eraseIdx hframe]
    | credit hagent hhand | refuse hagent hhand =>
      refine .of_le (by simp [hagent]) rfl fun w _ => ?_
      simp [weigh_agentInbox, hagent, hhand]
    | enqueue hagent hhand henqueue | reject hagent hhand henqueue =>
      refine .entered _ _ _ _ hagent rfl hhand henqueue fun w => ?_
      simp [weigh_agentInbox, hagent, hhand, Int.add_comm]
    | send hagent | detach hagent | close hagent =>
      refine .of_le (by simp [hagent]) rfl fun w _ => ?_
      simp [weigh_agentInbox, hagent]
    | absent => exact .of_le rfl rfl fun w _ => Int.le_refl _
    | share => cases hlocal

/-! ## The books of both receivers -/

/-- What one step does to the Gateway's side in sum: the session's budget follows what the stream
    retains, and slots and bytes are taken by what is sent only. -/
structure GatewayBooks (s s' : CreditState) (label : Label) : Prop where
  capacity : s'.gateway.stream.capacity = s.gateway.stream.capacity
  limit : s'.gateway.stream.streamBudget.limit = s.gateway.stream.streamBudget.limit
  session : s'.shared.sessionBudget = s.shared.sessionBudget.charge
    (s'.gateway.stream.retained - s.gateway.stream.retained)
  slots : s'.gateway.stream.incoming.length + weight oneSlot s'.gatewayInbox ≤
    s.gateway.stream.incoming.length + weight oneSlot s.gatewayInbox + label.toGateway oneSlot
  bytes : s'.gateway.stream.retained + weight byteSize s'.gatewayInbox ≤
    s.gateway.stream.retained + weight byteSize s.gatewayInbox + label.toGateway byteSize

theorem GatewayQueue.books (hs : s.Sound terms) (h : GatewayQueue s s' label) :
    GatewayBooks s s' label := by
  cases h with
  | passed hstream hshared hinbox =>
    have hslots := hinbox oneSlot oneSlot_nonneg
    have hbytes := hinbox byteSize byteSize_nonneg
    refine ⟨by rw [hstream], by rw [hstream], ?_, ?_, ?_⟩
    · simp [hstream, hshared]
    all_goals
      rw [hstream]
      omega
  | worked o ev hother hstep hinbox =>
    have hsent := label.toGateway_nonneg oneSlot_nonneg
    have hsize := label.toGateway_nonneg byteSize_nonneg
    obtain ⟨hkeeps, -⟩ := hs.accounted.step_keeps hother hstep
    obtain ⟨hkept, -⟩ := hs.accounted.step_credit hother hstep
    have hlength := hkeeps.incoming
    refine ⟨hkeeps.capacity, hkeeps.limit, ?_, ?_, ?_⟩
    · exact congrArg _ (hs.accounted.step hstep).2
    all_goals
      rw [hinbox]
      omega
  | entered payload ev hhand hstep hinbox =>
    have hsent := label.toGateway_nonneg oneSlot_nonneg
    have hsize := label.toGateway_nonneg byteSize_nonneg
    have hslots := hinbox oneSlot
    have hbytes := hinbox byteSize
    have hlength := byteSize_nonneg payload
    have hbalanced := hs.accounted.enqueue hstep
    -- the frame leaves the way, and enters the queue unless it is refused
    obtain ⟨-, ⟨err, -, hshared, hstream⟩ | ⟨-, -, -, hcharge, hstream⟩⟩ :=
      Gateway.Stream.enqueue_cases hstep
    · rw [oneSlot] at hslots
      refine ⟨by rw [hstream], by rw [hstream], ?_, ?_, ?_⟩
      · simp [hstream, hshared]
      all_goals
        rw [hstream]
        omega
    · have hretained := hbalanced.retained_eq hcharge
      refine ⟨by rw [hstream], by rw [hstream]; rfl, ?_, ?_, ?_⟩
      · exact congrArg _ hbalanced.2
      · rw [oneSlot] at hslots
        simp only [hstream, List.length_append, List.length_singleton]
        omega
      · rw [byteSize] at hbytes
        omega

/-- The payloads in the Agent's queue. -/
def agentQueue (s : CreditState) : List QueuedPayload :=
  match s.agent with
  | some agent => agent.stream.incoming
  | none => []

/-- The Agent's stream has the slots and the budget it was opened with, and its budget holds what is
    queued. -/
def AgentOpened (sess : Agent.AgentSession) (mode : StreamMode) (s : CreditState) : Prop :=
  ∀ agent, s.agent = some agent →
    agent.stream.capacity = (Agent.openedStream sess mode).queueFrames.toNat ∧
    agent.stream.streamBudget.limit = (Agent.openedStream sess mode).inputBytes ∧
    agent.stream.streamBudget.used = reserved agent.stream.incoming

/-- What one step does to the Agent's side in sum. -/
structure AgentBooks (sess : Agent.AgentSession) (mode : StreamMode) (s s' : CreditState)
    (label : Label) : Prop where
  opened : s.AgentOpened sess mode → s'.AgentOpened sess mode
  session : reserved s.agentQueue ≤ s.agentBudget.used →
    s'.agentBudget = { s.agentBudget with
      used := s.agentBudget.used + (reserved s'.agentQueue - reserved s.agentQueue) }
  slots : s'.agentQueue.length + weight oneSlot s'.agentInbox ≤
    s.agentQueue.length + weight oneSlot s.agentInbox + label.toAgent oneSlot
  bytes : reserved s'.agentQueue + weight byteSize s'.agentInbox ≤
    reserved s.agentQueue + weight byteSize s.agentInbox + label.toAgent byteSize

theorem agentQueue_of_some (h : s.agent = some agent) :
    s.agentQueue = agent.stream.incoming := by
  simp [agentQueue, h]

theorem agentQueue_of_stream (h : s'.agent.map (·.stream) = s.agent.map (·.stream)) :
    s'.agentQueue = s.agentQueue := by
  unfold agentQueue
  cases hagent : s.agent with
  | none =>
    cases hagent' : s'.agent with
    | none => rfl
    | some agent' => simp [hagent, hagent'] at h
  | some agent =>
    cases hagent' : s'.agent with
    | none => simp [hagent, hagent'] at h
    | some agent' =>
      have hstream : agent'.stream = agent.stream := by simpa [hagent, hagent'] using h
      simp [hstream]

theorem AgentOpened.of_stream (h : s'.agent.map (·.stream) = s.agent.map (·.stream))
    (hopened : s.AgentOpened sess mode) : s'.AgentOpened sess mode := by
  intro agent' hagent'
  have hmap : s.agent.map (·.stream) = some agent'.stream := by rw [← h, hagent']; rfl
  obtain ⟨agent, hagent, hstream⟩ := Option.map_eq_some_iff.mp hmap
  rw [← hstream]
  exact hopened agent hagent

/-- A step that takes the first payload out of the queue, or none. -/
theorem AgentBooks.of_dequeues (hagent : s.agent = some agent) (hagent' : s'.agent = some agent')
    (h : Agent.AgentStream.Dequeues s.agentBudget s'.agentBudget agent.stream agent'.stream)
    (hinbox : s'.agentInbox = s.agentInbox) : AgentBooks sess mode s s' label := by
  have hsent := label.toAgent_nonneg oneSlot_nonneg
  have hsize := label.toAgent_nonneg byteSize_nonneg
  have hqueue := agentQueue_of_some hagent
  have hqueue' := agentQueue_of_some hagent'
  rcases h.queue with ⟨queued, hincoming, hsession, hstream⟩ | ⟨hincoming, hsession, hstream⟩
  · have hnonneg := queued.size_nonneg
    have hrest := reserved_nonneg agent'.stream.incoming
    have hreserved : reserved s.agentQueue = queued.size + reserved s'.agentQueue := by
      rw [hqueue, hqueue', hincoming, reserved_cons]
    refine ⟨?_, ?_, ?_, ?_⟩
    · intro hopened side hside
      cases hagent'.symm.trans hside
      obtain ⟨hcapacity, hlimit, hused⟩ := hopened agent hagent
      rw [hincoming, reserved_cons] at hused
      rw [hstream, Agent.ByteBudget.release_of_le hnonneg (by omega)]
      refine ⟨h.capacity.trans hcapacity, hlimit, ?_⟩
      simp only [hused]
      omega
    · intro hle
      rw [← hqueue'] at hrest
      rw [hsession, Agent.ByteBudget.release_of_le hnonneg (by omega), hreserved]
      simp only [Agent.ByteBudget.mk.injEq, true_and]
      omega
    · rw [hqueue, hqueue', hincoming, hinbox, List.length_cons]
      omega
    · rw [hreserved, hinbox]
      omega
  · have hsame : s'.agentQueue = s.agentQueue := by rw [hqueue, hqueue', hincoming]
    refine ⟨?_, ?_, ?_, ?_⟩
    · intro hopened side hside
      cases hagent'.symm.trans hside
      rw [hincoming, hstream, h.capacity]
      exact hopened agent hagent
    · intro _
      simp [hsame, hsession]
    all_goals
      rw [hsame, hinbox]
      omega

/-- A step that enqueues the payload in the hand of the reader loop. -/
theorem AgentBooks.of_enqueue {payload : Bytes}
    {ev : Agent.StreamEvent} (hagent : s.agent = some agent) (hagent' : s'.agent = some agent')
    (h : agent.stream.enqueue s.agentBudget payload = some (s'.agentBudget, agent'.stream, ev))
    (hinbox : ∀ w, weight w s.agentInbox = weight w s'.agentInbox + w payload) :
    AgentBooks sess mode s s' label := by
  have hsent := label.toAgent_nonneg oneSlot_nonneg
  have hsize := label.toAgent_nonneg byteSize_nonneg
  have hslots : _ = _ + (1 : Int) := hinbox oneSlot
  have hbytes : _ = _ + (payload.length : Int) := hinbox byteSize
  have hqueue := agentQueue_of_some hagent
  have hqueue' := agentQueue_of_some hagent'
  have hnonneg := reserved_nonneg agent.stream.incoming
  rcases Agent.AgentStream.enqueue_cases h with
    ⟨-, hsession, streamBudget, hrefund, hstream⟩ |
    ⟨-, -, -, hsession, streamBudget, hacquire, hstream⟩
  · have hsame : s'.agentQueue = s.agentQueue := by rw [hqueue, hqueue', hstream]
    refine ⟨?_, ?_, ?_, ?_⟩
    · intro hopened side hside
      cases hagent'.symm.trans hside
      have hbefore := hopened agent hagent
      rw [hstream, hrefund.eq (by omega)]
      exact hbefore
    · intro hle
      rw [hqueue] at hle
      simp [hsame, hsession.eq (by omega)]
    all_goals
      rw [hsame]
      omega
  · obtain ⟨-, hstreamUsed⟩ := Agent.ByteBudget.tryAcquire_eq_some hacquire
    obtain ⟨-, hsessionUsed⟩ := Agent.ByteBudget.tryAcquire_eq_some hsession
    have hentered : s'.agentQueue = s.agentQueue ++ [QueuedPayload.ofData payload] := by
      rw [hqueue, hqueue', hstream]
    have hreserved : reserved s'.agentQueue = reserved s.agentQueue + payload.length := by
      simp [hentered, QueuedPayload.ofData]
    refine ⟨?_, ?_, ?_, ?_⟩
    · intro hopened side hside
      cases hagent'.symm.trans hside
      obtain ⟨hcapacity, hlimit, hused⟩ := hopened agent hagent
      rw [hqueue, hqueue'] at hreserved
      refine ⟨?_, ?_, ?_⟩
      · rw [hstream]
        exact hcapacity
      · rw [hstream, hstreamUsed]
        exact hlimit
      · rw [hreserved, hstream, hstreamUsed, ← hused]
    · intro _
      rw [hsessionUsed, hreserved]
      simp
    · rw [hentered, List.length_append, List.length_singleton]
      omega
    · rw [hreserved]
      omega

theorem AgentQueue.books (h : AgentQueue sess mode s s' label) :
    AgentBooks sess mode s s' label := by
  have hsent := label.toAgent_nonneg oneSlot_nonneg
  have hsize := label.toAgent_nonneg byteSize_nonneg
  cases h with
  | passed hagent hbudget hinbox =>
    have hqueue := agentQueue_of_stream hagent
    have hslots := hinbox oneSlot oneSlot_nonneg
    have hbytes := hinbox byteSize byteSize_nonneg
    refine ⟨AgentOpened.of_stream hagent, ?_, ?_, ?_⟩
    · intro _
      simp [hqueue, hbudget]
    all_goals
      rw [hqueue]
      omega
  | worked agent agent' o ev hagent hagent' hother hstep hinbox =>
    exact .of_dequeues hagent hagent' (Agent.AgentStream.step_dequeues hother hstep) hinbox
  | entered agent agent' payload ev hagent hagent' hhand hstep hinbox =>
    exact .of_enqueue hagent hagent' hstep hinbox
  | opened agent' hagent hagent' hstream hbudget hinbox =>
    have hempty : s.agentQueue = [] := by simp [agentQueue, hagent]
    have hempty' : s'.agentQueue = [] := by
      rw [agentQueue_of_some hagent', hstream]
      rfl
    have hslots := hinbox oneSlot oneSlot_nonneg
    have hbytes := hinbox byteSize byteSize_nonneg
    refine ⟨?_, ?_, ?_, ?_⟩
    · intro _ side hside
      cases hagent'.symm.trans hside
      rw [hstream]
      exact ⟨rfl, rfl, rfl⟩
    · intro _
      simp [hempty, hempty', hbudget]
    all_goals
      rw [hempty, hempty']
      omega

end Steps

end CreditState

end Hooshix.Tunnel
