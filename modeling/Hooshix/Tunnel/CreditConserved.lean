-- SUMMARY: No run of a flow-controlled stream has more credit out than was issued first.
import Hooshix.Tunnel.CreditSteps

/-! # Conservation of credit

No step makes credit, so the sum of a direction stays below what was issued first. A step loses some
only if it forfeits it or ends the stream.
-/

namespace Hooshix.Tunnel

open Contract TunnelWindow Ledger StreamFrame

namespace CreditState

variable {terms : Terms} {sess : Agent.AgentSession} {mode : StreamMode} {s s' : CreditState}
  {label : Label} {frames : List StreamFrame} {ev : Gateway.StreamEvent}

/-! ## What keeps credit -/

/-- The frame at place `i` would arrive before the `stream_open`. -/
def overtakes (s : CreditState) (i : Nat) : Bool :=
  s.toAgent.contains .streamOpen && s.toAgent[i]? != some .streamOpen

/-- A step with which credit is given up: a session's writer abandons a frame, the Agent's local writer
    fails with a payload in its hand, or the Gateway discards what it retains. Frames before the
    `stream_open` are dropped too, but a session's writer sends none. -/
def forfeits (s : CreditState) : Label → Bool
  | .loseToAgent i => i < s.toAgent.length
  | .loseToGateway i => i < s.toGateway.length
  | .gatewayStream (.discardRelease _) => true
  | .agentStream o => o.drops
  | .agentReceive i _ => s.agent.isNone && s.overtakes i
  | _ => false

/-- Neither party has ended the stream, and the Agent has it or will get its `stream_open`. -/
structure Unended (s : CreditState) : Prop where
  attached : s.gateway.attached = true
  window : s.gateway.window.closed = false
  opened : s.agent = none → .streamOpen ∈ s.toAgent
  agent : ∀ agent, s.agent = some agent → agent.attached = true ∧ agent.window.closed = false ∧
    agent.stream.finish = .notStarted

/-- The stream carries bytes under flow control, and its `stream_open` is sent once. -/
structure Plain (s : CreditState) : Prop where
  bytes : s.gateway.stream.datagram = false
  flow : ∀ agent, s.agent = some agent → agent.stream.flowControlled = true
  opens : s.toAgent.count .streamOpen ≤ 1

/-- No credit is made, and none is lost unless it is forfeited or the stream ends. -/
structure Keeps (terms : Terms) (s s' : CreditState) (label : Label) : Prop where
  toAgent : s'.toAgentSum terms.body ≤ s.toAgentSum terms.body
  toGateway : s'.toGatewaySum + s'.firstGrant.getD 0 ≤ s.toGatewaySum + s.firstGrant.getD 0
  exact : s.Plain → s.forfeits label = false → s'.Unended → s.Unended ∧
    s'.toAgentSum terms.body = s.toAgentSum terms.body ∧
    s'.toGatewaySum + s'.firstGrant.getD 0 = s.toGatewaySum + s.firstGrant.getD 0

theorem Keeps.same (htoAgent : s'.toAgentSum terms.body = s.toAgentSum terms.body)
    (htoGateway : s'.toGatewaySum + s'.firstGrant.getD 0 = s.toGatewaySum + s.firstGrant.getD 0)
    (hunended : s'.Unended → s.Unended) : Keeps terms s s' label :=
  ⟨Int.le_of_eq htoAgent, Int.le_of_eq htoGateway, fun _ _ h => ⟨hunended h, htoAgent, htoGateway⟩⟩

theorem Keeps.ended (htoAgent : s'.toAgentSum terms.body ≤ s.toAgentSum terms.body)
    (htoGateway : s'.toGatewaySum + s'.firstGrant.getD 0 ≤ s.toGatewaySum + s.firstGrant.getD 0)
    (hended : ¬ s'.Unended) : Keeps terms s s' label :=
  ⟨htoAgent, htoGateway, fun _ _ h => absurd h hended⟩

/-- The sum to the Agent, place by place. -/
theorem toAgentSum_eq (pledge : Int) (s : CreditState) :
    s.toAgentSum pledge = s.gateway.window.credit +
      (total (·.bytes pledge) (s.agent.bind (·.handling)).toList +
        total (·.bytes pledge) s.toAgent) + s.agentHeld +
      (total (·.credit) s.gateway.handling.toList + total (·.credit) s.toGateway) := by
  simp [toAgentSum, outstanding, agentInbox, gatewayInbox]

/-- The sum to the Gateway, place by place. -/
theorem toGatewaySum_eq (s : CreditState) :
    s.toGatewaySum = s.agentCredit +
      (total (·.bytes 0) s.gateway.handling.toList + total (·.bytes 0) s.toGateway) +
      s.gateway.stream.retained +
      (total (·.credit) (s.agent.bind (·.handling)).toList +
        total (·.credit) s.toAgent) := by
  simp [toGatewaySum, outstanding, agentInbox, gatewayInbox]

/-- More frames for the Agent do not open the stream again. -/
theorem Unended.of_append (h : s'.Unended) (hattached : s'.gateway.attached = s.gateway.attached)
    (hwindow : s'.gateway.window.closed = s.gateway.window.closed) (hagent : s'.agent = s.agent)
    (htoAgent : s'.toAgent = s.toAgent ++ frames) (hframes : .streamOpen ∉ frames) : s.Unended where
  attached := hattached ▸ h.attached
  window := hwindow ▸ h.window
  opened := by
    intro hnone
    have hmem := h.opened (hagent.trans hnone)
    rw [htoAgent, List.mem_append] at hmem
    exact hmem.resolve_right hframes
  agent := hagent ▸ h.agent

theorem total_grantCredit (hle : ev.grants ≤ maxWindowCreditBytes) :
    (∀ frame ∈ grantCredit ev, frame.Proper ∧ frame ≠ .streamOpen) ∧
      (∀ pledge, total (·.bytes pledge) (grantCredit ev) = 0) ∧
      total (·.credit) (grantCredit ev) = max ev.grants 0 := by
  cases ev with
  | granted size =>
    by_cases hsize : size ≤ 0
    · simp [grantCredit, hsize, Gateway.StreamEvent.grants]
    · have hpos : 0 < size := by omega
      have hproper : (sendWindowUpdate size).Proper := proper_sendWindowUpdate hpos hle
      have hcredit := credit_sendWindowUpdate (Int.le_of_lt hpos) hle
      have hmax : max size 0 = size := by omega
      simp [grantCredit, hsize, hproper, hcredit, Gateway.StreamEvent.grants, hmax]
      simp [sendWindowUpdate]
  | _ => simp [grantCredit, Gateway.StreamEvent.grants]

/-- A grant for a whole terminal tail is one frame, so its size needs the bound on the sum. -/
theorem Sound.grants_le {o : Gateway.Stream.Op} {shared : Gateway.SharedBudgets}
    {stream : Gateway.Stream} (hs : s.Sound terms) (hother : ∀ data, o ≠ .enqueue data)
    (hstep : s.gateway.stream.step s.shared o = .next (shared, stream, ev)) :
    ev.grants ≤ maxWindowCreditBytes := by
  have hreturned := (hs.accounted.step_credit hother hstep).2
  have hnonneg := (hs.accounted.step hstep).1.retained_nonneg
  have hfirst := hs.first_nonneg
  have hretained := hs.retained_le
  omega

/-- The first grant is positive, and bounded by the sum of which it is a part. -/
theorem Sound.first_bounds (hs : s.Sound terms) {size : Int} (hfirst : s.firstGrant = some size) :
    0 < size ∧ size ≤ maxWindowCreditBytes := by
  have hle := hs.retained_le
  have hretained := hs.accounted.retained_nonneg
  rw [hfirst, Option.getD_some] at hle
  exact ⟨hs.first size hfirst, by omega⟩

/-- Losing a frame to the Gateway makes no credit. -/
theorem loseToGateway_le (pledge : Int) (s : CreditState) (i : Nat) :
    toAgentSum pledge { s with toGateway := s.toGateway.eraseIdx i } ≤ s.toAgentSum pledge ∧
      toGatewaySum { s with toGateway := s.toGateway.eraseIdx i } ≤ s.toGatewaySum := by
  have hbytes : total (·.bytes 0) (s.toGateway.eraseIdx i) ≤ _ :=
    total_eraseIdx_le (fun frame _ => frame.bytes_nonneg (Int.le_refl 0)) i
  have hcredit : total (·.credit) (s.toGateway.eraseIdx i) ≤ _ :=
    total_eraseIdx_le (fun frame _ => frame.credit_nonneg) i
  simp only [toAgentSum_eq, toGatewaySum_eq, agentHeld, agentCredit]
  omega

theorem loseToAgent_le {pledge : Int} (hpledge : 0 ≤ pledge) (s : CreditState) (i : Nat) :
    toAgentSum pledge { s with toAgent := s.toAgent.eraseIdx i } ≤ s.toAgentSum pledge ∧
      toGatewaySum { s with toAgent := s.toAgent.eraseIdx i } ≤ s.toGatewaySum := by
  have hbytes : total (·.bytes pledge) (s.toAgent.eraseIdx i) ≤ _ :=
    total_eraseIdx_le (fun frame _ => frame.bytes_nonneg hpledge) i
  have hcredit : total (·.credit) (s.toAgent.eraseIdx i) ≤ _ :=
    total_eraseIdx_le (fun frame _ => frame.credit_nonneg) i
  simp only [toAgentSum_eq, toGatewaySum_eq, agentHeld, agentCredit]
  omega

-- the sums place by place, so that a step changes the places it touches
attribute [local simp] toAgentSum_eq toGatewaySum_eq agentHeld agentCredit bytes.eq_1
  bytes.eq_2 bytes.eq_3 credit.eq_1 credit.eq_2

theorem GatewaySteps.keeps (hs : s.Sound terms) (h : GatewaySteps s label s') :
    Keeps terms s s' label := by
  cases h with
  | grantFirst hfirst =>
    obtain ⟨hpos, hle⟩ := hs.first_bounds hfirst
    have hcredit := credit_sendWindowUpdate (Int.le_of_lt hpos) hle
    refine .same ?_ ?_ fun h => h.of_append rfl rfl rfl rfl (by simp [sendWindowUpdate])
    · simp
    · simp [hfirst, hcredit]
      omega
  | send =>
    refine .same ?_ ?_ fun h => h.of_append rfl rfl rfl rfl (by simp)
    · simp
      omega
    · simp
  | @stream o _ _ ev hother hstep =>
    obtain ⟨hkept, hreturned⟩ := hs.accounted.step_credit hother hstep
    obtain ⟨hframes, hbytes, hcredit⟩ := total_grantCredit (hs.grants_le hother hstep)
    refine ⟨?_, ?_, fun hplain hkeep hunended => ⟨?_, ?_, ?_⟩⟩
    · simp [hbytes]
    · simp [hcredit]
      omega
    · exact hunended.of_append rfl rfl rfl rfl fun hopen => (hframes _ hopen).2 rfl
    · simp [hbytes]
    · have hpacket : ∀ data, ev ≠ .packet data := fun data hdata => by
        cases hplain.bytes.symm.trans ((hs.accounted.step_keeps hother hstep).2 data hdata)
      have hdiscard : ∀ i, o ≠ .discardRelease i := by
        rintro i rfl
        cases hkeep
      have hgrants := hs.accounted.step_grants hother hpacket hdiscard hstep
      simp [hcredit]
      omega
  | take hframe hfree =>
    refine .same ?_ ?_ fun h => { h with }
    all_goals simp [hfree, total_eraseIdx hframe]
  | drop hdetached =>
    obtain ⟨htoAgent, htoGateway⟩ := loseToGateway_le terms.body s _
    exact .ended htoAgent (Int.add_le_add_right htoGateway _) fun h => by
      cases hdetached.symm.trans h.attached
  | credit hhand =>
    refine .same ?_ ?_ fun h => { h with }
    · simp [hhand]
      omega
    · simp [hhand]
  | refuse hhand =>
    refine .ended ?_ ?_ fun h => by cases h.attached
    all_goals simp [hhand]
  | enqueue hhand henqueue hkept =>
    have hretained := (hs.accounted.enqueue_kept henqueue hkept).1
    refine .same ?_ ?_ fun h => { h with }
    · simp [hhand]
    · simp [hhand, hretained]
      omega
  | reject hhand henqueue =>
    have hretained := hs.accounted.enqueue_retained henqueue
    refine .ended ?_ ?_ fun h => by cases h.attached
    · simp [hhand]
    · simp [hhand]
      omega
  | detach => exact .ended (Int.le_refl _) (Int.le_refl _) fun h => by cases h.attached
  | close cause =>
    refine .ended ?_ (Int.le_refl _) fun h => by cases (close_closed _).symm.trans h.window
    simp
  | lose i =>
    obtain ⟨htoAgent, htoGateway⟩ := loseToGateway_le terms.body s i
    refine ⟨htoAgent, Int.add_le_add_right htoGateway _, fun _ hkeep hunended => ?_⟩
    -- only a frame that is not there can be lost
    have hlength : s.toGateway.length ≤ i := by simpa [forfeits] using hkeep
    rw [List.eraseIdx_of_length_le hlength] at hunended ⊢
    exact ⟨hunended, rfl, rfl⟩
  | share shared => exact .same rfl rfl fun h => { h with }

/-- The first grant of an Agent is positive and within the contract's bound. -/
theorem bodyCredit_bounds (sess : Agent.AgentSession) (mode : StreamMode) :
    ∀ size, (Agent.openedStream sess mode).bodyCredit = some size →
      0 < size ∧ size ≤ maxWindowCreditBytes := by
  intro size h
  simp only [Agent.openedStream] at h
  split at h <;> cases h
  exact ⟨initialCredit_pos _, initialCredit_le_max _⟩

/-- The frame of a grant is worth the grant. -/
theorem total_grant {grant : Option Int}
    (hgrant : ∀ size, grant = some size → 0 < size ∧ size ≤ maxWindowCreditBytes) :
    (∀ frame ∈ (grant.map sendWindowUpdate).toList, frame.Proper) ∧
      total (·.credit) (grant.map sendWindowUpdate).toList = grant.getD 0 ∧
      ∀ pledge, total (·.bytes pledge) (grant.map sendWindowUpdate).toList = 0 := by
  cases grant with
  | none => simp
  | some size =>
    obtain ⟨hpos, hle⟩ := hgrant size rfl
    simp [proper_sendWindowUpdate hpos hle, credit_sendWindowUpdate (Int.le_of_lt hpos) hle]

theorem openAgent_cases {sess : Agent.AgentSession} {mode : StreamMode}
    {agent : Side Agent.AgentStream} {grants : List StreamFrame}
    (h : openAgent sess mode = some (agent, grants)) :
    agent.stream.Solvent maxDataPayload ∧ agent.stream.unreturned = 0 ∧
      agent.stream.flowControlled = true ∧
      agent.window = Window.new maxWindowCreditBytes ∧ agent.handling = none ∧
      grants = ((Agent.openedStream sess mode).bodyCredit.map sendWindowUpdate).toList := by
  simp only [openAgent] at h
  split at h <;> cases h
  next window hwindow =>
    refine ⟨Agent.AgentStream.Solvent.new (by simp), ?_, rfl, ?_, rfl, rfl⟩
    · simp [Agent.AgentStream.unreturned, Agent.AgentStream.new, Agent.LocalWriter.owed]
    · simp only [Agent.openedStream] at hwindow
      split at hwindow <;> cases hwindow
      rfl

theorem Unended.of_agent {agent agent' : Side Agent.AgentStream} (h : s'.Unended)
    (hagent : s.agent = some agent) (hagent' : s'.agent = some agent')
    (hgateway : s'.gateway = s.gateway) (hattached : agent'.attached = agent.attached)
    (hwindow : agent'.window.closed = agent.window.closed)
    (hfinish : agent'.stream.finish = agent.stream.finish) : s.Unended where
  attached := hgateway ▸ h.attached
  window := hgateway ▸ h.window
  opened := by simp [hagent]
  agent := by
    intro side hside
    cases hagent.symm.trans hside
    rw [← hattached, ← hwindow, ← hfinish]
    exact h.agent agent' hagent'

variable (hs : s.Sound terms)

include hs

/-- One payload is at most one data frame, which is far below the bound of a grant. -/
theorem Sound.credit_bounds {agent : Side Agent.AgentStream} (hagent : s.agent = some agent)
    (o : Agent.AgentStream.Op) :
    ∀ size, agent.stream.credit o = some size → 0 < size ∧ size ≤ maxWindowCreditBytes := by
  intro size h
  obtain ⟨hpos, hle⟩ := (hs.solvent agent hagent).credit_bounds h
  exact ⟨hpos, Int.le_trans hle (by simp [maxDataPayload, maxWindowCreditBytes])⟩

/-- Data in the hand of the reader loop is at most one data frame. -/
theorem Sound.solvent_enqueue {agent : Side Agent.AgentStream} {payload : Bytes}
    {agentBudget : Agent.ByteBudget} {stream : Agent.AgentStream} {ev : Agent.StreamEvent}
    (hagent : s.agent = some agent) (hhand : agent.handling = some (.data payload))
    (henqueue : agent.stream.enqueue s.agentBudget payload = some (agentBudget, stream, ev)) :
    Agent.AgentStream.Repays maxDataPayload agent.stream stream payload.length 0 := by
  have hmem : data payload ∈ s.agentInbox := by simp [agentInbox, hagent, hhand]
  exact (hs.solvent agent hagent).enqueue (Int.ofNat_le.mpr (hs.agentFrames _ hmem)) henqueue

theorem AgentSteps.keeps (hbody : terms.body = (Agent.openedStream sess mode).bodyCredit.getD 0)
    (h : AgentSteps sess mode s label s') : Keeps terms s s' label := by
  cases h with
  | send hagent =>
    refine .same ?_ ?_ fun h => h.of_agent hagent rfl rfl rfl rfl rfl
    · simp [hagent]
    · simp [hagent]
      omega
  | @stream o _ _ stream _ hagent hother hstep =>
    have hsolvent := hs.solvent _ hagent
    obtain ⟨-, hrepaid⟩ := hsolvent.step hother hstep
    obtain ⟨-, hcredit, hbytes⟩ := total_grant (hs.credit_bounds hagent o)
    refine ⟨?_, ?_, fun hplain hkeep hunended => ?_⟩
    · simp [hagent, hcredit]
      omega
    · simp [hagent, hbytes]
    · have hopen : stream.finish = .notStarted := (hunended.agent _ rfl).2.2
      obtain ⟨hfinish, hexact⟩ :=
        hsolvent.step_exact hother hkeep (hplain.flow _ hagent) hopen hstep
      refine ⟨hunended.of_agent hagent rfl rfl rfl rfl (hopen.trans hfinish.symm), ?_, ?_⟩
      · simp [hagent, hcredit]
        omega
      · simp [hagent, hbytes]
  | opened hnone hframe hopen =>
    obtain ⟨-, hunreturned, -, hwindow, hfree, rfl⟩ := openAgent_cases hopen
    -- the pledge leaves the sum with the `stream_open` and comes back as the grant
    obtain ⟨-, hcredit, hbytes⟩ := total_grant (bodyCredit_bounds sess mode)
    rw [← hbody] at hcredit
    refine .same ?_ ?_ fun h =>
      { h with opened := fun _ => List.mem_of_getElem? hframe, agent := by simp [hnone] }
    · simp [hnone, hfree, hunreturned, hcredit, total_eraseIdx hframe]
      omega
    · simp [hnone, hfree, hwindow, Window.new, hbytes, total_eraseIdx hframe]
  | @miss i _ frame hnone hframe =>
    obtain ⟨htoAgent, htoGateway⟩ := loseToAgent_le terms.body_nonneg s i
    refine ⟨htoAgent, Int.add_le_add_right htoGateway _, fun hplain hkeep hunended => ?_⟩
    -- nothing overtakes the `stream_open`, and the only one is gone
    have hmem : .streamOpen ∈ s.toAgent.eraseIdx i := hunended.opened hnone
    have hfirst : frame = .streamOpen := by
      simpa [forfeits, hnone, overtakes, hframe, List.mem_of_mem_eraseIdx hmem] using hkeep
    obtain ⟨hi, hframe⟩ := List.getElem?_eq_some_iff.mp hframe
    have hcount := (List.getElem_cons_eraseIdx_perm hi).count_eq .streamOpen
    rw [hframe, hfirst, List.count_cons_self] at hcount
    have hpos := List.count_pos_iff.mpr hmem
    have hopens := hplain.opens
    omega
  | take hagent hframe hfree =>
    refine .same ?_ ?_ fun h => h.of_agent hagent rfl rfl rfl rfl rfl
    all_goals simp [hagent, hfree, total_eraseIdx hframe]
  | drop hagent hdetached =>
    obtain ⟨htoAgent, htoGateway⟩ := loseToAgent_le terms.body_nonneg s _
    exact .ended htoAgent (Int.add_le_add_right htoGateway _) fun h => by
      cases hdetached.symm.trans (h.agent _ hagent).1
  | credit hagent hhand =>
    refine .same ?_ ?_ fun h => h.of_agent hagent rfl rfl rfl rfl rfl
    · simp [hagent, hhand]
    · simp [hagent, hhand]
      omega
  | refuse hagent hhand =>
    refine .ended ?_ ?_ fun h => by cases (h.agent _ rfl).1
    all_goals simp [hagent, hhand]
  | enqueue hagent hhand henqueue hkept =>
    obtain ⟨hentered, hfinish⟩ := Agent.AgentStream.enqueue_exact henqueue hkept
    refine .same ?_ ?_ fun h => h.of_agent hagent rfl rfl rfl rfl hfinish
    · simp [hagent, hhand, hentered]
      omega
    · simp [hagent, hhand]
  | reject hagent hhand henqueue =>
    have hentered := (hs.solvent_enqueue hagent hhand henqueue).2
    refine .ended ?_ ?_ fun h => by cases (h.agent _ rfl).1
    · simp [hagent, hhand]
      omega
    · simp [hagent, hhand]
  | detach hagent =>
    refine .ended ?_ ?_ fun h => by cases (h.agent _ rfl).1
    all_goals simp [hagent]
  | close hagent cause =>
    refine .ended ?_ ?_ fun h => by cases (close_closed _).symm.trans (h.agent _ rfl).2.1
    all_goals simp [hagent]
  | absent => exact .same rfl rfl id
  | lose i =>
    obtain ⟨htoAgent, htoGateway⟩ := loseToAgent_le terms.body_nonneg s i
    refine ⟨htoAgent, Int.add_le_add_right htoGateway _, fun _ hkeep hunended => ?_⟩
    have hlength : s.toAgent.length ≤ i := by simpa [forfeits] using hkeep
    rw [List.eraseIdx_of_length_le hlength] at hunended ⊢
    exact ⟨hunended, rfl, rfl⟩
  | share agentBudget => exact .same rfl rfl fun h => { h with }

/-! ## Every step keeps a sound state -/

/-- The frames for the Agent after some more were sent. -/
theorem Sound.agentFrames_append (hframes : ∀ frame ∈ frames, frame.Proper) :
    ∀ frame ∈ (s.agent.bind (·.handling)).toList ++ (s.toAgent ++ frames), frame.Proper := by
  rw [← List.append_assoc]
  exact List.forall_mem_append.mpr ⟨hs.agentFrames, hframes⟩

theorem Sound.gatewayFrames_append (hframes : ∀ frame ∈ frames, frame.Proper) :
    ∀ frame ∈ s.gateway.handling.toList ++ (s.toGateway ++ frames), frame.Proper := by
  rw [← List.append_assoc]
  exact List.forall_mem_append.mpr ⟨hs.gatewayFrames, hframes⟩

omit hs in
/-- A chunk is proper data. -/
theorem proper_chunk {payload chunk : Bytes} (hchunk : chunk = payload.take maxDataPayload) :
    ∀ frame ∈ [data chunk], frame.Proper := by
  have hlength : chunk.length ≤ maxDataPayload := hchunk ▸ List.length_take_le _ _
  simpa [Proper] using hlength

/-- A refusal for another reason than the grant's size is recorded. -/
theorem Sound.refuse {err : GoError} (herr : ¬ creditError err) :
    ∀ other ∈ s.refusals ++ [err], ¬ creditError other :=
  List.forall_mem_append.mpr ⟨hs.refusals, List.forall_mem_singleton.mpr herr⟩

theorem Sound.gateway (h : GatewaySteps s label s') : s'.Sound terms := by
  have hkeeps := h.keeps hs
  have toAgent := Int.le_trans hkeeps.toAgent hs.toAgent
  have toGateway := Int.le_trans hkeeps.toGateway hs.toGateway
  cases h with
  | grantFirst hfirst =>
    obtain ⟨hpos, hle⟩ := hs.first_bounds hfirst
    exact { hs with
      toAgent, toGateway
      agentFrames := hs.agentFrames_append
        (List.forall_mem_singleton.mpr (proper_sendWindowUpdate hpos hle))
      first := by simp }
  | send hchunk hcredit =>
    exact { hs with
      toAgent, toGateway
      window := { hs.window with credit := Int.sub_nonneg.mpr hcredit }
      agentFrames := hs.agentFrames_append (proper_chunk hchunk) }
  | stream hother hstep =>
    have hframes := (total_grantCredit (hs.grants_le hother hstep)).1
    exact { hs with
      toAgent, toGateway
      accounted := (hs.accounted.step hstep).1
      agentFrames := hs.agentFrames_append fun frame hframe => (hframes frame hframe).1 }
  | take hframe hfree =>
    refine { hs with toAgent, toGateway, gatewayFrames := ?_ }
    exact List.forall_mem_cons.mpr ⟨hs.toGateway_proper _ (List.mem_of_getElem? hframe),
      fun frame hin => hs.toGateway_proper frame (List.mem_of_mem_eraseIdx hin)⟩
  | drop | lose =>
    refine { hs with toAgent, toGateway, gatewayFrames := ?_ }
    exact fun frame hin =>
      hs.gatewayFrames frame (((List.eraseIdx_sublist _ _).append_left _).subset hin)
  | credit hhand =>
    exact { hs with
      toAgent, toGateway
      window := hs.window.add _
      gatewayFrames := hs.toGateway_proper }
  | refuse hhand herr =>
    exact { hs with
      toAgent, toGateway, gatewayFrames := hs.toGateway_proper, refusals := hs.refuse herr }
  | enqueue hhand henqueue hkept =>
    exact { hs with
      toAgent, toGateway
      accounted := (hs.accounted.enqueue henqueue).1
      gatewayFrames := hs.toGateway_proper }
  | reject hhand henqueue =>
    exact { hs with
      toAgent, toGateway
      accounted := (hs.accounted.enqueue henqueue).1
      window := hs.window.close (by simp [creditError, errCreditBounds, errorsNew])
      gatewayFrames := hs.toGateway_proper }
  | close cause => exact { hs with toAgent, toGateway, window := hs.window.close cause.other }
  | detach | share => exact { hs with toAgent, toGateway }

omit hs in
theorem forall_some {α : Type} {p : α → Prop} {a : α} (h : p a) : ∀ b, some a = some b → p b := by
  simpa using h

/-- What a sound state knows of the Agent's side. -/
theorem Sound.side {agent : Side Agent.AgentStream} (hagent : s.agent = some agent) :
    agent.stream.Solvent maxDataPayload ∧ WindowSound maxWindowCreditBytes agent.window ∧
      ∀ frame ∈ agent.handling.toList ++ s.toAgent, frame.Proper := by
  have hframes := hs.agentFrames
  rw [agentInbox, hagent] at hframes
  exact ⟨hs.solvent agent hagent, hs.agentWindow agent hagent, hframes⟩

theorem Sound.agent (hbody : terms.body = (Agent.openedStream sess mode).bodyCredit.getD 0)
    (h : AgentSteps sess mode s label s') : s'.Sound terms := by
  have hkeeps := h.keeps hs hbody
  have toAgent := Int.le_trans hkeeps.toAgent hs.toAgent
  have toGateway := Int.le_trans hkeeps.toGateway hs.toGateway
  cases h with
  | send hagent hchunk hcredit =>
    obtain ⟨hsolvent, hwindow, agentFrames⟩ := hs.side hagent
    exact { hs with
      toAgent, toGateway, agentFrames
      solvent := forall_some hsolvent
      agentWindow := forall_some { hwindow with credit := Int.sub_nonneg.mpr hcredit }
      gatewayFrames := hs.gatewayFrames_append (proper_chunk hchunk) }
  | stream hagent hother hstep =>
    obtain ⟨hsolvent, hwindow, agentFrames⟩ := hs.side hagent
    exact { hs with
      toAgent, toGateway, agentFrames
      solvent := forall_some (hsolvent.step hother hstep).1
      agentWindow := forall_some hwindow
      gatewayFrames := hs.gatewayFrames_append (total_grant (hs.credit_bounds hagent _)).1 }
  | opened hnone hframe hopen =>
    obtain ⟨hsolvent, -, -, hwindow, hfree, rfl⟩ := openAgent_cases hopen
    refine { hs with
      toAgent, toGateway
      solvent := forall_some hsolvent
      agentWindow := forall_some (hwindow ▸ ⟨Int.le_refl 0, rfl, by simp [Window.new]⟩)
      agentFrames := ?_
      gatewayFrames := hs.gatewayFrames_append (total_grant (bodyCredit_bounds sess mode)).1 }
    intro frame hin
    rw [agentInbox, Option.bind_some, hfree] at hin
    exact hs.toAgent_proper frame (List.mem_of_mem_eraseIdx hin)
  | miss | drop | lose =>
    refine { hs with toAgent, toGateway, agentFrames := ?_ }
    exact fun frame hin =>
      hs.agentFrames frame (((List.eraseIdx_sublist _ _).append_left _).subset hin)
  | take hagent hframe hfree =>
    obtain ⟨hsolvent, hwindow, -⟩ := hs.side hagent
    refine { hs with
      toAgent, toGateway
      solvent := forall_some hsolvent
      agentWindow := forall_some hwindow
      agentFrames := ?_ }
    exact List.forall_mem_cons.mpr ⟨hs.toAgent_proper _ (List.mem_of_getElem? hframe),
      fun frame hin => hs.toAgent_proper frame (List.mem_of_mem_eraseIdx hin)⟩
  | credit hagent hhand =>
    obtain ⟨hsolvent, hwindow, -⟩ := hs.side hagent
    exact { hs with
      toAgent, toGateway
      solvent := forall_some hsolvent
      agentWindow := forall_some (hwindow.add _)
      agentFrames := hs.toAgent_proper }
  | refuse hagent hhand herr =>
    obtain ⟨hsolvent, hwindow, -⟩ := hs.side hagent
    exact { hs with
      toAgent, toGateway
      solvent := forall_some hsolvent
      agentWindow := forall_some hwindow
      agentFrames := hs.toAgent_proper
      refusals := hs.refuse herr }
  | enqueue hagent hhand henqueue =>
    obtain ⟨-, hwindow, -⟩ := hs.side hagent
    exact { hs with
      toAgent, toGateway
      solvent := forall_some (hs.solvent_enqueue hagent hhand henqueue).1
      agentWindow := forall_some hwindow
      agentFrames := hs.toAgent_proper }
  | reject hagent hhand henqueue =>
    obtain ⟨-, hwindow, -⟩ := hs.side hagent
    exact { hs with
      toAgent, toGateway
      solvent := forall_some (hs.solvent_enqueue hagent hhand henqueue).1
      agentWindow := forall_some (hwindow.close
        (by simp [creditError, errStreamClosed, errCreditBounds, errorsNew]))
      agentFrames := hs.toAgent_proper }
  | detach hagent =>
    obtain ⟨hsolvent, hwindow, agentFrames⟩ := hs.side hagent
    exact { hs with
      toAgent, toGateway, agentFrames
      solvent := forall_some hsolvent
      agentWindow := forall_some hwindow }
  | close hagent cause =>
    obtain ⟨hsolvent, hwindow, agentFrames⟩ := hs.side hagent
    exact { hs with
      toAgent, toGateway, agentFrames
      solvent := forall_some hsolvent
      agentWindow := forall_some (hwindow.close cause.other) }
  | absent => exact hs
  | share => exact { hs with toAgent, toGateway }

omit hs

theorem Sound.step (hbody : terms.body = (Agent.openedStream sess mode).bodyCredit.getD 0)
    (hs : s.Sound terms) (h : CreditState.step sess mode s label = some s') : s'.Sound terms := by
  rcases steps_of_step hs h with h | h
  · exact hs.gateway h
  · exact hs.agent hbody h

end CreditState

end Hooshix.Tunnel
