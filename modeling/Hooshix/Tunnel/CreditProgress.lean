-- SUMMARY: When the sender of a flow-controlled stream is sure to get the credit for its next chunk.
import Hooshix.Tunnel.CreditBudget

/-! # Progress under credit

No step makes credit. Here no step loses any either, as long as the stream is not ended and no frame of
it is abandoned: what is out in a direction is then all that was issued first. Once the receiver has
consumed everything, all of it is back at the sender, who can send a chunk exactly if the chunk is no
larger than that.
-/

namespace Hooshix.Tunnel

open Contract TunnelWindow StepSystem

namespace CreditState

/-- All that was issued first is still out. -/
structure Whole (terms : Terms) (s : CreditState) : Prop where
  toAgent : s.toAgentSum terms.body = headerAllowanceBytes + terms.body
  toGateway : s.toGatewaySum + s.firstGrant.getD 0 = terms.grant

/-- A stream that is not ended is whole. -/
structure Complete (terms : Terms) (s : CreditState) : Prop extends Plain s where
  whole : s.Unended → s.Whole terms

section Steps

variable {terms : Terms} {sess : Agent.AgentSession} {mode : StreamMode} {s s' : CreditState}
  {label : Label}

/-- Only frames that do not open the stream are sent after its `stream_open`. -/
theorem Plain.opens_append {frames : List StreamFrame} (hp : s.Plain)
    (hframes : .streamOpen ∉ frames) : (s.toAgent ++ frames).count .streamOpen ≤ 1 := by
  rw [List.count_append, List.count_eq_zero.mpr hframes]
  exact hp.opens

theorem Plain.opens_eraseIdx (hp : s.Plain) (i : Nat) :
    (s.toAgent.eraseIdx i).count .streamOpen ≤ 1 :=
  Nat.le_trans ((List.eraseIdx_sublist _ i).count_le _) hp.opens

theorem Plain.gateway (hs : s.Sound terms) (hp : s.Plain) (h : GatewaySteps s label s') :
    s'.Plain := by
  cases h with
  | grantFirst => exact { hp with opens := hp.opens_append (by simp [sendWindowUpdate]) }
  | send => exact { hp with opens := hp.opens_append (by simp) }
  | stream hother hstep =>
    have hframes := (total_grantCredit (hs.grants_le hother hstep)).1
    exact { hp with
      bytes := (hs.accounted.step_keeps hother hstep).1.datagram.trans hp.bytes
      opens := hp.opens_append fun hopen => (hframes _ hopen).2 rfl }
  | enqueue hhand henqueue hkept =>
    exact { hp with bytes := (hs.accounted.enqueue_kept henqueue hkept).2.trans hp.bytes }
  | reject hhand henqueue =>
    obtain ⟨-, ⟨err, -, -, rfl⟩ | ⟨hnot, -⟩⟩ := Gateway.Stream.enqueue_cases henqueue
    · exact { hp with }
    · cases hnot
  | _ => exact { hp with }

theorem Plain.agent (hp : s.Plain) (h : AgentSteps sess mode s label s') : s'.Plain := by
  cases h with
  | stream hagent hother hstep =>
    have hflow := (Agent.AgentStream.step_dequeues hother hstep).flowControlled
    exact { hp with flow := forall_some (hflow.trans (hp.flow _ hagent)) }
  | opened hnone hframe hopen =>
    exact { hp with
      flow := forall_some (openAgent_cases hopen).2.2.1
      opens := hp.opens_eraseIdx _ }
  | miss | drop | lose => exact { hp with opens := hp.opens_eraseIdx _ }
  | take hagent =>
    have hflow := hp.flow _ hagent
    exact { hp with flow := forall_some hflow, opens := hp.opens_eraseIdx _ }
  | enqueue hagent hhand henqueue | reject hagent hhand henqueue =>
    have hflow := Agent.AgentStream.enqueue_flowControlled henqueue
    exact { hp with flow := forall_some (hflow.trans (hp.flow _ hagent)) }
  | send hagent | credit hagent | refuse hagent | detach hagent | close hagent =>
    have hflow := hp.flow _ hagent
    exact { hp with flow := forall_some hflow }
  | absent | share => exact { hp with }

theorem Complete.step (hbody : terms.body = (Agent.openedStream sess mode).bodyCredit.getD 0)
    (hs : s.Sound terms) (hc : s.Complete terms) (hkeep : s.forfeits label = false)
    (h : CreditState.step sess mode s label = some s') : s'.Complete terms := by
  obtain ⟨hkeeps, hplain⟩ : Keeps terms s s' label ∧ s'.Plain := by
    rcases steps_of_step hs h with h | h
    · exact ⟨h.keeps hs, hc.toPlain.gateway hs h⟩
    · exact ⟨h.keeps hs hbody, hc.toPlain.agent h⟩
  refine { hplain with whole := ?_ }
  intro hunended
  obtain ⟨hbefore, htoAgent, htoGateway⟩ := hkeeps.exact hc.toPlain hkeep hunended
  exact ⟨htoAgent.trans (hc.whole hbefore).toAgent, htoGateway.trans (hc.whole hbefore).toGateway⟩

end Steps

/-! ## An idle stream -/

/-- The stream is open at both ends, and no frame of it is on its way or in hand. -/
structure Idle (s : CreditState) (agent : Side Agent.AgentStream) : Prop where
  unended : s.Unended
  opened : s.agent = some agent
  first : s.firstGrant = none
  agentInbox : s.agentInbox = []
  gatewayInbox : s.gatewayInbox = []

section Runs

variable {limits : Gateway.Limits} {sess : Agent.AgentSession} {mode : StreamMode}
  {shared : Gateway.SharedBudgets} {agentBudget : Agent.ByteBudget} {s : CreditState}

theorem Complete.start :
    (start limits shared agentBudget).Complete (terms limits sess mode) where
  whole := by
    intro _
    have hcredit : openWindow.credit = headerAllowanceBytes := by decide
    refine ⟨?_, ?_⟩
    · simp [toAgentSum_eq, CreditState.start, agentHeld, hcredit, StreamFrame.bytes]
    · simp [toGatewaySum_eq, CreditState.start, agentCredit, StreamFrame.credit, terms]
  bytes := rfl
  flow := by simp [CreditState.start]
  opens := by simp [CreditState.start]

theorem complete_of_run {labels : List Label}
    (hkeep : Along (step sess mode) (fun s label => s.forfeits label = false)
      (CreditState.start limits shared agentBudget) labels)
    (h : run (step sess mode) (CreditState.start limits shared agentBudget) labels =
      some s) : s.Complete (terms limits sess mode) := by
  have hboth := invariant_along
    (I := fun s => s.Sound (terms limits sess mode) ∧ s.Complete (terms limits sess mode))
    (fun hs hkeep hstep => ⟨hs.1.step rfl hstep, hs.2.step rfl hs.1 hkeep hstep⟩)
    ⟨Sound.start, Complete.start⟩ hkeep h
  exact hboth.2

/-- Behind an open window a chunk is sent as soon as there is credit for it. -/
theorem sendChunk_isSome_iff {σ : Type} {side : Side σ} {payload : Bytes}
    (hopen : side.window.closed = false) (hlimit : side.window.credit ≤ side.window.limit)
    (hpayload : payload ≠ []) :
    (side.sendChunk payload).isSome ↔
      ((payload.take maxDataPayload).length : Int) ≤ side.window.credit := by
  have hpos : 0 < (payload.take maxDataPayload).length := by
    have hlength := List.length_pos_of_ne_nil hpayload
    have hmax : 0 < maxDataPayload := by decide
    rw [List.length_take]
    omega
  constructor
  · intro hsome
    obtain ⟨sent, hsend⟩ := Option.isSome_iff_exists.mp hsome
    simp only [Side.sendChunk] at hsend
    split at hsend
    next window htaken => exact (Window.take_eq_taken htaken).2.1
    next => cases hsend
  · intro hcredit
    simp only [Side.sendChunk, Window.take_of_le hopen (Int.ofNat_lt.mpr hpos) hcredit hlimit]
    rfl

/-- Without a forfeit, an idle stream whose receiver has consumed everything takes the next chunk of the
    sender exactly if the chunk is no larger than what was issued first for that direction. -/
theorem idle_sends_iff {labels : List Label} {agent : Side Agent.AgentStream} (payload : Bytes)
    (hkeep : Along (CreditState.step sess mode)
      (fun s label => s.forfeits label = false) (CreditState.start limits shared agentBudget) labels)
    (hrun : run (CreditState.step sess mode)
      (CreditState.start limits shared agentBudget) labels = some s)
    (hidle : s.Idle agent) (hpayload : payload ≠ []) :
    (s.agentHeld = 0 → ((s.gateway.sendChunk payload).isSome ↔
        ((payload.take maxDataPayload).length : Int) ≤ toAgentTotal sess mode)) ∧
      (s.gateway.stream.retained = 0 → ((agent.sendChunk payload).isSome ↔
        ((payload.take maxDataPayload).length : Int) ≤ toGatewayTotal limits)) := by
  have hsound := sound_of_run hrun
  obtain ⟨hwholeAgent, hwholeGateway⟩ := (complete_of_run hkeep hrun).whole hidle.unended
  obtain ⟨-, hwindow, -⟩ := hidle.unended.agent agent hidle.opened
  have hagentWindow := hsound.agentWindow agent hidle.opened
  have hbody := (terms limits sess mode).body_le
  have hgrant := (terms limits sess mode).grant_le
  refine ⟨?_, ?_⟩
  · intro hheld
    have hcredit : s.gateway.window.credit = toAgentTotal sess mode := by
      simpa [toAgentSum, outstanding, hidle.agentInbox, hidle.gatewayInbox, hheld, terms,
        toAgentTotal] using hwholeAgent
    rw [← hcredit]
    refine sendChunk_isSome_iff hidle.unended.window ?_ hpayload
    rw [hsound.window.limit_eq, hcredit]
    show headerAllowanceBytes + (terms limits sess mode).body ≤ _
    omega
  · intro hretained
    have hcredit : agent.window.credit = toGatewayTotal limits := by
      simpa [toGatewaySum, outstanding, agentCredit, hidle.opened, hidle.agentInbox,
        hidle.gatewayInbox, hretained, hidle.first, terms, toGatewayTotal] using hwholeGateway
    rw [← hcredit]
    refine sendChunk_isSome_iff hwindow ?_ hpayload
    rw [hagentWindow.limit_eq, hcredit]
    exact hgrant

end Runs

/-- Both first grants arrive. -/
def settleRun : List Label :=
  [.grantFirst, .agentReceive 0 true, .agentReceive 0 true, .agentHandle, .gatewayReceive 0,
    .gatewayHandle]

/-- The Gateway sends two bytes, the Agent writes them, and their credit comes back. -/
def echoRun : List Label :=
  settleRun ++ [.gatewaySend [1, 2], .agentReceive 0 true, .agentHandle,
    .agentStream (.receive none), .agentStream (.write 2 none), .agentStream .payloadDone,
    .agentStream (.grant none), .gatewayReceive 0, .gatewayHandle]

/-- A stream between a Gateway with the given limits and an Agent with default ones. -/
def startFor (limits : Gateway.Limits) : CreditState :=
  start limits
    ⟨.newByteBudget limits.maxSessionQueueBytes, .newByteBudget limits.maxGlobalQueueBytes⟩
    (.new Agent.defaultLimits.maxSessionQueueBytes)

theorem echoRun_sends :
    ∃ s agent, run (step (idleSession Agent.defaultLimits) .tcp)
        (startFor Gateway.defaultLimits) echoRun = some s ∧ s.Idle agent ∧
      (s.gateway.sendChunk [1, 2]).isSome ∧ (agent.sendChunk [1, 2]).isSome := by
  obtain ⟨s, agent, hrun, hidle, hheld, hretained⟩ : ∃ s agent,
      run (step (idleSession Agent.defaultLimits) .tcp)
        (startFor Gateway.defaultLimits) echoRun = some s ∧ s.Idle agent ∧
      s.agentHeld = 0 ∧ s.gateway.stream.retained = 0 := by
    refine ⟨_, _, rfl, ⟨⟨rfl, rfl, ?_, ?_⟩, rfl, rfl, rfl, rfl⟩, rfl, rfl⟩
    · simp
    · intro agent hagent
      cases hagent
      exact ⟨rfl, rfl, rfl⟩
  have hsends := idle_sends_iff [1, 2] (by decide +kernel) hrun hidle (by simp)
  refine ⟨s, agent, hrun, hidle, ?_, ?_⟩
  · exact (hsends.1 hheld).mpr (by decide)
  · exact (hsends.2 hretained).mpr (by decide)

/-- Limits that the Gateway accepts, with room for one byte in a stream. -/
def narrowLimits : Gateway.Limits := { Gateway.defaultLimits with maxStreamQueueBytes := 1 }

/-- All credit is at the Agent and everything is consumed, but the Agent waits forever to send the two
    bytes that it read. -/
theorem narrowWindow_blocks :
    narrowLimits.valid = true ∧ Agent.defaultLimits.valid = true ∧
      ∃ s agent, run (step (idleSession Agent.defaultLimits) .tcp)
          (startFor narrowLimits) settleRun = some s ∧ s.Idle agent ∧ s.agentHeld = 0 ∧
        s.gateway.stream.retained = 0 ∧ agent.window.take 2 = .waits := by
  refine ⟨by decide, by decide, _, _, rfl, ⟨⟨rfl, rfl, ?_, ?_⟩, rfl, rfl, rfl, rfl⟩, rfl, rfl, rfl⟩
  · simp
  · intro agent hagent
    cases hagent
    exact ⟨rfl, rfl, rfl⟩

end CreditState

end Hooshix.Tunnel
