-- SUMMARY: When the credit of a flow-controlled stream stays within both receivers' budgets.
import Hooshix.Tunnel.CreditConserved

/-! # Credit and budgets

What is out in a direction never exceeds what was issued first. What was issued first fits the budget
of the receiver, except where the Agent's input budget is below the header allowance: the Gateway
takes that allowance without asking.
-/

namespace Hooshix.Tunnel

open Contract TunnelWindow StepSystem

attribute [local simp] CreditState.start

namespace CreditState

/-! ## What is issued first -/

/-- What the two parties issue first. -/
def terms (limits : Gateway.Limits) (sess : Agent.AgentSession) (mode : StreamMode) : Terms where
  body := (Agent.openedStream sess mode).bodyCredit.getD 0
  grant := initialCredit limits.maxStreamQueueBytes
  body_nonneg := by
    cases hbody : (Agent.openedStream sess mode).bodyCredit with
    | none => exact Int.le_refl 0
    | some size => exact Int.le_of_lt (bodyCredit_bounds sess mode size hbody).1
  body_le := by
    cases hbody : (Agent.openedStream sess mode).bodyCredit with
    | none => decide
    | some size => exact (bodyCredit_bounds sess mode size hbody).2
  grant_le := initialCredit_le_max _

section Runs

variable {limits : Gateway.Limits} {sess : Agent.AgentSession} {mode : StreamMode}
  {shared : Gateway.SharedBudgets} {agentBudget : Agent.ByteBudget} {s : CreditState}

theorem openWindow_sound :
    WindowSound (maxWindowCreditBytes + headerAllowanceBytes) openWindow where
  credit := by decide
  limit_eq := by decide
  err := by simp [openWindow, Window.new, Window.add, maxWindowCreditBytes, headerAllowanceBytes]

theorem Sound.start : (start limits shared agentBudget).Sound (terms limits sess mode) where
  toAgent := by
    have hcredit : openWindow.credit = headerAllowanceBytes := by decide
    simp [toAgentSum_eq, agentHeld, hcredit, StreamFrame.bytes]
  toGateway := by
    simp [toGatewaySum_eq, agentCredit, StreamFrame.credit, terms]
  accounted := Gateway.Stream.Accounted.new _ _ _
  window := openWindow_sound
  solvent := by simp
  agentWindow := by simp
  agentFrames := by simp [agentInbox, StreamFrame.Proper]
  gatewayFrames := by simp [gatewayInbox]
  first := by
    intro size hsize
    cases hsize
    exact initialCredit_pos _
  refusals := by simp

theorem sound_of_run {labels : List Label}
    (h : run (step sess mode) (CreditState.start limits shared agentBudget) labels =
      some s) : s.Sound (terms limits sess mode) :=
  invariant (fun hs hstep => hs.step rfl hstep) Sound.start h

/-- The credit that is issued first from the Gateway to the Agent. -/
def toAgentTotal (sess : Agent.AgentSession) (mode : StreamMode) : Int :=
  headerAllowanceBytes + (Agent.openedStream sess mode).bodyCredit.getD 0

/-- The credit that is issued first from the Agent to the Gateway. -/
def toGatewayTotal (limits : Gateway.Limits) : Int := initialCredit limits.maxStreamQueueBytes

/-- In each direction no more is out than was issued, no more was issued than the receiver's budget
    for the stream, and no grant was refused for its size. -/
structure NeverOverIssued (limits : Gateway.Limits) (sess : Agent.AgentSession) (mode : StreamMode)
    (s : CreditState) : Prop where
  toAgent : s.toAgentSum 0 ≤ toAgentTotal sess mode
  toAgent_fits : toAgentTotal sess mode ≤ Agent.streamInputBudget mode sess.limits
  toGateway : s.toGatewaySum ≤ toGatewayTotal limits
  toGateway_fits : toGatewayTotal limits ≤ limits.maxStreamQueueBytes
  refusals : ∀ err ∈ s.refusals, ¬ creditError err

/-- A `stream_open` on its way counts for nothing itself. -/
theorem toAgentSum_zero_le {pledge : Int} (hpledge : 0 ≤ pledge) :
    s.toAgentSum 0 ≤ s.toAgentSum pledge := by
  have hframes : Ledger.total (·.bytes 0) s.agentInbox ≤
      Ledger.total (·.bytes pledge) s.agentInbox := by
    refine Ledger.total_le_total ?_
    intro frame _
    cases frame with
    | streamOpen => exact hpledge
    | data payload | windowUpdate creditBytes => exact Int.le_refl _
  simp only [toAgentSum, outstanding]
  omega

/-- The Agent's grant fills its budget up behind a header allowance that fits. -/
theorem toAgentTotal_le (hallowance : headerAllowanceBytes ≤ Agent.streamInputBudget mode sess.limits) :
    toAgentTotal sess mode ≤ Agent.streamInputBudget mode sess.limits := by
  simp only [toAgentTotal, Agent.openedStream]
  split
  next hbody =>
    simp only [Bool.and_eq_true, decide_eq_true_eq] at hbody
    have hcredit := initialCredit_le (show (1 : Int) ≤ _ from hbody.2)
    simp only [Option.getD_some]
    omega
  next =>
    simp only [Option.getD_none]
    omega

/-- The Agent does not check the header allowance. -/
theorem toAgentTotal_le_iff (hflow : sess.flowControlled = true) (hmode : mode ≠ .udp) :
    toAgentTotal sess mode ≤ Agent.streamInputBudget mode sess.limits ↔
      headerAllowanceBytes ≤ Agent.streamInputBudget mode sess.limits := by
  have hpaced : (sess.flowControlled && mode != .udp) = true := by simp [hflow, hmode]
  refine ⟨?_, toAgentTotal_le⟩
  intro htotal
  -- below the allowance the Agent grants nothing, but the allowance alone is already too much
  by_contra hallowance
  have hbody : ¬ Agent.streamInputBudget mode sess.limits - headerAllowanceBytes > 0 := by omega
  simp only [toAgentTotal, Agent.openedStream, hpaced, Bool.true_and, decide_eq_false hbody,
    Bool.false_eq_true, if_false, Option.getD_none] at htotal
  omega

/-- Credit is never over-issued on a v2 stream, whatever the interleaving, exactly when the Agent's
    input budget covers the header allowance that the Gateway takes for granted. -/
theorem never_overissued_iff (hlimits : limits.valid = true) (hflow : sess.flowControlled = true)
    (hmode : mode ≠ .udp) :
    (∀ shared agentBudget labels s,
        run (CreditState.step sess mode) (CreditState.start limits shared agentBudget)
          labels = some s → NeverOverIssued limits sess mode s) ↔
      headerAllowanceBytes ≤ Agent.streamInputBudget mode sess.limits := by
  have hqueue : 1 ≤ limits.maxStreamQueueBytes := by
    simp only [Gateway.Limits.valid, Bool.and_eq_true, decide_eq_true_eq] at hlimits
    omega
  -- already the first state shows whether the totals fit; the sums are an invariant
  constructor
  · intro hruns
    have hstart := hruns ⟨.newByteBudget 0, .newByteBudget 0⟩ (.new 0) [] _ rfl
    exact (toAgentTotal_le_iff hflow hmode).mp hstart.toAgent_fits
  · intro hbudget shared agentBudget labels s hrun
    have hsound := sound_of_run hrun
    have hfirst := hsound.first_nonneg
    have htoGateway := hsound.toGateway
    refine
      { toAgent := ?_
        toAgent_fits := (toAgentTotal_le_iff hflow hmode).mpr hbudget
        toGateway := ?_
        toGateway_fits := initialCredit_le hqueue
        refusals := hsound.refusals }
    · exact Int.le_trans (toAgentSum_zero_le (terms limits sess mode).body_nonneg) hsound.toAgent
    · show _ ≤ (terms limits sess mode).grant
      omega

end Runs

/-- An Agent's session before its first stream. -/
def idleSession (limits : Agent.Limits) : Agent.AgentSession where
  flowControlled := true
  limits := limits
  endpoints := []
  maxStreamID := 0
  streams := []

/-- A stream between a Gateway with default limits and an Agent with the given ones. -/
def startWith (limits : Agent.Limits) : CreditState :=
  start Gateway.defaultLimits
    ⟨.newByteBudget Gateway.defaultLimits.maxSessionQueueBytes,
      .newByteBudget Gateway.defaultLimits.maxGlobalQueueBytes⟩
    (.new limits.maxSessionQueueBytes)

/-- The Gateway opens the stream and sends two bytes, which the Agent takes. -/
def sendRun : List Label :=
  [.grantFirst, .agentReceive 0 true, .gatewaySend [1, 2], .agentReceive 1 true, .agentHandle]

/-- The Agent writes the two bytes and returns their credit. -/
def returnRun : List Label :=
  [.agentStream (.receive none), .agentStream (.write 2 none), .agentStream .payloadDone,
    .agentStream (.grant none), .gatewayReceive 1, .gatewayHandle]

theorem returnRun_never_overissued :
    ∃ s, run (step (idleSession Agent.defaultLimits) .tcp)
        (startWith Agent.defaultLimits) (sendRun ++ returnRun) = some s ∧
      NeverOverIssued Gateway.defaultLimits (idleSession Agent.defaultLimits) .tcp s := by
  refine exists_run (by decide +kernel) fun hrun => ?_
  exact (never_overissued_iff (by decide) rfl (by decide)).mpr (by decide) _ _ _ _ hrun

/-- Limits that the Agent accepts, with room for one byte. -/
def tinyLimits : Agent.Limits :=
  { Agent.defaultLimits with maxStreamQueueBytes := 1, maxSessionQueueBytes := 1 }

/-- The two bytes are within the header allowance but not within the Agent's budget: the Agent ends
    the stream, and the Gateway still has more credit than the budget. -/
theorem tinyRun_overissues :
    tinyLimits.valid = true ∧
      ∃ s, run (step (idleSession tinyLimits) .tcp) (startWith tinyLimits) sendRun =
          some s ∧
        Agent.streamInputBudget .tcp tinyLimits < s.toAgentSum 0 ∧
        s.agent.map (·.attached) = some false := by
  refine ⟨by decide, exists_run rfl fun hrun => ?_⟩
  cases hrun
  exact ⟨by decide +kernel, rfl⟩

end CreditState

end Hooshix.Tunnel
