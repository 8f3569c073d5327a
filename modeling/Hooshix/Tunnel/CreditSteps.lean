-- SUMMARY: The credit of a flow-controlled stream, place by place, and what a step does to it.
import Hooshix.Tunnel.Credit

/-! # Places of credit

In each direction, credit is in one of four places: unused at the sender, spent on data on its way,
spent on data that the receiver has, or on its way back. As long as the sum stays below what was issued
first, every honest grant fits the window it is for, so that few things can happen in a step.
-/

namespace Hooshix.Tunnel

open Contract TunnelWindow Ledger

/-! ## What a frame is worth -/

/-- The credit spent on a frame of the sender. A `stream_open` is worth the `pledge` with which the
    receiver will answer it. -/
def StreamFrame.bytes (pledge : Int) : StreamFrame → Int
  | .streamOpen => pledge
  | .data payload => payload.length
  | .windowUpdate _ => 0

/-- The credit that a frame of the receiver returns. -/
def StreamFrame.credit : StreamFrame → Int
  | .windowUpdate creditBytes => creditBytes
  | _ => 0

/-- The frames that an honest party sends. -/
def StreamFrame.Proper : StreamFrame → Prop
  | .streamOpen => True
  | .data payload => payload.length ≤ maxDataPayload
  | .windowUpdate creditBytes =>
    1 ≤ creditBytes ∧ (creditBytes : Int) ≤ maxWindowCreditBytes

theorem StreamFrame.bytes_nonneg {pledge : Int} (hpledge : 0 ≤ pledge) (frame : StreamFrame) :
    0 ≤ frame.bytes pledge := by
  cases frame with
  | streamOpen => exact hpledge
  | data payload => exact Int.natCast_nonneg _
  | windowUpdate creditBytes => exact Int.le_refl 0

theorem StreamFrame.credit_nonneg (frame : StreamFrame) : 0 ≤ frame.credit := by
  cases frame with
  | windowUpdate creditBytes => exact Int.natCast_nonneg _
  | _ => exact Int.le_refl 0

theorem StreamFrame.Proper.violation {frame : StreamFrame} (h : frame.Proper) :
    frame.violation = none := by
  cases frame with
  | windowUpdate creditBytes =>
    obtain ⟨hpos, hle⟩ := h
    have hbounds : ¬ (creditBytes < 1 ∨ (creditBytes : Int) > maxWindowCreditBytes) := by omega
    exact if_neg hbounds
  | _ => rfl

variable {size : Int}

/-- Within the contract's bound the conversion to `uint32` changes nothing. -/
theorem uint32_of_le (hsize : 0 ≤ size) (hle : size ≤ maxWindowCreditBytes) :
    (uint32 size : Int) = size := by
  simp only [maxWindowCreditBytes] at hle
  simp only [uint32]
  omega

theorem proper_sendWindowUpdate (hsize : 0 < size)
    (hle : size ≤ maxWindowCreditBytes) : (sendWindowUpdate size).Proper := by
  have heq := uint32_of_le (Int.le_of_lt hsize) hle
  refine ⟨?_, ?_⟩
  · omega
  · rw [heq]
    exact hle

theorem credit_sendWindowUpdate (hsize : 0 ≤ size)
    (hle : size ≤ maxWindowCreditBytes) : (sendWindowUpdate size).credit = size :=
  uint32_of_le hsize hle

@[simp] theorem bytes_data (pledge : Int) (payload : Bytes) :
    (StreamFrame.data payload).bytes pledge = payload.length := rfl

@[simp] theorem bytes_sendWindowUpdate (pledge size : Int) :
    (sendWindowUpdate size).bytes pledge = 0 := rfl

/-- The sum of a direction: the sender's unused credit, the data on its way, the bytes that the
    receiver holds and the credit on its way back. -/
def outstanding (pledge credit held : Int) (forth back : List StreamFrame) : Int :=
  credit + total (·.bytes pledge) forth + held + total (·.credit) back

theorem total_bytes_nonneg {pledge : Int} (hpledge : 0 ≤ pledge) (frames : List StreamFrame) :
    0 ≤ total (·.bytes pledge) frames :=
  total_nonneg fun frame _ => frame.bytes_nonneg hpledge

theorem total_credit_nonneg (frames : List StreamFrame) : 0 ≤ total (·.credit) frames :=
  total_nonneg fun frame _ => frame.credit_nonneg

/-! ## Windows and sides -/

/-- An open or closed window as honest parties leave it. -/
structure WindowSound (limit : Int) (w : Window) : Prop where
  credit : 0 ≤ w.credit
  limit_eq : w.limit = limit
  err : ∀ e, w.err = some e → ¬ creditError e

section Windows

variable {limit : Int} {w : Window}

theorem WindowSound.close (hw : WindowSound limit w) {err : Option GoError}
    (herr : ∀ e, err = some e → ¬ creditError e) : WindowSound limit (w.close err) := by
  unfold Window.close
  split
  · exact hw
  · exact { hw with err := herr }

theorem WindowSound.add (hw : WindowSound limit w) (creditBytes : Nat) :
    WindowSound limit { w with credit := w.credit + creditBytes } :=
  { hw with credit := Int.add_nonneg hw.credit (Int.natCast_nonneg _) }

@[simp] theorem close_credit (err : Option GoError) : (w.close err).credit = w.credit := by
  unfold Window.close
  split <;> rfl

@[simp] theorem close_closed (err : Option GoError) : (w.close err).closed = true := by
  unfold Window.close
  split
  next hclosed => exact hclosed
  next => rfl

theorem WindowSound.closedErr (hw : WindowSound limit w) : ¬ creditError w.closedErr := by
  cases herr : w.err with
  | none => simp [Window.closedErr, herr, creditError, errCreditBounds, errorsNew]
  | some e => simpa [Window.closedErr, herr] using hw.err e herr

end Windows

section Sides

variable {σ : Type} {side side' : Side σ} {frame : StreamFrame} {errs : List GoError}

theorem Side.sendChunk_cases {payload : Bytes} (h : side.sendChunk payload = some (side', frame)) :
    ∃ chunk : Bytes, chunk = payload.take maxDataPayload ∧ frame = .data chunk ∧
      chunk.length ≤ maxDataPayload ∧
      chunk.length ≤ side.window.credit ∧
      side' = { side with
        window := { side.window with credit := side.window.credit - chunk.length } } := by
  simp only [Side.sendChunk] at h
  split at h <;> cases h
  next window htaken =>
    obtain ⟨-, hcredit, -, rfl⟩ := Window.take_eq_taken htaken
    exact ⟨_, rfl, rfl, List.length_take_le _ _, hcredit, rfl⟩

/-- A proper frame is kept for an attached stream, or dropped. -/
theorem Side.receive_cases (hproper : frame.Proper) (h : side.receive frame = some (side', errs)) :
    errs = [] ∧ side.handling = none ∧
      (side' = { side with handling := some frame } ∨
        (side.attached = false ∧ side' = side)) := by
  simp only [Side.receive, hproper.violation] at h
  split at h
  · cases h
  next hfree =>
    refine ⟨?_, by simpa using hfree, ?_⟩
    · cases h
      rfl
    · cases hattached : side.attached with
      | true =>
        simp only [hattached, if_true] at h
        cases h
        exact .inl rfl
      | false =>
        simp only [hattached, Bool.false_eq_true, if_false] at h
        cases h
        exact .inr ⟨rfl, rfl⟩

/-- A grant that fits is added, unless the window is already closed. -/
theorem Side.addCredit_cases {limit : Int} {creditBytes : Nat} {closeErr : GoError → GoError}
    (hw : WindowSound limit side.window) (hpos : 1 ≤ creditBytes)
    (hfits : side.window.credit + creditBytes ≤ limit)
    (h : side.addCredit creditBytes closeErr = (side', errs)) :
    (errs = [] ∧ side' = { side with
        window := { side.window with credit := side.window.credit + creditBytes }
        handling := none }) ∨
      ∃ err, errs = [err] ∧ ¬ creditError err ∧
        side' = { side with attached := false, handling := none } := by
  have hcredit := hw.credit
  have hlimit := hw.limit_eq
  -- an open window has room; a closed one answers with the error it was closed with
  cases hclosed : side.window.closed with
  | false =>
    have hadd : side.window.add creditBytes =
        .ok { side.window with credit := side.window.credit + creditBytes } :=
      Window.add_of_le hclosed (by omega) hcredit (by omega)
    simp only [Side.addCredit, hadd] at h
    cases h
    exact .inl ⟨rfl, rfl⟩
  | true =>
    have hadd : side.window.add creditBytes = .error side.window.closedErr :=
      Window.add_of_closed hclosed (by omega) (by omega)
    simp only [Side.addCredit, hadd, Side.detach, Window.close_of_closed hclosed] at h
    cases h
    exact .inr ⟨_, rfl, hw.closedErr, rfl⟩

end Sides

/-! ## The sums of both directions -/

namespace CreditState

/-- The frames that the Agent has not yet acted on. -/
def agentInbox (s : CreditState) : List StreamFrame :=
  (s.agent.bind (·.handling)).toList ++ s.toAgent

def gatewayInbox (s : CreditState) : List StreamFrame :=
  s.gateway.handling.toList ++ s.toGateway

/-- The bytes that the Agent has not returned the credit for. -/
def agentHeld (s : CreditState) : Int :=
  match s.agent with
  | some agent => agent.stream.unreturned
  | none => 0

def agentCredit (s : CreditState) : Int :=
  match s.agent with
  | some agent => agent.window.credit
  | none => 0

/-- What is out from the Gateway to the Agent. -/
def toAgentSum (pledge : Int) (s : CreditState) : Int :=
  outstanding pledge s.gateway.window.credit s.agentHeld s.agentInbox s.gatewayInbox

/-- What is out from the Agent to the Gateway. -/
def toGatewaySum (s : CreditState) : Int :=
  outstanding 0 s.agentCredit s.gateway.stream.retained s.gatewayInbox s.agentInbox

/-- The credit that both parties issue first: the Agent its `body` grant on top of the header
    allowance, the Gateway its first `grant`. -/
structure Terms where
  body : Int
  grant : Int
  body_nonneg : 0 ≤ body
  body_le : body ≤ maxWindowCreditBytes
  grant_le : grant ≤ maxWindowCreditBytes

/-- No more is out than was issued, and the grants on their way are those of honest parties. -/
structure Sound (terms : Terms) (s : CreditState) : Prop where
  toAgent : s.toAgentSum terms.body ≤ headerAllowanceBytes + terms.body
  toGateway : s.toGatewaySum + s.firstGrant.getD 0 ≤ terms.grant
  accounted : s.gateway.stream.Accounted
  window : WindowSound (maxWindowCreditBytes + headerAllowanceBytes) s.gateway.window
  solvent : ∀ agent, s.agent = some agent → agent.stream.Solvent maxDataPayload
  agentWindow : ∀ agent, s.agent = some agent → WindowSound maxWindowCreditBytes agent.window
  agentFrames : ∀ frame ∈ s.agentInbox, frame.Proper
  gatewayFrames : ∀ frame ∈ s.gatewayInbox, frame.Proper
  first : ∀ size, s.firstGrant = some size → 0 < size
  refusals : ∀ err ∈ s.refusals, ¬ creditError err

section Bounds

variable {terms : Terms} {s : CreditState}

variable (hs : s.Sound terms) {frame : StreamFrame}

include hs

theorem Sound.agentHeld_nonneg : 0 ≤ s.agentHeld := by
  unfold agentHeld
  split
  next agent hagent => exact (hs.solvent agent hagent).unreturned_nonneg
  next => exact Int.le_refl 0

theorem Sound.agentCredit_nonneg : 0 ≤ s.agentCredit := by
  unfold agentCredit
  split
  next agent hagent => exact (hs.agentWindow agent hagent).credit
  next => exact Int.le_refl 0

theorem Sound.first_nonneg : 0 ≤ s.firstGrant.getD 0 := by
  cases hfirst : s.firstGrant with
  | none => exact Int.le_refl 0
  | some size => exact Int.le_of_lt (hs.first size hfirst)

/-- A grant to the Gateway fits its window. -/
theorem Sound.gateway_fits (hframe : frame ∈ s.gatewayInbox) :
    s.gateway.window.credit + frame.credit ≤ maxWindowCreditBytes + headerAllowanceBytes := by
  have hsum := hs.toAgent
  have hheld := hs.agentHeld_nonneg
  have hbytes := total_bytes_nonneg terms.body_nonneg s.agentInbox
  have hcredit : frame.credit ≤ total (·.credit) s.gatewayInbox :=
    le_total (fun frame _ => frame.credit_nonneg) hframe
  have hbody := terms.body_le
  simp only [toAgentSum, outstanding] at hsum
  omega

/-- A grant to the Agent fits its window. -/
theorem Sound.agent_fits (hframe : frame ∈ s.agentInbox) :
    s.agentCredit + frame.credit ≤ maxWindowCreditBytes := by
  have hsum := hs.toGateway
  have hheld := hs.accounted.retained_nonneg
  have hfirst := hs.first_nonneg
  have hbytes := total_bytes_nonneg (Int.le_refl 0) s.gatewayInbox
  have hcredit : frame.credit ≤ total (·.credit) s.agentInbox :=
    le_total (fun frame _ => frame.credit_nonneg) hframe
  have hgrant := terms.grant_le
  simp only [toGatewaySum, outstanding] at hsum
  omega

/-- What the Gateway's stream or its first grant is worth can be granted in one frame. -/
theorem Sound.retained_le :
    s.gateway.stream.retained + s.firstGrant.getD 0 ≤ maxWindowCreditBytes := by
  have hsum := hs.toGateway
  have hcredit := hs.agentCredit_nonneg
  have hbytes := total_bytes_nonneg (Int.le_refl 0) s.gatewayInbox
  have hback := total_credit_nonneg s.agentInbox
  have hgrant := terms.grant_le
  simp only [toGatewaySum, outstanding] at hsum
  omega

end Bounds

/-! ## What a step does -/

section Steps

variable {terms : Terms} {sess : Agent.AgentSession} {mode : StreamMode} {s s' : CreditState}

/-- What the Gateway, or the way to it, can do in a sound state. -/
inductive GatewaySteps (s : CreditState) : Label → CreditState → Prop where
  | grantFirst {size : Int} (hfirst : s.firstGrant = some size) :
    GatewaySteps s .grantFirst
      { s with firstGrant := none, toAgent := s.toAgent ++ [sendWindowUpdate size] }
  | send {payload chunk : Bytes} (hchunk : chunk = payload.take maxDataPayload)
      (hcredit : chunk.length ≤ s.gateway.window.credit) :
    GatewaySteps s (.gatewaySend payload) { s with
      gateway.window.credit := s.gateway.window.credit - chunk.length
      toAgent := s.toAgent ++ [.data chunk] }
  | stream {o : Gateway.Stream.Op} {shared : Gateway.SharedBudgets} {stream : Gateway.Stream}
      {ev : Gateway.StreamEvent} (hother : ∀ data, o ≠ .enqueue data)
      (hstep : s.gateway.stream.step s.shared o = .next (shared, stream, ev)) :
    GatewaySteps s (.gatewayStream o)
      { s with gateway.stream := stream, shared, toAgent := s.toAgent ++ grantCredit ev }
  | take {i : Nat} {frame : StreamFrame} (hframe : s.toGateway[i]? = some frame)
      (hfree : s.gateway.handling = none) :
    GatewaySteps s (.gatewayReceive i)
      { s with gateway.handling := some frame, toGateway := s.toGateway.eraseIdx i }
  | drop {i : Nat} (hdetached : s.gateway.attached = false) :
    GatewaySteps s (.gatewayReceive i) { s with toGateway := s.toGateway.eraseIdx i }
  | credit {creditBytes : Nat} (hhand : s.gateway.handling = some (.windowUpdate creditBytes)) :
    GatewaySteps s .gatewayHandle { s with
      gateway.window.credit := s.gateway.window.credit + creditBytes
      gateway.handling := none }
  | refuse {creditBytes : Nat} {err : GoError}
      (hhand : s.gateway.handling = some (.windowUpdate creditBytes)) (herr : ¬ creditError err) :
    GatewaySteps s .gatewayHandle { s with
      gateway.attached := false
      gateway.handling := none
      refusals := s.refusals ++ [err] }
  | enqueue {payload : Bytes} {shared : Gateway.SharedBudgets} {stream : Gateway.Stream}
      {ev : Gateway.StreamEvent} (hhand : s.gateway.handling = some (.data payload))
      (henqueue : s.gateway.stream.enqueue s.shared payload = .next (shared, stream, ev))
      (hkept : ∀ err, ev ≠ .rejected err) :
    GatewaySteps s .gatewayHandle
      { s with gateway.stream := stream, gateway.handling := none, shared }
  | reject {payload : Bytes} {shared : Gateway.SharedBudgets} {stream : Gateway.Stream}
      {err : GoError} (hhand : s.gateway.handling = some (.data payload))
      (henqueue : s.gateway.stream.enqueue s.shared payload = .next (shared, stream, .rejected err)) :
    GatewaySteps s .gatewayHandle { s with
      gateway := ⟨stream, s.gateway.window.close (some (.wrap "stream %d inbound queue: %w" err)), false, none⟩
      shared }
  | detach : GatewaySteps s .gatewayDetach { s with gateway.attached := false }
  | close (cause : EndError) :
    GatewaySteps s (.gatewayCloseWindow cause)
      { s with gateway.window := s.gateway.window.close cause.err }
  | lose (i : Nat) :
    GatewaySteps s (.loseToGateway i) { s with toGateway := s.toGateway.eraseIdx i }
  | share (shared : Gateway.SharedBudgets) : GatewaySteps s (.shareGateway shared) { s with shared }

/-- What the Agent, or the way to it, can do in a sound state. -/
inductive AgentSteps (sess : Agent.AgentSession) (mode : StreamMode) (s : CreditState) :
    Label → CreditState → Prop where
  | send {payload chunk : Bytes} {agent : Side Agent.AgentStream} (hagent : s.agent = some agent)
      (hchunk : chunk = payload.take maxDataPayload) (hcredit : chunk.length ≤ agent.window.credit) :
    AgentSteps sess mode s (.agentSend payload) { s with
      agent := some { agent with window.credit := agent.window.credit - chunk.length }
      toGateway := s.toGateway ++ [.data chunk] }
  | stream {o : Agent.AgentStream.Op} {agent : Side Agent.AgentStream}
      {agentBudget : Agent.ByteBudget} {stream : Agent.AgentStream} {ev : Agent.StreamEvent}
      (hagent : s.agent = some agent) (hother : ∀ data, o ≠ .enqueue data)
      (hstep : agent.stream.step s.agentBudget o = some (agentBudget, stream, ev)) :
    AgentSteps sess mode s (.agentStream o) { s with
      agent := some { agent with stream }
      agentBudget
      toGateway := s.toGateway ++ ((agent.stream.credit o).map sendWindowUpdate).toList }
  | opened {i : Nat} {agent : Side Agent.AgentStream} {grants : List StreamFrame}
      (hnone : s.agent = none) (hframe : s.toAgent[i]? = some .streamOpen)
      (hopen : openAgent sess mode = some (agent, grants)) :
    AgentSteps sess mode s (.agentReceive i true) { s with
      agent := some agent
      toAgent := s.toAgent.eraseIdx i
      toGateway := s.toGateway ++ grants }
  | miss {i : Nat} {admitted : Bool} {frame : StreamFrame} (hnone : s.agent = none)
      (hframe : s.toAgent[i]? = some frame) :
    AgentSteps sess mode s (.agentReceive i admitted) { s with toAgent := s.toAgent.eraseIdx i }
  | take {i : Nat} {admitted : Bool} {frame : StreamFrame} {agent : Side Agent.AgentStream}
      (hagent : s.agent = some agent) (hframe : s.toAgent[i]? = some frame)
      (hfree : agent.handling = none) :
    AgentSteps sess mode s (.agentReceive i admitted) { s with
      agent := some { agent with handling := some frame }
      toAgent := s.toAgent.eraseIdx i }
  | drop {i : Nat} {admitted : Bool} {agent : Side Agent.AgentStream}
      (hagent : s.agent = some agent) (hdetached : agent.attached = false) :
    AgentSteps sess mode s (.agentReceive i admitted) { s with toAgent := s.toAgent.eraseIdx i }
  | credit {creditBytes : Nat} {agent : Side Agent.AgentStream} (hagent : s.agent = some agent)
      (hhand : agent.handling = some (.windowUpdate creditBytes)) :
    AgentSteps sess mode s .agentHandle { s with
      agent := some { agent with
        window.credit := agent.window.credit + creditBytes, handling := none } }
  | refuse {creditBytes : Nat} {err : GoError} {agent : Side Agent.AgentStream}
      (hagent : s.agent = some agent) (hhand : agent.handling = some (.windowUpdate creditBytes))
      (herr : ¬ creditError err) :
    AgentSteps sess mode s .agentHandle { s with
      agent := some { agent with attached := false, handling := none }
      refusals := s.refusals ++ [err] }
  | enqueue {payload : Bytes} {agent : Side Agent.AgentStream} {agentBudget : Agent.ByteBudget}
      {stream : Agent.AgentStream} {ev : Agent.StreamEvent} (hagent : s.agent = some agent)
      (hhand : agent.handling = some (.data payload))
      (henqueue : agent.stream.enqueue s.agentBudget payload = some (agentBudget, stream, ev))
      (hkept : ev ≠ .rejected) :
    AgentSteps sess mode s .agentHandle
      { s with agent := some { agent with stream, handling := none }, agentBudget }
  | reject {payload : Bytes} {agent : Side Agent.AgentStream} {agentBudget : Agent.ByteBudget}
      {stream : Agent.AgentStream} (hagent : s.agent = some agent)
      (hhand : agent.handling = some (.data payload))
      (henqueue : agent.stream.enqueue s.agentBudget payload = some (agentBudget, stream, .rejected)) :
    AgentSteps sess mode s .agentHandle { s with
      agent := some ⟨stream, agent.window.close (some errStreamClosed), false, none⟩
      agentBudget }
  | detach {agent : Side Agent.AgentStream} (hagent : s.agent = some agent) :
    AgentSteps sess mode s .agentDetach { s with agent := some { agent with attached := false } }
  | close {agent : Side Agent.AgentStream} (hagent : s.agent = some agent) (cause : EndError) :
    AgentSteps sess mode s (.agentCloseWindow cause)
      { s with agent := some { agent with window := agent.window.close cause.err } }
  /-- an Agent without the stream has nothing to end -/
  | absent {label : Label} (hnone : s.agent = none) : AgentSteps sess mode s label s
  | lose (i : Nat) :
    AgentSteps sess mode s (.loseToAgent i) { s with toAgent := s.toAgent.eraseIdx i }
  | share (agentBudget : Agent.ByteBudget) :
    AgentSteps sess mode s (.shareAgent agentBudget) { s with agentBudget }

variable (hs : s.Sound terms) {i : Nat}

include hs

theorem Sound.toGateway_proper : ∀ frame ∈ s.toGateway, frame.Proper :=
  fun frame hframe => hs.gatewayFrames frame (List.mem_append_right _ hframe)

theorem Sound.toAgent_proper : ∀ frame ∈ s.toAgent, frame.Proper :=
  fun frame hframe => hs.agentFrames frame (List.mem_append_right _ hframe)

theorem gatewayHandle_steps (h : s.gatewayHandle = some s') : GatewaySteps s .gatewayHandle s' := by
  simp only [CreditState.gatewayHandle] at h
  split at h
  next creditBytes hhand =>
    cases h
    have hmem : StreamFrame.windowUpdate creditBytes ∈ s.gatewayInbox := by
      simp [gatewayInbox, hhand]
    obtain ⟨hpos, -⟩ := hs.gatewayFrames _ hmem
    rcases hadd : s.gateway.addCredit creditBytes id with ⟨gateway, errs⟩
    obtain ⟨rfl, rfl⟩ | ⟨err, rfl, herr, rfl⟩ :=
      Side.addCredit_cases hs.window hpos (hs.gateway_fits hmem) hadd
    · rw [List.append_nil]
      exact .credit hhand
    · exact .refuse hhand herr
  next payload hhand =>
    split at h <;> cases h
    next shared stream err henqueue => exact .reject hhand henqueue
    next shared stream ev hkept henqueue => exact .enqueue hhand henqueue fun err => hkept err
  next => cases h

theorem gatewayReceive_steps (h : s.gatewayReceive i = some s') :
    GatewaySteps s (.gatewayReceive i) s' := by
  simp only [CreditState.gatewayReceive] at h
  split at h
  next frame hframe =>
    split at h <;> cases h
    next gateway errs hreceive =>
      obtain ⟨rfl, hfree, rfl | ⟨hdetached, rfl⟩⟩ :=
        Side.receive_cases (hs.toGateway_proper frame (List.mem_of_getElem? hframe)) hreceive
      · rw [List.append_nil]
        exact .take hframe hfree
      · rw [List.append_nil]
        exact .drop hdetached
  next => cases h

theorem agentHandle_steps (h : s.agentHandle = some s') :
    AgentSteps sess mode s .agentHandle s' := by
  simp only [CreditState.agentHandle] at h
  split at h
  · cases h
  next agent hagent =>
    split at h
    next creditBytes hhand =>
      cases h
      have hmem : StreamFrame.windowUpdate creditBytes ∈ s.agentInbox := by
        simp [agentInbox, hagent, hhand]
      obtain ⟨hpos, -⟩ := hs.agentFrames _ hmem
      have hfits := hs.agent_fits hmem
      simp only [agentCredit, hagent] at hfits
      rcases hadd : agent.addCredit creditBytes fun _ => errStreamClosed with ⟨agent', errs⟩
      obtain ⟨rfl, rfl⟩ | ⟨err, rfl, herr, rfl⟩ :=
        Side.addCredit_cases (hs.agentWindow agent hagent) hpos hfits hadd
      · rw [List.append_nil]
        exact .credit hagent hhand
      · exact .refuse hagent hhand herr
    next payload hhand =>
      split at h <;> cases h
      next agentBudget stream henqueue =>
        have hreject : AgentSteps sess mode s .agentHandle _ := .reject hagent hhand henqueue
        exact hreject
      next agentBudget stream ev hkept henqueue => exact .enqueue hagent hhand henqueue hkept
    next => cases h

theorem agentReceive_steps {admitted : Bool} (h : s.agentReceive sess mode i admitted = some s') :
    AgentSteps sess mode s (.agentReceive i admitted) s' := by
  simp only [CreditState.agentReceive] at h
  split at h
  next hframe hnone =>
    split at h
    next hadmitted =>
      obtain ⟨⟨agent, grants⟩, hopen, rfl⟩ := Option.map_eq_some_iff.mp h
      exact hadmitted ▸ .opened hnone hframe hopen
    next =>
      cases h
      exact .miss hnone hframe
  next frame _ hframe hnone =>
    -- no stream yet: the frame is dropped, and being proper it is no violation
    cases h
    rw [(hs.toAgent_proper frame (List.mem_of_getElem? hframe)).violation, Option.toList_none,
      List.append_nil]
    exact .miss hnone hframe
  next frame agent hframe hagent =>
    obtain ⟨⟨agent', errs⟩, hreceive, rfl⟩ := Option.map_eq_some_iff.mp h
    obtain ⟨rfl, hfree, rfl | ⟨hdetached, rfl⟩⟩ :=
      Side.receive_cases (hs.toAgent_proper frame (List.mem_of_getElem? hframe)) hreceive
    · rw [List.append_nil]
      exact .take hagent hframe hfree
    · rw [List.append_nil, ← hagent]
      exact .drop hagent hdetached
  next => cases h

theorem steps_of_step {label : Label} (h : step sess mode s label = some s') :
    GatewaySteps s label s' ∨ AgentSteps sess mode s label s' := by
  cases label with
  | grantFirst =>
    simp only [step, grantFirst] at h
    split at h <;> cases h
    next size hfirst => exact .inl (.grantFirst hfirst)
  | gatewaySend payload =>
    simp only [step, gatewaySend] at h
    split at h <;> cases h
    next gateway frame _ hsend =>
      obtain ⟨chunk, hchunk, rfl, -, hcredit, rfl⟩ := Side.sendChunk_cases hsend
      exact .inl (.send hchunk hcredit)
  | gatewayStream o =>
    simp only [step, gatewayStream] at h
    split at h
    · cases h
    next hother =>
      split at h <;> cases h
      next hstep => exact .inl (.stream (fun data => hother data) hstep)
  | gatewayReceive i => exact .inl (gatewayReceive_steps hs h)
  | gatewayHandle => exact .inl (gatewayHandle_steps hs h)
  | gatewayDetach => cases h; exact .inl .detach
  | gatewayCloseWindow cause => cases h; exact .inl (.close cause)
  | agentSend payload =>
    simp only [step, agentSend] at h
    split at h
    next agent hagent =>
      split at h <;> cases h
      next agent' frame hsend =>
        obtain ⟨chunk, hchunk, rfl, -, hcredit, rfl⟩ := Side.sendChunk_cases hsend
        exact .inr (.send hagent hchunk hcredit)
    next => cases h
  | agentStream o =>
    simp only [step, agentStream] at h
    split at h
    · cases h
    next agent hother hagent =>
      split at h <;> cases h
      next hstep => exact .inr (.stream hagent (fun data => hother data) hstep)
    next => cases h
  | agentReceive i admitted => exact .inr (agentReceive_steps hs h)
  | agentHandle => exact .inr (agentHandle_steps hs h)
  | agentDetach | agentCloseWindow cause =>
    cases h
    cases hagent : s.agent with
    | none =>
      rw [Option.map_none, ← hagent]
      exact .inr (.absent hagent)
    | some agent => first | exact .inr (.detach hagent) | exact .inr (.close hagent cause)
  | loseToAgent i => cases h; exact .inr (.lose i)
  | loseToGateway i => cases h; exact .inl (.lose i)
  | shareGateway shared => cases h; exact .inl (.share shared)
  | shareAgent agentBudget => cases h; exact .inr (.share agentBudget)

end Steps

end CreditState

end Hooshix.Tunnel
