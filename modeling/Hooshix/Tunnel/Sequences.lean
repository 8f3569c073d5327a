-- SUMMARY: A connection from its first frame on, and that both ends agree on its sequence numbers.
import Hooshix.Lib.StepSystem
import Hooshix.Tunnel.FrameWriters

/-! # Sequence numbers of a connection

An Agent and a Gateway on one WebSocket: the full handshake or a resume, with frames numbered by hand
in `authenticateAgent`, `authenticateOrResume` and `completeAuthentication`, and then the two session
writers. What else a handshake checks is an answer `valid`; it can only end the attempt.
-/

namespace Hooshix.Tunnel

open Contract Channel

/-- The messages of a handshake, with the member that the numbering reads. -/
inductive Handshake where
  | clientHello
  | resumeSession
  | serverChallenge
  | clientAuth
  | sessionReady
  | sessionResumed (nextSequence : Nat)
  deriving DecidableEq, Repr

/-- The JSON of a handshake message; `rest` stands for its other members. -/
structure HandshakeCodec where
  marshal : Handshake → (rest : Bytes) → Bytes
  unmarshal : Bytes → Except GoError Handshake
  unmarshal_marshal : ∀ message rest, unmarshal (marshal message rest) = .ok message

/-- Where `authenticateOrResume` and then the Agent session stand. -/
inductive AgentPhase where
  | start
  | awaitChallenge
  | answering
  | awaitReady
  | awaitResumed
  | running
  | ended
  deriving DecidableEq, Repr

/-- Where the Gateway's handshake and then its session stand. A resumed session has its writer while
    `resumeSession` sends the reply through it. -/
inductive GatewayPhase where
  | awaitFirst
  | challenging
  | awaitAuth
  | readying
  | replying
  | awaitReply
  | running
  | ended
  deriving DecidableEq, Repr

structure Connection where
  agent : AgentPhase
  gateway : GatewayPhase
  toGateway : Channel
  toAgent : Channel
  deriving DecidableEq, Repr

def Connection.start : Connection := ⟨.start, .awaitFirst, .empty, .empty⟩

/-! ## Steps -/

inductive AgentAct where
  /-- write `client_hello`, or `resume_session` -/
  | first (resume : Bool) (rest : Bytes) (sent : Sent)
  | clientAuth (rest : Bytes) (sent : Sent)
  | read (valid : Bool)
  | send (request : WriteRequest)
  | turn (act : LoopAct)
  | write (ended : Option GoError) (sent : Sent)
  | close
  deriving DecidableEq, Repr

inductive GatewayAct where
  | challenge (rest : Bytes) (sent : Sent)
  | ready (rest : Bytes) (sent : Sent)
  /-- `resumeSession` sends `session_resumed` -/
  | reply (rest : Bytes)
  /-- the context of that reply ends -/
  | abandonReply
  | read (valid : Bool)
  | send (request : WriteRequest)
  | turn (act : LoopAct)
  | write (ended : Option GoError) (sent : Sent)
  | close
  deriving DecidableEq, Repr

inductive ConnectionAct where
  | agent (act : AgentAct)
  | gateway (act : GatewayAct)
  deriving DecidableEq, Repr

section Steps

variable (codec : HandshakeCodec)

/-- A frame of the handshake that its reader goes on with. -/
def isHandshakeFrame (sequence : UInt64) (valid : Bool) (frame : WireFrame) : Bool :=
  frame.sequence = sequence && frame.kind = kindControl && frame.streamID = 0 && valid

/-- The Agent after it has read `result`. -/
def Connection.agentRead (c : Connection) (valid : Bool) (result : Option WireFrame) : Connection :=
  match c.agent, result with
  | .awaitChallenge, some frame =>
    if isHandshakeFrame 1 valid frame then { c with agent := .answering }
    else { c with agent := .ended }
  | .awaitReady, some frame =>
    if isHandshakeFrame 2 valid frame then
      { c with agent := .running, toGateway := c.toGateway.startWriter 2 }
    else { c with agent := .ended }
  | .awaitResumed, some frame =>
    if isHandshakeFrame 1 valid frame then
      match codec.unmarshal frame.payload with
      | .ok (.sessionResumed next) =>
        { c with agent := .running,
                 toGateway := c.toGateway.startWriter (UInt64.ofNat next - 1).toNat }
      | _ => { c with agent := .ended }
    else { c with agent := .ended }
  | .running, some _ => if valid then c else { c with toGateway := c.toGateway.close }
  | .running, none => { c with toGateway := c.toGateway.close }
  | _, _ => { c with agent := .ended }

def AgentPhase.reads : AgentPhase → Bool
  | .awaitChallenge | .awaitReady | .awaitResumed | .running => true
  | .start | .answering | .ended => false

def Connection.agentStep (c : Connection) : AgentAct → Option Connection
  | .first resume rest sent =>
    if c.agent = .start then
      let message := if resume then .resumeSession else .clientHello
      let (channel, err) := c.toGateway.writeInitial 1 (codec.marshal message rest) sent
      let waiting := if resume then .awaitResumed else .awaitChallenge
      some { c with toGateway := channel, agent := if err.isSome then .ended else waiting }
    else none
  | .clientAuth rest sent =>
    if c.agent = .answering then
      let (channel, err) := c.toGateway.writeInitial 2 (codec.marshal .clientAuth rest) sent
      some { c with toGateway := channel, agent := if err.isSome then .ended else .awaitReady }
    else none
  | .read valid =>
    if c.agent.reads then
      c.toAgent.receive.map fun (channel, result) =>
        { c with toAgent := channel }.agentRead codec valid result
    else none
  | .send request =>
    (c.toGateway.turn (·.agentSendFrame request)).map fun channel => { c with toGateway := channel }
  | .turn act =>
    (c.toGateway.turn (·.agentTurn act)).map fun channel => { c with toGateway := channel }
  | .write ended sent =>
    (c.toGateway.write agentDrops ended sent).map fun (channel, _) => { c with toGateway := channel }
  | .close => some { c with toGateway := c.toGateway.close }

/-- The Gateway after it has read `result`. -/
def Connection.gatewayRead (c : Connection) (valid : Bool) (result : Option WireFrame) : Connection :=
  match c.gateway, result with
  | .awaitFirst, some frame =>
    if frame.kind = kindControl ∧ frame.streamID = 0 ∧ valid then
      match codec.unmarshal frame.payload with
      | .ok .clientHello => { c with gateway := .challenging }
      | .ok .resumeSession => { c with gateway := .replying, toAgent := c.toAgent.startWriter 0 }
      | _ => { c with gateway := .ended }
    else { c with gateway := .ended }
  | .awaitAuth, some frame =>
    if frame.kind = kindControl ∧ frame.streamID = 0 ∧ valid then { c with gateway := .readying }
    else { c with gateway := .ended }
  | .running, some _ => if valid then c else { c with toAgent := c.toAgent.close }
  | .running, none => { c with toAgent := c.toAgent.close }
  | _, _ => { c with gateway := .ended }

def GatewayPhase.reads : GatewayPhase → Bool
  | .awaitFirst | .awaitAuth | .running => true
  | .challenging | .readying | .replying | .awaitReply | .ended => false

/-- `resumeSession` gets the result of its reply. -/
def Connection.replied (c : Connection) (result : Option GoError) : Connection :=
  if c.gateway = .awaitReply then
    match result with
    | none => { c with gateway := .running }
    | some _ => { c with gateway := .ended, toAgent := c.toAgent.close }
  else c

def Connection.gatewayStep (c : Connection) : GatewayAct → Option Connection
  | .challenge rest sent =>
    if c.gateway = .challenging then
      let (channel, err) := c.toAgent.writeInitial 1 (codec.marshal .serverChallenge rest) sent
      some { c with toAgent := channel, gateway := if err.isSome then .ended else .awaitAuth }
    else none
  | .ready rest sent =>
    if c.gateway = .readying then
      let (channel, err) := c.toAgent.writeInitial 2 (codec.marshal .sessionReady rest) sent
      some (if err.isSome then { c with toAgent := channel, gateway := .ended }
        else { c with toAgent := channel.startWriter 2, gateway := .running })
    else none
  | .reply rest =>
    if c.gateway = .replying then
      (c.toAgent.turn (·.sessionSendFrame
        ⟨kindControl, 0, codec.marshal (.sessionResumed 2) rest, 0⟩)).map fun channel =>
          { c with toAgent := channel, gateway := .awaitReply }
    else none
  | .abandonReply =>
    if c.gateway = .replying ∨ c.gateway = .awaitReply then
      some { c with gateway := .ended, toAgent := c.toAgent.close }
    else none
  | .read valid =>
    if c.gateway.reads then
      c.toGateway.receive.map fun (channel, result) =>
        { c with toGateway := channel }.gatewayRead codec valid result
    else none
  | .send request =>
    -- only a session that is registered has senders
    if c.gateway = .running then
      (c.toAgent.turn (·.sessionSendFrame request)).map fun channel => { c with toAgent := channel }
    else none
  | .turn act =>
    (c.toAgent.turn (·.sessionTurn act)).map fun channel => { c with toAgent := channel }
  | .write ended sent =>
    (c.toAgent.write sessionDrops ended sent).map fun (channel, result) =>
      { c with toAgent := channel }.replied result
  | .close => some { c with toAgent := c.toAgent.close }

def Connection.step (c : Connection) : ConnectionAct → Option Connection
  | .agent act => c.agentStep codec act
  | .gateway act => c.gatewayStep codec act

end Steps

/-! ## The first frame of a direction -/

/-- The first frame of a direction has a payload in `P`, as long as there is none every request has. -/
structure Channel.Opens (P : Bytes → Prop) (c : Channel) : Prop where
  first : ∀ {encoded frame}, c.wire[0]? = some encoded → decodeFrame encoded = .ok frame →
    P frame.payload
  queued : c.wire = [] → ∀ {w}, c.writer = some w → ∀ {request}, request ∈ w.requests →
    P request.payload

section Opens

variable {P : Bytes → Prop} {c c' : Channel}

theorem Channel.opens_empty : empty.Opens P where
  first h := by simp [empty] at h
  queued _ _ h := by simp [empty] at h

variable (h : c.Opens P) {frame : WireFrame} {encoded : Bytes} {w w' : Writer}

include h

/-- Behind the first frame any requests may come. -/
theorem Channel.Opens.of_ne_nil (hwire : c'.wire = c.wire) (hne : c.wire ≠ []) :
    c'.Opens P where
  first := by rw [hwire]; exact h.first
  queued hnil := absurd (hwire ▸ hnil) hne

/-- The first of the messages after one more was written. -/
theorem Channel.Opens.first_append
    (hencode : encodeFrame frame = .ok encoded) (hP : c.wire = [] → P frame.payload)
    {message : Bytes} {read : WireFrame} (hmessage : (c.wire ++ [encoded])[0]? = some message)
    (hdecode : decodeFrame message = .ok read) : P read.payload := by
  cases hwire : c.wire with
  | nil =>
    rw [hwire] at hmessage
    cases hmessage
    rw [decodeFrame_of_encodeFrame hencode] at hdecode
    cases hdecode
    exact hP hwire
  | cons head rest =>
    apply h.first _ hdecode
    rw [hwire] at hmessage ⊢
    exact hmessage

theorem Channel.Opens.append
    (hencode : encodeFrame frame = .ok encoded) (hP : c.wire = [] → P frame.payload)
    {writer : Option Writer} : Opens P { c with wire := c.wire ++ [encoded], writer } where
  first := h.first_append hencode hP
  queued hnil := by simp at hnil

theorem Channel.Opens.writeInitial (sequence : Nat) (payload : Bytes) (sent : Sent)
    (hP : c.wire = [] → P payload) : (c.writeInitial sequence payload sent).1.Opens P := by
  simp only [Channel.writeInitial]
  split
  · exact h
  next encoded hencode =>
    split
    · exact h.append hencode hP
    next err reached =>
      cases reached
      · exact h
      · exact h.append hencode hP

theorem Channel.Opens.startWriter (lastOutbound : Nat) :
    (c.startWriter lastOutbound).Opens P where
  first := h.first
  queued _ _ hw request hrequest := by
    cases hw
    simp [Writer.requests, newWriter] at hrequest

theorem Channel.Opens.close : c.close.Opens P where
  first := h.first
  queued hnil w hw request hrequest := by
    obtain ⟨v, hv, rfl⟩ := Option.map_eq_some_iff.mp hw
    exact h.queued hnil hv hrequest

theorem Channel.Opens.turn {move : Writer → Option Writer}
    (hmove : ∀ {w w'}, move w = some w' → ∀ request ∈ w'.requests,
      request ∈ w.requests ∨ P request.payload) (hturn : c.turn move = some c') : c'.Opens P := by
  obtain ⟨w', hw', rfl⟩ := Option.map_eq_some_iff.mp hturn
  obtain ⟨w, hw, hmoved⟩ := Option.bind_eq_some_iff.mp hw'
  refine ⟨h.first, ?_⟩
  intro hnil v hv request hrequest
  cases hv
  rcases hmove hmoved request hrequest with hold | hnew
  · exact h.queued hnil hw hold
  · exact hnew

omit h

theorem Writer.requests_sessionSendFrame {request : WriteRequest}
    (h : w.sessionSendFrame request = some w') : ∀ other ∈ w'.requests,
      other ∈ w.requests ∨ other = request := by
  simp only [Writer.sessionSendFrame, Writer.enqueue] at h
  split at h <;> split at h <;> cases h <;> intro other hother <;>
    simp only [Writer.requests, List.mem_append, List.mem_singleton] at hother ⊢ <;> tauto

theorem Writer.requests_sessionTurn {act : LoopAct}
    (h : w.sessionTurn act = some w') : ∀ other ∈ w'.requests, other ∈ w.requests := by
  intro other hother
  cases act <;> simp only [Writer.sessionTurn] at h
  all_goals repeat' split at h
  all_goals cases h
  all_goals grind [Writer.requests]

/-- A frame that is written carries the payload of its request; a sender that is told of no failure
    has its frame on the wire. -/
theorem Channel.Opens.write (h : c.Opens P) {drops : UInt8 → Bool} {ended : Option GoError}
    {sent : Sent} {result : Option GoError} (hwrite : c.write drops ended sent = some (c', result)) :
    c'.Opens P ∧ (result = none ∨ c.wire ≠ [] → c'.wire ≠ []) := by
  simp only [Channel.write] at hwrite
  split at hwrite
  · cases hwrite
  next w hw =>
  split at hwrite <;> cases hwrite
  next request hloop =>
    have hP : c.wire = [] → P request.payload := by
      intro hnil
      apply h.queued hnil hw
      simp [Writer.requests, hloop]
    -- without a frame the writer keeps what it had
    have hkeep : ∀ {v : Writer}, v.requests = { w with loop := .top }.requests →
        Opens P { c with writer := some v } := by
      intro v hv
      refine ⟨h.first, ?_⟩
      intro hnil u hu other hother
      cases hu
      apply h.queued hnil hw
      rw [hv] at hother
      simp only [Writer.requests, List.append_nil, List.mem_append] at hother ⊢
      exact .inl hother
    simp only [Writer.writeQueued]
    split
    · exact ⟨hkeep rfl, by simp⟩
    split
    · exact ⟨hkeep rfl, by simp⟩
    split
    · exact ⟨hkeep rfl, by simp⟩
    next encoded hencode =>
      split
      · exact ⟨h.append hencode hP, by simp⟩
      next err reached =>
        cases reached
        · exact ⟨hkeep rfl, by simp⟩
        · exact ⟨h.append hencode hP, by simp⟩

end Opens

/-! ## Agreement -/

/-- How many frames the Agent has written when it stands in a phase of the handshake. -/
def AgentPhase.frames : AgentPhase → Option Nat
  | .start => some 0
  | .awaitChallenge | .answering | .awaitResumed => some 1
  | .awaitReady => some 2
  | .running | .ended => none

/-- How many frames the Gateway has written by hand in a phase of the handshake. -/
def GatewayPhase.frames : GatewayPhase → Option Nat
  | .awaitFirst | .challenging => some 0
  | .awaitAuth | .readying => some 1
  | .replying | .awaitReply | .running | .ended => none

/-- What the first frame of a Gateway says. -/
def IsAnswer (codec : HandshakeCodec) (payload : Bytes) : Prop :=
  codec.unmarshal payload = .ok .serverChallenge ∨
    codec.unmarshal payload = .ok (.sessionResumed 2)

structure Connection.Agrees (codec : HandshakeCodec) (c : Connection) : Prop where
  toGateway : c.toGateway.Contiguous
  toAgent : c.toAgent.Contiguous
  agent : ∀ {n}, c.agent.frames = some n → c.toGateway.wire.length = n ∧ c.toGateway.writer = none
  gateway : ∀ {n}, c.gateway.frames = some n → c.toAgent.wire.length = n ∧ c.toAgent.writer = none
  answer : c.toAgent.Opens (IsAnswer codec)
  /-- a session has senders only after its first frame -/
  running : c.gateway = .running → c.toAgent.wire ≠ []

section Agrees

variable {codec : HandshakeCodec} {c c' : Connection} {channel : Channel} {sent : Sent}
  {channel' : Channel} {payload : Bytes} {sequence : Nat}

theorem Connection.agrees_start : Connection.start.Agrees codec where
  toGateway := contiguous_empty
  toAgent := contiguous_empty
  agent h := by cases h; exact ⟨rfl, rfl⟩
  gateway h := by cases h; exact ⟨rfl, rfl⟩
  answer := opens_empty
  running h := by cases h

theorem Channel.length_writeInitial
    (h : (channel.writeInitial sequence payload sent).2.isSome = false) :
    (channel.writeInitial sequence payload sent).1.wire.length = channel.wire.length + 1 := by
  simp only [Channel.writeInitial] at h ⊢
  split at h
  · cases h
  split at h
  · simp
  · cases h

theorem Channel.writer_writeInitial :
    (channel.writeInitial sequence payload sent).1.writer = channel.writer := by
  simp only [Channel.writeInitial]
  split
  · rfl
  · split <;> rfl

/-- The Agent writes a handshake frame with the number after the frames it has written. -/
theorem Connection.Agrees.agentInitial (h : c.Agrees codec) {n : Nat}
    (hn : c.agent.frames = some n) (hbound : n < maxSequence) (payload : Bytes) (sent : Sent)
    {waiting : AgentPhase} (hwaiting : waiting.frames = some (n + 1)) :
    Connection.Agrees codec { c with
      toGateway := (c.toGateway.writeInitial (n + 1) payload sent).1
      agent := if (c.toGateway.writeInitial (n + 1) payload sent).2.isSome then .ended
        else waiting } := by
  obtain ⟨hlength, hnone⟩ := h.agent hn
  refine { h with
    toGateway := h.toGateway.writeInitial hnone (by rw [hlength]) hbound payload sent, agent := ?_ }
  intro m hm
  cases herr : (c.toGateway.writeInitial (n + 1) payload sent).2.isSome with
  | true =>
    simp only [herr, if_true] at hm
    cases hm
  | false =>
    simp only [herr, Bool.false_eq_true, if_false, hwaiting, Option.some.injEq] at hm
    subst hm
    exact ⟨by rw [length_writeInitial herr, hlength],
      by rw [writer_writeInitial, hnone]⟩

/-- The Agent's direction takes a step after the handshake's frames. -/
theorem Connection.Agrees.withToGateway (h : c.Agrees codec) (hchannel : channel.Contiguous)
    (hframes : c.toGateway.writer = none → channel.wire = c.toGateway.wire ∧ channel.writer = none) :
    Connection.Agrees codec { c with toGateway := channel } := by
  refine { h with toGateway := hchannel, agent := ?_ }
  intro n hn
  obtain ⟨hlength, hnone⟩ := h.agent hn
  obtain ⟨hwire, hwriter⟩ := hframes hnone
  exact ⟨by rw [hwire]; exact hlength, hwriter⟩

theorem Connection.Agrees.withToAgent (h : c.Agrees codec) (hchannel : channel.Contiguous)
    (hanswer : channel.Opens (IsAnswer codec))
    (hframes : c.toAgent.writer = none → channel.wire = c.toAgent.wire ∧ channel.writer = none)
    (hwire : c.toAgent.wire ≠ [] → channel.wire ≠ []) :
    Connection.Agrees codec { c with toAgent := channel } := by
  refine { h with
    toAgent := hchannel, gateway := ?_, answer := hanswer, running := fun hr => hwire (h.running hr) }
  intro n hn
  obtain ⟨hlength, hnone⟩ := h.gateway hn
  obtain ⟨hsame, hwriter⟩ := hframes hnone
  exact ⟨by rw [hsame]; exact hlength, hwriter⟩

theorem Channel.turn_some {move : Writer → Option Writer} (h : channel.turn move = some channel') :
    channel'.wire = channel.wire ∧ channel.writer ≠ none := by
  obtain ⟨w', hw', rfl⟩ := Option.map_eq_some_iff.mp h
  obtain ⟨w, hw, -⟩ := Option.bind_eq_some_iff.mp hw'
  exact ⟨rfl, by simp [hw]⟩

theorem Channel.write_some {drops : UInt8 → Bool} {ended : Option GoError} {result : Option GoError}
    (h : channel.write drops ended sent = some (channel', result)) : channel.writer ≠ none := by
  intro hnone
  simp [Channel.write, hnone] at h

theorem Channel.close_none (h : channel.writer = none) :
    channel.close.wire = channel.wire ∧ channel.close.writer = none := by
  simp [close, h]

variable (h : c.Agrees codec) {frame : WireFrame} {encoded : Bytes}

include h

/-- The phase of the Agent after a handshake that ended. -/
theorem Connection.Agrees.agentEnded : Connection.Agrees codec { c with agent := .ended } :=
  { h with agent := nofun }

theorem Connection.Agrees.gatewayEnded : Connection.Agrees codec { c with gateway := .ended } :=
  { h with gateway := nofun, running := nofun }

theorem Connection.Agrees.closeToGateway :
    Connection.Agrees codec { c with toGateway := c.toGateway.close } :=
  h.withToGateway h.toGateway.close close_none

theorem Connection.Agrees.closeToAgent :
    Connection.Agrees codec { c with toAgent := c.toAgent.close } :=
  h.withToAgent h.toAgent.close h.answer.close close_none id

/-- The session of the Agent continues the numbers of its handshake. -/
theorem Connection.Agrees.agentSession {lastOutbound : Nat}
    (hlast : lastOutbound = c.toGateway.wire.length) :
    Connection.Agrees codec
      { c with agent := .running, toGateway := c.toGateway.startWriter lastOutbound } :=
  { h with toGateway := h.toGateway.startWriter hlast, agent := nofun }

/-- The frame that `authenticateOrResume` goes on with is the first one, and its `next_sequence` is the
    number after the Agent's only frame. -/
theorem Connection.Agrees.next_eq {next : Nat}
    (hencoded : c.toAgent.wire[0]? = some encoded) (hdecode : decodeFrame encoded = .ok frame)
    (hnext : codec.unmarshal frame.payload = .ok (.sessionResumed next)) : next = 2 := by
  rcases h.answer.first hencoded hdecode with hchallenge | hresumed
  · rw [hchallenge] at hnext
    cases hnext
  · rw [hresumed] at hnext
    cases hnext
    rfl

/-- What the Agent does with a frame that its tracker accepted. -/
theorem Connection.Agrees.agentRead {i : Nat}
    (hencoded : c.toAgent.wire[i]? = some encoded) (hdecode : decodeFrame encoded = .ok frame)
    (hsequence : frame.sequence.toNat = i + 1) (valid : Bool) :
    (c.agentRead codec valid (some frame)).Agrees codec := by
  simp only [Connection.agentRead]
  split
  next hphase _ =>
    split
    · exact { h with agent := fun hn => h.agent (by rw [hphase]; exact hn) }
    · exact h.agentEnded
  next hphase _ =>
    split
    · exact h.agentSession (h.agent (n := 2) (by rw [hphase]; rfl)).1.symm
    · exact h.agentEnded
  next hphase heq =>
    cases heq
    split
    next hframe =>
      split
      next next hnext =>
        have hfirst : frame.sequence = 1 := by
          simp only [isHandshakeFrame, Bool.and_eq_true, decide_eq_true_eq] at hframe
          exact hframe.1.1.1
        have hi : i = 0 := by
          rw [hfirst] at hsequence
          change 1 = i + 1 at hsequence
          omega
        subst hi
        cases h.next_eq hencoded hdecode hnext
        exact h.agentSession (h.agent (n := 1) (by rw [hphase]; rfl)).1.symm
      · exact h.agentEnded
    · exact h.agentEnded
  next =>
    split
    · exact h
    · exact h.closeToGateway
  next => exact h.closeToGateway
  next => exact h.agentEnded

theorem Connection.Agrees.agentStep {act : AgentAct} (hstep : c.agentStep codec act = some c') :
    c'.Agrees codec := by
  cases act with
  | first resume rest sent =>
    obtain ⟨hphase, ⟨⟩⟩ := Option.ite_none_right_eq_some.mp hstep
    exact h.agentInitial (n := 0) (by rw [hphase]; rfl) (by decide) _ sent (by cases resume <;> rfl)
  | clientAuth rest sent =>
    obtain ⟨hphase, ⟨⟩⟩ := Option.ite_none_right_eq_some.mp hstep
    exact h.agentInitial (n := 1) (by rw [hphase]; rfl) (by decide) _ sent rfl
  | read valid =>
    obtain ⟨-, hstep⟩ := Option.ite_none_right_eq_some.mp hstep
    obtain ⟨⟨channel, result⟩, hreceive, rfl⟩ := Option.map_eq_some_iff.mp hstep
    obtain ⟨hchannel, hwire, hwriter, frame, encoded, rfl, hencoded, hdecode, hsequence⟩ :=
      h.toAgent.receive hreceive
    have hread : Connection.Agrees codec { c with toAgent := channel } := by
      refine h.withToAgent hchannel ?_ (fun hnone => ⟨hwire, hwriter.trans hnone⟩) (by simp [hwire])
      exact ⟨by rw [hwire]; exact h.answer.first, by rw [hwire, hwriter]; exact h.answer.queued⟩
    exact hread.agentRead (by rw [hwire]; exact hencoded) hdecode hsequence valid
  | send request =>
    obtain ⟨channel, hturn, rfl⟩ := Option.map_eq_some_iff.mp hstep
    exact h.withToGateway (h.toGateway.turn Writer.Between.agentSendFrame hturn)
      (fun hnone => absurd hnone (turn_some hturn).2)
  | turn act =>
    obtain ⟨channel, hturn, rfl⟩ := Option.map_eq_some_iff.mp hstep
    exact h.withToGateway (h.toGateway.turn Writer.Between.agentTurn hturn)
      (fun hnone => absurd hnone (turn_some hturn).2)
  | write ended sent =>
    obtain ⟨⟨channel, result⟩, hwrite, rfl⟩ := Option.map_eq_some_iff.mp hstep
    exact h.withToGateway (h.toGateway.write hwrite)
      (fun hnone => absurd hnone (write_some hwrite))
  | close =>
    cases hstep
    exact h.closeToGateway

/-- What the Gateway does with a frame. -/
theorem Connection.Agrees.gatewayRead (valid : Bool) (result : Option WireFrame) :
    (c.gatewayRead codec valid result).Agrees codec := by
  simp only [Connection.gatewayRead]
  split
  next frame hphase =>
    split
    · split
      · exact { h with gateway := fun hn => h.gateway (by rw [hphase]; exact hn), running := nofun }
      · have hlength := (h.gateway (n := 0) (by rw [hphase]; rfl)).1
        exact { h with
          toAgent := h.toAgent.startWriter hlength.symm, gateway := nofun
          answer := h.answer.startWriter 0, running := nofun }
      · exact h.gatewayEnded
    · exact h.gatewayEnded
  next frame hphase =>
    split
    · exact { h with gateway := fun hn => h.gateway (by rw [hphase]; exact hn), running := nofun }
    · exact h.gatewayEnded
  next =>
    split
    · exact h
    · exact h.closeToAgent
  next => exact h.closeToAgent
  next => exact h.gatewayEnded

theorem Connection.Agrees.gatewayChallenge {rest : Bytes} {sent : Sent}
    (hstep : c.gatewayStep codec (.challenge rest sent) = some c') : c'.Agrees codec := by
  simp only [Connection.gatewayStep] at hstep
  obtain ⟨hphase, ⟨⟩⟩ := Option.ite_none_right_eq_some.mp hstep
  obtain ⟨hlength, hnone⟩ := h.gateway (n := 0) (by rw [hphase]; rfl)
  refine { h with
    toAgent := h.toAgent.writeInitial hnone (by rw [hlength]) (by decide) _ sent, gateway := ?_
    answer := h.answer.writeInitial 1 _ sent fun _ => .inl (codec.unmarshal_marshal _ rest)
    running := ?_ }
  · intro m hm
    simp only at hm
    split at hm <;> cases hm
    next herr =>
      refine ⟨?_, by rw [writer_writeInitial, hnone]⟩
      rw [length_writeInitial (Bool.not_eq_true _ ▸ herr), hlength]
  · intro hr
    simp only at hr
    split at hr <;> cases hr

theorem Connection.Agrees.gatewayReady {rest : Bytes} {sent : Sent}
    (hstep : c.gatewayStep codec (.ready rest sent) = some c') : c'.Agrees codec := by
  simp only [Connection.gatewayStep] at hstep
  obtain ⟨hphase, ⟨⟩⟩ := Option.ite_none_right_eq_some.mp hstep
  obtain ⟨hlength, hnone⟩ := h.gateway (n := 1) (by rw [hphase]; rfl)
  have hne : c.toAgent.wire ≠ [] := List.ne_nil_of_length_eq_add_one hlength
  have hchannel := h.toAgent.writeInitial hnone (by rw [hlength]) (by decide)
    (codec.marshal .sessionReady rest) sent
  have hanswer := h.answer.writeInitial 2 (codec.marshal .sessionReady rest) sent
    (fun hnil => absurd hnil hne)
  split
  · exact { h with toAgent := hchannel, gateway := nofun, answer := hanswer, running := nofun }
  next herr =>
    have htwo := length_writeInitial (Bool.not_eq_true _ ▸ herr)
    rw [hlength] at htwo
    exact { h with
      toAgent := hchannel.startWriter htwo.symm, gateway := nofun
      answer := hanswer.startWriter 2
      running := fun _ => List.ne_nil_of_length_eq_add_one htwo }

theorem Connection.Agrees.gatewayStep {act : GatewayAct} (hstep : c.gatewayStep codec act = some c') :
    c'.Agrees codec := by
  cases act with
  | challenge rest sent => exact h.gatewayChallenge hstep
  | ready rest sent => exact h.gatewayReady hstep
  | reply rest =>
    obtain ⟨-, hstep⟩ := Option.ite_none_right_eq_some.mp hstep
    obtain ⟨channel, hturn, rfl⟩ := Option.map_eq_some_iff.mp hstep
    refine { h with
      toAgent := h.toAgent.turn Writer.Between.enqueue hturn, gateway := nofun
      answer := h.answer.turn ?_ hturn, running := nofun }
    intro w w' hsend other hother
    rcases Writer.requests_sessionSendFrame hsend other hother with hold | rfl
    · exact .inl hold
    · exact .inr (.inr (codec.unmarshal_marshal _ rest))
  | abandonReply =>
    obtain ⟨-, ⟨⟩⟩ := Option.ite_none_right_eq_some.mp hstep
    exact h.closeToAgent.gatewayEnded
  | read valid =>
    obtain ⟨-, hstep⟩ := Option.ite_none_right_eq_some.mp hstep
    obtain ⟨⟨channel, result⟩, hreceive, rfl⟩ := Option.map_eq_some_iff.mp hstep
    obtain ⟨hchannel, hwire, hwriter, -⟩ := h.toGateway.receive hreceive
    have hread : Connection.Agrees codec { c with toGateway := channel } :=
      h.withToGateway hchannel fun hnone => ⟨hwire, hwriter.trans hnone⟩
    exact hread.gatewayRead valid result
  | send request =>
    obtain ⟨hphase, hstep⟩ := Option.ite_none_right_eq_some.mp hstep
    obtain ⟨channel, hturn, rfl⟩ := Option.map_eq_some_iff.mp hstep
    obtain ⟨hwire, hwriter⟩ := turn_some hturn
    exact h.withToAgent (h.toAgent.turn Writer.Between.enqueue hturn)
      (h.answer.of_ne_nil hwire (h.running hphase)) (fun hnone => absurd hnone hwriter)
      (by simp [hwire])
  | turn act =>
    obtain ⟨channel, hturn, rfl⟩ := Option.map_eq_some_iff.mp hstep
    obtain ⟨hwire, hwriter⟩ := turn_some hturn
    refine h.withToAgent (h.toAgent.turn Writer.Between.sessionTurn hturn) (h.answer.turn ?_ hturn)
      (fun hnone => absurd hnone hwriter) (by simp [hwire])
    exact fun hmove other hother => .inl (Writer.requests_sessionTurn hmove other hother)
  | write ended sent =>
    obtain ⟨⟨channel, result⟩, hwrite, rfl⟩ := Option.map_eq_some_iff.mp hstep
    obtain ⟨hanswer, hne⟩ := h.answer.write hwrite
    have hwritten : Connection.Agrees codec { c with toAgent := channel } :=
      h.withToAgent (h.toAgent.write hwrite) hanswer
        (fun hnone => absurd hnone (write_some hwrite)) (fun hwire => hne (.inr hwire))
    simp only [Connection.replied]
    split
    · split
      · exact { hwritten with gateway := nofun, running := fun _ => hne (.inl rfl) }
      · exact hwritten.closeToAgent.gatewayEnded
    · exact hwritten
  | close =>
    cases hstep
    exact h.closeToAgent

theorem Connection.Agrees.step {act : ConnectionAct} (hstep : c.step codec act = some c') :
    c'.Agrees codec := by
  cases act with
  | agent act => exact h.agentStep hstep
  | gateway act => exact h.gatewayStep hstep

end Agrees

/-- At the last sequence number a request is abandoned with its context or closes the session. -/
def Channel.EndsAtLast (drops : UInt8 → Bool) (c : Channel) : Prop :=
  ∀ {w request ended sent c' result}, c.writer = some w → w.loop = .writing request →
    c.wire.length = maxSequence → c.write drops ended sent = some (c', result) →
      c'.wire = c.wire ∧ result ≠ none ∧
        (ended ≠ none ∧ drops request.kind = true ∨ ∃ w', c'.writer = some w' ∧ w'.closed = true)

theorem Channel.Contiguous.endsAtLast {c : Channel} (h : c.Contiguous) (drops : UInt8 → Bool) :
    c.EndsAtLast drops := by
  intro w request ended sent c' result hw hloop hlength hwrite
  have hmax : w.outbound = maxSequence := by
    rcases h.outbound hw with houtbound | ⟨-, htop | hreturned⟩
    · rw [houtbound, hlength]
    · rw [htop] at hloop; cases hloop
    · rw [hreturned] at hloop; cases hloop
  exact write_exhausted hw hloop hmax hwrite

/-- In every run of a connection, through a full handshake or a resume and with any senders, the frames
    of both directions are numbered from one without gap, the other end accepts them in their order,
    and the session ends instead of numbering past the last number. -/
theorem sequences_agree {codec : HandshakeCodec} {acts : List ConnectionAct} {c : Connection}
    (hrun : StepSystem.run (Connection.step codec) .start acts = some c) :
    c.toGateway.Contiguous ∧ c.toAgent.Contiguous ∧
      c.toGateway.EndsAtLast agentDrops ∧ c.toAgent.EndsAtLast sessionDrops := by
  have hagrees : c.Agrees codec :=
    StepSystem.invariant (fun h hstep => h.step hstep) Connection.agrees_start hrun
  exact ⟨hagrees.toGateway, hagrees.toAgent, hagrees.toGateway.endsAtLast agentDrops,
    hagrees.toAgent.endsAtLast sessionDrops⟩

/-- A codec with one tag for each message. -/
def tagCodec : HandshakeCodec where
  marshal
    | .clientHello, _ => [0]
    | .resumeSession, _ => [1]
    | .serverChallenge, _ => [2]
    | .clientAuth, _ => [3]
    | .sessionReady, _ => [4]
    | .sessionResumed next, _ => 5 :: List.replicate next 0
  unmarshal
    | [0] => .ok .clientHello
    | [1] => .ok .resumeSession
    | [2] => .ok .serverChallenge
    | [3] => .ok .clientAuth
    | [4] => .ok .sessionReady
    | 5 :: rest => .ok (.sessionResumed rest.length)
    | _ => .error (errorsNew "unexpected end of JSON input")
  unmarshal_marshal message rest := by cases message <;> simp

/-- A resume, then an abandoned and a written control frame of the Agent and a data frame of the
    Gateway. -/
def resumedRun : List ConnectionAct :=
  [.agent (.first true [] .written), .gateway (.read true), .gateway (.reply []),
    .gateway (.turn .check), .gateway (.turn .takeControl), .gateway (.write none .written),
    .agent (.read true), .agent (.send ⟨kindControl, 0, [7], 0⟩),
    .agent (.send ⟨kindControl, 0, [8], 0⟩), .agent (.turn .check), .agent (.turn .takeControl),
    .agent (.turn .takeControl), .agent (.turn .pick),
    .agent (.write (some (errorsNew "context deadline exceeded")) .written),
    .agent (.turn .check), .agent (.turn .pick), .agent (.write none .written),
    .gateway (.send ⟨kindData, 1, [9], 0⟩), .gateway (.turn .check), .gateway (.turn .takeData),
    .gateway (.turn .check), .gateway (.write none .written), .gateway (.read true),
    .agent (.read true)]

theorem sequences_agree_resumed : ∃ c,
    StepSystem.run (Connection.step tagCodec) .start resumedRun = some c ∧
      c.toGateway.last = 2 ∧ c.toAgent.last = 2 ∧ c.toGateway.Contiguous ∧ c.toAgent.Contiguous := by
  refine StepSystem.exists_run rfl fun hrun => ?_
  obtain ⟨hup, hdown, -⟩ := sequences_agree hrun
  cases hrun
  exact ⟨rfl, rfl, hup, hdown⟩

end Hooshix.Tunnel
