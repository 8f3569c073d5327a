-- SUMMARY: What the byte counters of the Gateway count, over any mix of traffic.
import Hooshix.Gateway.SessionLoop
import Hooshix.Tunnel.FrameWriters

/-! # Byte counters

`publicBytes` is exported as the bytes sent toward Agents. The writers of the sessions add to it what
they have written to an Agent, but the response writers of public TCP and UDP add what they have written
to their clients; those of HTTP and of Connectors count nothing. `agentBytes` is counted in one place.
-/

namespace Hooshix.Gateway

open Contract Tunnel StepSystem SessionLoop

structure Traffic where
  publicBytes : Nat
  agentBytes : Nat
  /-- What `writePublicTCP` has read from a stream and not written; `none` when it has returned. -/
  responses : Nat → Option Nat
  /-- The requests whose frame was written to an Agent. -/
  written : List Tunnel.WriteRequest
  /-- The data frames of Agents that were accepted. -/
  accepted : List WireFrame

namespace Traffic

inductive Label where
  /-- The writer of a session, in whatever state, works off a request. -/
  | writeQueued (w : Tunnel.Writer) (request : Tunnel.WriteRequest) (ended : Option GoError) (sent : Sent)
  /-- A session, in whatever state, has read a data frame. -/
  | handleData (env : Env) (sess : SessionView) (frame : WireFrame)
  | readTCP (c : Nat) (n : Nat)
  /-- `conn.Write` has written this many bytes, with or without an error. -/
  | writeTCP (c : Nat) (n : Nat) (ok : Bool)
  /-- `WriteTo` has written this much of a datagram to the peer of a public UDP flow. -/
  | writeUDP (size n : Nat) (ok : Bool)
  /-- A response of HTTP or of a Connector is written to its client. -/
  | writeOther (n : Nat)

def start : Traffic where
  publicBytes := 0
  agentBytes := 0
  responses _ := some 0
  written := []
  accepted := []

/-- What the step gives to the client of a public TCP connection or UDP flow, and counts. -/
def delivered (s : Traffic) : Label → Nat
  | .writeTCP c n _ => if (s.responses c).isSome then n else 0
  | .writeUDP size n ok => if ok ∧ n = size then n else 0
  | _ => 0

def step (s : Traffic) : Label → Option Traffic
  | .writeQueued w request ended sent =>
    match w.writeQueued sessionDrops [] request ended sent with
    | (_, _, some _) => some s
    | (_, _, none) =>
      let size := if request.kind = kindData then request.payload.length else 0
      some { s with publicBytes := s.publicBytes + size, written := s.written ++ [request] }
  | .handleData env sess frame =>
    match handleData env sess frame with
    | .ok [.enqueue _ payload] =>
      some { s with agentBytes := s.agentBytes + payload.length, accepted := s.accepted ++ [frame] }
    | _ => some s
  | .readTCP c n =>
    if s.responses c = some 0 then
      some { s with responses := fun d => if d = c then some n else s.responses d }
    else none
  | .writeTCP c n ok =>
    match s.responses c with
    | none => none
    | some remaining =>
      if remaining = 0 ∨ remaining < n then none
      else
        some { s with
          publicBytes := s.publicBytes + n
          responses := fun d =>
            if d = c then if ok ∧ n ≠ 0 then some (remaining - n) else none else s.responses d }
  | .writeUDP size n ok =>
    if n > size then none
    else if ok ∧ n = size then some { s with publicBytes := s.publicBytes + n }
    else some s
  | .writeOther _ => some s

/-- The bytes of the data frames written to Agents. -/
def toAgents (s : Traffic) : Nat :=
  (s.written.map fun request => if request.kind = kindData then request.payload.length else 0).sum

/-- The bytes of the data frames accepted from Agents. -/
def fromAgents (s : Traffic) : Nat := (s.accepted.map (·.payload.length)).sum

variable {s s' : Traffic} {label : Label}

theorem enqueue_payload {env : Env} {sess : SessionView} {frame : WireFrame}
    {streamID : Nat} {payload : Bytes}
    (h : handleData env sess frame = .ok [.enqueue streamID payload]) :
    payload = frame.payload := by
  simp only [handleData] at h
  repeat' split at h
  all_goals cases h
  rfl

/-- Every counter moves with what it is for, and `publicBytes` with what clients are given, too. -/
theorem step_counts (h : s.step label = some s') :
    s'.agentBytes + s.fromAgents = s.agentBytes + s'.fromAgents ∧
      s'.publicBytes + s.toAgents = s.publicBytes + s'.toAgents + s.delivered label := by
  cases label with
  | writeQueued w request ended sent =>
    simp only [step] at h
    split at h <;> cases h
    · exact ⟨rfl, rfl⟩
    · refine ⟨rfl, ?_⟩
      simp only [toAgents, List.map_append, List.sum_append, delivered, List.map_cons, List.map_nil,
        List.sum_cons, List.sum_nil]
      omega
  | handleData env sess frame =>
    simp only [step] at h
    split at h <;> cases h
    next streamID payload henqueue =>
      obtain rfl := enqueue_payload henqueue
      refine ⟨?_, rfl⟩
      simp only [fromAgents, List.map_append, List.sum_append, List.map_cons, List.map_nil,
        List.sum_cons, List.sum_nil]
      omega
    next => exact ⟨rfl, rfl⟩
  | readTCP c n =>
    simp only [step] at h
    split at h <;> cases h
    exact ⟨rfl, rfl⟩
  | writeTCP c n ok =>
    simp only [step] at h
    split at h
    · cases h
    next remaining hremaining =>
      split at h <;> cases h
      refine ⟨rfl, ?_⟩
      simp only [delivered, hremaining, Option.isSome_some, if_true, toAgents]
      omega
  | writeUDP size n ok =>
    simp only [step] at h
    split at h
    · cases h
    split at h <;> cases h
    all_goals simp_all [toAgents, fromAgents, delivered]
    omega
  | writeOther n =>
    cases h
    exact ⟨rfl, rfl⟩

def Counted (s : Traffic) : Prop := s.agentBytes = s.fromAgents ∧ s.toAgents ≤ s.publicBytes

theorem Counted.step (hs : s.Counted) (h : s.step label = some s') : s'.Counted := by
  have hmoved := step_counts h
  simp only [Counted] at hs ⊢
  omega

theorem public_bytes_exact_iff (labels : List Label) (s : Traffic)
    (hrun : run step start labels = some s) :
    s.agentBytes = s.fromAgents ∧ (s.publicBytes = s.toAgents ↔
      Along step (fun s label => s.delivered label = 0) start labels) := by
  have hstart : start.Counted := ⟨rfl, Nat.le_refl _⟩
  have hs : s.Counted := invariant (fun hs h => hs.step h) hstart hrun
  refine ⟨hs.1, ?_⟩
  rw [iff_along (I := fun s => s.publicBytes = s.toAgents) (fun hs h => hs.step h) ?_ hstart
    hrun]
  · exact and_iff_right rfl
  · rintro s label s' ⟨-, hle⟩ h
    have hmoved := step_counts h
    omega

/-- One request frame, and no client of a public port. -/
theorem public_bytes_exact_request : ∃ s,
    run step start [.writeQueued (newWriter 0) ⟨kindData, 1, [1, 2, 3], 0⟩ none .written] =
      some s ∧ s.publicBytes = 3 ∧ s.publicBytes = s.toAgents := by
  refine ⟨_, rfl, rfl, ?_⟩
  exact ((public_bytes_exact_iff [.writeQueued (newWriter 0) ⟨kindData, 1, [1, 2, 3], 0⟩ none .written] _
    rfl).2).mpr ⟨rfl, trivial⟩

/-- A public TCP client is given two bytes, and no frame is written to an Agent. -/
theorem client_bytes_counted : ∃ s,
    run step start [.readTCP 0 2, .writeTCP 0 2 true] = some s ∧ s.publicBytes = 2 ∧
      s.toAgents = 0 :=
  ⟨_, rfl, rfl, rfl⟩

end Traffic

end Hooshix.Gateway
