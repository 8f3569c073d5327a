-- SUMMARY: The idle timeouts of an Agent's sessions along any chain of handshakes and resumes.
import Hooshix.Agent.ConfigLimits
import Hooshix.Lib.StepSystem

/-! # Idle timeouts of sessions

The Gateway sends its heartbeat interval and idle timeout in whole seconds with `session_ready`, and
`authenticateAgent` reads with that idle timeout. `newResumedAgentSession` is given none and reads with
the Agent's own. The sessions of one Runner and one Gateway are followed over any number of full
handshakes, resumes and lost connections, with the time since each session last read a frame.
-/

namespace Hooshix.Tunnel.IdleNegotiation

open StepSystem

/-- The members of a `session_ready` that an idle timeout comes from. -/
structure SessionReady where
  sessionID : Nat
  heartbeatIntervalSeconds : Int
  idleTimeoutSeconds : Int
  deriving DecidableEq, Repr

/-- The `session_ready` of `completeAuthentication`. -/
def sessionReady (gateway : Gateway.Limits) (sessionID : Nat) : SessionReady where
  sessionID
  heartbeatIntervalSeconds := gateway.heartbeatInterval.tdiv second
  idleTimeoutSeconds := gateway.idleTimeout.tdiv second

/-- The bounds that `ValidateControlPayload` puts on a `session_ready`. -/
def validateReady (ready : SessionReady) : Option GoError :=
  if ready.heartbeatIntervalSeconds < 5 ∨ ready.heartbeatIntervalSeconds > 60 then
    some (errorsNew "heartbeat_interval_seconds outside 5..60")
  else if ready.idleTimeoutSeconds < 15 ∨ ready.idleTimeoutSeconds > 300 ∨
      ready.idleTimeoutSeconds < 2 * ready.heartbeatIntervalSeconds then
    some (errorsNew "idle_timeout_seconds outside contract bounds")
  else none

structure AgentSession where
  sessionID : Nat
  limits : Agent.Limits
  /-- the time since the read loop began its present read -/
  waited : Int
  /-- the read loop has returned -/
  ended : Bool
  /-- it returned because nothing arrived for the idle timeout -/
  cut : Bool
  deriving DecidableEq, Repr

/-- The session that `authenticateAgent` makes of a `session_ready`. -/
def authenticateAgent (limits : Agent.Limits) (ready : SessionReady) : Except GoError AgentSession :=
  match validateReady ready with
  | some err => .error err
  | none =>
    .ok { sessionID := ready.sessionID
          limits := { limits with idleTimeout := ready.idleTimeoutSeconds * second }
          waited := 0, ended := false, cut := false }

def newResumedAgentSession (limits : Agent.Limits) (sessionID : Nat) : AgentSession where
  sessionID
  limits := { limits with idleTimeout := limits.idleTimeout }
  waited := 0
  ended := false
  cut := false

/-! ## Chains of sessions -/

structure Chain where
  /-- every `session_ready` sent -/
  sent : List SessionReady
  /-- the session that the primary worker would resume -/
  resumable : Option Nat
  /-- every session that started running -/
  sessions : List AgentSession
  deriving DecidableEq, Repr

def Chain.start : Chain := ⟨[], none, []⟩

inductive Act where
  /-- a full handshake; only the primary worker remembers its session -/
  | handshake (primary : Bool)
  /-- an accepted resume -/
  | resume
  /-- a rejected resume is forgotten -/
  | forget
  | advance (duration : Nat)
  /-- a session reads a frame and begins the next read -/
  | frame (i : Nat)
  /-- a read runs into its deadline -/
  | deadline (i : Nat)
  /-- a session ends for another reason -/
  | lose (i : Nat)
  deriving DecidableEq, Repr

def AgentSession.advance (session : AgentSession) (duration : Nat) : AgentSession :=
  { session with waited := session.waited + duration }

section Step

variable (gateway : Gateway.Limits) (agent : Agent.Limits)

/-- A change of the session `i`, which is running. -/
def Chain.change (s : Chain) (i : Nat) (change : AgentSession → Option AgentSession) : Option Chain :=
  match s.sessions[i]? with
  | none => none
  | some session =>
    if session.ended then none
    else (change session).map fun session => { s with sessions := s.sessions.set i session }

def step (s : Chain) : Act → Option Chain
  | .handshake primary =>
    let ready := sessionReady gateway s.sent.length
    match authenticateAgent agent ready with
    | .error _ => some { s with sent := s.sent ++ [ready] }
    | .ok session =>
      some { sent := s.sent ++ [ready]
             resumable := if primary then some ready.sessionID else s.resumable
             sessions := s.sessions ++ [session] }
  | .resume =>
    s.resumable.map fun sessionID =>
      { s with sessions := s.sessions ++ [newResumedAgentSession agent sessionID] }
  | .forget => some { s with resumable := none }
  | .advance duration => some { s with sessions := s.sessions.map (·.advance duration) }
  | .frame i => s.change i fun session => some { session with waited := 0 }
  | .deadline i => s.change i fun session =>
      if session.limits.idleTimeout ≤ session.waited then
        some { session with ended := true, cut := true }
      else none
  | .lose i => s.change i fun session => some { session with ended := true }

end Step

/-! ## Compatible timeouts -/

/-- Twice the heartbeat of the Gateway, in whole seconds. -/
def twoHeartbeats (gateway : Gateway.Limits) : Int :=
  2 * gateway.heartbeatInterval.tdiv second * second

/-- The session reads with at least two heartbeats and with the timeout of its `session_ready`. -/
structure Compatible (gateway : Gateway.Limits) (sent : List SessionReady) (session : AgentSession) :
    Prop where
  heartbeats : twoHeartbeats gateway ≤ session.limits.idleTimeout
  negotiated : ∃ ready ∈ sent, ready.sessionID = session.sessionID ∧
    session.limits.idleTimeout = ready.idleTimeoutSeconds * second

/-- A Gateway that keeps its heartbeat: no running session waits two heartbeats for a frame. -/
def heartbeating (gateway : Gateway.Limits) (s : Chain) : Act → Bool
  | .advance duration =>
    s.sessions.all fun session =>
      session.ended || decide (session.waited + (duration : Int) < twoHeartbeats gateway)
  | _ => true

/-- The Agent's own idle timeout is the one that the Gateway negotiates. -/
def SameTimeout (gateway : Gateway.Limits) (agent : Agent.Limits) : Prop :=
  agent.idleTimeout = gateway.idleTimeout.tdiv second * second

instance (gateway : Gateway.Limits) (agent : Agent.Limits) : Decidable (SameTimeout gateway agent) :=
  inferInstanceAs (Decidable (_ = _))

section Valid

variable {gateway : Gateway.Limits} {agent : Agent.Limits}

variable (h : gateway.valid = true)

include h

/-- What `Limits.valid` says about the two timers. -/
theorem timers_of_valid :
    5 * second ≤ gateway.heartbeatInterval ∧ gateway.heartbeatInterval ≤ 60 * second ∧
      15 * second ≤ gateway.idleTimeout ∧ gateway.idleTimeout ≤ 300 * second ∧
      2 * gateway.heartbeatInterval ≤ gateway.idleTimeout := by
  simp only [Gateway.Limits.valid, Bool.and_eq_true, decide_eq_true_eq] at h
  omega

/-- The timers of valid limits in whole seconds. -/
theorem seconds_of_valid :
    5 ≤ gateway.heartbeatInterval.tdiv second ∧ gateway.heartbeatInterval.tdiv second ≤ 60 ∧
      15 ≤ gateway.idleTimeout.tdiv second ∧ gateway.idleTimeout.tdiv second ≤ 300 ∧
      2 * gateway.heartbeatInterval.tdiv second ≤ gateway.idleTimeout.tdiv second := by
  have htimers := timers_of_valid h
  simp only [second] at htimers ⊢
  rw [Int.tdiv_eq_ediv_of_nonneg (by omega), Int.tdiv_eq_ediv_of_nonneg (by omega)]
  omega

/-- A Gateway with valid limits sends a `session_ready` that the Agent accepts. -/
theorem validateReady_sessionReady (sessionID : Nat) :
    validateReady (sessionReady gateway sessionID) = none := by
  obtain ⟨hlow, hhigh, hidle, hidle', htwice⟩ := seconds_of_valid h
  have hheartbeat : ¬ ((sessionReady gateway sessionID).heartbeatIntervalSeconds < 5 ∨
      (sessionReady gateway sessionID).heartbeatIntervalSeconds > 60) := by
    simp only [sessionReady]
    omega
  have htimeout : ¬ ((sessionReady gateway sessionID).idleTimeoutSeconds < 15 ∨
      (sessionReady gateway sessionID).idleTimeoutSeconds > 300 ∨
      (sessionReady gateway sessionID).idleTimeoutSeconds <
        2 * (sessionReady gateway sessionID).heartbeatIntervalSeconds) := by
    simp only [sessionReady]
    omega
  rw [validateReady, if_neg hheartbeat, if_neg htimeout]

theorem twoHeartbeats_le : twoHeartbeats gateway ≤ gateway.idleTimeout.tdiv second * second := by
  have htwice := (seconds_of_valid h).2.2.2.2
  simp only [twoHeartbeats, second] at htwice ⊢
  omega

/-- A heartbeat is shorter than two of its whole seconds. -/
theorem heartbeat_lt_twoHeartbeats : gateway.heartbeatInterval < twoHeartbeats gateway := by
  obtain ⟨hlow, -⟩ := timers_of_valid h
  simp only [second] at hlow
  simp only [twoHeartbeats, second]
  rw [Int.tdiv_eq_ediv_of_nonneg (by omega)]
  omega

end Valid

/-! ## Sessions of a chain -/

/-- What is known of every state of a chain. -/
structure Settled (gateway : Gateway.Limits) (s : Chain) : Prop where
  compatible : ∀ {session}, session ∈ s.sessions → Compatible gateway s.sent session
  /-- the session that may be resumed was established by a full handshake -/
  resumable : ∀ {sessionID}, s.resumable = some sessionID → ∃ ready ∈ s.sent,
    ready.sessionID = sessionID ∧ ready.idleTimeoutSeconds = gateway.idleTimeout.tdiv second

section Settled

variable {gateway : Gateway.Limits} {agent : Agent.Limits} {s s' : Chain}
  {session session' : AgentSession} {i : Nat} {acts : List Act} {act : Act}

theorem settled_start : Settled gateway Chain.start where
  compatible h := by simp [Chain.start] at h
  resumable h := by cases h

theorem Compatible.mono {sent sent' : List SessionReady} {session : AgentSession}
    (h : Compatible gateway sent session) (hsent : sent ⊆ sent') :
    Compatible gateway sent' session := by
  obtain ⟨hheartbeats, ready, hready, hsame⟩ := h
  exact ⟨hheartbeats, ready, hsent hready, hsame⟩

/-- A change that keeps the identity and the limits of a session. -/
theorem Compatible.of_same {sent : List SessionReady}
    (h : Compatible gateway sent session) (hid : session'.sessionID = session.sessionID)
    (hlimits : session'.limits = session.limits) : Compatible gateway sent session' := by
  constructor
  · rw [hlimits]
    exact h.heartbeats
  · rw [hid, hlimits]
    exact h.negotiated

/-- The inversion of a change of one session. -/
theorem change_some {change : AgentSession → Option AgentSession}
    (h : s.change i change = some s') : ∃ session session', s.sessions[i]? = some session ∧
      session.ended = false ∧ change session = some session' ∧
      s' = { s with sessions := s.sessions.set i session' } := by
  simp only [Chain.change] at h
  split at h
  · cases h
  next session hsession =>
    split at h
    · cases h
    next hended =>
      obtain ⟨session', hchange, rfl⟩ := Option.map_eq_some_iff.mp h
      exact ⟨session, session', hsession, by simpa using hended, hchange, rfl⟩

theorem Settled.change (h : Settled gateway s) {change : AgentSession → Option AgentSession}
    (hsame : ∀ {session session'}, change session = some session' →
      session'.sessionID = session.sessionID ∧ session'.limits = session.limits)
    (hchange : s.change i change = some s') : Settled gateway s' := by
  obtain ⟨old, new, hold, -, hnew, rfl⟩ := change_some hchange
  refine ⟨?_, h.resumable⟩
  intro session hsession
  rcases List.mem_or_eq_of_mem_set hsession with hmem | rfl
  · exact h.compatible hmem
  · obtain ⟨hid, hlimits⟩ := hsame hnew
    exact (h.compatible (List.mem_of_getElem? hold)).of_same hid hlimits

/-- The ways in which a read, a deadline and a lost connection change a session. -/
theorem change_keeps (h : some { session with waited := 0 } = some session' ∨
      (if session.limits.idleTimeout ≤ session.waited then
        some { session with ended := true, cut := true } else none) = some session' ∨
      some { session with ended := true } = some session') :
    session'.sessionID = session.sessionID ∧ session'.limits = session.limits := by
  rcases h with h | h | h
  · cases h; exact ⟨rfl, rfl⟩
  · split at h
    · cases h; exact ⟨rfl, rfl⟩
    · cases h
  · cases h; exact ⟨rfl, rfl⟩

theorem authenticateAgent_sessionReady (agent : Agent.Limits) (hvalid : gateway.valid = true)
    (sessionID : Nat) :
    ∃ session, authenticateAgent agent (sessionReady gateway sessionID) = .ok session ∧
      session.sessionID = sessionID ∧ session.ended = false ∧ session.cut = false ∧
      session.waited = 0 ∧
      session.limits.idleTimeout = gateway.idleTimeout.tdiv second * second := by
  simp only [authenticateAgent, validateReady_sessionReady hvalid]
  exact ⟨_, rfl, rfl, rfl, rfl, rfl, rfl⟩

theorem Settled.step (h : Settled gateway s) (hvalid : gateway.valid = true)
    (hsame : act = .resume → SameTimeout gateway agent)
    (hstep : step gateway agent s act = some s') : Settled gateway s' := by
  cases act with
  | handshake primary =>
    obtain ⟨session, hsession, hid, -, -, -, hidle⟩ :=
      authenticateAgent_sessionReady agent hvalid s.sent.length
    simp only [IdleNegotiation.step, hsession] at hstep
    cases hstep
    have hsent : sessionReady gateway s.sent.length ∈
        s.sent ++ [sessionReady gateway s.sent.length] := by simp
    constructor
    · intro other hother
      rcases List.mem_append.mp hother with hold | hnew
      · exact (h.compatible hold).mono (List.subset_append_left _ _)
      · cases List.mem_singleton.mp hnew
        exact ⟨by rw [hidle]; exact twoHeartbeats_le hvalid,
          _, hsent, hid.symm, hidle⟩
    · intro sessionID hresumable
      cases primary with
      | true =>
        cases hresumable
        exact ⟨_, hsent, rfl, rfl⟩
      | false =>
        obtain ⟨ready, hready, hmatch⟩ := h.resumable hresumable
        exact ⟨ready, List.mem_append_left _ hready, hmatch⟩
  | resume =>
    obtain ⟨sessionID, hresumable, rfl⟩ := Option.map_eq_some_iff.mp hstep
    obtain ⟨ready, hready, hid, hseconds⟩ := h.resumable hresumable
    refine ⟨?_, h.resumable⟩
    intro other hother
    rcases List.mem_append.mp hother with hold | hnew
    · exact h.compatible hold
    · cases List.mem_singleton.mp hnew
      refine ⟨?_, ready, hready, hid, ?_⟩
      · change twoHeartbeats gateway ≤ agent.idleTimeout
        rw [hsame rfl]
        exact twoHeartbeats_le hvalid
      · change agent.idleTimeout = ready.idleTimeoutSeconds * second
        rw [hsame rfl, hseconds]
  | forget =>
    cases hstep
    exact ⟨h.compatible, fun hnone => by cases hnone⟩
  | advance duration =>
    cases hstep
    refine ⟨?_, h.resumable⟩
    intro session hsession
    obtain ⟨old, hold, rfl⟩ := List.mem_map.mp hsession
    exact (h.compatible hold).of_same rfl rfl
  | frame i => exact h.change (fun hc => change_keeps (.inl hc)) hstep
  | deadline i => exact h.change (fun hc => change_keeps (.inr (.inl hc))) hstep
  | lose i => exact h.change (fun hc => change_keeps (.inr (.inr hc))) hstep

/-- Every `session_ready` of a Gateway negotiates the same timeout. -/
theorem idleTimeoutSeconds_of_sent (hrun : run (step gateway agent) Chain.start acts = some s) :
    ∀ ready ∈ s.sent, ready.idleTimeoutSeconds = gateway.idleTimeout.tdiv second := by
  refine invariant
    (I := fun s => ∀ ready ∈ s.sent, ready.idleTimeoutSeconds = gateway.idleTimeout.tdiv second)
    ?_ (by simp [Chain.start]) hrun
  intro s act s' h hstep
  cases act with
  | handshake primary =>
    simp only [IdleNegotiation.step] at hstep
    have hsent : s'.sent = s.sent ++ [sessionReady gateway s.sent.length] := by
      split at hstep <;> cases hstep <;> rfl
    intro ready hready
    rw [hsent, List.mem_append, List.mem_singleton] at hready
    rcases hready with hold | rfl
    · exact h ready hold
    · rfl
  | resume =>
    obtain ⟨_, -, rfl⟩ := Option.map_eq_some_iff.mp hstep
    exact h
  | forget | advance duration => cases hstep; exact h
  | frame i | deadline i | lose i => obtain ⟨_, _, -, -, -, rfl⟩ := change_some hstep; exact h

theorem limits_change {change : AgentSession → Option AgentSession}
    (hsame : ∀ {session session'}, change session = some session' →
      session'.sessionID = session.sessionID ∧ session'.limits = session.limits)
    (hchange : s.change i change = some s') : s'.sessions.map (·.limits) = s.sessions.map (·.limits) := by
  obtain ⟨old, new, hold, -, hnew, rfl⟩ := change_some hchange
  obtain ⟨hi, rfl⟩ := List.getElem?_eq_some_iff.mp hold
  rw [List.map_set, (hsame hnew).2, ← List.map_set, List.set_getElem_self]

/-- No session changes its limits or is forgotten. -/
theorem limits_step (hstep : step gateway agent s act = some s') :
    s.sessions.map (·.limits) ⊆ s'.sessions.map (·.limits) := by
  cases act with
  | handshake primary =>
    simp only [IdleNegotiation.step] at hstep
    split at hstep <;> cases hstep <;> simp
  | resume =>
    obtain ⟨_, -, rfl⟩ := Option.map_eq_some_iff.mp hstep
    simp
  | forget => cases hstep; exact List.Subset.refl _
  | advance duration =>
    cases hstep
    rw [List.map_map]
    exact List.Subset.refl _
  | frame i => rw [limits_change (fun hc => change_keeps (.inl hc)) hstep]; exact List.Subset.refl _
  | deadline i =>
    rw [limits_change (fun hc => change_keeps (.inr (.inl hc))) hstep]; exact List.Subset.refl _
  | lose i =>
    rw [limits_change (fun hc => change_keeps (.inr (.inr hc))) hstep]; exact List.Subset.refl _

/-- A resume leaves a session with the Agent's own limits. -/
theorem resumed_of_mem (hrun : run (step gateway agent) Chain.start acts = some s)
    (hresume : .resume ∈ acts) : agent ∈ s.sessions.map (·.limits) := by
  refine history (I := fun acts s => .resume ∈ acts → agent ∈ s.sessions.map (·.limits))
    (by simp) ?_ hrun hresume
  intro past m act m' _ h hstep hmem
  rcases List.mem_append.mp hmem with hold | hnew
  · exact limits_step hstep (h hold)
  · obtain rfl := List.mem_singleton.mp hnew
    obtain ⟨sessionID, -, rfl⟩ := Option.map_eq_some_iff.mp hstep
    simp [newResumedAgentSession]

end Settled

/-! ## Heartbeats -/

/-- No session was cut, and no running session has waited for two heartbeats. -/
def Kept (gateway : Gateway.Limits) (s : Chain) : Prop :=
  ∀ session ∈ s.sessions,
    session.cut = false ∧ (session.ended = true ∨ session.waited < twoHeartbeats gateway)

section Kept

variable {gateway : Gateway.Limits} {agent : Agent.Limits} {s s' : Chain}

theorem twoHeartbeats_pos (hvalid : gateway.valid = true) : 0 < twoHeartbeats gateway := by
  have hheartbeat := heartbeat_lt_twoHeartbeats hvalid
  have hlow := (timers_of_valid hvalid).1
  simp only [second] at hlow
  omega

theorem Kept.append (h : Kept gateway s) (hvalid : gateway.valid = true) {new : AgentSession}
    (hcut : new.cut = false) (hwaited : new.waited = 0) {session : AgentSession}
    (hsession : session ∈ s.sessions ++ [new]) :
    session.cut = false ∧ (session.ended = true ∨ session.waited < twoHeartbeats gateway) := by
  rcases List.mem_append.mp hsession with hold | hnew
  · exact h _ hold
  · cases List.mem_singleton.mp hnew
    exact ⟨hcut, .inr (by rw [hwaited]; exact twoHeartbeats_pos hvalid)⟩

theorem Kept.change (h : Kept gateway s) {i : Nat} {change : AgentSession → Option AgentSession}
    (hkeep : ∀ {session session'}, session ∈ s.sessions → session.ended = false →
      change session = some session' →
      session'.cut = false ∧ (session'.ended = true ∨ session'.waited < twoHeartbeats gateway))
    (hchange : s.change i change = some s') : Kept gateway s' := by
  obtain ⟨old, new, hold, hrunning, hnew, rfl⟩ := change_some hchange
  intro session hsession
  rcases List.mem_or_eq_of_mem_set hsession with hmem | rfl
  · exact h _ hmem
  · exact hkeep (List.mem_of_getElem? hold) hrunning hnew

/-- A read that is never kept waiting for two heartbeats does not reach its deadline. -/
theorem Kept.step (h : Kept gateway s) (hsettled : Settled gateway s) (hvalid : gateway.valid = true)
    {act : Act} (hheartbeat : heartbeating gateway s act = true)
    (hstep : step gateway agent s act = some s') : Kept gateway s' := by
  cases act with
  | handshake primary =>
    obtain ⟨session, hsession, -, -, hcut, hwaited, -⟩ :=
      authenticateAgent_sessionReady agent hvalid s.sent.length
    simp only [IdleNegotiation.step, hsession] at hstep
    cases hstep
    exact fun _ hmem => h.append hvalid hcut hwaited hmem
  | resume =>
    obtain ⟨sessionID, -, rfl⟩ := Option.map_eq_some_iff.mp hstep
    exact fun _ hmem => h.append hvalid rfl rfl hmem
  | forget =>
    cases hstep
    exact h
  | advance duration =>
    cases hstep
    intro session hsession
    obtain ⟨old, hold, rfl⟩ := List.mem_map.mp hsession
    have hwait := List.all_eq_true.mp hheartbeat old hold
    simp only [Bool.or_eq_true, decide_eq_true_eq] at hwait
    exact ⟨(h _ hold).1, hwait⟩
  | frame i =>
    refine h.change ?_ hstep
    intro session session' hmem hrunning hnew
    cases hnew
    exact ⟨(h _ hmem).1, .inr (twoHeartbeats_pos hvalid)⟩
  | deadline i =>
    refine h.change ?_ hstep
    intro session session' hmem hrunning hnew
    split at hnew
    next hdeadline =>
      have hheartbeats := (hsettled.compatible hmem).heartbeats
      rcases (h _ hmem).2 with hended | hwaited
      · rw [hrunning] at hended
        cases hended
      · omega
    · cases hnew
  | lose i =>
    refine h.change ?_ hstep
    intro session session' hmem hrunning hnew
    cases hnew
    exact ⟨(h _ hmem).1, .inl rfl⟩

end Kept

/-- Every session of a run reads with the timeout of its `session_ready`, and so with at least two
    heartbeats, exactly if the Agent's own timeout is that one or no session is resumed; and then no
    session with a Gateway that keeps its heartbeat is cut. -/
theorem idle_compatible_iff {gateway : Gateway.Limits} {agent : Agent.Limits} {acts : List Act}
    {s : Chain} (hvalid : gateway.valid = true)
    (hrun : run (step gateway agent) Chain.start acts = some s) :
    ((∀ session ∈ s.sessions, Compatible gateway s.sent session) ↔
      SameTimeout gateway agent ∨ .resume ∉ acts) ∧
    (SameTimeout gateway agent ∨ .resume ∉ acts →
      Along (step gateway agent) (fun s act => heartbeating gateway s act = true)
        Chain.start acts →
      ∀ session ∈ s.sessions, session.cut = false) := by
  have hguard : SameTimeout gateway agent ∨ .resume ∉ acts →
      Along (step gateway agent) (fun _ act => act = .resume → SameTimeout gateway agent)
        Chain.start acts := by
    intro hsame
    apply along_of_forall
    rintro act hact rfl
    exact hsame.resolve_right fun hnone => hnone hact
  refine ⟨⟨?_, ?_⟩, ?_⟩
  · intro hcompatible
    by_contra hneither
    obtain ⟨hdiffers, hresume⟩ := not_or.mp hneither
    obtain ⟨session, hsession, rfl⟩ := List.mem_map.mp (resumed_of_mem hrun (not_not.mp hresume))
    obtain ⟨ready, hready, -, hseconds⟩ := (hcompatible session hsession).negotiated
    apply hdiffers
    rw [SameTimeout, hseconds, idleTimeoutSeconds_of_sent hrun ready hready]
  · intro hsame session hsession
    have hsettled : Settled gateway s := invariant_along
      (fun h hresume hstep => h.step hvalid hresume hstep) settled_start (hguard hsame) hrun
    exact hsettled.compatible hsession
  · intro hsame hheartbeats session hsession
    have hkept : Settled gateway s ∧ Kept gateway s := invariant_along
      (I := fun s => Settled gateway s ∧ Kept gateway s)
      (fun h hboth hstep => ⟨h.1.step hvalid hboth.1 hstep, h.2.step h.1 hvalid hboth.2 hstep⟩)
      ⟨settled_start, fun _ hmem => by simp [Chain.start] at hmem⟩
      ((hguard hsame).and hheartbeats) hrun
    exact (hkept.2 session hsession).1

/-- An Agent whose own timeout is the negotiated one resumes with it. -/
theorem idle_compatible_resumed : ∃ s,
    run (step Gateway.defaultLimits { Agent.defaultLimits with idleTimeout := 45 * second })
      Chain.start [.handshake true, .lose 0, .resume, .advance 15000000000, .frame 1] = some s ∧
    ∀ session ∈ s.sessions, Compatible Gateway.defaultLimits s.sent session ∧ session.cut = false := by
  refine exists_run rfl fun hrun session hsession => ?_
  obtain ⟨hiff, hcut⟩ := idle_compatible_iff Gateway.defaultLimits_valid hrun
  have hsame : SameTimeout Gateway.defaultLimits
      { Agent.defaultLimits with idleTimeout := 45 * second } := by decide
  exact ⟨hiff.mpr (.inl hsame) session hsession, hcut (.inl hsame) (by decide) session hsession⟩

/-- Limits with the longest heartbeat that `Limits.valid` allows. -/
def minuteHeartbeat : Gateway.Limits :=
  { Gateway.defaultLimits with heartbeatInterval := 60 * second, idleTimeout := 120 * second }

/-- A session that an Agent with the shipped limits resumes reads with 60 seconds instead of the 120 it
    negotiated, and is cut by a Gateway that keeps its heartbeat of a minute. -/
theorem resumed_session_cut : minuteHeartbeat.valid = true ∧
    (∀ text, Agent.applyLimits text none Agent.defaultLimits = .ok Agent.defaultLimits) ∧
    ∃ acts s, run (step minuteHeartbeat Agent.defaultLimits) Chain.start acts = some s ∧
      Along (step minuteHeartbeat Agent.defaultLimits)
        (fun s act => heartbeating minuteHeartbeat s act = true) Chain.start acts ∧
      ∃ session ∈ s.sessions, session.limits.idleTimeout < twoHeartbeats minuteHeartbeat ∧
        ¬ Compatible minuteHeartbeat s.sent session ∧ session.cut = true := by
  refine ⟨by decide, fun _ => rfl,
    [.handshake true, .lose 0, .resume, .advance 60000000000, .deadline 1], _, rfl, by decide,
    { newResumedAgentSession Agent.defaultLimits 0 with
      waited := 60000000000, ended := true, cut := true }, ?_, by decide, ?_, rfl⟩
  · exact List.mem_of_getElem? (i := 1) rfl
  · intro h
    exact absurd h.heartbeats (by decide)

end Hooshix.Tunnel.IdleNegotiation
