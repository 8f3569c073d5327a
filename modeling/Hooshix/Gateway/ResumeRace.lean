-- SUMMARY: Any number of resumes at once: the one-shot slot makes every challenge good for one of them.
import Hooshix.Lib.Exclusive
import Hooshix.Gateway.ResumeAlone

/-! # Concurrent resumes

Calls of `resumeSession` take their atomic actions in any order, between handshakes, registrations,
terminations and the rest of a session's life. A call that wins the swap of a slot has a claim on its
session until it gives the slot back; claims are exclusive, and an accepted call never gives its own
back.
-/

namespace Hooshix.Gateway

open Contract StepSystem

abbrev ResumeTrace := Prog.Trace Action Action.Response

/-- A call of `resumeSession`: its arguments, what it did so far and what it still has to do. -/
structure ResumeCall where
  conn : Conn
  resume : ResumeSession
  trace : ResumeTrace
  program : GatewayProg (Except GoError SessionRef)

/-- The session that an accepted call returned. -/
def ResumeCall.resumed? (c : ResumeCall) : Option SessionRef :=
  match c.program with
  | .done (.ok resumed) => some resumed
  | _ => none

def ResumeCall.Accepted (c : ResumeCall) : Prop := c.resumed?.isSome = true

theorem ResumeCall.Accepted.program {c : ResumeCall} (h : c.Accepted) :
    ∃ resumed, c.program = .done (.ok resumed) := by
  simp only [Accepted, resumed?] at h
  split at h
  · rename_i resumed hdone
    exact ⟨resumed, hdone⟩
  · cases h

structure Race where
  gateway : GatewayState
  calls : List ResumeCall

namespace Race

def start : Race where
  gateway := { sessions := [], registry := Registry.empty }
  calls := []

inductive Label where
  /-- a `resume_session` arrives -/
  | call (conn : Conn) (inbound : Nat) (resume : ResumeSession)
  /-- a call performs its next action -/
  | act (i : Nat) (w : World)
  /-- a full handshake creates a session -/
  | handshake (ref : SessionRef) (authorizationExpiresAt : Int) (conn : Conn) (inbound : Nat)
      (resumeChallenge : String)
  /-- a session object is registered or unregistered, or the Gateway drains and closes -/
  | registry (a : Registry.Label)
  /-- `terminateAuthorization` -/
  | terminate (x : SessionRef)
  /-- streams are opened, frames pass, the session ends -/
  | live (x : SessionRef) (inbound outbound nextID : Nat) (done : Bool)

/-- Only session objects are registered. -/
def concerns (s : GatewayState) : Registry.Label → Bool
  | .register x _ _ => (s.session? x).any (·.ref = x)
  | _ => true

def step (codec : Codec) (limits : Limits) (r : Race) : Label → Option Race
  | .call conn inbound resume =>
    some { r with calls := r.calls ++
      [{ conn, resume, trace := [], program := resumeSession codec limits conn inbound resume }] }
  | .act i w =>
    match r.calls[i]? with
    | some { conn, resume, trace, program := .act a next } =>
      let (gateway, response) := perform codec w r.gateway a
      some
        { gateway
          calls := r.calls.set i
            { conn, resume, trace := ⟨a, response⟩ :: trace, program := next response } }
    | _ => none
  | .handshake ref authorizationExpiresAt conn inbound resumeChallenge =>
    some { r with gateway :=
      (r.gateway.create
        (newSession ref authorizationExpiresAt conn inbound 2 resumeChallenge true)).1 }
  | .registry a =>
    if concerns r.gateway a then
      (r.gateway.registry.step limits a).map fun registry =>
        { r with gateway := { r.gateway with registry } }
    else none
  | .terminate x =>
    some { r with gateway := r.gateway.modify x fun session => { session with authorized := false } }
  | .live x inbound outbound nextID done =>
    some { r with gateway := r.gateway.modify x fun session =>
      { session with inbound, outbound, nextID, done } }

end Race

/-! ## Claims -/

/-- The session object whose slot a call holds after its trace. -/
def claimed : ResumeTrace → Option Nat
  | [] => none
  | ⟨.swapArmed x, won⟩ :: trace => if won then some x.object else claimed trace
  | ⟨.storeArmed _, _⟩ :: _ => none
  | _ :: trace => claimed trace

/-- Slots are swapped without a claim and given back by their holder. -/
def keepsClaims (trace : ResumeTrace) : Action → Prop
  | .swapArmed _ => claimed trace = none
  | .storeArmed x => claimed trace = some x.object
  | _ => True

/-- What an accepted call has seen, as a property of the responses it got. -/
structure Justified (codec : Codec) (limits : Limits) (seen : (a : Action) → a.Response → Prop)
    (resume : ResumeSession) (existing : SessionRef) : Prop where
  live : seen (.lookup resume.deviceID resume.sessionID) (some existing)
  authorized : seen (.loadAuthorized existing) true
  subject : subjectMismatch existing resume = false
  challenge : ∃ challenge, seen (.loadChallenge existing) challenge ∧
    matchResumeChallenge challenge resume.resumeChallenge = true
  fresh : ∃ issuedAt now, resumeIssuedAt codec resume = .ok issuedAt ∧ seen .now now ∧
    outsideWindow limits (now - issuedAt) = false
  record : ∃ record, seen (.authorization resume.authorizationID resume.deviceID resume.tokenID)
      (.ok record) ∧
    recordMismatch record resume = false ∧ record.disabled = false ∧
    verifyResumeSignature codec record.devicePublicKey resume = none

/-- The trace has the action with this response. -/
def SeenIn (trace : ResumeTrace) (a : Action) (r : a.Response) : Prop :=
  (⟨a, r⟩ : Σ a : Action, a.Response) ∈ trace

variable {trace : ResumeTrace}

theorem SeenIn.later {e : Σ a : Action, a.Response} {a : Action}
    {r : a.Response} (h : SeenIn trace a r) : SeenIn (e :: trace) a r :=
  List.mem_cons_of_mem e h

theorem seenIn_latest {a : Action} {r : a.Response} :
    SeenIn (⟨a, r⟩ :: trace) a r :=
  List.mem_cons_self

/-- An accepted call is justified by its trace and still has its claim. -/
def accountable (codec : Codec) (limits : Limits) (resume : ResumeSession) (trace : ResumeTrace)
    (result : Except GoError SessionRef) : Prop :=
  ∀ resumed, result = .ok resumed →
    ∃ existing, claimed trace = some existing.object ∧
      Justified codec limits (SeenIn trace) resume existing

section Programs

variable {codec : Codec} {limits : Limits} {resume : ResumeSession} {conn : Conn} {inbound : Nat}
  {trace : ResumeTrace} {x : SessionRef}

theorem Justified.mono {seen seen' : (a : Action) → a.Response → Prop}
    (h : Justified codec limits seen resume x) (hsub : ∀ {a r}, seen a r → seen' a r) :
    Justified codec limits seen' resume x where
  live := hsub h.live
  authorized := hsub h.authorized
  subject := h.subject
  challenge := by
    obtain ⟨challenge, hseen, hmatch⟩ := h.challenge
    exact ⟨challenge, hsub hseen, hmatch⟩
  fresh := by
    obtain ⟨issuedAt, now, hissued, hseen, hwindow⟩ := h.fresh
    exact ⟨issuedAt, now, hissued, hsub hseen, hwindow⟩
  record := by
    obtain ⟨record, hseen, hrecord⟩ := h.record
    exact ⟨record, hsub hseen, hrecord⟩

theorem accountable_error (err : GoError) : accountable codec limits resume trace (.error err) := by
  intro resumed hresumed
  cases hresumed

theorem rearm_safe (hclaim : claimed trace = some x.object) (err : GoError) :
    Prog.Safe keepsClaims (accountable codec limits resume) trace (rearm x err) :=
  ⟨hclaim, fun _ => accountable_error err⟩

/-- `resumeInto` keeps the claim. -/
theorem resumeInto_safe {resumeChallenge : String} (hclaim : claimed trace = some x.object) :
    Prog.Safe keepsClaims
      (fun trace' _ => claimed trace' = some x.object ∧ ∀ {a r}, SeenIn trace a r → SeenIn trace' a r)
      trace (resumeInto x conn inbound resumeChallenge) := by
  simp only [resumeInto, Prog.act_bind, Prog.done_bind, Prog.pure_eq, Prog.safe_act]
  refine ⟨trivial, ?_⟩
  intro authorized
  split
  · exact ⟨hclaim, SeenIn.later⟩
  refine ⟨trivial, ?_⟩
  intro old
  cases old with
  | none => exact ⟨hclaim, fun h => (SeenIn.later h).later⟩
  | some old => exact ⟨trivial, fun r => ⟨hclaim, fun h => (SeenIn.later h).later.later⟩⟩

theorem replaceSession_safe {nextChallenge : String} (hclaim : claimed trace = some x.object)
    (hjustified : Justified codec limits (SeenIn trace) resume x) :
    Prog.Safe keepsClaims (accountable codec limits resume) trace
      (replaceSession x conn inbound nextChallenge) := by
  refine (resumeInto_safe hclaim).bind ?_
  rintro trace' resumed ⟨hclaim', hseen⟩
  cases resumed with
  | none => exact rearm_safe hclaim' _
  | some resumed =>
    refine ⟨trivial, fun now => ⟨trivial, ?_⟩⟩
    intro sendErr
    cases sendErr with
    | some err => exact ⟨trivial, fun _ => accountable_error err⟩
    | none =>
      intro _ _
      exact ⟨x, hclaim', hjustified.mono fun h => (hseen h).later.later⟩

theorem checkProof_safe (hclaim : claimed trace = some x.object)
    (hlive : SeenIn trace (.lookup resume.deviceID resume.sessionID) (some x))
    (hauthorized : SeenIn trace (.loadAuthorized x) true)
    (hsubject : subjectMismatch x resume = false) :
    Prog.Safe keepsClaims (accountable codec limits resume) trace
      (checkProof codec limits x conn inbound resume) := by
  -- every refusal from here on gives the claimed slot back
  have hfail : ∀ {trace' : ResumeTrace} {err : GoError}, claimed trace' = claimed trace →
      Prog.Safe keepsClaims (accountable codec limits resume) trace' (rearm x err) :=
    fun hsame => rearm_safe (hsame.trans hclaim) _
  simp only [checkProof, Prog.act_bind, Prog.done_bind, Prog.safe_act]
  refine ⟨trivial, fun challenge => ?_⟩
  split
  · exact hfail rfl
  rename_i hmatch
  rcases hissued : resumeIssuedAt codec resume with err | issuedAt
  · exact hfail rfl
  refine ⟨trivial, fun now => ?_⟩
  dsimp only
  split
  · exact hfail rfl
  rename_i hwindow
  refine ⟨trivial, ?_⟩
  rintro (err | record)
  · exact hfail rfl
  dsimp only
  split
  · exact hfail rfl
  rename_i hrecord
  split
  · exact hfail rfl
  rename_i henabled
  rcases hverify : verifyResumeSignature codec record.devicePublicKey resume with _ | err
  case some => exact hfail rfl
  refine ⟨trivial, ?_⟩
  rintro (err | nextChallenge)
  · exact hfail rfl
  -- the trace now holds an answer for every condition of the claim
  have hjustified : Justified codec limits (SeenIn
      (⟨.randomBase64URL 32, .ok nextChallenge⟩ ::
        ⟨.authorization resume.authorizationID resume.deviceID resume.tokenID, .ok record⟩ ::
        ⟨.now, now⟩ :: ⟨.loadChallenge x, challenge⟩ :: trace)) resume x :=
    { live := hlive.later.later.later.later
      authorized := hauthorized.later.later.later.later
      subject := hsubject
      challenge := ⟨challenge, seenIn_latest.later.later.later, by simpa using hmatch⟩
      fresh := ⟨issuedAt, now, hissued, seenIn_latest.later.later, by simpa using hwindow⟩
      record := ⟨record, seenIn_latest.later, by simpa using hrecord, by simpa using henabled,
        hverify⟩ }
  exact replaceSession_safe hclaim hjustified

/-- A call respects claims, and is accepted only for a reason. -/
theorem resumeSession_safe :
    Prog.Safe keepsClaims (accountable codec limits resume) []
      (resumeSession codec limits conn inbound resume) := by
  simp only [resumeSession]
  split
  · exact accountable_error _
  refine ⟨trivial, ?_⟩
  rintro (_ | existing)
  · exact accountable_error _
  refine ⟨trivial, ?_⟩
  rintro (_ | _)
  · exact accountable_error _
  -- the swap is the step that claims the slot
  refine ⟨rfl, ?_⟩
  rintro (_ | _)
  · exact accountable_error _
  -- a subject mismatch keeps the claim: it is refused without storing the slot back
  change Prog.Safe _ _ _ (if subjectMismatch existing resume then _ else _)
  split
  · exact accountable_error _
  rename_i hsubject
  exact checkProof_safe rfl seenIn_latest.later.later seenIn_latest.later (by simpa using hsubject)

end Programs

/-! ## The invariant of a race -/

/-- The challenges that were issued to somebody. -/
def GatewayState.challenges (s : GatewayState) : List String :=
  (s.sessions.map (·.resumeChallenge)).filter (· ≠ "")

attribute [local simp] GatewayState.modify

namespace Race

/-- Claims are exclusive, and a claimed slot is not armed. -/
structure Exclusive (codec : Codec) (limits : Limits) (r : Race) : Prop where
  safe : ∀ {i : Nat} {c : ResumeCall}, r.calls[i]? = some c →
    Prog.Safe keepsClaims (accountable codec limits c.resume) c.trace c.program
  unique : ∀ {i j k : Nat} {c c' : ResumeCall}, r.calls[i]? = some c → r.calls[j]? = some c' →
    claimed c.trace = some k → claimed c'.trace = some k → i = j
  taken : ∀ {i k : Nat} {c : ResumeCall}, r.calls[i]? = some c → claimed c.trace = some k →
    ∃ session, r.gateway.sessions[k]? = some session ∧ session.resumeArmed = false

theorem Exclusive.start {codec : Codec} {limits : Limits} : start.Exclusive codec limits where
  safe := by simp [Race.start]
  unique := by simp [Race.start]
  taken := by simp [Race.start]

/-- Every session object of `s` is in `s'` with the same value of a field. -/
def Keeps {β : Type} (field : Session → β) (s s' : GatewayState) : Prop :=
  ∀ {k : Nat} {session : Session}, s.sessions[k]? = some session →
    ∃ session', s'.sessions[k]? = some session' ∧ field session' = field session

section Fields

variable {β : Type} {field : Session → β} {s : GatewayState}

theorem keeps_modify {x : SessionRef} {f : Session → Session}
    (hf : ∀ session, field (f session) = field session) : Keeps field s (s.modify x f) := by
  intro k session hsession
  by_cases hk : x.object = k
  · exact ⟨f session, by simp [hk, hsession], hf session⟩
  · exact ⟨session, by simp [hk, hsession], rfl⟩

theorem keeps_create {session : Session} : Keeps field s (s.create session).1 := by
  intro k old hold
  refine ⟨old, ?_, rfl⟩
  have hlt : k < s.sessions.length := (List.getElem?_eq_some_iff.mp hold).1
  simpa [GatewayState.create, List.getElem?_append_left hlt] using hold

theorem keeps_registry {registry : Registry} : Keeps field s { s with registry } :=
  fun h => ⟨_, h, rfl⟩

theorem Keeps.trans {s₁ s₂ s₃ : GatewayState} (h₁ : Keeps field s₁ s₂) (h₂ : Keeps field s₂ s₃) :
    Keeps field s₁ s₃ := by
  intro k session hsession
  obtain ⟨session', hsession', hsame⟩ := h₁ hsession
  obtain ⟨session'', hsession'', hsame'⟩ := h₂ hsession'
  exact ⟨session'', hsession'', hsame'.trans hsame⟩

end Fields

section Steps

variable {codec : Codec} {limits : Limits} {r : Race} {r' : Race} {a : Label} {c : ResumeCall}
  {i : Nat}

/-- A step other than that of a call leaves the calls, the slots and the challenges alone. -/
theorem step_aside (h : r.step codec limits a = some r') (hact : ∀ i w, a ≠ .act i w)
    (hcall : ∀ conn inbound resume, a ≠ .call conn inbound resume) :
    ∃ gateway, r' = { r with gateway } ∧ Keeps Session.resumeArmed r.gateway gateway ∧
      Keeps Session.resumeChallenge r.gateway gateway := by
  cases a with
  | act i w => exact absurd rfl (hact i w)
  | call conn inbound resume => exact absurd rfl (hcall conn inbound resume)
  | handshake ref authorizationExpiresAt conn inbound resumeChallenge =>
    cases h
    exact ⟨_, rfl, keeps_create, keeps_create⟩
  | registry a =>
    simp only [Race.step] at h
    split at h
    · obtain ⟨registry, -, rfl⟩ := Option.map_eq_some_iff.mp h
      exact ⟨_, rfl, keeps_registry, keeps_registry⟩
    · cases h
  | terminate x | live x inbound outbound nextID done =>
    cases h
    exact ⟨_, rfl, keeps_modify (by intro _; rfl), keeps_modify (by intro _; rfl)⟩

/-- A step that neither moves a call nor touches a slot. -/
theorem Exclusive.gateway (hr : r.Exclusive codec limits) {gateway : GatewayState}
    (hslots : Keeps Session.resumeArmed r.gateway gateway) : Exclusive codec limits { r with gateway } where
  safe := hr.safe
  unique := hr.unique
  taken := by
    intro i k c hc hclaim
    obtain ⟨session, hsession, hunarmed⟩ := hr.taken hc hclaim
    obtain ⟨session', hsession', hsame⟩ := hslots hsession
    exact ⟨session', hsession', hsame.trans hunarmed⟩

/-- A new call has no claim. -/
theorem Exclusive.call (hr : r.Exclusive codec limits)
    (hsafe : Prog.Safe keepsClaims (accountable codec limits c.resume) c.trace c.program)
    (hnone : claimed c.trace = none) :
    Exclusive codec limits { r with calls := r.calls ++ [c] } := by
  refine ⟨?_, ?_, ?_⟩
  · intro i c' hc'
    rcases List.of_getElem?_concat hc' with hc' | ⟨-, rfl⟩
    · exact hr.safe hc'
    · exact hsafe
  · intro i j k c₁ c₂ h₁ h₂ hclaim₁ hclaim₂
    rcases List.of_getElem?_concat h₁ with h₁ | ⟨-, rfl⟩
    · rcases List.of_getElem?_concat h₂ with h₂ | ⟨-, rfl⟩
      · exact hr.unique h₁ h₂ hclaim₁ hclaim₂
      · simp [hnone] at hclaim₂
    · simp [hnone] at hclaim₁
  · intro i k c' hc' hclaim
    rcases List.of_getElem?_concat hc' with hc' | ⟨-, rfl⟩
    · exact hr.taken hc' hclaim
    · simp [hnone] at hclaim

/-- One call moves on: its claim must be unarmed and nobody else's, and the claims of the others must
    stay unarmed. -/
theorem Exclusive.move (hr : r.Exclusive codec limits) {gateway : GatewayState}
    (hsafe : Prog.Safe keepsClaims (accountable codec limits c.resume) c.trace c.program)
    (hown : ∀ {k}, claimed c.trace = some k →
      (∃ session, gateway.sessions[k]? = some session ∧ session.resumeArmed = false) ∧
        ∀ {j : Nat} {c'}, i ≠ j → r.calls[j]? = some c' → claimed c'.trace ≠ some k)
    (hothers : ∀ {j k : Nat} {c'}, i ≠ j → r.calls[j]? = some c' → claimed c'.trace = some k →
      ∃ session, gateway.sessions[k]? = some session ∧ session.resumeArmed = false) :
    Exclusive codec limits { gateway, calls := r.calls.set i c } := by
  refine ⟨?_, ?_, ?_⟩
  · intro j c' hc'
    rcases List.of_getElem?_set hc' with ⟨-, rfl⟩ | ⟨-, hc'⟩
    · exact hsafe
    · exact hr.safe hc'
  · intro j j' k c₁ c₂ h₁ h₂ hclaim₁ hclaim₂
    rcases List.of_getElem?_set h₁ with ⟨rfl, rfl⟩ | ⟨hj, hc₁⟩
    · rcases List.of_getElem?_set h₂ with ⟨rfl, rfl⟩ | ⟨hj', hc₂⟩
      · rfl
      · exact absurd hclaim₂ ((hown hclaim₁).2 hj' hc₂)
    · rcases List.of_getElem?_set h₂ with ⟨rfl, rfl⟩ | ⟨-, hc₂⟩
      · exact absurd hclaim₁ ((hown hclaim₂).2 hj hc₁)
      · exact hr.unique hc₁ hc₂ hclaim₁ hclaim₂
  · intro j k c' hc' hclaim
    rcases List.of_getElem?_set hc' with ⟨-, rfl⟩ | ⟨hj, hc'⟩
    · exact (hown hclaim).1
    · exact hothers hj hc' hclaim

section Act

variable {i : Nat} {conn : Conn} {resume : ResumeSession} {trace : ResumeTrace} {x : SessionRef}

/-- An action that leaves the claim of its call and all slots alone. -/
theorem Exclusive.act_quiet (hr : r.Exclusive codec limits) {a : Action}
    {next : a.Response → GatewayProg (Except GoError SessionRef)}
    (hc : r.calls[i]? = some ⟨conn, resume, trace, .act a next⟩) (response : a.Response)
    {gateway : GatewayState} (hsame : claimed (⟨a, response⟩ :: trace) = claimed trace)
    (hslots : Keeps Session.resumeArmed r.gateway gateway) :
    Exclusive codec limits
      { gateway
        calls := r.calls.set i ⟨conn, resume, ⟨a, response⟩ :: trace, next response⟩ } := by
  refine hr.move ((hr.safe hc).2 response) ?_ ?_
  · intro k hclaim
    rw [hsame] at hclaim
    refine ⟨(hr.gateway hslots).taken hc hclaim, ?_⟩
    intro j c' hj hc' hclaim'
    exact hj (hr.unique hc hc' hclaim hclaim')
  · intro j k c' _ hc' hclaim
    exact (hr.gateway hslots).taken hc' hclaim

theorem Exclusive.swapArmed (hr : r.Exclusive codec limits)
    {next : Bool → GatewayProg (Except GoError SessionRef)}
    (hc : r.calls[i]? = some ⟨conn, resume, trace, .act (.swapArmed x) next⟩)
    (harmed : (r.gateway.session? x).any (·.resumeArmed) = true) :
    Exclusive codec limits
      { gateway := r.gateway.modify x fun session => { session with resumeArmed := false }
        calls := r.calls.set i ⟨conn, resume, ⟨.swapArmed x, true⟩ :: trace, next true⟩ } := by
  obtain ⟨session, hsession, hslot⟩ :
      ∃ session, r.gateway.sessions[x.object]? = some session ∧ session.resumeArmed = true := by
    simpa [GatewayState.session?, Option.any_eq_true] using harmed
  -- an armed slot is nobody's: whoever claims it has left it unarmed
  have hfree : ∀ {j : Nat} {c'}, r.calls[j]? = some c' → claimed c'.trace ≠ some x.object := by
    intro j c' hc' hclaim
    obtain ⟨session', hsession', hunarmed⟩ := hr.taken hc' hclaim
    rw [hsession] at hsession'
    cases hsession'
    rw [hslot] at hunarmed
    cases hunarmed
  refine hr.move ((hr.safe hc).2 true) ?_ ?_
  · intro k hclaim
    obtain rfl : x.object = k := Option.some.inj hclaim
    refine ⟨⟨{ session with resumeArmed := false }, ?_, rfl⟩, fun _ hc' => hfree hc'⟩
    simp [hsession]
  · intro j k c' _ hc' hclaim
    obtain ⟨session', hsession', hunarmed⟩ := hr.taken hc' hclaim
    have hne : x.object ≠ k := by
      rintro rfl
      exact hfree hc' hclaim
    exact ⟨session', by simpa [hne] using hsession', hunarmed⟩

theorem Exclusive.storeArmed (hr : r.Exclusive codec limits)
    {next : Unit → GatewayProg (Except GoError SessionRef)}
    (hc : r.calls[i]? = some ⟨conn, resume, trace, .act (.storeArmed x) next⟩) :
    Exclusive codec limits
      { gateway := r.gateway.modify x fun session => { session with resumeArmed := true }
        calls := r.calls.set i ⟨conn, resume, ⟨.storeArmed x, ()⟩ :: trace, next ()⟩ } := by
  have hmine : claimed trace = some x.object := (hr.safe hc).1
  refine hr.move ((hr.safe hc).2 ()) ?_ ?_
  · intro k hclaim
    cases hclaim
  · intro j k c' hj hc' hclaim
    obtain ⟨session', hsession', hunarmed⟩ := hr.taken hc' hclaim
    have hne : x.object ≠ k := by
      rintro rfl
      exact hj (hr.unique hc hc' hmine hclaim)
    exact ⟨session', by simpa [hne] using hsession', hunarmed⟩

end Act

theorem Exclusive.act (hr : r.Exclusive codec limits) {w : World}
    (h : r.step codec limits (.act i w) = some r') : r'.Exclusive codec limits := by
  simp only [step] at h
  split at h
  · rename_i conn resume trace a next hc
    cases h
    cases a with
    | swapArmed x =>
      cases harmed : (r.gateway.session? x).any (·.resumeArmed) with
      | true => simpa [perform, harmed] using hr.swapArmed hc harmed
      | false =>
        simpa [perform, harmed] using
          hr.act_quiet hc false rfl keeps_registry
    | storeArmed x => exact hr.storeArmed hc
    | create session => exact hr.act_quiet hc _ rfl keeps_create
    | forceClose x => exact hr.act_quiet hc _ rfl (keeps_modify (by intro _; rfl))
    | _ => exact hr.act_quiet hc _ rfl keeps_registry
  · cases h

theorem Exclusive.step (hr : r.Exclusive codec limits)
    (h : r.step codec limits a = some r') : r'.Exclusive codec limits := by
  cases a with
  | act i w => exact hr.act h
  | call conn inbound resume =>
    cases h
    exact hr.call resumeSession_safe rfl
  | _ =>
    obtain ⟨gateway, rfl, hslots, -⟩ := step_aside h (by simp) (by simp)
    exact hr.gateway hslots

/-- No step changes the challenge of a session. -/
theorem step_challenges (h : r.step codec limits a = some r') :
    Keeps Session.resumeChallenge r.gateway r'.gateway := by
  cases a with
  | act i w =>
    simp only [Race.step] at h
    split at h
    · rename_i conn resume trace a next hc
      cases h
      cases a with
      | swapArmed x =>
        simp only [perform]
        split
        · exact keeps_modify (by intro _; rfl)
        · exact keeps_registry
      | storeArmed x => exact keeps_modify (by intro _; rfl)
      | create session => exact keeps_create
      | forceClose x => exact keeps_modify (by intro _; rfl)
      | _ => exact keeps_registry
    · cases h
  | call conn inbound resume =>
    cases h
    exact keeps_registry
  | _ =>
    obtain ⟨gateway, rfl, -, hchallenges⟩ := step_aside h (by simp) (by simp)
    exact hchallenges

end Steps

/-! ## What a call has seen -/

/-- At one of the actions of call `i`, `P` holds of the world and of the state before it. -/
def During (codec : Codec) (limits : Limits) (labels : List Label) (i : Nat)
    (P : World → Race → Prop) : Prop :=
  ∃ past w later m, labels = past ++ .act i w :: later ∧
    run (step codec limits) start past = some m ∧ P w m

/-- Call `i` performed the action in a state of the run and got this response. -/
def Observed (codec : Codec) (limits : Limits) (labels : List Label) (i : Nat) (a : Action)
    (response : a.Response) : Prop :=
  During codec limits labels i fun w m => (perform codec w m.gateway a).2 = response

section Observations

variable {codec : Codec} {limits : Limits} {labels : List Label} {r : Race} {i : Nat}

theorem During.imp {P Q : World → Race → Prop} (h : During codec limits labels i P)
    (himp : ∀ w m, P w m → Q w m) : During codec limits labels i Q := by
  obtain ⟨past, w, later, m, hlabels, hm, hP⟩ := h
  exact ⟨past, w, later, m, hlabels, hm, himp w m hP⟩

theorem Observed.later {a : Action} {response : a.Response} {b : Label}
    (h : Observed codec limits labels i a response) :
    Observed codec limits (labels ++ [b]) i a response := by
  obtain ⟨past, w, later, m, rfl, hm, hresponse⟩ := h
  exact ⟨past, w, later ++ [b], m, by simp, hm, hresponse⟩

/-- A step other than an action gives no call a longer trace. -/
theorem calls_of_step {a : Label} {r' : Race} (h : r.step codec limits a = some r')
    (ha : ∀ i w, a ≠ .act i w) {c : ResumeCall} (hc : r'.calls[i]? = some c) :
    r.calls[i]? = some c ∨ c.trace = [] := by
  cases a with
  | act i w => exact absurd rfl (ha i w)
  | call conn inbound resume =>
    cases h
    rcases List.of_getElem?_concat hc with hc | ⟨-, rfl⟩
    · exact Or.inl hc
    · exact Or.inr rfl
  | _ =>
    obtain ⟨gateway, rfl, -, -⟩ := step_aside h (by simp) (by simp)
    exact Or.inl hc

/-- Everything in the trace of a call was observed in the run. -/
theorem observed_of_seen (hrun : run (step codec limits) start labels = some r) :
    ∀ {i : Nat} {c : ResumeCall} {a : Action} {response : a.Response}, r.calls[i]? = some c →
      SeenIn c.trace a response → Observed codec limits labels i a response := by
  -- by induction on the run: the last label adds at most one response, to the call it moves
  refine history (I := fun labels r => ∀ {i c a response}, r.calls[i]? = some c →
    SeenIn c.trace a response → Observed codec limits labels i a response) ?_ ?_ hrun
  · intro i c a response hc
    simp [start] at hc
  · intro past m b m' hpast hseen hstep i c a response hc hresponse
    by_cases hact : ∃ j w, b = .act j w
    · obtain ⟨j, w, rfl⟩ := hact
      simp only [step] at hstep
      split at hstep
      · rename_i conn resume trace a' next hc'
        cases hstep
        rcases List.of_getElem?_set hc with ⟨rfl, rfl⟩ | ⟨-, hc⟩
        · rcases List.mem_cons.mp hresponse with heq | hold
          · obtain ⟨rfl, hsame⟩ := Sigma.mk.inj heq
            exact ⟨past, w, [], m, rfl, hpast, (eq_of_heq hsame).symm⟩
          · exact (hseen hc' hold).later
        · exact (hseen hc hresponse).later
      · cases hstep
    · have hb : ∀ j w, b ≠ .act j w := fun j w heq => hact ⟨j, w, heq⟩
      rcases calls_of_step hstep hb hc with hc | hempty
      · exact (hseen hc hresponse).later
      · rw [SeenIn, hempty] at hresponse
        cases hresponse

end Observations

/-- What held while the call was served that accepted a resume of the session `existing`. -/
structure Evidence (codec : Codec) (limits : Limits) (labels : List Label) (i : Nat)
    (resume : ResumeSession) (existing : SessionRef) : Prop where
  /-- the session was registered under the IDs of the request -/
  live : During codec limits labels i fun _ m =>
    m.gateway.registry.tunnelAt resume.deviceID resume.sessionID = some existing
  authorized : During codec limits labels i fun _ m => isAuthorized m.gateway existing = true
  subject : existing.deviceID = resume.deviceID ∧
    existing.authorizationID = resume.authorizationID ∧ existing.tokenID = resume.tokenID
  /-- a record in force for the same subject, whose key verifies the signature -/
  record : During codec limits labels i fun w _ => ∃ record, w.metadata.Active record w.now ∧
    record.deviceID = resume.deviceID ∧ record.authorizationID = resume.authorizationID ∧
    record.tokenID = resume.tokenID ∧ record.disabled = false ∧
    Signed codec record.devicePublicKey resume
  fresh : During codec limits labels i fun w _ => ∃ issuedAt,
    resumeIssuedAt codec resume = .ok issuedAt ∧
    -limits.resumeAcceptanceWindow ≤ w.now - issuedAt ∧
    w.now - issuedAt ≤ limits.resumeAcceptanceWindow

section Accepted

variable {codec : Codec} {limits : Limits} {labels : List Label} {r : Race} {resume : ResumeSession}
  {existing : SessionRef} {i : Nat}

theorem evidence_of_justified
    (h : Justified codec limits (Observed codec limits labels i) resume existing) :
    Evidence codec limits labels i resume existing where
  live := h.live
  authorized := h.authorized
  subject := by
    have hsubject := h.subject
    simp only [subjectMismatch, Bool.or_eq_false_iff, bne_eq_false_iff_eq] at hsubject
    exact ⟨hsubject.1.1, hsubject.1.2, hsubject.2⟩
  record := by
    obtain ⟨record, hseen, hmatch, henabled, hverify⟩ := h.record
    simp only [recordMismatch, Bool.or_eq_false_iff, bne_eq_false_iff_eq] at hmatch
    exact hseen.imp fun w _ hresponse => ⟨record, w.metadata.active hresponse, hmatch.1.2, hmatch.1.1,
      hmatch.2, henabled, signed_of_verifyResumeSignature hverify⟩
  fresh := by
    obtain ⟨issuedAt, now, hissued, hseen, hwindow⟩ := h.fresh
    refine hseen.imp fun w _ hnow => ⟨issuedAt, hissued, outsideWindow_eq_false.mp ?_⟩
    have hnow : w.now = now := hnow
    rwa [hnow]

/-- An accepted call has a claim on a session, for a reason. -/
theorem justified_of_accepted (hrun : run (step codec limits) start labels = some r)
    {c : ResumeCall} (hc : r.calls[i]? = some c) (haccepted : c.Accepted) :
    ∃ existing, claimed c.trace = some existing.object ∧
      Justified codec limits (Observed codec limits labels i) c.resume existing := by
  have hexclusive : r.Exclusive codec limits :=
    invariant (fun hr h => hr.step h) Exclusive.start hrun
  obtain ⟨resumed, hdone⟩ := haccepted.program
  have hsafe := hexclusive.safe hc
  rw [hdone] at hsafe
  obtain ⟨existing, hclaim, hjustified⟩ := hsafe resumed rfl
  exact ⟨existing, hclaim, hjustified.mono fun h => observed_of_seen hrun hc h⟩

/-- The session of an accepted call still has the challenge that was presented. -/
theorem challenge_of_justified (hrun : run (step codec limits) start labels = some r)
    (h : Justified codec limits (Observed codec limits labels i) resume existing) :
    resume.resumeChallenge ≠ "" ∧ ∃ session, r.gateway.sessions[existing.object]? = some session ∧
      session.resumeChallenge = resume.resumeChallenge := by
  obtain ⟨challenge, ⟨past, w, later, m, rfl, hm, hresponse⟩, hmatch⟩ := h.challenge
  obtain ⟨hnonempty, rfl⟩ := eq_of_matchResumeChallenge hmatch
  refine ⟨hnonempty, ?_⟩
  obtain ⟨m', hm', hlater⟩ := run_append.mp hrun
  rw [hm] at hm'
  cases hm'
  -- the challenge that was read in the middle of the run is still there at its end
  have hkeeps : Keeps Session.resumeChallenge m.gateway r.gateway :=
    invariant (I := fun r => Keeps Session.resumeChallenge m.gateway r.gateway)
      (fun hr h => hr.trans (step_challenges h)) keeps_registry hlater
  cases hsession : m.gateway.session? existing with
  | none =>
    simp only [perform, hsession, Option.map_none, Option.getD_none] at hresponse
    exact absurd hresponse.symm hnonempty
  | some session =>
    obtain ⟨session', hsession', hsame⟩ := hkeeps hsession
    simp only [perform, hsession, Option.map_some, Option.getD_some] at hresponse
    exact ⟨session', hsession', hsame.trans hresponse⟩

end Accepted

end Race

/-- A text that is issued once stands at one place. -/
theorem index_unique {texts : List String} (h : (texts.filter (· ≠ "")).Nodup) {k k' : Nat}
    (text : String) (hk : texts[k]? = some text) (hk' : texts[k']? = some text)
    (htext : text ≠ "") : k = k' := by
  rw [List.Nodup, List.pairwise_filter, List.pairwise_iff_getElem] at h
  obtain ⟨hlt, rfl⟩ := List.getElem?_eq_some_iff.mp hk
  obtain ⟨hlt', hsame⟩ := List.getElem?_eq_some_iff.mp hk'
  -- the empty text stands for a missing challenge and may repeat
  have hnonempty : texts[k'] ≠ "" := hsame ▸ htext
  rcases Nat.lt_trichotomy k k' with hless | rfl | hless
  · exact absurd hsame.symm (h k k' hlt hlt' hless (by simpa using htext) (by simpa using hnonempty))
  · rfl
  · exact absurd hsame (h k' k hlt' hlt hless (by simpa using hnonempty) (by simpa using htext))

namespace Race

/-- If issued challenges are distinct, each is accepted at most once, and only on evidence. -/
theorem resume_one_shot {codec : Codec} {limits : Limits} {labels : List Label} {r : Race}
    (hrun : run (step codec limits) start labels = some r)
    (hdistinct : r.gateway.challenges.Nodup) :
    (∀ (i j : Nat) (c c' : ResumeCall), r.calls[i]? = some c → r.calls[j]? = some c' → c.Accepted →
        c'.Accepted → c.resume.resumeChallenge = c'.resume.resumeChallenge → i = j) ∧
      ∀ (i : Nat) (c : ResumeCall), r.calls[i]? = some c → c.Accepted →
        ∃ existing, Evidence codec limits labels i c.resume existing := by
  constructor
  · intro i j c c' hc hc' haccepted haccepted' hsame
    obtain ⟨x, hclaim, hjustified⟩ := justified_of_accepted hrun hc haccepted
    obtain ⟨x', hclaim', hjustified'⟩ := justified_of_accepted hrun hc' haccepted'
    obtain ⟨hnonempty, session, hsession, hchallenge⟩ := challenge_of_justified hrun hjustified
    obtain ⟨-, session', hsession', hchallenge'⟩ := challenge_of_justified hrun hjustified'
    -- one challenge belongs to one object, and one object is claimed by one call
    have hobject : x.object = x'.object := by
      refine index_unique hdistinct c.resume.resumeChallenge ?_ ?_ hnonempty
      · simp [hsession, hchallenge]
      · simp [hsession', hchallenge', hsame]
    have hexclusive : r.Exclusive codec limits :=
      invariant (fun hr h => hr.step h) Exclusive.start hrun
    rw [hobject] at hclaim
    exact hexclusive.unique hc hc' hclaim hclaim'
  · intro i c hc haccepted
    obtain ⟨existing, -, hjustified⟩ := justified_of_accepted hrun hc haccepted
    exact ⟨existing, evidence_of_justified hjustified⟩

/-- A codec that knows the texts of one device. -/
def deviceCodec : Codec where
  matchesID := fun _ => true
  matchesUTCTimestamp := fun _ => true
  parseRFC3339 := fun _ => .ok 0
  rawURLDecode := fun value =>
    if value = "nonce" then some (List.replicate 32 0)
    else if value = "challenge-a" then some (List.replicate 32 1)
    else if value = "key" then some (List.replicate 32 2)
    else some (List.replicate 64 3)
  rawURLEncode := fun data =>
    if data.head? = some 0 then "nonce"
    else if data.head? = some 1 then "challenge-a"
    else "challenge-b"
  ed25519Verify := fun _ _ _ => true

/-- A world that holds a record for the device. -/
def deviceWorld : World :=
  { quietWorld with
    metadata := deviceMetadata.toSource
    entropy := some (.ok [4]) }

def deviceResume : ResumeSession where
  deviceID := "device-a"
  authorizationID := "authorization-a"
  tokenID := "token-a"
  sessionID := "session-a"
  resumeNonce := "nonce"
  resumeChallenge := "challenge-a"
  issuedAt := "now"
  signature := "signature"

/-- A device connects and resumes, while somebody sends its request once more. -/
def replayRun : List Label :=
  let ref : SessionRef := ⟨0, "device-a", "session-a", "authorization-a", "token-a"⟩
  let conn : Conn := ⟨tunnelSubprotocolV2⟩
  [.handshake ref 1 conn 2 "challenge-a", .registry (.register ref deviceWorld.older []),
    .call conn 1 deviceResume, .call conn 1 deviceResume] ++
    List.replicate 12 (.act 0 deviceWorld) ++ List.replicate 3 (.act 1 deviceWorld)

theorem replayRun_one_shot :
    ∃ r, run (step deviceCodec defaultLimits) start replayRun = some r ∧
      ∃ c, r.calls[0]? = some c ∧ c.Accepted ∧
        ∃ existing, Evidence deviceCodec defaultLimits replayRun 0 c.resume existing := by
  have hreplay : (run (step deviceCodec defaultLimits) start replayRun).any (fun r =>
      r.gateway.challenges = ["challenge-a", "challenge-b"] &&
        r.calls[0]?.any (·.resumed?.isSome)) = true := by decide +kernel
  obtain ⟨r, hr, hfacts⟩ := (Option.any_eq_true _ _).mp hreplay
  simp only [Bool.and_eq_true, decide_eq_true_eq, Option.any_eq_true] at hfacts
  obtain ⟨hchallenges, c, hc, hok⟩ := hfacts
  have hdistinct : r.gateway.challenges.Nodup := by
    rw [hchallenges]
    decide
  exact ⟨r, hr, c, hc, hok, (resume_one_shot hr hdistinct).2 0 c hc hok⟩

end Race

end Hooshix.Gateway
