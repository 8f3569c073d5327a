-- SUMMARY: The inactivity timers on the path of a tunneled TCP stream.
import Hooshix.Agent.StreamOpen
import Hooshix.Lib.StepSystem

/-! # Inactivity timers

A public TCP or Connector TCP stream is read at two ends. `readPublicTCP` or `readConnector` reads from
the client under the Gateway's `IdleTimeout`, and `serveStream` from the local target under that of the
Agent's session. Both set their deadline anew for each read, whatever goes the other way in the
meantime. A public TCP stream also has a response phase, which every byte read from the client and
every byte written to it arms again; a Connector stream has none.

Sending into the tunnel and writing at the far end take any time. A read with bytes in its socket, or
from a Connector with a message, returns at once, and time passes no further than the next timer. Nobody
half-closes, closes or fails.
-/

namespace Hooshix.Tunnel

open StepSystem

/-- What the client's end of the stream is. -/
inductive ClientKind where
  | publicTCP
  | connector
  deriving DecidableEq, Repr

/-- The two ends that are read from. -/
inductive End where
  | client
  | target
  deriving DecidableEq, Repr

inductive IdleTimer where
  /-- the deadline of a read at one end -/
  | read (side : End)
  | responsePhase
  deriving DecidableEq, Repr

/-! ## Readers -/

inductive ReaderPlace where
  /-- the stream is being opened at this end -/
  | opening
  /-- waits for bytes under a deadline set at `since` -/
  | reading (since : Int)
  /-- sends into the tunnel what it read -/
  | sending
  deriving DecidableEq, Repr

/-- A read loop and its socket. `heard` is when the socket last had bytes, or the loop began. -/
structure Reader where
  place : ReaderPlace
  waiting : Bool
  heard : Int
  deriving DecidableEq, Repr

namespace Reader

def start (now : Int) : Reader := ⟨.opening, false, now⟩

/-- The loop sets its first deadline. -/
def opened (r : Reader) (now : Int) : Option Reader :=
  match r.place with
  | .opening => some { r with place := .reading now, heard := now }
  | _ => none

def arrive (r : Reader) (now : Int) : Reader := { r with waiting := true, heard := now }

/-- The read returns; `more` says whether it left bytes in the socket. -/
def read (r : Reader) (more : Bool) (now : Int) : Option Reader :=
  match r.place, r.waiting with
  | .reading _, true => some ⟨.sending, more, now⟩
  | _, _ => none

/-- The bytes are sent and the loop sets its next deadline. -/
def sent (r : Reader) (now : Int) : Option Reader :=
  match r.place with
  | .sending => some { r with place := .reading now }
  | _ => none

def timers (timeout : Int) (r : Reader) : List Int :=
  match r.place with
  | .reading since => [since + timeout]
  | _ => []

/-- A read that returns at once. -/
def ready (r : Reader) : Bool :=
  match r.place with
  | .reading _ => r.waiting
  | _ => false

def expired (timeout : Int) (r : Reader) (now : Int) : Bool :=
  !r.ready && (r.timers timeout).any fun due => decide (due ≤ now)

/-- Bytes keep coming: the socket was not empty for as long as the timeout. -/
def fed (timeout : Int) (r : Reader) (now : Int) : Bool :=
  r.place == .opening || r.waiting || decide (now < r.heard + timeout)

end Reader

/-! ## The path -/

/-- `forwarded` is when the Gateway last passed a byte from the client to the tunnel or back. `ended` is
    the timer that ended the stream. -/
structure IdlePath where
  now : Int
  client : Reader
  target : Reader
  armed : Int
  toAgent : Nat
  toGateway : Nat
  forwarded : Int
  ended : Option IdleTimer
  deriving DecidableEq, Repr

namespace IdlePath

/-- The handler of the client's connection has armed its response phase and opens the stream. -/
def start (now : Int) : IdlePath where
  now
  client := .start now
  target := .start now
  armed := now
  toAgent := 0
  toGateway := 0
  forwarded := now
  ended := none

def reader (s : IdlePath) : End → Reader
  | .client => s.client
  | .target => s.target

def setReader (s : IdlePath) : End → Reader → IdlePath
  | .client, r => { s with client := r }
  | .target, r => { s with target := r }

section Steps

variable (limits : Gateway.Limits) (sess : Agent.AgentSession) (kind : ClientKind)

def timeout : End → Int
  | .client => limits.idleTimeout
  | .target => sess.limits.idleTimeout

def phaseTimer (s : IdlePath) : List Int :=
  match kind with
  | .publicTCP => [s.armed + limits.responsePhaseTimeout]
  | .connector => []

def timers (s : IdlePath) : List Int :=
  s.client.timers (timeout limits sess .client) ++ s.target.timers (timeout limits sess .target) ++
    s.phaseTimer limits kind

def passes (s : IdlePath) (now : Int) : Bool :=
  !s.client.ready && !s.target.ready && decide (s.now ≤ now) &&
    (s.timers limits sess kind).all fun due => decide (now ≤ due)

/-- `phase.progress`, where the Gateway passes a byte on. -/
def progress (s : IdlePath) : IdlePath := { s with armed := s.now, forwarded := s.now }

inductive Label where
  | tick (now : Int)
  | opened (side : End)
  | arrive (side : End)
  | read (side : End) (more : Bool)
  | sent (side : End)
  /-- bytes from the tunnel are written to the client or the target -/
  | deliver (side : End)
  | fire (timer : IdleTimer)
  deriving DecidableEq, Repr

/-- A timer that is due ends the stream. -/
def fire (s : IdlePath) : IdleTimer → Option IdlePath
  | .read side =>
    if (s.reader side).expired (timeout limits sess side) s.now then
      some { s with ended := some (.read side) }
    else none
  | .responsePhase =>
    if (s.phaseTimer limits kind).any fun due => decide (due ≤ s.now) then
      some { s with ended := some .responsePhase }
    else none

def live (s : IdlePath) : Label → Option IdlePath
  | .tick now => if s.passes limits sess kind now then some { s with now } else none
  | .opened side => ((s.reader side).opened s.now).map (s.setReader side)
  | .arrive side => some (s.setReader side ((s.reader side).arrive s.now))
  | .read .client more => (s.client.read more s.now).map fun r => { s with client := r }.progress
  | .read .target more => (s.target.read more s.now).map fun r => { s with target := r }
  | .sent .client =>
    (s.client.sent s.now).map fun r => { s with client := r, toAgent := s.toAgent + 1 }
  | .sent .target =>
    (s.target.sent s.now).map fun r => { s with target := r, toGateway := s.toGateway + 1 }
  | .deliver .client =>
    if 0 < s.toGateway then some { s with toGateway := s.toGateway - 1 }.progress else none
  | .deliver .target =>
    if 0 < s.toAgent then some { s with toAgent := s.toAgent - 1 } else none
  | .fire timer => s.fire limits sess kind timer

def step (s : IdlePath) (label : Label) : Option IdlePath :=
  match s.ended with
  | none => s.live limits sess kind label
  | some _ => none

/-- In every such interval a byte is forwarded in at least one direction. -/
def progressing (s : IdlePath) : Label → Bool
  | .tick now =>
    decide (now < s.forwarded + min limits.idleTimeout limits.responsePhaseTimeout)
  | _ => true

/-- Client and target both keep sending, and the Gateway passes a byte on before a response phase is
    over. -/
def steady (s : IdlePath) : Label → Bool
  | .tick now =>
    s.client.fed (timeout limits sess .client) now &&
    s.target.fed (timeout limits sess .target) now &&
    (kind == .connector || decide (now < s.forwarded + limits.responsePhaseTimeout))
  | _ => true

end Steps

end IdlePath

/-! ## Which streams are not cut -/

/-- A read that waits is not yet at its deadline. -/
structure Reader.Early (timeout now : Int) (r : Reader) : Prop where
  heard_le : r.heard ≤ now
  heard_le_since : ∀ since, r.place = .reading since → r.waiting = false → r.heard ≤ since
  before_due : ∀ since, r.place = .reading since → r.waiting = false → now < since + timeout

namespace Reader

section Early

variable {timeout now : Int} {r r' : Reader}

theorem Early.start : (Reader.start now).Early timeout now where
  heard_le := Int.le_refl now
  heard_le_since := by rintro since ⟨⟩
  before_due := by rintro since ⟨⟩

theorem Early.opened (htimeout : 0 < timeout) (h : r.opened now = some r') :
    r'.Early timeout now := by
  unfold Reader.opened at h
  split at h <;> cases h
  refine ⟨Int.le_refl now, ?_, ?_⟩
  · rintro since ⟨⟩ _
    exact Int.le_refl now
  · rintro since ⟨⟩ _
    exact Int.lt_add_of_pos_right now htimeout

theorem Early.arrive : (r.arrive now).Early timeout now where
  heard_le := Int.le_refl now
  heard_le_since := by rintro since _ ⟨⟩
  before_due := by rintro since _ ⟨⟩

theorem Early.read {more : Bool} (h : r.read more now = some r') : r'.Early timeout now := by
  unfold Reader.read at h
  split at h <;> cases h
  exact ⟨Int.le_refl now, by rintro since ⟨⟩, by rintro since ⟨⟩⟩

/-- The next deadline counts from a time at which the last bytes were already read. -/
theorem Early.sent (htimeout : 0 < timeout) (hr : r.Early timeout now)
    (h : r.sent now = some r') : r'.Early timeout now := by
  unfold Reader.sent at h
  split at h <;> cases h
  refine ⟨hr.heard_le, ?_, ?_⟩
  · rintro since ⟨⟩ _
    exact hr.heard_le
  · rintro since ⟨⟩ _
    exact Int.lt_add_of_pos_right now htimeout

theorem Early.tick {later : Int} (hr : r.Early timeout now) (hlater : now ≤ later)
    (hfed : r.fed timeout later = true) : r.Early timeout later where
  heard_le := Int.le_trans hr.heard_le hlater
  heard_le_since := hr.heard_le_since
  before_due := by
    intro since hplace hwaiting
    have hheard := hr.heard_le_since since hplace hwaiting
    have hsoon : later < r.heard + timeout := by
      simpa [fed, hplace, hwaiting] using hfed
    omega

theorem Early.not_expired (hr : r.Early timeout now) : r.expired timeout now = false := by
  cases hplace : r.place with
  | reading since =>
    cases hwaiting : r.waiting with
    | true => simp [expired, ready, hplace, hwaiting]
    | false =>
      have hbefore := hr.before_due since hplace hwaiting
      simpa [expired, ready, timers, hplace, hwaiting] using hbefore
  | _ => simp [expired, timers, hplace]

end Early

end Reader

namespace IdlePath

/-- No timer is due. -/
structure Uncut (limits : Gateway.Limits) (sess : Agent.AgentSession) (kind : ClientKind)
    (s : IdlePath) : Prop where
  ended : s.ended = none
  early : ∀ side, (s.reader side).Early (timeout limits sess side) s.now
  armed : s.armed = s.forwarded
  phase : kind = .publicTCP → s.now < s.armed + limits.responsePhaseTimeout

section Uncut

variable {limits : Gateway.Limits} {sess : Agent.AgentSession} {kind : ClientKind}
  {s s' : IdlePath}

@[simp] theorem reader_setReader (side other : End) (r : Reader) :
    (s.setReader side r).reader other = if other = side then r else s.reader other := by
  cases side <;> cases other <;> rfl

theorem Uncut.start (hphase : 0 < limits.responsePhaseTimeout) (now : Int) :
    (start now).Uncut limits sess kind where
  ended := rfl
  early := fun side => by cases side <;> exact .start
  armed := rfl
  phase := fun _ => Int.lt_add_of_pos_right now hphase

variable (hs : s.Uncut limits sess kind)

include hs

/-- One reader takes a step. -/
theorem Uncut.setReader (side : End) {r : Reader} (hr : r.Early (timeout limits sess side) s.now) :
    (s.setReader side r).Uncut limits sess kind := by
  have hearly (other : End) :
      ((s.setReader side r).reader other).Early (timeout limits sess other) s.now := by
    rw [reader_setReader]
    split
    next h => subst h; exact hr
    next => exact hs.early other
  cases side with
  | client | target => exact ⟨hs.ended, hearly, hs.armed, hs.phase⟩

/-- The chunks on their way do not matter to the timers. -/
theorem Uncut.transit (toAgent toGateway : Nat) :
    { s with toAgent, toGateway }.Uncut limits sess kind :=
  ⟨hs.ended, fun side => by cases side <;> exact hs.early _, hs.armed, hs.phase⟩

theorem Uncut.progress (hphase : 0 < limits.responsePhaseTimeout) :
    s.progress.Uncut limits sess kind :=
  ⟨hs.ended, fun side => by cases side <;> exact hs.early _, rfl,
    fun _ => Int.lt_add_of_pos_right s.now hphase⟩

theorem Uncut.tick {now : Int} (hsteady : s.steady limits sess kind (.tick now) = true)
    (hnow : s.now ≤ now) : { s with now }.Uncut limits sess kind := by
  simp only [steady, Bool.and_eq_true, Bool.or_eq_true, beq_iff_eq, decide_eq_true_eq] at hsteady
  obtain ⟨⟨hclient, htarget⟩, hforwarded⟩ := hsteady
  refine ⟨hs.ended, ?_, hs.armed, ?_⟩
  · intro side
    cases side with
    | client => exact (hs.early .client).tick hnow hclient
    | target => exact (hs.early .target).tick hnow htarget
  · intro hkind
    rcases hforwarded with hconnector | hsoon
    · rw [hkind] at hconnector
      cases hconnector
    · rw [hs.armed]
      exact hsoon

/-- No timer can fire. -/
theorem Uncut.fire (timer : IdleTimer) : s.fire limits sess kind timer = none := by
  cases timer with
  | read side => simp [IdlePath.fire, (hs.early side).not_expired]
  | responsePhase =>
    cases kind with
    | connector => simp [IdlePath.fire, phaseTimer]
    | publicTCP =>
      have hbefore := hs.phase rfl
      simpa [IdlePath.fire, phaseTimer] using hbefore

theorem Uncut.step (hphase : 0 < limits.responsePhaseTimeout)
    (htimeout : ∀ side, 0 < timeout limits sess side) {label : Label}
    (hsteady : s.steady limits sess kind label = true) (h : s.step limits sess kind label = some s') :
    s'.Uncut limits sess kind := by
  simp only [IdlePath.step, hs.ended] at h
  cases label with
  | tick now =>
    simp only [live] at h
    split at h <;> cases h
    next hpasses =>
      simp only [passes, Bool.and_eq_true, decide_eq_true_eq] at hpasses
      exact hs.tick hsteady hpasses.1.2
  | opened side =>
    obtain ⟨r, hr, rfl⟩ := Option.map_eq_some_iff.mp h
    exact hs.setReader side (.opened (htimeout side) hr)
  | arrive side =>
    cases h
    exact hs.setReader side .arrive
  | read side more =>
    cases side with
    | client =>
      obtain ⟨r, hr, rfl⟩ := Option.map_eq_some_iff.mp h
      exact (hs.setReader .client (.read hr)).progress hphase
    | target =>
      obtain ⟨r, hr, rfl⟩ := Option.map_eq_some_iff.mp h
      exact hs.setReader .target (.read hr)
  | sent side =>
    cases side with
    | client =>
      obtain ⟨r, hr, rfl⟩ := Option.map_eq_some_iff.mp h
      exact (hs.setReader .client
        ((hs.early .client).sent (htimeout .client) hr)).transit _ _
    | target =>
      obtain ⟨r, hr, rfl⟩ := Option.map_eq_some_iff.mp h
      exact (hs.setReader .target
        ((hs.early .target).sent (htimeout .target) hr)).transit _ _
  | deliver side =>
    cases side with
    | client =>
      simp only [live] at h
      split at h
      next => cases h; exact (hs.transit _ _).progress hphase
      next => cases h
    | target =>
      simp only [live] at h
      split at h
      next => cases h; exact hs.transit _ _
      next => cases h
  | fire timer =>
    rw [live, hs.fire timer] at h
    cases h

omit hs

/-- A stream whose client and target both keep sending is not ended by an inactivity timer. -/
theorem steady_not_cut (hlimits : limits.valid = true) (hidle : 0 < sess.limits.idleTimeout)
    {now : Int} {labels : List Label} (hsteady : Along (step limits sess kind)
      (fun s label => s.steady limits sess kind label) (start now) labels)
    (hrun : run (step limits sess kind) (start now) labels = some s) :
    s.ended = none := by
  simp only [Gateway.Limits.valid, Bool.and_eq_true, decide_eq_true_eq] at hlimits
  have hphase : 0 < limits.responsePhaseTimeout := by omega
  have htimeout (side : End) : 0 < timeout limits sess side := by
    cases side with
    | client => simp only [timeout, second] at hlimits ⊢; omega
    | target => exact hidle
  have hs : s.Uncut limits sess kind :=
    invariant_along (fun hs hsteady hstep => hs.step hphase htimeout hsteady hstep)
      (.start hphase now) hsteady hrun
  exact hs.ended

end Uncut

/-! ## One direction alone -/

/-- An Agent's session as `session_ready` with the default timeouts leaves it. -/
def readySession : Agent.AgentSession where
  flowControlled := false
  limits := { Agent.defaultLimits with idleTimeout := 45 * second }
  endpoints := []
  maxStreamID := 0
  streams := []

/-- One byte each way, half a minute apart. -/
theorem echo_not_cut : ∃ s,
    run (step Gateway.defaultLimits readySession .publicTCP) (start 0)
      [.opened .client, .opened .target, .tick (30 * second), .arrive .client,
        .read .client false, .sent .client, .deliver .target, .arrive .target,
        .read .target false, .sent .target, .deliver .client, .tick (60 * second)] = some s ∧
    s.ended = none := by
  refine exists_run rfl fun hrun => ?_
  exact steady_not_cut Gateway.defaultLimits_valid (by decide) (by decide +kernel) hrun

/-- A byte every nine seconds for the whole of `IdleTimeout`, from one end to the other. -/
def oneWay (source sink : End) : List Label :=
  [.opened .client, .opened .target] ++
    (List.range 5).flatMap fun i => [.tick ((i + 1) * 9 * second), .arrive source,
      .read source false, .sent source, .deliver sink]

/-- A download ends although bytes are forwarded all the time, because the client sends nothing, and an
    upload because the target sends nothing. -/
theorem oneWay_cut :
    (∃ s, run (step Gateway.defaultLimits readySession .publicTCP) (start 0)
        (oneWay .target .client ++ [.fire (.read .client)]) = some s ∧
      Along (step Gateway.defaultLimits readySession .publicTCP)
        (fun s label => s.progressing Gateway.defaultLimits label) (start 0)
        (oneWay .target .client ++ [.fire (.read .client)]) ∧
      s.ended = some (.read .client)) ∧
    ∃ s, run (step Gateway.defaultLimits readySession .publicTCP) (start 0)
        (oneWay .client .target ++ [.fire (.read .target)]) = some s ∧
      Along (step Gateway.defaultLimits readySession .publicTCP)
        (fun s label => s.progressing Gateway.defaultLimits label) (start 0)
        (oneWay .client .target ++ [.fire (.read .target)]) ∧
      s.ended = some (.read .target) :=
  ⟨⟨_, rfl, by decide +kernel, rfl⟩, ⟨_, rfl, by decide +kernel, rfl⟩⟩

end IdlePath

end Hooshix.Tunnel
