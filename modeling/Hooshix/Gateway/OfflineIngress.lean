-- SUMMARY: What arrivals for devices without a session take from the limiters of the public ingress.
import Hooshix.Gateway.PublicIngress

/-! # Arrivals for offline devices

An arrival is offline if its route is unknown or its device has no routable session: no call of
`sessionForDevice` answers it with a session. Whether it leaves the ingress limiters alone depends on
the handler. `handleIngress` refuses it first; the TCP and UDP handlers spend a token of `ingressRate`
before they learn about it.
-/

namespace Hooshix.Gateway

open StepSystem IngressShared

/-- A move that an offline arrival can make. -/
def IngressMove.offline : IngressMove → Bool
  | .session (some _) => false
  | _ => true

/-- The handler has returned, or the datagram is in the queue of a flow. -/
def IngressPhase.isOver : IngressPhase → Bool
  | .returned _ | .joined => true
  | _ => false

/-- The handler is about to ask its first limiter, `preAuthRate`. -/
def IngressPhase.isPeering : IngressPhase → Bool
  | .peering _ _ _ _ => true
  | _ => false

namespace IngressShared

variable {R : Type}

/-- The limiters of the tunnel admission are the same. -/
structure SameLimits (s t : IngressShared R) : Prop where
  rate : t.ingressRate = s.ingressRate
  slots : t.ingressSlots = s.ingressSlots
  route : t.ingressRouteAdmission = s.ingressRouteAdmission
  device : t.ingressDeviceAdmission = s.ingressDeviceAdmission

theorem SameLimits.refl (s : IngressShared R) : s.SameLimits s := ⟨rfl, rfl, rfl, rfl⟩

variable [Add R] [Sub R] [Mul R] [OfNat R 1] [LT R] [DecidableLT R]

/-- The arrival is turned away before `ingressRate`, or by an `ingressRate` that is empty and was
    counted at this very time. -/
def Spared (limits : Limits) (seconds : Int → R) (s : IngressShared R) (a : Arrival) : Prop :=
  match s.start limits a with
  | .peering _ _ peerKey now =>
    (s.preAuthRate.allow seconds peerKey now).1 = false ∨
      s.ingressRate.allow seconds now = (false, s.ingressRate)
  | _ => True

end IngressShared

/-- A token that is granted is missing afterwards. -/
def Spends {R : Type} [Add R] [Sub R] [Mul R] [OfNat R 1] [LT R] [DecidableLT R]
    (seconds : Int → R) : Prop :=
  ∀ bucket : TokenBucket R, ∀ now, (bucket.allow seconds now).1 = true →
    (bucket.allow seconds now).2 ≠ bucket

theorem TokenBucket.allow_granted {R : Type} [Add R] [Sub R] [Mul R] [OfNat R 1] [LT R]
    [DecidableLT R] {seconds : Int → R} {bucket : TokenBucket R} {now : Int}
    (h : (bucket.allow seconds now).1 = true) :
    (bucket.allow seconds now).2 =
      { bucket with
        tokens := (refill seconds bucket.rate bucket.burst bucket.tokens bucket.last now).1 - 1
        last := (refill seconds bucket.rate bucket.burst bucket.tokens bucket.last now).2 } := by
  unfold TokenBucket.allow at h ⊢
  by_cases hempty : (refill seconds bucket.rate bucket.burst bucket.tokens bucket.last now).1 < 1
  · simp [hempty] at h
  · simp [hempty]

variable {seconds : Int → Int}

theorem refill_le (hzero : seconds 0 = 0) {rate burst tokens last now : Int}
    (h : (refill seconds rate burst tokens last now).2 = last) :
    (refill seconds rate burst tokens last now).1 ≤ tokens := by
  simp only [refill] at h ⊢
  rw [h, Int.sub_self, hzero, Int.zero_mul, Int.add_zero]
  split <;> omega

theorem spends_int (hzero : seconds 0 = 0) : Spends seconds := by
  intro bucket now hgranted hsame
  rw [TokenBucket.allow_granted hgranted] at hsame
  rw [TokenBucket.mk.injEq] at hsame
  obtain ⟨-, -, htokens, hlast⟩ := hsame
  -- the time of the bucket has not moved, so nothing was refilled
  have hle := refill_le hzero hlast
  omega

/-! ## One arrival -/

section Alone

variable {R : Type} [Add R] [Sub R] [Mul R] [OfNat R 1] [LT R] [DecidableLT R] {limits : Limits}
  {seconds : Int → R} {first : IngressShared R} {a : Arrival} {s s' : IngressShared R}
  {s : IngressShared R}

/-- The arrival had its token from `ingressRate`. -/
def Spent (limits : Limits) (seconds : Int → R) (first : IngressShared R) (a : Arrival)
    (s : IngressShared R) : Prop :=
  ¬ first.Spared limits seconds a ∧ s.ingressRate ≠ first.ingressRate

/-- What holds of the shared state `s` if nothing but the moves of the offline arrival `a` happened
    since `first`. -/
def Alone (limits : Limits) (seconds : Int → R) (first : IngressShared R) (a : Arrival)
    (s : IngressShared R) : IngressPhase → Prop
  | .routing | .locating _ _ | .joined => s = first ∧ first.Spared limits seconds a
  | .peering kind target peerKey now =>
    s = first ∧ first.start limits a = .peering kind target peerKey now ∧ kind ≠ .http
  | .rating kind target now =>
    first.SameLimits s ∧ kind ≠ .http ∧ ∃ peerKey,
      first.start limits a = .peering kind target peerKey now ∧
        (first.preAuthRate.allow seconds peerKey now).1 = true
  | .returned _ => first.SameLimits s ↔ first.Spared limits seconds a
  | .starting _ _ | .unlisting _ => Spent limits seconds first a s
  | .admittingRoute kind _ _ | .admittingDevice kind _ _ | .takingSlot kind _
  | .locatingAdmitted kind _ | .leaving kind _ _ _ =>
    kind ≠ .http ∧ Spent limits seconds first a s
  | .ratingAdmitted _ _ | .serving _ _ => False

theorem Spent.of_rate (h : Spent limits seconds first a s) (hrate : s'.ingressRate = s.ingressRate) :
    Spent limits seconds first a s' :=
  ⟨h.1, hrate ▸ h.2⟩

theorem Spent.returned (h : Spent limits seconds first a s)
    (answer : Option HTTPError) : Alone limits seconds first a s (.returned answer) :=
  ⟨fun hsame => absurd hsame.rate h.2, fun hspared => absurd hspared h.1⟩

theorem Spent.returning (h : Spent limits seconds first a s)
    (kind : IngressKind) (answer : Option HTTPError) :
    Alone limits seconds first a s (kind.returning answer) := by
  cases kind with
  | http | tcp => exact h.returned answer
  | udp flow => exact h

omit [Add R] [Sub R] [Mul R] [OfNat R 1] [LT R] [DecidableLT R] in
/-- The handlers of sockets go to the limiters with what the arrival had, the one of requests does
    not. -/
theorem start_cases (limits : Limits) (s : IngressShared R) (a : Arrival) :
    (∃ kind target peerKey now, s.start limits a = .peering kind target peerKey now ∧ kind ≠ .http) ∨
      s.start limits a = .routing ∨ s.start limits a = .joined ∨
      ∃ answer, s.start limits a = .returned answer := by
  cases a <;> simp only [start]
  all_goals repeat' split
  all_goals simp

theorem alone_start : Alone limits seconds first a first (first.start limits a) := by
  have hspared : (first.start limits a).isPeering = false → first.Spared limits seconds a := by
    intro hpeering
    rw [Spared]
    split
    next hstart => rw [hstart] at hpeering; cases hpeering
    next => trivial
  rcases start_cases limits first a with
    ⟨kind, target, peerKey, now, hstart, hkind⟩ | hstart | hstart | ⟨answer, hstart⟩ <;>
    rw [hstart] at hspared ⊢
  · exact ⟨rfl, hstart, hkind⟩
  · exact ⟨rfl, hspared rfl⟩
  · exact ⟨rfl, hspared rfl⟩
  · exact ⟨fun _ => hspared rfl, fun _ => .refl first⟩

/-- The moves of an offline arrival from this phase keep what holds of it. -/
def Kept (limits : Limits) (seconds : Int → R) (first : IngressShared R) (a : Arrival)
    (phase : IngressPhase) : Prop :=
  ∀ {c : Nat} {s s' : IngressShared R} {m : IngressMove} {phase' : IngressPhase}, m.offline = true →
    Alone limits seconds first a s phase →
    s.move limits seconds c (some phase) m = .next (s', phase') → Alone limits seconds first a s' phase'

variable {kind : IngressKind} {target : IngressTarget} {now : Int} {target : IngressTarget}
  {phase' : IngressPhase} {kind : IngressKind} {now : Int} {c : Nat}

theorem kept_routing : Kept limits seconds first a .routing := by
  intro c s s' m phase' _ h hmove
  cases m with
  | route target now =>
    cases target <;> cases hmove
    · exact ⟨fun _ => h.2, fun _ => h.1 ▸ .refl first⟩
    · exact h
  | _ => cases hmove

theorem kept_locating : Kept limits seconds first a (.locating target now) := by
  intro c s s' m phase' hm h hmove
  cases m with
  | session sess =>
    cases sess with
    | none =>
      cases hmove
      exact ⟨fun _ => h.2, fun _ => h.1 ▸ .refl first⟩
    | some supportsHalfClose => cases hm
  | _ => cases hmove

/-- `preAuthRate` is not among the limiters of the tunnel admission. -/
theorem alone_peering {peerKey : String}
    (h : Alone limits seconds first a s (.peering kind target peerKey now))
    (hmove : s.move limits seconds c (some (.peering kind target peerKey now)) .proceed = .next (s', phase')) :
    Alone limits seconds first a s' phase' := by
  obtain ⟨rfl, hstart, hkind⟩ := h
  simp only [move] at hmove
  split at hmove
  next hallow =>
    cases hmove
    refine ⟨⟨rfl, rfl, rfl, rfl⟩, hkind, peerKey, hstart, ?_⟩
    rw [hallow]
  next hallow =>
    cases hmove
    have hspared : s.Spared limits seconds a := by
      rw [Spared, hstart]
      left
      rw [hallow]
    exact ⟨fun _ => hspared, fun _ => ⟨rfl, rfl, rfl, rfl⟩⟩

/-- The one question that decides: what `ingressRate` is asked for, it gives or counts. -/
theorem alone_rating (hspends : Spends seconds)
    (h : Alone limits seconds first a s (.rating kind target now))
    (hmove : s.move limits seconds c (some (.rating kind target now)) .proceed = .next (s', phase')) :
    Alone limits seconds first a s' phase' := by
  obtain ⟨hsame, hkind, peerKey, hstart, hpeer⟩ := h
  simp only [move, hsame.rate] at hmove
  have hspared : first.Spared limits seconds a ↔
      first.ingressRate.allow seconds now = (false, first.ingressRate) := by
    rw [Spared, hstart]
    simp [hpeer]
  split at hmove
  next ingressRate hallow =>
    have hspent : ∀ t : IngressShared R, t.ingressRate = ingressRate →
        Spent limits seconds first a t := by
      intro t ht
      constructor
      · rw [hspared, hallow]
        simp
      · have hless := hspends first.ingressRate now (by rw [hallow])
        rwa [hallow, ← ht] at hless
    split at hmove
    · cases hmove
      exact hspent _ rfl
    · cases hmove
      exact ⟨hkind, hspent _ rfl⟩
  next ingressRate hallow =>
    cases hmove
    refine Iff.trans ?_ hspared.symm
    rw [hallow]
    constructor
    · intro hsame'
      rw [← hsame'.rate]
    · intro hcounted
      exact ⟨(Prod.mk.inj hcounted).2, hsame.slots, hsame.route, hsame.device⟩

/-- Only the handler of requests goes another way with its slot and its device's admission. -/
theorem kept_admitted {phase : IngressPhase}
    (hphase : (∃ now, phase = .admittingDevice kind target now) ∨ phase = .takingSlot kind target) :
    Kept limits seconds first a phase := by
  intro c s s' m phase' _ h hmove
  rcases hphase with ⟨now, rfl⟩ | rfl
  all_goals
    cases m with
    | proceed =>
      simp only [move] at hmove
      split at hmove
      · cases kind <;> cases hmove
        · exact absurd rfl h.1
        · exact h
        · exact h
      · cases hmove
        exact h
    | _ => cases hmove

theorem kept_admittingRoute : Kept limits seconds first a (.admittingRoute kind target now) := by
  intro c s s' m phase' _ h hmove
  cases m with
  | proceed =>
    simp only [move] at hmove
    split at hmove <;> cases hmove
    · exact h
    · apply Spent.returning
      exact h.2.of_rate rfl
  | _ => cases hmove

theorem kept_locatingAdmitted : Kept limits seconds first a (.locatingAdmitted kind target) := by
  intro c s s' m phase' hm h hmove
  cases m with
  | session sess =>
    cases sess with
    | none =>
      cases kind <;> cases hmove
      · exact absurd rfl h.1
      · exact h
      · exact h
    | some supportsHalfClose => cases hm
  | _ => cases hmove

theorem kept_leaving {held : Held} {answer : Option HTTPError} :
    Kept limits seconds first a (.leaving kind target held answer) := by
  intro c s s' m phase' _ h hmove
  cases m with
  | proceed =>
    cases held with
    | slot =>
      simp only [move] at hmove
      split at hmove <;> cases hmove
      exact h
    | device =>
      obtain ⟨limiter, -, ⟨⟩⟩ := Outcome.bind_eq_next.mp hmove
      exact h
    | route =>
      obtain ⟨limiter, -, ⟨⟩⟩ := Outcome.bind_eq_next.mp hmove
      apply Spent.returning
      exact h.2.of_rate rfl
  | _ => cases held <;> cases hmove

/-- Behind `ingressRate` no handler of a socket touches it again. -/
theorem alone_move (hspends : Spends seconds) (phase : IngressPhase) :
    Kept limits seconds first a phase := by
  intro c s s' m phase' hm h hmove
  cases phase with
  | routing => exact kept_routing hm h hmove
  | locating => exact kept_locating hm h hmove
  | peering kind target peerKey now =>
    cases m with
    | proceed => exact alone_peering h hmove
    | _ => cases hmove
  | rating kind target now =>
    cases m with
    | proceed => exact alone_rating hspends h hmove
    | _ => cases hmove
  | starting flow target =>
    cases m with
    | serveFlow now =>
      cases hmove
      exact ⟨nofun, h⟩
    | _ => cases hmove
  | admittingRoute => exact kept_admittingRoute hm h hmove
  | admittingDevice kind target now => exact kept_admitted (.inl ⟨now, rfl⟩) hm h hmove
  | takingSlot => exact kept_admitted (.inr rfl) hm h hmove
  | locatingAdmitted => exact kept_locatingAdmitted hm h hmove
  | leaving => exact kept_leaving hm h hmove
  | unlisting flow =>
    cases m with
    | proceed =>
      cases hmove
      apply Spent.returned
      exact Spent.of_rate h rfl
    | _ => cases hmove
  | ratingAdmitted | serving => cases h
  | joined | returned answer => cases hmove

end Alone

/-! ## Histories -/

/-- The arrivals that stay when the offline ones are taken away. -/
def IngressLabel.kept (offline : Nat → Bool) : IngressLabel → Bool
  | .arrival c _ => !offline c
  | .drain => true

namespace PublicIngress

variable {R : Type} [Add R] [Sub R] [Mul R] [OfNat R 1] [LT R] [DecidableLT R] {limits : Limits}
  {seconds : Int → R} {offline : Nat → Bool} {s s' t : PublicIngress R} {c : Nat} {l : IngressLabel}
  {m : IngressMove}

/-- An offline arrival is one in name only, or it comes through a socket and its handler goes to the
    limiters. -/
def disturbs (limits : Limits) (offline : Nat → Bool) (s : PublicIngress R) : IngressLabel → Bool
  | .arrival c (.arrive a) => offline c && (s.shared.start limits a).isPeering
  | .arrival c m => offline c && !m.offline
  | .drain => false

/-- Where an arrival has not come to a limiter. -/
def Outside : IngressPhase → Prop
  | .routing | .locating _ _ | .joined | .returned _ => True
  | _ => False

/-- The history with the offline arrivals is at `s`, the one without them at `t`. -/
structure Apart (offline : Nat → Bool) (s t : PublicIngress R) : Prop where
  shared : t.shared = s.shared
  arrivals : Table.Joint offline (fun p q => q = p) Outside s.arrivals t.arrivals

theorem step_arrival_iff :
    s.step limits seconds (.arrival c m) = some s' ↔
      ∃ shared phase, s.shared.move limits seconds c (s.arrivals.lookup c) m = .next (shared, phase) ∧
        s' = { shared, arrivals := s.arrivals.insert c phase } := by
  simp only [step, Outcome.value?_eq_some]
  constructor
  · intro h
    obtain ⟨⟨shared, phase⟩, hmove, hnext⟩ := Outcome.bind_eq_next.mp h
    cases hnext
    exact ⟨shared, phase, hmove, rfl⟩
  · rintro ⟨shared, phase, hmove, rfl⟩
    rw [hmove]
    rfl

/-- Outside the limiters nothing that is shared changes. -/
theorem move_outside {shared shared' : IngressShared R} {phase : Option IngressPhase}
    {phase' : IngressPhase} (hphase : ∀ p, phase = some p → Outside p) (hm : m.offline = true)
    (hstart : ∀ a, m = .arrive a → (shared.start limits a).isPeering = false)
    (hmove : shared.move limits seconds c phase m = .next (shared', phase')) :
    shared' = shared ∧ Outside phase' := by
  cases phase with
  | none =>
    cases m with
    | arrive a =>
      cases hmove
      have hnot := hstart a rfl
      rcases start_cases limits shared a with
        ⟨kind, target, peerKey, now, hphase, -⟩ | hphase | hphase | ⟨answer, hphase⟩ <;>
        rw [hphase] at hnot ⊢
      · cases hnot
      all_goals exact ⟨rfl, trivial⟩
    | _ => cases hmove
  | some p =>
    have hp := hphase p rfl
    cases p with
    | routing =>
      cases m with
      | route target now =>
        cases target <;> cases hmove
        all_goals exact ⟨rfl, trivial⟩
      | _ => cases hmove
    | locating target now =>
      cases m with
      | session sess =>
        cases sess with
        | none =>
          cases hmove
          exact ⟨rfl, trivial⟩
        | some supportsHalfClose => cases hm
      | _ => cases hmove
    | joined => cases hmove
    | returned answer => cases hmove
    | _ => cases hp

theorem Apart.hidden (h : Apart offline s t) (hguard : s.disturbs limits offline l = false)
    (hl : l.kept offline = false) (hstep : s.step limits seconds l = some s') :
    Apart offline s' t := by
  cases l with
  | drain => cases hl
  | arrival c m =>
    have hc : offline c = true := by simpa [IngressLabel.kept] using hl
    have hm : m.offline = true := by
      cases m with
      | arrive a => rfl
      | _ => simpa [disturbs, hc] using hguard
    have hstart : ∀ a, m = .arrive a → (s.shared.start limits a).isPeering = false := by
      rintro a rfl
      simpa [disturbs, hc] using hguard
    obtain ⟨shared, phase, hmove, rfl⟩ := step_arrival_iff.mp hstep
    obtain ⟨rfl, hphase⟩ := move_outside (fun p hp => h.arrivals.outside c p hc hp) hm hstart hmove
    exact ⟨h.shared, h.arrivals.insert_extra hc hphase⟩

theorem Apart.both (h : Apart offline s t) (hl : l.kept offline = true)
    (hstep : s.step limits seconds l = some s') :
    ∃ t', t.step limits seconds l = some t' ∧ Apart offline s' t' := by
  cases l with
  | drain =>
    cases hstep
    refine ⟨_, rfl, ?_, h.arrivals⟩
    rw [h.shared]
  | arrival c m =>
    have hc : offline c = false := by simpa [IngressLabel.kept] using hl
    obtain ⟨shared, phase, hmove, rfl⟩ := step_arrival_iff.mp hstep
    refine ⟨⟨shared, t.arrivals.insert c phase⟩, step_arrival_iff.mpr ⟨shared, phase, ?_, rfl⟩, rfl,
      h.arrivals.insert hc rfl⟩
    rw [h.shared, h.arrivals.alike c hc]
    exact hmove

/-- The state after the moves of one offline arrival. -/
theorem alone_run (hspends : Spends seconds) {first : IngressShared R} {a : Arrival}
    {phase : IngressPhase} (hphase : s.arrivals.lookup c = some phase)
    (h : Alone limits seconds first a s.shared phase) {moves : List IngressMove}
    (hmoves : ∀ m ∈ moves, m.offline = true)
    (hrun : run (step limits seconds) s (moves.map (.arrival c)) = some s') :
    ∃ phase', s'.arrivals.lookup c = some phase' ∧ Alone limits seconds first a s'.shared phase' := by
  induction moves generalizing s phase with
  | nil =>
    cases hrun
    exact ⟨phase, hphase, h⟩
  | cons m moves ih =>
    obtain ⟨next, hnext, hrest⟩ := run_cons.mp hrun
    obtain ⟨hm, hmoves⟩ := List.forall_mem_cons.mp hmoves
    obtain ⟨shared, phase', hmove, rfl⟩ := step_arrival_iff.mp hnext
    rw [hphase] at hmove
    exact ih (by rw [Table.lookup_insert_of, if_pos rfl]) (alone_move hspends _ hm h hmove) hmoves hrest

/-- An offline arrival leaves the limiters of the tunnel admission as they were exactly if it is a
    request, or is turned away before it gets to them. In a history in which each offline arrival is a
    request or fails the checks of its listener, all the others fare as if there had been none. -/
theorem offline_ingress (hspends : Spends seconds) :
    (∀ (s s' : PublicIngress R) (c : Nat) (a : Arrival) (moves : List IngressMove) phase,
      s.arrivals.lookup c = none → (∀ m ∈ moves, m.offline = true) →
      run (step limits seconds) s (.arrival c (.arrive a) :: moves.map (.arrival c)) =
        some s' →
      s'.arrivals.lookup c = some phase → phase.isOver = true →
      (s.shared.SameLimits s'.shared ↔ s.shared.Spared limits seconds a)) ∧
    ∀ (s s' : PublicIngress R) (offline : Nat → Bool) (labels : List IngressLabel),
      (∀ c, offline c = true → s.arrivals.lookup c = none) →
      Along (step limits seconds) (fun s l => s.disturbs limits offline l = false) s labels →
      run (step limits seconds) s labels = some s' →
      ∃ t, run (step limits seconds) s (labels.filter (·.kept offline)) = some t ∧
        t.shared = s'.shared ∧
        ∀ c, offline c = false → t.arrivals.lookup c = s'.arrivals.lookup c := by
  constructor
  · intro s s' c a moves phase hnew hmoves hrun hphase hover
    obtain ⟨next, hnext, hrest⟩ := run_cons.mp hrun
    obtain ⟨shared, start, hmove, rfl⟩ := step_arrival_iff.mp hnext
    rw [hnew] at hmove
    cases hmove
    obtain ⟨phase', hphase', halone⟩ := alone_run hspends (by rw [Table.lookup_insert_of, if_pos rfl])
      alone_start hmoves hrest
    rw [hphase] at hphase'
    cases hphase'
    cases phase with
    | returned answer => exact halone
    | joined =>
      obtain ⟨hshared, hspared⟩ := halone
      rw [hshared]
      exact ⟨fun _ => hspared, fun _ => .refl _⟩
    | _ => cases hover
  · intro s s' offline labels hnew hguard hrun
    have hstart : Apart offline s s := ⟨rfl, .refl (fun _ => rfl) hnew⟩
    have hpurged : ∃ t, run (step limits seconds) s (labels.filter (·.kept offline)) =
        some t ∧ Apart offline s' t := by
      apply purged_along _ _ hstart hguard hrun
      · intro s t l s' h hguard hl hstep
        exact h.hidden hguard hl hstep
      · intro s t l s' h _ hl hstep
        exact h.both hl hstep
    obtain ⟨t, ht, hend⟩ := hpurged
    exact ⟨t, ht, hend.shared, hend.arrivals.alike⟩

/-! ## A Gateway with one token -/

/-- A Gateway that admits one arrival in a second. -/
def slowLimits : Limits :=
  { defaultLimits with ingressRatePerSecond := 1, ingressRateBurst := 1 }

def wholeSeconds (duration : Int) : Int := duration / 1000000000

def quietIngress : PublicIngress Int := ⟨newIngressShared slowLimits 0, ∅⟩

def offlineTarget : IngressTarget := ⟨"endpoint-a", "device-a"⟩

/-- A connection to the TCP listener of a device without a session. -/
def offlineConnection : List IngressMove :=
  [.arrive (.tcp offlineTarget false (some "198.51.100.7") true 0), .proceed, .proceed, .proceed,
    .proceed, .proceed, .session none, .proceed, .proceed, .proceed]

/-- A request for the same device. -/
def offlineRequest : List IngressMove :=
  [.arrive (.http false 0), .route (some ⟨"assignment-a", "device-a"⟩) 0, .session none]

/-- A request for a device that is online, up to its slot. -/
def onlineRequest : List IngressMove :=
  [.arrive (.http false 0), .route (some ⟨"assignment-b", "device-b"⟩) 0, .session (some true),
    .proceed, .proceed, .proceed, .proceed]

/-- Arrival `1` comes first, then arrival `0`, which is online. -/
def afterOffline (first : List IngressMove) : List IngressLabel :=
  first.map (.arrival 1) ++ onlineRequest.map (.arrival 0)

theorem offline_ingress_request :
    ∃ attacked alone,
      run (step slowLimits wholeSeconds) quietIngress (afterOffline offlineRequest) =
        some attacked ∧
      run (step slowLimits wholeSeconds) quietIngress
        ((afterOffline offlineRequest).filter (·.kept (· == 1))) = some alone ∧
      alone.shared = attacked.shared ∧
      alone.arrivals.lookup 0 = some (.serving .http ⟨"assignment-b", "device-b"⟩) := by
  have hguard : Along (step slowLimits wholeSeconds)
      (fun s l => s.disturbs slowLimits (· == 1) l = false) quietIngress
      (afterOffline offlineRequest) := by decide +kernel
  have hattacked : run (step slowLimits wholeSeconds) quietIngress (afterOffline offlineRequest) =
    some _ := rfl
  obtain ⟨alone, halone, hshared, harrivals⟩ := (offline_ingress (spends_int rfl)).2 quietIngress
    _ (· == 1) _ (fun _ _ => rfl) hguard hattacked
  exact ⟨_, alone, hattacked, halone, hshared, (harrivals 0 rfl).trans rfl⟩

/-- The connection is refused in the end, but it has spent the token that the request needs. -/
theorem offline_connection_spends :
    slowLimits.valid = true ∧ ∃ attacked alone,
      run (step slowLimits wholeSeconds) quietIngress (afterOffline offlineConnection) =
        some attacked ∧
      run (step slowLimits wholeSeconds) quietIngress
        ((afterOffline offlineConnection).filter (·.kept (· == 1))) = some alone ∧
      attacked.arrivals.lookup 1 = some (.returned none) ∧
      attacked.arrivals.lookup 0 = some (.leaving .http ⟨"assignment-b", "device-b"⟩ .route
        (some ⟨429, "public ingress rate limit exceeded"⟩)) ∧
      alone.arrivals.lookup 0 = some (.serving .http ⟨"assignment-b", "device-b"⟩) :=
  ⟨by decide, _, _, rfl, rfl, rfl, rfl, rfl⟩

end PublicIngress

end Hooshix.Gateway
