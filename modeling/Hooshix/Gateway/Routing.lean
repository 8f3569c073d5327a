-- SUMMARY: Ingress routing to the tunnels of a device, and when it finds a usable one.
import Hooshix.Gateway.Registry

/-! # Routing to a device

`sessionForDevice` reads the registry together with the fields of the sessions that change while they
are registered. The standby it falls back to is the one seen last, which is settled before anything
asks whether that standby is routable.
-/

namespace Hooshix.Gateway

/-- The registry and the atomic fields of the sessions; `authorizationExpiresAt` is set once, and
    `none` is the zero time. -/
structure Fleet where
  registry : Registry
  lastSeen : SessionRef → Int
  authorized : SessionRef → Bool
  authorizationExpiresAt : SessionRef → Option Int

namespace Fleet

/-- A new Gateway. A session is authorized from its creation on. -/
def start (authorizationExpiresAt : SessionRef → Option Int) : Fleet :=
  { registry := .empty
    lastSeen := fun _ => 0
    authorized := fun _ => true
    authorizationExpiresAt }

def routableSession (f : Fleet) (now : Int) : Option SessionRef → Bool
  | none => false
  | some sess =>
    f.authorized sess &&
      match f.authorizationExpiresAt sess with
      | none => true
      | some expiresAt => now < expiresAt

/-- The loop over the tunnels of the device: the one of `oldestStandby` with the comparison the
    other way. -/
def newestStandby (f : Fleet) (order : List SessionRef) (primary : Option SessionRef) :
    Option SessionRef :=
  oldestStandby (fun candidate standby => f.lastSeen candidate > f.lastSeen standby) order primary

/-- The tunnel that serves an arrival for the device at time `now`. -/
def sessionForDevice (f : Fleet) (now : Int) (order : List SessionRef) (deviceID : String) :
    Option SessionRef :=
  let primary := f.registry.primaries.lookup deviceID
  let standby := f.newestStandby order primary
  if f.routableSession now primary then primary
  else if f.routableSession now standby then standby
  else none

/-! ## Runs -/

inductive Label where
  | registry (a : Registry.Label)
  /-- `lastSeen.Store` -/
  | seen (sess : SessionRef) (now : Int)
  /-- `terminateAuthorization` -/
  | terminate (sess : SessionRef)

def step (limits : Limits) (f : Fleet) : Label → Option Fleet
  | .registry a => (f.registry.step limits a).map fun registry => { f with registry }
  | .seen sess now => some { f with lastSeen := Function.update f.lastSeen sess now }
  | .terminate sess => some { f with authorized := Function.update f.authorized sess false }

/-- The states of a Gateway with these limits. -/
def Reachable (limits : Limits) (f : Fleet) : Prop :=
  ∃ authorizationExpiresAt labels,
    StepSystem.run (step limits) (start authorizationExpiresAt) labels = some f

theorem valid_of_step {limits : Limits} {f f' : Fleet} {a : Label}
    (hf : f.registry.Valid limits) (h : f.step limits a = some f') : f'.registry.Valid limits := by
  cases a with
  | registry a =>
    obtain ⟨registry, hregistry, rfl⟩ := Option.map_eq_some_iff.mp h
    exact hf.step hregistry
  | seen sess now | terminate sess =>
    cases h
    exact hf

theorem Reachable.valid {limits : Limits} {f : Fleet} (hlimits : limits.valid = true)
    (hf : f.Reachable limits) : f.registry.Valid limits := by
  obtain ⟨authorizationExpiresAt, labels, hrun⟩ := hf
  exact StepSystem.invariant (I := fun f : Fleet => f.registry.Valid limits) valid_of_step
    (Registry.Valid.empty hlimits) hrun

/-! ## What routing is for -/

section Routing

variable (f : Fleet) (now : Int) (deviceID : String)

/-- `sess` is authorized and unexpired. -/
def Routable (sess : SessionRef) : Prop := f.routableSession now (some sess) = true

def Tunnel (sess : SessionRef) : Prop := ∃ sessionID, f.registry.tunnelAt deviceID sessionID = some sess

def Primary (sess : SessionRef) : Prop := f.registry.primaries.lookup deviceID = some sess

def Standby (sess : SessionRef) : Prop := f.Tunnel deviceID sess ∧ ¬ f.Primary deviceID sess

/-- A standby seen no earlier than any other. -/
def Newest (sess : SessionRef) : Prop :=
  f.Standby deviceID sess ∧ ∀ other, f.Standby deviceID other → f.lastSeen other ≤ f.lastSeen sess

/-- The answer is a usable tunnel if the device has one: the primary if it is usable, and otherwise
    the usable standby seen last. -/
structure Routes (answer : Option SessionRef) : Prop where
  found : (∃ sess, f.Tunnel deviceID sess ∧ f.Routable now sess) →
    ∃ sess, answer = some sess ∧ f.Tunnel deviceID sess ∧ f.Routable now sess
  primary : ∀ sess, f.Primary deviceID sess → f.Routable now sess → answer = some sess
  standby : (∀ sess, f.Primary deviceID sess → ¬ f.Routable now sess) → ∀ sess, answer = some sess →
    f.Standby deviceID sess ∧ f.Routable now sess ∧
      ∀ other, f.Standby deviceID other → f.Routable now other →
        f.lastSeen other ≤ f.lastSeen sess

/-- The primary is usable, or no standby is, or every standby that was seen last is. -/
def NewestUsable : Prop :=
  (∃ sess, f.Primary deviceID sess ∧ f.Routable now sess) ∨
    (∀ sess, f.Standby deviceID sess → ¬ f.Routable now sess) ∨
    ∀ sess, f.Newest deviceID sess → f.Routable now sess

end Routing

/-! ## The standby seen last -/

theorem oldest_le {key : SessionRef → Int} {order : List SessionRef} {chosen : SessionRef}
    (h : oldest (fun a b => key a > key b) order = some chosen) :
    ∀ sess ∈ order, key sess ≤ key chosen := by
  rcases order with _ | ⟨first, rest⟩
  · cases h
  induction rest generalizing first with
  | nil =>
    cases h
    simp
  | cons next rest ih =>
    have hrest := ih _ ((Registry.oldest_cons_cons _ first next rest).symm.trans h)
    simp only [List.forall_mem_cons, decide_eq_true_eq] at hrest ⊢
    split at hrest
    next hgt => exact ⟨by omega, hrest⟩
    next hle => exact ⟨hrest.1, by omega, hrest.2⟩

/-- The first candidate stays if nothing is strictly better. -/
theorem oldest_first {older : Older} {first : SessionRef} {rest : List SessionRef}
    (h : ∀ sess ∈ rest, older sess first = false) : oldest older (first :: rest) = some first := by
  induction rest with
  | nil => rfl
  | cons next rest ih =>
    have hskip : oldest older (first :: next :: rest) = oldest older (first :: rest) := by
      simp [oldest, h next List.mem_cons_self]
    rw [hskip]
    exact ih fun sess hsess => h sess (List.mem_cons_of_mem next hsess)

section Standbys

variable {f : Fleet} {now : Int} {deviceID : String} {order : List SessionRef} {sess : SessionRef}

variable (horder : Registry.iterates order (f.registry.deviceTunnels deviceID) = true)

include horder

theorem tunnel_iff_mem : f.Tunnel deviceID sess ↔ sess ∈ order :=
  (Registry.mem_of_iterates horder).symm

theorem standby_iff_mem :
    f.Standby deviceID sess ↔
      sess ∈ order.filter fun candidate => f.registry.primaries.lookup deviceID ≠ some candidate := by
  simp [Standby, Primary, tunnel_iff_mem horder]

theorem newest_of_newestStandby
    (h : f.newestStandby order (f.registry.primaries.lookup deviceID) = some sess) :
    f.Newest deviceID sess := by
  refine ⟨(standby_iff_mem horder).mpr (Registry.oldest_mem h), ?_⟩
  intro other hother
  exact oldest_le h other ((standby_iff_mem horder).mp hother)

theorem newestStandby_isSome (h : f.Standby deviceID sess) :
    ∃ newest, f.newestStandby order (f.registry.primaries.lookup deviceID) = some newest := by
  cases hnewest : f.newestStandby order (f.registry.primaries.lookup deviceID) with
  | none =>
    have hmem := (standby_iff_mem horder).mp h
    rw [Registry.oldest_eq_none hnewest] at hmem
    cases hmem
  | some newest => exact ⟨newest, rfl⟩

omit horder

/-- Go may visit any tunnel first, so every standby seen last is the choice of some iteration. -/
theorem Newest.chosen (h : f.Newest deviceID sess) :
    ∃ order, Registry.iterates order (f.registry.deviceTunnels deviceID) = true ∧
      f.newestStandby order (f.registry.primaries.lookup deviceID) = some sess := by
  obtain ⟨⟨htunnel, hprimary⟩, hlast⟩ := h
  have hmem : sess ∈ (f.registry.deviceTunnels deviceID).values := Table.mem_values.mpr htunnel
  have horder : Registry.iterates (sess :: (f.registry.deviceTunnels deviceID).values.erase sess)
      (f.registry.deviceTunnels deviceID) = true :=
    List.isPerm_iff.mpr (List.perm_cons_erase hmem).symm
  refine ⟨_, horder, ?_⟩
  have hkept : f.registry.primaries.lookup deviceID ≠ some sess := hprimary
  rw [newestStandby, oldestStandby, List.filter_cons_of_pos (by simpa using hkept)]
  apply oldest_first
  intro other hother
  have hstandby : f.Standby deviceID other := by
    rw [standby_iff_mem horder, List.filter_cons_of_pos (by simpa using hkept)]
    exact List.mem_cons_of_mem _ hother
  simpa using hlast other hstandby

end Standbys

/-! ## The answer in one state -/

section Answer

variable {f : Fleet} {now : Int} {deviceID : String} {order : List SessionRef} {sess : SessionRef}
  {limits : Limits}

theorem sessionForDevice_primary (hprimary : f.Primary deviceID sess)
    (hroutable : f.Routable now sess) : f.sessionForDevice now order deviceID = some sess := by
  rw [Primary] at hprimary
  rw [Routable] at hroutable
  simp [sessionForDevice, hprimary, hroutable]

/-- Without a usable primary the answer is the standby seen last, if that one is usable. -/
theorem sessionForDevice_standby
    (hprimary : ∀ sess, f.Primary deviceID sess → ¬ f.Routable now sess) :
    f.sessionForDevice now order deviceID =
      (f.newestStandby order (f.registry.primaries.lookup deviceID)).filter
        fun sess => f.routableSession now (some sess) := by
  have hunroutable : f.routableSession now (f.registry.primaries.lookup deviceID) = false := by
    cases hlookup : f.registry.primaries.lookup deviceID with
    | none => rfl
    | some sess => exact Bool.eq_false_iff.mpr (hprimary sess hlookup)
  rw [sessionForDevice]
  simp only [hunroutable, Bool.false_eq_true, if_false]
  cases f.newestStandby order (f.registry.primaries.lookup deviceID) with
  | none => rfl
  | some sess => rfl

/-- A tunnel that is usable while the primary is not is a standby. -/
theorem Routable.standby (hroutable : f.Routable now sess) (htunnel : f.Tunnel deviceID sess)
    (hprimary : ∀ sess, f.Primary deviceID sess → ¬ f.Routable now sess) :
    f.Standby deviceID sess :=
  ⟨htunnel, fun h => hprimary sess h hroutable⟩

theorem routes_of_primary (hf : f.registry.Valid limits) (hprimary : f.Primary deviceID sess)
    (hroutable : f.Routable now sess) :
    f.Routes now deviceID (f.sessionForDevice now order deviceID) := by
  have hanswer : f.sessionForDevice now order deviceID = some sess :=
    sessionForDevice_primary hprimary hroutable
  rw [hanswer]
  refine ⟨fun _ => ⟨sess, rfl, ⟨_, hf.registered hprimary⟩, hroutable⟩, ?_, ?_⟩
  · intro other hother _
    exact hprimary.symm.trans hother
  · intro hnone
    exact absurd hroutable (hnone sess hprimary)

theorem routes_of_newestUsable (hf : f.registry.Valid limits)
    (horder : Registry.iterates order (f.registry.deviceTunnels deviceID) = true)
    (h : f.NewestUsable now deviceID) :
    f.Routes now deviceID (f.sessionForDevice now order deviceID) := by
  by_cases hprimary : ∃ sess, f.Primary deviceID sess ∧ f.Routable now sess
  · obtain ⟨sess, hsess, hroutable⟩ := hprimary
    exact routes_of_primary hf hsess hroutable
  have hnone : ∀ sess, f.Primary deviceID sess → ¬ f.Routable now sess :=
    fun sess hsess hroutable => hprimary ⟨sess, hsess, hroutable⟩
  refine ⟨?_, fun sess hsess hroutable => absurd hroutable (hnone sess hsess), ?_⟩
  · rintro ⟨sess, htunnel, hroutable⟩
    have hstandby := hroutable.standby htunnel hnone
    obtain ⟨newest, hnewest⟩ := newestStandby_isSome horder hstandby
    have hlast := newest_of_newestStandby horder hnewest
    have husable : f.Routable now newest := by
      rcases h with h | h | h
      · exact absurd h hprimary
      · exact absurd hroutable (h sess hstandby)
      · exact h newest hlast
    refine ⟨newest, ?_, hlast.1.1, husable⟩
    rw [sessionForDevice_standby hnone, hnewest]
    exact Option.filter_some_pos husable
  · intro _ sess hanswer
    rw [sessionForDevice_standby hnone, Option.filter_eq_some_iff] at hanswer
    obtain ⟨hchosen, hroutable⟩ := hanswer
    have hlast := newest_of_newestStandby horder hchosen
    exact ⟨hlast.1, hroutable, fun other hother _ => hlast.2 other hother⟩

/-- Routing does what it is for in every iteration order exactly if the standby seen last does not
    hide a usable one. -/
theorem routes_iff_newestUsable (hf : f.registry.Valid limits) :
    (∀ order, Registry.iterates order (f.registry.deviceTunnels deviceID) = true →
      f.Routes now deviceID (f.sessionForDevice now order deviceID)) ↔
        f.NewestUsable now deviceID := by
  constructor
  · intro hroutes
    by_contra hhidden
    simp only [NewestUsable, not_or, not_exists, not_and, not_forall, not_not] at hhidden
    obtain ⟨hnone, ⟨usable, hstandby, hroutable⟩, newest, hnewest, hunroutable⟩ := hhidden
    obtain ⟨order, horder, hchosen⟩ := hnewest.chosen
    obtain ⟨sess, hanswer, -⟩ := (hroutes order horder).found ⟨usable, hstandby.1, hroutable⟩
    rw [sessionForDevice_standby hnone, hchosen, Option.filter_eq_some_iff] at hanswer
    obtain ⟨hsess, hroutable⟩ := hanswer
    cases hsess
    exact hunroutable hroutable
  · intro h order horder
    exact routes_of_newestUsable hf horder h

end Answer

/-! ## The answers of a whole run -/

section Limits

variable {limits : Limits} {f : Fleet} {now : Int} {deviceID : String}

theorem size_deviceTunnels_le (hf : f.registry.Valid limits)
    (hlimits : limits.maxTunnelsPerDevice ≤ 2 ∨ limits.maxAgentSessions ≤ 2) {sess : SessionRef}
    (h : f.Tunnel deviceID sess) : (f.registry.deviceTunnels deviceID).size ≤ 2 := by
  obtain ⟨sessionID, hsess⟩ := h
  have hlookup := Registry.lookup_of_tunnelAt hsess
  rcases hlimits with hlimits | hlimits
  · have hdevice := hf.device_le hlookup
    omega
  · have htotal := hf.total_le
    have hpart := Table.total_erase Table.size hlookup
    rw [Registry.totalSessions] at htotal
    omega

/-- Next to the primary there is room for one standby. -/
theorem Standby.unique (hf : f.registry.Valid limits)
    (hlimits : limits.maxTunnelsPerDevice ≤ 2 ∨ limits.maxAgentSessions ≤ 2)
    {first second : SessionRef} (hfirst : f.Standby deviceID first)
    (hsecond : f.Standby deviceID second) : first = second := by
  by_contra hne
  obtain ⟨sessionID, hsess⟩ := hfirst.1
  obtain ⟨primary, hprimary⟩ :=
    Option.isSome_iff_exists.mp (hf.routed (Registry.lookup_of_tunnelAt hsess))
  have hnotFirst : primary ≠ first := fun h => hfirst.2 (h ▸ hprimary)
  have hnotSecond : primary ≠ second := fun h => hsecond.2 (h ▸ hprimary)
  have hnodup : [primary, first, second].Nodup := by simp [hne, hnotFirst, hnotSecond]
  have hsubset : [primary, first, second] ⊆ (f.registry.deviceTunnels deviceID).values := by
    intro sess hmem
    simp only [List.mem_cons, List.not_mem_nil, or_false] at hmem
    rw [Table.mem_values]
    rcases hmem with rfl | rfl | rfl
    · exact ⟨_, hf.registered hprimary⟩
    · exact hfirst.1
    · exact hsecond.1
  have hlength := (List.subperm_of_subset hnodup hsubset).length_le
  have hsize := size_deviceTunnels_le hf hlimits hfirst.1
  rw [Table.length_values] at hlength
  simp only [List.length_cons, List.length_nil] at hlength
  omega

theorem newestUsable_of_two (hf : f.registry.Valid limits)
    (hlimits : limits.maxTunnelsPerDevice ≤ 2 ∨ limits.maxAgentSessions ≤ 2) :
    f.NewestUsable now deviceID := by
  by_cases husable : ∃ sess, f.Standby deviceID sess ∧ f.Routable now sess
  · obtain ⟨sess, hstandby, hroutable⟩ := husable
    refine .inr (.inr fun newest hnewest => ?_)
    rwa [hnewest.1.unique hf hlimits hstandby]
  · exact .inr (.inl fun sess hstandby hroutable => husable ⟨sess, hstandby, hroutable⟩)

end Limits

/-! ## A device with three tunnels -/

section Hidden

/-- A registration below both limits just enrolls the session. -/
theorem step_register_room {limits : Limits} {g : Registry} {sess : SessionRef} {older : Older}
    {order : List SessionRef} (hdraining : g.draining = false)
    (horder : Registry.iterates order (g.deviceTunnels sess.deviceID) = true)
    (hnew : g.tunnelAt sess.deviceID sess.sessionID = none)
    (htotal : g.totalSessions < limits.maxAgentSessions)
    (hsize : (g.deviceTunnels sess.deviceID).size < limits.maxTunnelsPerDevice) :
    g.step limits (.register sess older order) =
      some (g.enroll (g.deviceTunnels sess.deviceID) sess none false).registry := by
  have htotal : ¬ g.totalSessions ≥ limits.maxAgentSessions := by omega
  have hsize : ¬ (g.deviceTunnels sess.deviceID).size ≥ limits.maxTunnelsPerDevice := by omega
  rw [Registry.tunnelAt] at hnew
  simp [Registry.step, horder, Registry.registerSession, hdraining, hnew, htotal, hsize]

def tunnelA : SessionRef := ⟨0, "device-a", "session-a", "authorization-a", "token-a"⟩

def tunnelB : SessionRef := ⟨1, "device-a", "session-b", "authorization-b", "token-b"⟩

def tunnelC : SessionRef := ⟨2, "device-a", "session-c", "authorization-c", "token-c"⟩

/-- A primary and two standbys register; then the primary and the standby seen last lose their
    authorization, and are still registered. -/
def hiddenRun : List Label :=
  [ .registry (.register tunnelA (fun _ _ => false) []),
    .registry (.register tunnelB (fun _ _ => false) [tunnelA]),
    .registry (.register tunnelC (fun _ _ => false) [tunnelB, tunnelA]),
    .seen tunnelC 1,
    .terminate tunnelA,
    .terminate tunnelC ]

/-- The registry after the sessions registered one after the other. -/
def enrolled (sessions : List SessionRef) : Registry :=
  sessions.foldl (fun g sess => (g.enroll (g.deviceTunnels sess.deviceID) sess none false).registry)
    .empty

/-- The end of `hiddenRun`, with sessions that never expire. -/
def hidden : Fleet :=
  { registry := enrolled [tunnelA, tunnelB, tunnelC]
    lastSeen := Function.update (fun _ => 0) tunnelC 1
    authorized := Function.update (Function.update (fun _ => true) tunnelA false) tunnelC false
    authorizationExpiresAt := fun _ => none }

theorem run_hiddenRun {limits : Limits} (htunnels : 2 < limits.maxTunnelsPerDevice)
    (hsessions : 2 < limits.maxAgentSessions) :
    StepSystem.run (step limits) (start fun _ => none) hiddenRun = some hidden := by
  have hroom : ∀ (sessions : List SessionRef) (sess : SessionRef) (order : List SessionRef),
      (enrolled sessions).draining = false →
      Registry.iterates order ((enrolled sessions).deviceTunnels sess.deviceID) = true →
      (enrolled sessions).tunnelAt sess.deviceID sess.sessionID = none →
      (enrolled sessions).totalSessions ≤ 2 →
      ((enrolled sessions).deviceTunnels sess.deviceID).size ≤ 2 →
      (enrolled sessions).step limits (.register sess (fun _ _ => false) order) =
        some (enrolled (sessions ++ [sess])) := by
    intro sessions sess order hdraining horder hnew htotal hsize
    rw [step_register_room hdraining horder hnew (by omega) (by omega), enrolled, enrolled,
      List.foldl_append, List.foldl_cons, List.foldl_nil]
  have hA := hroom [] tunnelA [] (by decide) (by decide) (by decide) (by decide) (by decide)
  have hB := hroom [tunnelA] tunnelB [tunnelA] (by decide) (by decide) (by decide) (by decide)
    (by decide)
  have hC := hroom [tunnelA, tunnelB] tunnelC [tunnelB, tunnelA] (by decide) (by decide)
    (by decide) (by decide) (by decide)
  have hempty : Registry.empty = enrolled [] := rfl
  simp only [hiddenRun, StepSystem.run, step, start, hempty, hA, hB, hC, List.nil_append,
    List.cons_append, Option.map_some, Option.bind_some, hidden]

theorem hidden_not_newestUsable (now : Int) : ¬ hidden.NewestUsable now "device-a" := by
  have hstandby : hidden.Standby "device-a" tunnelB := ⟨⟨"session-b", by decide⟩, by
    rw [Primary]
    decide⟩
  have hnewest : hidden.Newest "device-a" tunnelC := by
    refine ⟨⟨⟨"session-c", by decide⟩, by rw [Primary]; decide⟩, ?_⟩
    intro other _
    simp only [hidden, Function.update_apply]
    split <;> decide
  rintro (⟨sess, hprimary, hroutable⟩ | hnone | hlast)
  · have hA : some tunnelA = some sess := hprimary
    cases hA
    cases hroutable
  · exact hnone tunnelB hstandby rfl
  · cases hlast tunnelC hnewest

end Hidden

/-- Routing finds a usable tunnel in exactly the states in which the standby seen last hides none,
    and these are all states of the Gateway exactly if a device cannot have three tunnels. -/
theorem routes_iff {limits : Limits} (hlimits : limits.valid = true) :
    (∀ f : Fleet, f.Reachable limits → ∀ now deviceID,
      (∀ order, Registry.iterates order (f.registry.deviceTunnels deviceID) = true →
        f.Routes now deviceID (f.sessionForDevice now order deviceID)) ↔
          f.NewestUsable now deviceID) ∧
    ((∀ f : Fleet, f.Reachable limits → ∀ now deviceID order,
      Registry.iterates order (f.registry.deviceTunnels deviceID) = true →
        f.Routes now deviceID (f.sessionForDevice now order deviceID)) ↔
      limits.maxTunnelsPerDevice ≤ 2 ∨ limits.maxAgentSessions ≤ 2) := by
  refine ⟨fun f hf now deviceID => routes_iff_newestUsable (hf.valid hlimits), ?_, ?_⟩
  · intro hroutes
    by_contra hthree
    simp only [not_or, Int.not_le] at hthree
    have hreachable : hidden.Reachable limits := ⟨_, _, run_hiddenRun hthree.1 hthree.2⟩
    have husable := (routes_iff_newestUsable (hreachable.valid hlimits)).mp
      (hroutes hidden hreachable 0 "device-a")
    exact hidden_not_newestUsable 0 husable
  · intro htwo f hf now deviceID order horder
    have hvalid := hf.valid hlimits
    exact routes_of_newestUsable hvalid horder (newestUsable_of_two hvalid htwo)

theorem routes_iff_default :
    defaultLimits.valid = true ∧ ∀ f : Fleet, f.Reachable defaultLimits → ∀ now deviceID order,
      Registry.iterates order (f.registry.deviceTunnels deviceID) = true →
        f.Routes now deviceID (f.sessionForDevice now order deviceID) :=
  ⟨defaultLimits_valid, (routes_iff defaultLimits_valid).2.mpr (.inl (by decide))⟩

/-- With room for three tunnels a device can have a usable tunnel and be answered with none. -/
theorem usable_standby_hidden :
    ∃ (limits : Limits) (f : Fleet), limits.valid = true ∧ limits.maxTunnelsPerDevice = 3 ∧
      f.Reachable limits ∧ f.Tunnel "device-a" tunnelB ∧ f.Routable 0 tunnelB ∧
      Registry.iterates [tunnelC, tunnelB, tunnelA] (f.registry.deviceTunnels "device-a") = true ∧
      f.sessionForDevice 0 [tunnelC, tunnelB, tunnelA] "device-a" = none :=
  ⟨{ defaultLimits with maxTunnelsPerDevice := 3 }, hidden, by decide, rfl,
    ⟨_, _, run_hiddenRun (by decide) (by decide)⟩, ⟨"session-b", by decide⟩, rfl, by decide,
    by decide⟩

end Fleet

end Hooshix.Gateway
