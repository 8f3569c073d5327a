-- SUMMARY: The Gateway's session registry.
import Hooshix.Lib.StepSystem
import Hooshix.Lib.Table
import Hooshix.Errors
import Hooshix.Gateway.Limits

/-! # The session registry

`gateway.tunnels` and `gateway.primaries` under `gateway.mu`. Go iterates maps in any order, and the
loops that look for the oldest tunnel load `lastSeen` while sessions update it; so these loops get the
order of the iteration and the outcome of each comparison as arguments.
-/

namespace Hooshix.Gateway

open Table StepSystem

/-- A pointer to a session object with the fields that never change. -/
structure SessionRef where
  object : Nat
  deviceID : String
  sessionID : String
  authorizationID : String
  tokenID : String
  deriving DecidableEq, Repr

/-- The tunnels of one device, by session ID. -/
abbrev DeviceTunnels := Table String SessionRef

structure Registry where
  tunnels : Table String DeviceTunnels
  primaries : Table String SessionRef
  draining : Bool

/-- The outcome of `a.lastSeen.Load() < b.lastSeen.Load()`. -/
abbrev Older := SessionRef → SessionRef → Bool

/-- The loop that keeps the candidate with the smallest `lastSeen`. -/
def oldest (older : Older) (order : List SessionRef) : Option SessionRef :=
  order.foldl (fun best candidate =>
    match best with
    | none => some candidate
    | some current => if older candidate current then some candidate else some current) none

/-- The tunnel that makes room for a new one; never the routing primary. -/
def oldestStandby (older : Older) (order : List SessionRef) (primary : Option SessionRef) :
    Option SessionRef :=
  oldest older (order.filter fun candidate => primary ≠ some candidate)

/-- What a successful registration leaves behind: the registry, and the session that is failed and
    closed after `gateway.mu` was released. -/
structure Registered where
  registry : Registry
  replaced : Option SessionRef
  isReconnect : Bool

namespace Registry

/-- The registry of a new Gateway. -/
def empty : Registry := { tunnels := ∅, primaries := ∅, draining := false }

/-- `gateway.tunnels[deviceID]`, where a nil map reads as an empty one. -/
def deviceTunnels (g : Registry) (deviceID : String) : DeviceTunnels :=
  (g.tunnels.lookup deviceID).getD ∅

/-- `gateway.tunnels[deviceID][sessionID]`. -/
def tunnelAt (g : Registry) (deviceID sessionID : String) : Option SessionRef :=
  (g.deviceTunnels deviceID).lookup sessionID

def totalSessions (g : Registry) : Nat := total size g.tunnels

/-- The end of `registerSession`: `sess` enters the tunnels of its device, and takes over routing if
    there is no primary or it replaces the primary. -/
def enroll (g : Registry) (deviceTunnels : DeviceTunnels) (sess : SessionRef)
    (replaced : Option SessionRef) (isReconnect : Bool) : Registered :=
  let primary := g.primaries.lookup sess.deviceID
  let takesOver := primary = none ∨ (isReconnect = true ∧ primary = replaced)
  { registry :=
      { g with
        tunnels := g.tunnels.insert sess.deviceID (deviceTunnels.insert sess.sessionID sess)
        primaries := if takesOver then g.primaries.insert sess.deviceID sess else g.primaries }
    replaced := if replaced = some sess then none else replaced
    isReconnect := isReconnect }

/-- Admits a session. A session with the ID of a registered one replaces it; a new one needs room
    below the global limit, and below the device's limit takes the place of a standby. -/
def registerSession (limits : Limits) (older : Older) (order : List SessionRef) (g : Registry)
    (sess : SessionRef) : Except GoError Registered :=
  if g.draining then .error (errorsNew "gateway is draining")
  else
    let deviceTunnels := g.deviceTunnels sess.deviceID
    match deviceTunnels.lookup sess.sessionID with
    | some replaced => .ok (g.enroll deviceTunnels sess (some replaced) (replaced ≠ sess))
    | none =>
      if g.totalSessions ≥ limits.maxAgentSessions then
        .error (errorsNew "agent session capacity reached")
      else if deviceTunnels.size ≥ limits.maxTunnelsPerDevice then
        match oldestStandby older order (g.primaries.lookup sess.deviceID) with
        | none => .error (errorsNew "device tunnel capacity reached")
        | some victim =>
          .ok (g.enroll (deviceTunnels.erase victim.sessionID) sess (some victim) false)
      else .ok (g.enroll deviceTunnels sess none false)

/-- Removes a session if it is still the registered one, and promotes the oldest remaining tunnel of
    its device when it was the primary. `order` lists the remaining tunnels. -/
def unregisterSession (older : Older) (order : List SessionRef) (g : Registry) (sess : SessionRef) :
    Registry :=
  if g.tunnelAt sess.deviceID sess.sessionID = some sess then
    let remaining := (g.deviceTunnels sess.deviceID).erase sess.sessionID
    { g with
      tunnels :=
        if size remaining = 0 then g.tunnels.erase sess.deviceID
        else g.tunnels.insert sess.deviceID remaining
      primaries :=
        if g.primaries.lookup sess.deviceID = some sess then
          match oldest older order with
          | none => g.primaries.erase sess.deviceID
          | some promoted => g.primaries.insert sess.deviceID promoted
        else g.primaries }
  else g

def beginDrain (g : Registry) : Registry := { g with draining := true }

/-- The critical section of `Close`, which runs after its `BeginDrain`. -/
def clear (g : Registry) : Registry := { g with tunnels := ∅, primaries := ∅ }

/-! ## The registry as a step system -/

inductive Label where
  | register (sess : SessionRef) (older : Older) (order : List SessionRef)
  | unregister (sess : SessionRef) (older : Older) (order : List SessionRef)
  | beginDrain
  | close

/-- `order` is an order in which the tunnels of a device may be visited. -/
def iterates (order : List SessionRef) (tunnels : DeviceTunnels) : Bool :=
  order.isPerm tunnels.values

/-- A rejected registration changes nothing; `Close` empties the tables while draining. -/
def step (limits : Limits) (g : Registry) : Label → Option Registry
  | .register sess older order =>
    if iterates order (g.deviceTunnels sess.deviceID) then
      match g.registerSession limits older order sess with
      | .ok registered => some registered.registry
      | .error _ => some g
    else none
  | .unregister sess older order =>
    if iterates order ((g.deviceTunnels sess.deviceID).erase sess.sessionID) then
      some (g.unregisterSession older order sess)
    else none
  | .beginDrain => some g.beginDrain
  | .close => if g.draining then some g.clear else none

/-! ## The invariant -/

/-- What the registry guarantees between two critical sections. -/
structure Valid (limits : Limits) (g : Registry) : Prop where
  /-- no empty per-device map is kept -/
  nonempty : ∀ {d tunnels}, g.tunnels.lookup d = some tunnels → 0 < size tunnels
  /-- each tunnel is stored under its own IDs -/
  own : ∀ {d s r}, g.tunnelAt d s = some r → r.deviceID = d ∧ r.sessionID = s
  /-- a device with tunnels has a primary -/
  routed : ∀ {d tunnels}, g.tunnels.lookup d = some tunnels → (g.primaries.lookup d).isSome
  /-- a primary is one of the tunnels of its device -/
  registered : ∀ {d p}, g.primaries.lookup d = some p → g.tunnelAt d p.sessionID = some p
  device_le : ∀ {d tunnels}, g.tunnels.lookup d = some tunnels →
    size tunnels ≤ limits.maxTunnelsPerDevice
  total_le : g.totalSessions ≤ limits.maxAgentSessions

theorem Valid.empty {limits : Limits} (hlimits : limits.valid = true) : empty.Valid limits where
  nonempty := by simp [Registry.empty]
  own := by simp [Registry.empty, tunnelAt, deviceTunnels]
  routed := by simp [Registry.empty]
  registered := by simp [Registry.empty]
  device_le := by simp [Registry.empty]
  total_le := by
    have hpos : 0 < limits.maxAgentSessions := by
      simp only [Limits.valid, Bool.and_eq_true, decide_eq_true_eq, gt_iff_lt] at hlimits
      omega
    simpa [Registry.empty, totalSessions] using Int.le_of_lt hpos

/-! ### The choice of the oldest tunnel -/

/-- The first two sessions compete for the rest. -/
theorem oldest_cons_cons (older : Older) (best next : SessionRef) (rest : List SessionRef) :
    oldest older (best :: next :: rest) =
      oldest older ((if older next best then next else best) :: rest) := by
  simp only [oldest, List.foldl_cons]
  split <;> rfl

theorem oldest_cons (older : Older) (candidate : SessionRef) (order : List SessionRef) :
    ∃ chosen, oldest older (candidate :: order) = some chosen ∧ chosen ∈ candidate :: order := by
  induction order generalizing candidate with
  | nil => exact ⟨candidate, rfl, List.mem_cons_self⟩
  | cons next rest ih =>
    obtain ⟨chosen, hchosen, hmem⟩ := ih (if older next candidate then next else candidate)
    refine ⟨chosen, (oldest_cons_cons older candidate next rest).trans hchosen, ?_⟩
    simp only [List.mem_cons] at hmem ⊢
    split at hmem <;> tauto

variable {order : List SessionRef} {older : Older}

theorem oldest_mem {chosen : SessionRef} (h : oldest older order = some chosen) :
    chosen ∈ order := by
  cases order with
  | nil => cases h
  | cons candidate order =>
    obtain ⟨chosen', hchosen, hmem⟩ := oldest_cons older candidate order
    rw [hchosen] at h
    cases h
    exact hmem

theorem oldest_eq_none (h : oldest older order = none) :
    order = [] := by
  cases order with
  | nil => rfl
  | cons candidate order =>
    obtain ⟨chosen, hchosen, -⟩ := oldest_cons older candidate order
    rw [hchosen] at h
    cases h

theorem oldestStandby_spec {primary : Option SessionRef} {victim : SessionRef}
    (h : oldestStandby older order primary = some victim) :
    victim ∈ order ∧ primary ≠ some victim := by
  have hmem := oldest_mem h
  simpa using List.mem_filter.mp hmem

theorem mem_of_iterates {tunnels : DeviceTunnels} (h : iterates order tunnels = true)
    {r : SessionRef} :
    r ∈ order ↔ ∃ s, tunnels.lookup s = some r := by
  have hperm : order.Perm tunnels.values := List.isPerm_iff.mp h
  rw [hperm.mem_iff, mem_values]

/-! ### Updates of one device -/

section Updates

variable {limits : Limits} {g : Registry} {d : String}

/-- A device that has a tunnel has a map for it. -/
theorem lookup_of_tunnelAt {s : String} {r : SessionRef} (h : g.tunnelAt d s = some r) :
    g.tunnels.lookup d = some (g.deviceTunnels d) := by
  cases hlookup : g.tunnels.lookup d with
  | none => simp [tunnelAt, deviceTunnels, hlookup] at h
  | some tunnels => simp [deviceTunnels, hlookup]

theorem size_deviceTunnels : (g.tunnels.lookup d).elim 0 size = (g.deviceTunnels d).size := by
  cases hlookup : g.tunnels.lookup d with
  | none | some tunnels => simp [deviceTunnels, hlookup]

theorem deviceTunnels_insert (d' : String) (tunnels : DeviceTunnels)
    (primaries : Table String SessionRef) :
    deviceTunnels { g with tunnels := g.tunnels.insert d tunnels, primaries } d' =
      if d' = d then tunnels else g.deviceTunnels d' := by
  simp only [deviceTunnels, lookup_insert_of]
  split <;> rfl

/-- Gives one device other tunnels, one of which is its primary. -/
theorem Valid.update (hg : g.Valid limits) {tunnels : DeviceTunnels}
    {primaries : Table String SessionRef} {p : SessionRef}
    (hown : ∀ {s r}, tunnels.lookup s = some r → r.deviceID = d ∧ r.sessionID = s)
    (hprimary : primaries.lookup d = some p) (hregistered : tunnels.lookup p.sessionID = some p)
    (hothers : ∀ d', d' ≠ d → primaries.lookup d' = g.primaries.lookup d')
    (hdevice : tunnels.size ≤ limits.maxTunnelsPerDevice)
    (htotal : total size (g.tunnels.insert d tunnels) ≤ limits.maxAgentSessions) :
    Valid limits { g with tunnels := g.tunnels.insert d tunnels, primaries } where
  nonempty := by
    intro d' tunnels' h
    rw [lookup_insert_of] at h
    split at h
    · cases h
      exact size_pos_iff.mpr ⟨_, _, hregistered⟩
    · exact hg.nonempty h
  own := by
    intro d' s r h
    rw [tunnelAt, deviceTunnels_insert] at h
    split at h
    · rename_i heq
      subst heq
      exact hown h
    · exact hg.own h
  routed := by
    intro d' tunnels' h
    rw [lookup_insert_of] at h
    split at h
    · rename_i heq
      subst heq
      simp [hprimary]
    · rename_i hne
      simpa [hothers d' hne] using hg.routed h
  registered := by
    intro d' p' h
    rw [tunnelAt, deviceTunnels_insert]
    split
    · rename_i heq
      subst heq
      rw [hprimary] at h
      cases h
      exact hregistered
    · rename_i hne
      rw [hothers d' hne] at h
      exact hg.registered h
  device_le := by
    intro d' tunnels' h
    rw [lookup_insert_of] at h
    split at h
    · cases h
      exact hdevice
    · exact hg.device_le h
  total_le := htotal

/-- Takes the last tunnel of a device away, and its primary with it. -/
theorem Valid.remove (hg : g.Valid limits) :
    Valid limits { g with tunnels := g.tunnels.erase d, primaries := g.primaries.erase d } where
  nonempty h := hg.nonempty (of_lookup_erase h).2
  own := by
    intro d' s r h
    simp only [tunnelAt, deviceTunnels, lookup_erase_of] at h
    split at h
    · cases h
    · exact hg.own h
  routed := by
    intro d' tunnels h
    obtain ⟨hne, h⟩ := of_lookup_erase h
    simpa [lookup_erase_of, hne] using hg.routed h
  registered := by
    intro d' p h
    obtain ⟨hne, h⟩ := of_lookup_erase h
    simpa [lookup_erase_of, hne, tunnelAt, deviceTunnels] using hg.registered h
  device_le h := hg.device_le (of_lookup_erase h).2
  -- whether or not the device had tunnels, the sum does not grow
  total_le := by
    have hle : total size (g.tunnels.erase d) ≤ g.totalSessions := by
      cases hlookup : g.tunnels.lookup d with
      | none => exact (total_erase_of_none size hlookup).le
      | some tunnels => exact Nat.le_of_add_right_le (total_erase size hlookup).le
    exact Int.le_trans (Int.ofNat_le.mpr hle) hg.total_le

end Updates

/-! ### Registration -/

section Register

variable {limits : Limits} {g : Registry} {sess : SessionRef} {replaced : Option SessionRef}
  {isReconnect : Bool} {older : Older} {order : List SessionRef} {registered : Registered}
  {tunnels : DeviceTunnels}

/-- The primary after an admission: `sess` itself, or the old one, which then is another session. -/
theorem enroll_primary (hkept : ∀ p, g.primaries.lookup sess.deviceID = some p →
      ¬ (isReconnect = true ∧ replaced = some p) →
      p = sess ∨ p.sessionID ≠ sess.sessionID ∧ tunnels.lookup p.sessionID = some p) :
    ∃ p, (g.enroll tunnels sess replaced isReconnect).registry.primaries.lookup sess.deviceID =
        some p ∧
      (tunnels.insert sess.sessionID sess).lookup p.sessionID = some p := by
  simp only [enroll]
  split
  · exact ⟨sess, AList.lookup_insert _, AList.lookup_insert _⟩
  · rename_i hstays
    obtain ⟨hsome, hother⟩ := not_or.mp hstays
    obtain ⟨p, hp⟩ := Option.ne_none_iff_exists'.mp hsome
    refine ⟨p, hp, ?_⟩
    have hnot : ¬ (isReconnect = true ∧ replaced = some p) := by
      rintro ⟨hreconnect, hreplaced⟩
      exact hother ⟨hreconnect, hp.trans hreplaced.symm⟩
    rcases hkept p hp hnot with rfl | ⟨hne, hlookup⟩
    · exact AList.lookup_insert _
    · rwa [AList.lookup_insert_ne hne]

theorem enroll_primaries_other (tunnels : DeviceTunnels) {d : String} (hne : d ≠ sess.deviceID) :
    (g.enroll tunnels sess replaced isReconnect).registry.primaries.lookup d =
      g.primaries.lookup d := by
  simp only [enroll]
  split
  · exact AList.lookup_insert_ne hne
  · rfl

variable (hg : g.Valid limits) {p : SessionRef} {victim : SessionRef}

include hg

/-- Admitting a session keeps the registry valid if the tunnels it joins are registered ones, with
    the primary among them unless `sess` takes its place, and leave room for it. -/
theorem Valid.enroll
    (hsub : ∀ {s r}, tunnels.lookup s = some r → g.tunnelAt sess.deviceID s = some r)
    (hkept : ∀ p, g.primaries.lookup sess.deviceID = some p →
      ¬ (isReconnect = true ∧ replaced = some p) →
      p = sess ∨ p.sessionID ≠ sess.sessionID ∧ tunnels.lookup p.sessionID = some p)
    (hdevice : (size (tunnels.insert sess.sessionID sess) : Int) ≤
      limits.maxTunnelsPerDevice)
    (htotal : (g.totalSessions : Int) + size (tunnels.insert sess.sessionID sess) ≤
      limits.maxAgentSessions + (g.deviceTunnels sess.deviceID).size) :
    Valid limits (g.enroll tunnels sess replaced isReconnect).registry := by
  obtain ⟨p, hp, hregistered⟩ := enroll_primary hkept
  refine hg.update ?_ hp hregistered (fun d hne => enroll_primaries_other tunnels hne) hdevice ?_
  · intro s r h
    rw [lookup_insert_of] at h
    split at h
    · rename_i heq
      cases h
      exact ⟨rfl, heq.symm⟩
    · exact hg.own (hsub h)
  · have hsum := total_insert_lookup size g.tunnels sess.deviceID
      (tunnels.insert sess.sessionID sess)
    rw [size_deviceTunnels] at hsum
    simp only [totalSessions] at htotal
    omega

omit hg in
/-- The three ways in which a registration succeeds. -/
theorem registerSession_cases (h : g.registerSession limits older order sess = .ok registered) :
    g.draining = false ∧
      ((∃ replaced, g.tunnelAt sess.deviceID sess.sessionID = some replaced ∧
          registered = g.enroll (g.deviceTunnels sess.deviceID) sess (some replaced)
            (replaced ≠ sess)) ∨
        g.tunnelAt sess.deviceID sess.sessionID = none ∧
          g.totalSessions < limits.maxAgentSessions ∧
          ((∃ victim,
              oldestStandby older order (g.primaries.lookup sess.deviceID) = some victim ∧
              registered = g.enroll ((g.deviceTunnels sess.deviceID).erase victim.sessionID) sess
                (some victim) false) ∨
            (g.deviceTunnels sess.deviceID).size < limits.maxTunnelsPerDevice ∧
              registered = g.enroll (g.deviceTunnels sess.deviceID) sess none false)) := by
  simp only [registerSession] at h
  split at h
  · cases h
  next hdraining =>
    refine ⟨by simpa using hdraining, ?_⟩
    repeat' split at h
    all_goals cases h
    next replaced hreplaced => exact .inl ⟨replaced, hreplaced, rfl⟩
    next hnew hroom _ _ victim hvictim =>
      exact .inr ⟨hnew, by omega, .inl ⟨victim, hvictim, rfl⟩⟩
    next hnew hroom hdevice => exact .inr ⟨hnew, by omega, .inr ⟨by omega, rfl⟩⟩

theorem Valid.device_room {s : String} {r : SessionRef} (h : g.tunnelAt sess.deviceID s = some r) :
    ((g.deviceTunnels sess.deviceID).size : Int) ≤ limits.maxTunnelsPerDevice :=
  hg.device_le (lookup_of_tunnelAt h)

/-- The session takes the place of the one with its ID. -/
theorem Valid.enroll_replacing {replaced : SessionRef}
    (hreplaced : g.tunnelAt sess.deviceID sess.sessionID = some replaced) :
    (g.enroll (g.deviceTunnels sess.deviceID) sess (some replaced)
      (replaced ≠ sess)).registry.Valid limits := by
  have hsize : size ((g.deviceTunnels sess.deviceID).insert sess.sessionID sess) =
      (g.deviceTunnels sess.deviceID).size := size_insert_of_some hreplaced
  refine hg.enroll id ?_ ?_ ?_
  · intro p hp hnot
    have hmem : g.tunnelAt sess.deviceID p.sessionID = some p := hg.registered hp
    by_cases hID : p.sessionID = sess.sessionID
    · rw [hID, hreplaced] at hmem
      cases hmem
      exact .inl (by simpa using hnot)
    · exact .inr ⟨hID, hmem⟩
  · rw [hsize]
    exact hg.device_room hreplaced
  · rw [hsize]
    exact Int.add_le_add_right hg.total_le _

/-- The primary of the device of a new session is another session. -/
theorem Valid.primary_of_new (hnew : g.tunnelAt sess.deviceID sess.sessionID = none)
    (hp : g.primaries.lookup sess.deviceID = some p) :
    p.sessionID ≠ sess.sessionID ∧ g.tunnelAt sess.deviceID p.sessionID = some p := by
  have hmem : g.tunnelAt sess.deviceID p.sessionID = some p := hg.registered hp
  refine ⟨?_, hmem⟩
  intro hID
  rw [hID, hnew] at hmem
  cases hmem

/-- The victim is registered under its own ID. -/
theorem Valid.victim_registered (horder : iterates order (g.deviceTunnels sess.deviceID) = true)
    (hvictim : oldestStandby older order (g.primaries.lookup sess.deviceID) = some victim) :
    g.tunnelAt sess.deviceID victim.sessionID = some victim := by
  obtain ⟨s, hs⟩ := (mem_of_iterates horder).mp (oldestStandby_spec hvictim).1
  have hown := (hg.own hs).2
  rw [hown]
  exact hs

/-- The session takes the room of a standby. -/
theorem Valid.enroll_evicting (hnew : g.tunnelAt sess.deviceID sess.sessionID = none)
    (hvictim : g.tunnelAt sess.deviceID victim.sessionID = some victim)
    (hstandby : g.primaries.lookup sess.deviceID ≠ some victim) :
    (g.enroll ((g.deviceTunnels sess.deviceID).erase victim.sessionID) sess
      (some victim) false).registry.Valid limits := by
  have hnone : ((g.deviceTunnels sess.deviceID).erase victim.sessionID).lookup
      sess.sessionID = none := by
    rw [lookup_erase_of]
    split
    · rfl
    · exact hnew
  -- one tunnel goes and one comes: neither bound moves
  have hsize : size (((g.deviceTunnels sess.deviceID).erase victim.sessionID).insert
      sess.sessionID sess) = (g.deviceTunnels sess.deviceID).size :=
    (size_insert_of_none hnone).trans (size_erase hvictim)
  refine hg.enroll ?_ ?_ ?_ ?_
  · exact fun hr => (of_lookup_erase hr).2
  -- the victim is a standby, so the primary survives its removal
  · intro p hp _
    obtain ⟨hID, hregistered⟩ := hg.primary_of_new hnew hp
    refine .inr ⟨hID, ?_⟩
    rw [lookup_erase_of]
    split
    · rename_i heq
      rw [heq, hvictim] at hregistered
      cases hregistered
      exact absurd hp hstandby
    · exact hregistered
  · rw [hsize]
    exact hg.device_room hvictim
  · rw [hsize]
    exact Int.add_le_add_right hg.total_le _

/-- There is room for one more tunnel. -/
theorem Valid.enroll_new (hnew : g.tunnelAt sess.deviceID sess.sessionID = none)
    (hglobal : g.totalSessions < limits.maxAgentSessions)
    (hdevice : (g.deviceTunnels sess.deviceID).size < limits.maxTunnelsPerDevice) :
    (g.enroll (g.deviceTunnels sess.deviceID) sess none false).registry.Valid limits := by
  have hsize : size ((g.deviceTunnels sess.deviceID).insert sess.sessionID sess) =
      (g.deviceTunnels sess.deviceID).size + 1 := size_insert_of_none hnew
  refine hg.enroll id (fun p hp _ => .inr (hg.primary_of_new hnew hp)) ?_ ?_
  all_goals
    rw [hsize]
    omega

theorem Valid.registerSession (horder : iterates order (g.deviceTunnels sess.deviceID) = true)
    (h : g.registerSession limits older order sess = .ok registered) :
    registered.registry.Valid limits := by
  obtain ⟨-, ⟨replaced, hreplaced, rfl⟩ | ⟨hnew, hglobal, hnext⟩⟩ := registerSession_cases h
  · exact hg.enroll_replacing hreplaced
  rcases hnext with ⟨victim, hvictim, rfl⟩ | ⟨hdevice, rfl⟩
  · exact hg.enroll_evicting hnew (hg.victim_registered horder hvictim)
      (oldestStandby_spec hvictim).2
  · exact hg.enroll_new hnew hglobal hdevice

/-- A new tunnel leaves the primary of its device registered and in charge of routing. -/
theorem Valid.primary_survives (horder : iterates order (g.deviceTunnels sess.deviceID) = true)
    (h : g.registerSession limits older order sess = .ok registered)
    (hnew : g.tunnelAt sess.deviceID sess.sessionID = none)
    (hp : g.primaries.lookup sess.deviceID = some p) :
    registered.registry.primaries.lookup sess.deviceID = some p ∧
      registered.registry.tunnelAt sess.deviceID p.sessionID = some p := by
  have hroute : registered.registry.primaries.lookup sess.deviceID = some p := by
    obtain ⟨-, ⟨replaced, hreplaced, -⟩ | ⟨-, -, hnext⟩⟩ := registerSession_cases h
    · rw [hnew] at hreplaced
      cases hreplaced
    rcases hnext with ⟨victim, -, rfl⟩ | ⟨-, rfl⟩ <;> simp [Registry.enroll, hp]
  exact ⟨hroute, (hg.registerSession horder h).registered hroute⟩

/-- A session with the ID of the primary takes over routing. -/
theorem Valid.resumed_primary (h : g.registerSession limits older order sess = .ok registered)
    (hp : g.primaries.lookup sess.deviceID = some p) (hID : p.sessionID = sess.sessionID) :
    registered.registry.primaries.lookup sess.deviceID = some sess := by
  have hmem : g.tunnelAt sess.deviceID sess.sessionID = some p := by
    rw [← hID]
    exact hg.registered hp
  obtain ⟨-, ⟨replaced, hreplaced, rfl⟩ | ⟨hnew, -⟩⟩ := registerSession_cases h
  · rw [hmem] at hreplaced
    cases hreplaced
    by_cases hsame : p = sess
    · subst hsame
      simp [Registry.enroll, hp]
    · simp [Registry.enroll, hp, hsame]
  · rw [hmem] at hnew
    cases hnew

end Register

/-! ### Unregistration and whole runs -/

section Runs

variable {limits : Limits} {g : Registry} {order : List SessionRef} {sess : SessionRef}
  {older : Older} {g' : Registry} {a : Label}

/-- The tunnels of a device without one of its sessions. -/
theorem Valid.remaining_lookup (hg : g.Valid limits) {sess p : SessionRef}
    (hcurrent : g.tunnelAt sess.deviceID sess.sessionID = some sess)
    (hp : g.primaries.lookup sess.deviceID = some p) (hne : p ≠ sess) :
    ((g.deviceTunnels sess.deviceID).erase sess.sessionID).lookup p.sessionID = some p := by
  have hmem : g.tunnelAt sess.deviceID p.sessionID = some p := hg.registered hp
  rw [lookup_erase_of]
  split
  · rename_i heq
    rw [heq, hcurrent] at hmem
    exact absurd (Option.some.inj hmem).symm hne
  · exact hmem

/-- The primary after an unregistration is a remaining tunnel. -/
theorem Valid.promoted (hg : g.Valid limits)
    (hcurrent : g.tunnelAt sess.deviceID sess.sessionID = some sess)
    (horder : iterates order ((g.deviceTunnels sess.deviceID).erase sess.sessionID) = true)
    (hsome : 0 < size ((g.deviceTunnels sess.deviceID).erase sess.sessionID)) :
    ∃ p, (g.unregisterSession older order sess).primaries.lookup sess.deviceID = some p ∧
      ((g.deviceTunnels sess.deviceID).erase sess.sessionID).lookup p.sessionID = some p := by
  obtain ⟨p, hp⟩ := Option.isSome_iff_exists.mp (hg.routed (lookup_of_tunnelAt hcurrent))
  simp only [Registry.unregisterSession, hcurrent, if_true]
  -- the primary goes only if it is the session itself, and then the oldest of the rest is promoted
  by_cases hsess : p = sess
  · subst hsess
    simp only [hp, if_true]
    obtain ⟨s, r, hr⟩ := size_pos_iff.mp hsome
    cases hchosen : oldest older order with
    | none =>
      have hmem : r ∈ order := (mem_of_iterates horder).mpr ⟨s, hr⟩
      rw [oldest_eq_none hchosen] at hmem
      cases hmem
    | some chosen =>
      refine ⟨chosen, AList.lookup_insert _, ?_⟩
      obtain ⟨s', hs'⟩ := (mem_of_iterates horder).mp (oldest_mem hchosen)
      have hfull : g.tunnelAt p.deviceID s' = some chosen := (of_lookup_erase hs').2
      have hown := (hg.own hfull).2
      rw [hown]
      exact hs'
  · refine ⟨p, ?_, hg.remaining_lookup hcurrent hp hsess⟩
    simp [hp, hsess]

theorem unregisterSession_primaries_other {d : String} (hne : d ≠ sess.deviceID) :
    (g.unregisterSession older order sess).primaries.lookup d = g.primaries.lookup d := by
  simp only [unregisterSession]
  split
  · simp only
    split
    · split
      · exact AList.lookup_erase_ne hne
      · exact AList.lookup_insert_ne hne
    · rfl
  · rfl

theorem Valid.unregisterSession (hg : g.Valid limits)
    (horder : iterates order ((g.deviceTunnels sess.deviceID).erase sess.sessionID) = true) :
    (g.unregisterSession older order sess).Valid limits := by
  by_cases hcurrent : g.tunnelAt sess.deviceID sess.sessionID = some sess
  -- a session that was already replaced is left alone
  swap
  · simpa [Registry.unregisterSession, hcurrent] using hg
  have hsmaller := size_erase hcurrent
  by_cases hlast : size ((g.deviceTunnels sess.deviceID).erase sess.sessionID) = 0
  · -- the last tunnel of a device is its primary
    obtain ⟨p, hp⟩ := Option.isSome_iff_exists.mp (hg.routed (lookup_of_tunnelAt hcurrent))
    have hsess : p = sess := by
      by_contra hne
      have hpos := size_pos_iff.mpr ⟨_, _, hg.remaining_lookup hcurrent hp hne⟩
      omega
    have hnone : oldest older order = none := by
      cases hchosen : oldest older order with
      | none => rfl
      | some chosen =>
        obtain ⟨s, hs⟩ := (mem_of_iterates horder).mp (oldest_mem hchosen)
        have hpos := size_pos_iff.mpr ⟨_, _, hs⟩
        omega
    subst hsess
    simpa [Registry.unregisterSession, hcurrent, hlast, hp, hnone] using hg.remove
  · obtain ⟨p, hp, hregistered⟩ := hg.promoted hcurrent horder (Nat.pos_of_ne_zero hlast)
    have hroom := hg.device_room hcurrent
    have htotal := hg.total_le
    have hsum := total_insert_lookup size g.tunnels sess.deviceID
      ((g.deviceTunnels sess.deviceID).erase sess.sessionID)
    rw [size_deviceTunnels] at hsum
    have hshape : g.unregisterSession older order sess =
        { g with
          tunnels := g.tunnels.insert sess.deviceID
            ((g.deviceTunnels sess.deviceID).erase sess.sessionID)
          primaries := (g.unregisterSession older order sess).primaries } := by
      simp [Registry.unregisterSession, hcurrent, hlast]
    rw [hshape]
    refine hg.update ?_ hp hregistered (fun d hne => unregisterSession_primaries_other hne) ?_ ?_
    · exact fun hr => hg.own (of_lookup_erase hr).2
    · omega
    · simp only [totalSessions] at htotal
      omega

theorem Valid.clear (hg : g.Valid limits) : g.clear.Valid limits where
  nonempty := by simp [Registry.clear]
  own := by simp [Registry.clear, tunnelAt, deviceTunnels]
  routed := by simp [Registry.clear]
  registered := by simp [Registry.clear]
  device_le := by simp [Registry.clear]
  total_le := by
    have htotal := hg.total_le
    simp only [Registry.clear, totalSessions, total_empty]
    omega

theorem Valid.step (hg : g.Valid limits) (h : g.step limits a = some g') : g'.Valid limits := by
  cases a with
  | register sess older order =>
    simp only [Registry.step] at h
    repeat' split at h
    all_goals cases h
    next horder _ registered hregistered => exact hg.registerSession horder hregistered
    next => exact hg
  | unregister sess older order =>
    simp only [Registry.step] at h
    split at h <;> cases h
    next horder => exact hg.unregisterSession horder
  | beginDrain =>
    cases h
    exact { hg with }
  | close =>
    simp only [Registry.step] at h
    split at h <;> cases h
    exact hg.clear

theorem valid_of_run (hlimits : limits.valid = true) {labels : List Label}
    (hrun : run (step limits) empty labels = some g) : g.Valid limits :=
  invariant (fun hg h => hg.step h) (Valid.empty hlimits) hrun

/-- Draining never ends. -/
theorem step_draining (hg : g.draining = true)
    (h : g.step limits a = some g') : g'.draining = true := by
  cases a with
  | register sess older order =>
    simp only [step] at h
    split at h
    · simp only [registerSession, hg, if_true] at h
      cases h
      exact hg
    · cases h
  | unregister sess older order =>
    simp only [step] at h
    split at h <;> cases h
    simp only [unregisterSession]
    split <;> exact hg
  | beginDrain =>
    cases h
    rfl
  | close =>
    simp only [step, hg, if_true] at h
    cases h
    exact hg

theorem draining_of_close (h : g.step limits .close = some g') :
    g'.draining = true := by
  simp only [step] at h
  split at h
  · rename_i hdraining
    cases h
    exact hdraining
  · cases h

theorem Valid.primary_iff (hg : g.Valid limits) (d : String) :
    (g.primaries.lookup d).isSome ↔ 0 < (g.deviceTunnels d).size := by
  constructor
  · intro hsome
    obtain ⟨p, hp⟩ := Option.isSome_iff_exists.mp hsome
    exact size_pos_iff.mpr ⟨_, _, hg.registered hp⟩
  · intro hpos
    obtain ⟨s, r, hr⟩ := size_pos_iff.mp hpos
    exact hg.routed (lookup_of_tunnelAt hr)

end Runs

/-- In every reachable registry the tables are valid and the primary is the device's sign of life; a
    new tunnel leaves the primary in charge, a session with the primary's ID takes over from it, and
    nothing is registered after `Close` emptied the tables. -/
theorem registry_invariant {limits : Limits} (hlimits : limits.valid = true)
    {labels : List Label} {g : Registry} (hrun : run (step limits) empty labels = some g) :
    g.Valid limits ∧
      (∀ d, (g.primaries.lookup d).isSome ↔ 0 < (g.deviceTunnels d).size) ∧
      (∀ sess older order registered,
        iterates order (g.deviceTunnels sess.deviceID) = true →
        g.registerSession limits older order sess = .ok registered →
        ∀ p, g.primaries.lookup sess.deviceID = some p →
          (g.tunnelAt sess.deviceID sess.sessionID = none →
            registered.registry.primaries.lookup sess.deviceID = some p ∧
              registered.registry.tunnelAt sess.deviceID p.sessionID = some p) ∧
          (p.sessionID = sess.sessionID →
            registered.registry.primaries.lookup sess.deviceID = some sess)) ∧
      (∀ closed later g', g.step limits .close = some closed →
        run (step limits) closed later = some g' →
        ∀ sess older order, g'.registerSession limits older order sess =
          .error (errorsNew "gateway is draining")) := by
  have hg : g.Valid limits := valid_of_run hlimits hrun
  refine ⟨hg, hg.primary_iff, ?_, ?_⟩
  · intro sess older order registered horder hregistered p hp
    exact ⟨fun hnew => hg.primary_survives horder hregistered hnew hp,
      fun hID => hg.resumed_primary hregistered hp hID⟩
  -- draining is never taken back, so every later registration meets it
  · intro closed later g' hclose hlater sess older order
    have hdraining : g'.draining = true :=
      invariant (fun hs h => step_draining hs h) (draining_of_close hclose) hlater
    simp [registerSession, hdraining]

/-- A device registers a primary and two standbys, of which the second evicts the first, loses its
    primary and resumes its standby. -/
def failoverRun : List Label :=
  let older : Older := fun a b => a.object < b.object
  let session (object : Nat) (sessionID : String) : SessionRef :=
    ⟨object, "device-a", sessionID, "authorization-a", "token-a"⟩
  [ .register (session 0 "session-a") older [],
    .register (session 1 "session-b") older [session 0 "session-a"],
    .register (session 2 "session-c") older [session 1 "session-b", session 0 "session-a"],
    .unregister (session 0 "session-a") older [session 2 "session-c"],
    .register (session 3 "session-c") older [session 2 "session-c"] ]

theorem failoverRun_invariant :
    ∃ g, run (step defaultLimits) empty failoverRun = some g ∧
      g.primaries.lookup "device-a" = some ⟨3, "device-a", "session-c", "authorization-a", "token-a"⟩ ∧
      g.Valid defaultLimits := by
  refine exists_run (by decide) fun hg => ?_
  have hvalid := (registry_invariant defaultLimits_valid hg).1
  cases hg
  exact ⟨by decide, hvalid⟩

end Registry

end Hooshix.Gateway
