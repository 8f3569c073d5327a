-- SUMMARY: HTTP, TCP and UDP arrivals at the public side of the Gateway.
import Hooshix.Contract
import Hooshix.Gateway.Admission
import Hooshix.Gateway.Limits
import Hooshix.Lib.StepSystem

/-! # Public ingress

`handleIngress`, `PublicTCPManager.handleConnection` and `PublicUDPManager.read` with `serveFlow`, for
many arrivals at once. An arrival moves by the operations on what it shares with the others. What the
metadata and the registry answer comes with the move that asks. `handleIngress` asks for the session
before the limiters, the other two ask for it last.
-/

namespace Hooshix.Gateway

/-- The answer of `http.Error`. -/
structure HTTPError where
  status : Int
  message : String
  deriving DecidableEq, Repr

/-- The keys of the route and device admission: assignment and device of a hostname, endpoint and owner
    of a listener. -/
structure IngressTarget where
  routeKey : String
  deviceID : String
  deriving DecidableEq, Repr

/-- A listener and the address of a peer, which name a flow. -/
abbrev FlowKey := Nat × String

inductive IngressKind where
  | http
  | tcp
  | udp (flow : FlowKey)
  deriving DecidableEq, Repr

/-- What a handler has of its arrival before it reads anything that is shared. `allowed` is the answer
    of `sourceAllowed`, `ip` is `none` if the address has none. -/
inductive Arrival where
  | http (reservedPath : Bool) (contentLength : Int)
  | tcp (target : IngressTarget) (stopped : Bool) (ip : Option String) (allowed : Bool) (now : Int)
  | udp (target : IngressTarget) (flow : FlowKey) (size : Nat) (ip : Option String) (allowed : Bool)
      (now : Int)
  deriving DecidableEq, Repr

/-- What an arrival has to give back when its handler returns; each includes those before it. -/
inductive Held where
  | route
  | device
  | slot
  deriving DecidableEq, Repr

/-- Where the handler of an arrival is. -/
inductive IngressPhase where
  /-- is about to ask `RouteByHostname` -/
  | routing
  /-- is about to call `sessionForDevice`, and holds nothing -/
  | locating (target : IngressTarget) (now : Int)
  /-- is about to ask `preAuthRate` -/
  | peering (kind : IngressKind) (target : IngressTarget) (peerKey : String) (now : Int)
  /-- is about to ask `ingressRate`, and holds nothing -/
  | rating (kind : IngressKind) (target : IngressTarget) (now : Int)
  /-- `serveFlow` is about to start -/
  | starting (flow : FlowKey) (target : IngressTarget)
  | admittingRoute (kind : IngressKind) (target : IngressTarget) (now : Int)
  | admittingDevice (kind : IngressKind) (target : IngressTarget) (now : Int)
  /-- is about to ask `ingressRate`, and is admitted for its route and device -/
  | ratingAdmitted (target : IngressTarget) (now : Int)
  | takingSlot (kind : IngressKind) (target : IngressTarget)
  /-- is about to call `sessionForDevice`, and holds a slot -/
  | locatingAdmitted (kind : IngressKind) (target : IngressTarget)
  /-- has a session and a slot -/
  | serving (kind : IngressKind) (target : IngressTarget)
  /-- runs the deferred releases -/
  | leaving (kind : IngressKind) (target : IngressTarget) (held : Held) (answer : Option HTTPError)
  /-- is about to delete its flow -/
  | unlisting (flow : FlowKey)
  /-- a datagram for a flow that exists -/
  | joined
  | returned (answer : Option HTTPError)
  deriving DecidableEq, Repr

inductive IngressMove where
  | arrive (a : Arrival)
  /-- `RouteByHostname` with the time read before it; `none` for an error -/
  | route (target : Option IngressTarget) (now : Int)
  /-- `sessionForDevice`; a session comes with its `supportsHalfClose` -/
  | session (supportsHalfClose : Option Bool)
  /-- `serveFlow` starts -/
  | serveFlow (now : Int)
  /-- what is served comes to its end -/
  | finish
  /-- the next operation on a limiter -/
  | proceed
  deriving DecidableEq, Repr

/-- What the arrivals share. -/
structure IngressShared (R : Type) where
  draining : Bool
  preAuthRate : KeyedTokenBuckets R
  ingressRate : TokenBucket R
  ingressRouteAdmission : KeyedAdmissionLimiter R
  ingressDeviceAdmission : KeyedAdmissionLimiter R
  /-- the ingress slots that are taken -/
  ingressSlots : Nat
  /-- the flows of the UDP listeners, with the arrival that serves each -/
  flows : Table FlowKey Nat

/-- The resources of a Gateway that has just started. -/
def newIngressShared {R : Type} [IntCast R] (limits : Limits) (now : Int) : IngressShared R where
  draining := false
  preAuthRate := newKeyedTokenBuckets limits.preAuthRatePerSecond limits.preAuthRateBurst
  ingressRate := newTokenBucket limits.ingressRatePerSecond limits.ingressRateBurst now
  ingressRouteAdmission := newKeyedAdmissionLimiter limits.maxIngressInFlight
    limits.ingressRatePerSecond limits.ingressRateBurst
  ingressDeviceAdmission := newKeyedAdmissionLimiter limits.maxIngressInFlight
    limits.ingressRatePerSecond limits.ingressRateBurst
  ingressSlots := 0
  flows := ∅

/-! ## The answers of `handleIngress` -/

/-- The answer to a request that the route or device limiter rejects; a socket is just closed. -/
def IngressKind.rejection (kind : IngressKind) (subject : String) (reason : RejectReason) :
    Option HTTPError :=
  match kind with
  | .http =>
    if reason = .rejectedRate then some ⟨429, subject ++ " ingress rate limit exceeded"⟩
    else some ⟨503, subject ++ " ingress concurrency limit reached"⟩
  | _ => none

/-- The phase of a handler that returns with nothing to give back but its flow. -/
def IngressKind.returning (kind : IngressKind) (answer : Option HTTPError) : IngressPhase :=
  match kind with
  | .udp flow => .unlisting flow
  | _ => .returned answer

namespace IngressShared

variable {R : Type}

def flowCount (s : IngressShared R) (listener : Nat) : Nat :=
  (s.flows.keys.filter fun flow => flow.1 = listener).length

/-- The checks of a handler before its first limiter. -/
def start (limits : Limits) (s : IngressShared R) : Arrival → IngressPhase
  | .http reservedPath contentLength =>
    if reservedPath then .returned (some ⟨404, "404 page not found"⟩)
    else if s.draining then .returned (some ⟨503, "gateway is draining"⟩)
    else if contentLength > limits.maxRequestBytes then .returned (some ⟨413, "request too large"⟩)
    else .routing
  | .tcp target stopped ip allowed now =>
    if stopped then .returned none
    else match ip with
    | none => .returned none
    | some ip =>
      if !allowed || s.draining then .returned none
      else .peering .tcp target ("public-tcp:" ++ ip) now
  | .udp target flow size ip allowed now =>
    if size > Contract.maxUDPDatagram || s.draining then .returned none
    else match ip with
    | none => .returned none
    | some ip =>
      if !allowed then .returned none
      else if (s.flows.lookup flow).isSome then .joined
      else if s.flowCount flow.1 ≥ limits.maxIngressInFlight then .returned none
      else .peering (.udp flow) target ("public-udp:" ++ ip) now

variable [Add R] [Sub R] [Mul R] [OfNat R 1] [LT R] [DecidableLT R]

/-- One operation of the handler of arrival `c` that is in `phase`; a new arrival is in none. -/
def move (limits : Limits) (seconds : Int → R) (s : IngressShared R) (c : Nat)
    (phase : Option IngressPhase) (m : IngressMove) : Outcome (IngressShared R × IngressPhase) :=
  match phase, m with
  | none, .arrive a => .next (s, s.start limits a)
  | some .routing, .route none _ => .next (s, .returned (some ⟨404, "route not found"⟩))
  | some .routing, .route (some target) now => .next (s, .locating target now)
  | some (.locating _ _), .session none => .next (s, .returned (some ⟨503, "agent offline"⟩))
  | some (.locating target now), .session (some _) => .next (s, .admittingRoute .http target now)
  | some (.peering kind target peerKey now), .proceed =>
    match s.preAuthRate.allow seconds peerKey now with
    | (true, preAuthRate) => .next ({ s with preAuthRate }, .rating kind target now)
    | (false, preAuthRate) => .next ({ s with preAuthRate }, .returned none)
  | some (.rating kind target now), .proceed =>
    match s.ingressRate.allow seconds now with
    | (true, ingressRate) =>
      match kind with
      | .udp flow =>
        .next ({ s with ingressRate, flows := s.flows.insert flow c }, .starting flow target)
      | _ => .next ({ s with ingressRate }, .admittingRoute kind target now)
    | (false, ingressRate) => .next ({ s with ingressRate }, .returned none)
  | some (.starting flow target), .serveFlow now => .next (s, .admittingRoute (.udp flow) target now)
  | some (.admittingRoute kind target now), .proceed =>
    match s.ingressRouteAdmission.tryAcquire seconds target.routeKey now with
    | (.accepted, ingressRouteAdmission) =>
      .next ({ s with ingressRouteAdmission }, .admittingDevice kind target now)
    | (reason, ingressRouteAdmission) =>
      .next ({ s with ingressRouteAdmission }, kind.returning (kind.rejection "route" reason))
  | some (.admittingDevice kind target now), .proceed =>
    match s.ingressDeviceAdmission.tryAcquire seconds target.deviceID now with
    | (.accepted, ingressDeviceAdmission) =>
      .next ({ s with ingressDeviceAdmission },
        match kind with
        | .http => .ratingAdmitted target now
        | _ => .takingSlot kind target)
    | (reason, ingressDeviceAdmission) =>
      .next ({ s with ingressDeviceAdmission },
        .leaving kind target .route (kind.rejection "device" reason))
  | some (.ratingAdmitted target now), .proceed =>
    match s.ingressRate.allow seconds now with
    | (true, ingressRate) => .next ({ s with ingressRate }, .takingSlot .http target)
    | (false, ingressRate) =>
      .next ({ s with ingressRate },
        .leaving .http target .device (some ⟨429, "public ingress rate limit exceeded"⟩))
  | some (.takingSlot kind target), .proceed =>
    if (s.ingressSlots : Int) < limits.maxIngressInFlight then
      .next ({ s with ingressSlots := s.ingressSlots + 1 },
        match kind with
        | .http => .serving .http target
        | _ => .locatingAdmitted kind target)
    else
      .next (s, .leaving kind target .device
        (match kind with
        | .http => some ⟨503, "public ingress capacity reached"⟩
        | _ => none))
  | some (.locatingAdmitted kind target), .session sess =>
    match kind, sess with
    | .udp _, some _ | _, some true => .next (s, .serving kind target)
    | _, _ => .next (s, .leaving kind target .slot none)
  | some (.serving kind target), .finish => .next (s, .leaving kind target .slot none)
  | some (.leaving kind target .slot answer), .proceed =>
    if s.ingressSlots = 0 then .blocked
    else .next ({ s with ingressSlots := s.ingressSlots - 1 }, .leaving kind target .device answer)
  | some (.leaving kind target .device answer), .proceed =>
    (s.ingressDeviceAdmission.release target.deviceID).bind fun ingressDeviceAdmission =>
      .next ({ s with ingressDeviceAdmission }, .leaving kind target .route answer)
  | some (.leaving kind target .route answer), .proceed =>
    (s.ingressRouteAdmission.release target.routeKey).bind fun ingressRouteAdmission =>
      .next ({ s with ingressRouteAdmission }, kind.returning answer)
  | some (.unlisting flow), .proceed =>
    .next ({ s with flows := if s.flows.lookup flow = some c then s.flows.erase flow else s.flows },
      .returned none)
  | _, _ => .blocked

end IngressShared

structure PublicIngress (R : Type) where
  shared : IngressShared R
  arrivals : Table Nat IngressPhase

inductive IngressLabel where
  | arrival (c : Nat) (m : IngressMove)
  | drain
  deriving DecidableEq, Repr

namespace PublicIngress

variable {R : Type} [Add R] [Sub R] [Mul R] [OfNat R 1] [LT R] [DecidableLT R]

def step (limits : Limits) (seconds : Int → R) (s : PublicIngress R) :
    IngressLabel → Option (PublicIngress R)
  | .arrival c m =>
    ((s.shared.move limits seconds c (s.arrivals.lookup c) m).bind fun (shared, phase) =>
      .next { shared, arrivals := s.arrivals.insert c phase }).value?
  | .drain => some { s with shared := { s.shared with draining := true } }

end PublicIngress

end Hooshix.Gateway
