-- SUMMARY: The Gateway's limits.
import Mathlib.Algebra.Ring.Int.Defs
import Mathlib.Data.Int.Basic

/-! # Gateway limits

`gateway.Limits`. Durations are nanoseconds. The list of trusted proxy peers is a trust setting that
the check does not read and is left out.
-/

namespace Hooshix

/-- `time.Second` in nanoseconds. -/
def second : Int := 1000000000

namespace Gateway

structure Limits where
  maxAgentSessions : Int
  maxPendingHandshakes : Int
  maxStreamsPerSession : Int
  maxStreamQueueFrames : Int
  maxStreamQueueBytes : Int
  maxSessionQueueBytes : Int
  maxGlobalQueueBytes : Int
  maxIngressInFlight : Int
  maxIngressInFlightBytes : Int
  handshakeRatePerSecond : Int
  handshakeRateBurst : Int
  ingressRatePerSecond : Int
  ingressRateBurst : Int
  maxRequestBytes : Int
  maxResponseBytes : Int
  maxHeaderBytes : Int
  maxStatusQueueSignals : Int
  statusEmitTimeout : Int
  handshakeTimeout : Int
  readTimeout : Int
  writeTimeout : Int
  heartbeatInterval : Int
  idleTimeout : Int
  shutdownTimeout : Int
  maxTunnelsPerDevice : Int
  responsePhaseTimeout : Int
  resumeAcceptanceWindow : Int
  preAuthRatePerSecond : Int
  preAuthRateBurst : Int
  deriving DecidableEq, Repr

def defaultLimits : Limits where
  maxAgentSessions := 64
  maxPendingHandshakes := 64
  maxStreamsPerSession := 64
  maxStreamQueueFrames := 16
  maxStreamQueueBytes := 2 * 2 ^ 20
  maxSessionQueueBytes := 8 * 2 ^ 20
  maxGlobalQueueBytes := 32 * 2 ^ 20
  maxIngressInFlight := 32
  maxIngressInFlightBytes := 32 * 2 ^ 20
  handshakeRatePerSecond := 32
  handshakeRateBurst := 64
  ingressRatePerSecond := 256
  ingressRateBurst := 512
  maxRequestBytes := 8 * 2 ^ 20
  maxResponseBytes := 32 * 2 ^ 20
  maxHeaderBytes := 32 * 2 ^ 10
  maxStatusQueueSignals := 256
  statusEmitTimeout := 2 * second
  handshakeTimeout := 10 * second
  readTimeout := 15 * second
  writeTimeout := 10 * second
  heartbeatInterval := 15 * second
  idleTimeout := 45 * second
  shutdownTimeout := 10 * second
  maxTunnelsPerDevice := 2
  responsePhaseTimeout := 45 * second
  resumeAcceptanceWindow := 60 * second
  preAuthRatePerSecond := 16
  preAuthRateBurst := 32

/-- The check every Gateway configuration passes before use. -/
def Limits.valid (l : Limits) : Bool :=
  l.maxAgentSessions > 0 &&
  l.maxPendingHandshakes > 0 &&
  l.maxStreamsPerSession > 0 &&
  l.maxStreamQueueFrames > 0 &&
  l.maxStreamQueueBytes > 0 &&
  l.maxSessionQueueBytes ≥ l.maxStreamQueueBytes &&
  l.maxGlobalQueueBytes ≥ l.maxSessionQueueBytes &&
  l.maxIngressInFlight > 0 &&
  l.maxIngressInFlightBytes > 0 &&
  l.handshakeRatePerSecond > 0 && l.handshakeRateBurst > 0 &&
  l.ingressRatePerSecond > 0 && l.ingressRateBurst > 0 &&
  l.maxRequestBytes > 0 &&
  l.maxResponseBytes > 0 &&
  l.maxHeaderBytes > 0 &&
  l.maxStatusQueueSignals > 0 && l.statusEmitTimeout > 0 &&
  l.maxIngressInFlightBytes ≥ l.maxRequestBytes + l.maxHeaderBytes &&
  l.handshakeTimeout > 0 &&
  l.readTimeout > 0 &&
  l.writeTimeout > 0 &&
  l.heartbeatInterval ≥ 5 * second && l.heartbeatInterval ≤ 60 * second &&
  l.idleTimeout ≥ 15 * second && l.idleTimeout ≤ 300 * second &&
  l.idleTimeout ≥ 2 * l.heartbeatInterval &&
  l.shutdownTimeout > 0 &&
  l.maxTunnelsPerDevice > 0 &&
  l.responsePhaseTimeout > 0 &&
  l.resumeAcceptanceWindow > 0 &&
  l.preAuthRatePerSecond > 0 && l.preAuthRateBurst > 0

theorem defaultLimits_valid : defaultLimits.valid = true := by decide

end Gateway

end Hooshix
