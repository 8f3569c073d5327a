-- SUMMARY: The Agent's limits.
import Hooshix.Contract
import Hooshix.Gateway.Limits

/-! # Agent limits

`agent.Limits` and the derived sizes of one stream's input queue. Durations are nanoseconds.
-/

namespace Hooshix.Agent

open Contract

structure Limits where
  maxStreams : Int
  maxQueueFrames : Int
  maxStreamQueueBytes : Int
  maxSessionQueueBytes : Int
  dialTimeout : Int
  handshakeTimeout : Int
  writeTimeout : Int
  idleTimeout : Int
  reconnectMin : Int
  reconnectMax : Int
  maxTunnels : Int
  deriving DecidableEq, Repr

def defaultLimits : Limits where
  maxStreams := 64
  maxQueueFrames := 16
  maxStreamQueueBytes := 2 * 2 ^ 20
  maxSessionQueueBytes := 8 * 2 ^ 20
  dialTimeout := 5 * second
  handshakeTimeout := 10 * second
  writeTimeout := 10 * second
  idleTimeout := 60 * second
  reconnectMin := second
  reconnectMax := 30 * second
  maxTunnels := 2

def Limits.valid (l : Limits) : Bool :=
  l.maxStreams > 0 && l.maxQueueFrames > 0 &&
  l.maxStreamQueueBytes > 0 && l.maxSessionQueueBytes ≥ l.maxStreamQueueBytes &&
  l.dialTimeout > 0 &&
  l.handshakeTimeout > 0 && l.writeTimeout > 0 && l.idleTimeout > 0 &&
  l.reconnectMin > 0 && l.reconnectMax ≥ l.reconnectMin &&
  l.maxTunnels > 0

theorem defaultLimits_valid : defaultLimits.valid = true := by decide

/-- The input byte budget of one stream: a byte stream or UDP flow keeps the per-stream window, an
    HTTP stream may hold a whole admitted request. -/
def streamInputBudget (mode : StreamMode) (l : Limits) : Int :=
  match mode with
  | .tcp | .udp => l.maxStreamQueueBytes
  | .http =>
    if l.maxSessionQueueBytes > l.maxStreamQueueBytes then l.maxSessionQueueBytes
    else l.maxStreamQueueBytes

/-- Every stream has at least the per-stream window. -/
theorem le_streamInputBudget (mode : StreamMode) (l : Limits) :
    l.maxStreamQueueBytes ≤ streamInputBudget mode l := by
  cases mode with
  | http =>
    simp only [streamInputBudget]
    split
    · omega
    · exact Int.le_refl _
  | tcp | udp => exact Int.le_refl _

def minTunnelFrame : Int := 4096

/-- The slots of one stream's input queue; `maxFrames` is the floor. -/
def streamQueueFrames (maxFrames budgetBytes : Int) : Int :=
  let frames := budgetBytes.tdiv minTunnelFrame
  if frames < maxFrames then maxFrames else frames

end Hooshix.Agent
