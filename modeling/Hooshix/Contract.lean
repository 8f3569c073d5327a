-- SUMMARY: Bounds and control messages of the tunnel contract that both sides share.
import Mathlib.Algebra.Ring.Int.Defs
import Mathlib.Algebra.Ring.Nat
import Mathlib.Data.List.Basic

/-! # The tunnel contract

Constants of `contractv1` and the stream messages both parties build and read. The JSON text of a
message is not modelled: a control payload is the message it encodes.
-/

namespace Hooshix.Contract

def maxControlPayload : Nat := 64 * 1024

def maxDataPayload : Nat := 1024 * 1024

def maxUDPDatagram : Nat := 1200

/-- `^uint64(0)` -/
def maxSequence : Nat := 2 ^ 64 - 1

/-- Stream IDs are `uint32`. -/
def streamIDSpace : Nat := 2 ^ 32

/-- The bound on one credit grant. -/
def maxWindowCreditBytes : Int := 8 * 2 ^ 20

/-- The part of a request header that may be sent before the receiver granted any credit. -/
def headerAllowanceBytes : Int := 64 * 2 ^ 10

/-- The `mode` of a `stream_open`; the empty string and `"http"` are one mode. -/
inductive StreamMode where
  | http
  | tcp
  | udp
  deriving DecidableEq, Repr

structure StreamOpen where
  endpointID : String
  assignmentID : String
  localEndpointID : String
  requestID : String
  mode : StreamMode
  deriving DecidableEq, Repr

/-- The sequence number after `last`; the space must not wrap. -/
def nextSequence (last : Nat) : Option Nat :=
  if last = maxSequence then none else some (last + 1)

end Hooshix.Contract
