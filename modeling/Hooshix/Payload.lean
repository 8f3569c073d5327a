-- SUMMARY: Payload bytes and queued payloads, which both parties keep with their reservation.
import Hooshix.Lib.Ledger

/-! # Queued payloads -/

namespace Hooshix

abbrev Bytes := List UInt8

/-- A payload with the number of bytes reserved for it. -/
structure QueuedPayload where
  data : Bytes
  size : Int
  size_eq : size = data.length
  deriving DecidableEq, Repr

/-- The payload that `enqueue` builds from a data frame. -/
def QueuedPayload.ofData (data : Bytes) : QueuedPayload := ⟨data, data.length, rfl⟩

theorem QueuedPayload.size_nonneg (payload : QueuedPayload) : 0 ≤ payload.size := by
  rw [payload.size_eq]
  exact Int.natCast_nonneg _

/-- The bytes of a queue of payloads, in queue order. -/
def payloadBytes (queue : List QueuedPayload) : Bytes := (queue.map (·.data)).flatten

@[simp] theorem payloadBytes_nil : payloadBytes [] = [] := rfl

@[simp] theorem payloadBytes_cons (chunk : QueuedPayload) (queue : List QueuedPayload) :
    payloadBytes (chunk :: queue) = chunk.data ++ payloadBytes queue := by
  simp [payloadBytes]

@[simp] theorem payloadBytes_append (first second : List QueuedPayload) :
    payloadBytes (first ++ second) = payloadBytes first ++ payloadBytes second := by
  simp [payloadBytes]

/-- The reservations of a queue of payloads. -/
abbrev reserved (queue : List QueuedPayload) : Int := Ledger.total (·.size) queue

theorem reserved_cons (payload : QueuedPayload) (queue : List QueuedPayload) :
    reserved (payload :: queue) = payload.size + reserved queue :=
  Ledger.total_cons

theorem reserved_nonneg (queue : List QueuedPayload) : 0 ≤ reserved queue :=
  Ledger.total_nonneg fun payload _ => payload.size_nonneg

end Hooshix
