-- SUMMARY: The Gateway's byte budgets.
import Hooshix.Lib.Outcome
import Hooshix.Errors

/-! # Byte budgets

`gatewayresources.ByteBudget`: a bounded counter of reserved bytes. The rejection counters it also
keeps are read by the metrics page only and are left out.
-/

namespace Hooshix.Gateway

/-- A byte budget; the compare-and-swap loop of the source makes each operation one atomic step. -/
structure ByteBudget where
  limit : Int
  used : Int
  deriving DecidableEq, Repr

/-- The sentinel of a budget that cannot satisfy a request. -/
abbrev errResourceBudget : GoError := .sentinel .resourceBudget

namespace ByteBudget

/-- A budget with nothing reserved. -/
def newByteBudget (limit : Int) : ByteBudget := { limit, used := 0 }

/-- Reserves `size` bytes when the capacity allows. -/
def tryAcquire (b : ByteBudget) (size : Int) : Option ByteBudget :=
  if size < 0 ∨ size > b.limit then none
  else if size = 0 then some b
  else if b.used > b.limit - size then none
  else some { b with used := b.used + size }

/-- Returns reserved bytes. Returning more than is reserved stops the program. -/
def release (b : ByteBudget) (size : Int) : Outcome ByteBudget :=
  if size ≤ 0 then .next b
  else if b.used - size < 0 then .panic "gateway byte budget underflow"
  else .next { b with used := b.used - size }

/-- The budget with `delta` more bytes in use. -/
def charge (b : ByteBudget) (delta : Int) : ByteBudget := { b with used := b.used + delta }

@[simp] theorem charge_used (b : ByteBudget) (delta : Int) :
    (b.charge delta).used = b.used + delta := rfl

@[simp] theorem charge_limit (b : ByteBudget) (delta : Int) :
    (b.charge delta).limit = b.limit := rfl

@[simp] theorem charge_zero (b : ByteBudget) : b.charge 0 = b := by
  simp [charge]

@[simp] theorem charge_neg_charge (b : ByteBudget) (delta : Int) :
    (b.charge delta).charge (-delta) = b := by
  show ({ b with used := b.used + delta + -delta } : ByteBudget) = b
  rw [Int.add_neg_cancel_right]

variable {b b' : ByteBudget} {size : Int}

theorem tryAcquire_eq_some (h : b.tryAcquire size = some b') :
    0 ≤ size ∧ b' = b.charge size ∧ (size = 0 ∨ b'.used ≤ b.limit) := by
  unfold tryAcquire at h
  split at h
  · cases h
  split at h
  next hzero =>
    cases h
    simp [hzero]
  split at h <;> cases h
  refine ⟨by omega, rfl, Or.inr ?_⟩
  simp only
  omega

/-- What fits can be reserved. -/
theorem tryAcquire_of_le (hused : 0 ≤ b.used) (hsize : 0 ≤ size) (hle : b.used + size ≤ b.limit) :
    b.tryAcquire size ≠ none := by
  have hrange : ¬ (size < 0 ∨ size > b.limit) := by omega
  have hfits : ¬ b.used > b.limit - size := by omega
  simp only [tryAcquire, hrange, hfits, if_false]
  split <;> simp

/-- Returning at most what is reserved succeeds. -/
theorem release_of_le (hsize : 0 ≤ size) (hle : size ≤ b.used) :
    b.release size = .next (b.charge (-size)) := by
  unfold release
  split
  · obtain rfl : size = 0 := by omega
    simp
  split
  · omega
  · rfl

theorem release_eq_next (hsize : 0 ≤ size) (h : b.release size = .next b') :
    b' = b.charge (-size) := by
  unfold release at h
  split at h
  · obtain rfl : size = 0 := by omega
    cases h
    simp
  · split at h <;> cases h
    rfl

/-- A reservation that was given back leaves the budget as it was. -/
theorem release_of_tryAcquire {b'' : ByteBudget} (hacquire : b.tryAcquire size = some b')
    (hrelease : b'.release size = .next b'') :
    b'' = b := by
  obtain ⟨hsize, rfl, -⟩ := tryAcquire_eq_some hacquire
  simpa using release_eq_next hsize hrelease

/-- A reservation can be given back at once. -/
theorem release_tryAcquire (hused : 0 ≤ b.used) (h : b.tryAcquire size = some b') :
    b'.release size = .next b := by
  obtain ⟨hsize, rfl, -⟩ := tryAcquire_eq_some h
  rw [release_of_le hsize (by rw [charge_used]; omega)]
  simp

end ByteBudget

end Hooshix.Gateway
