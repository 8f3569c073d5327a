-- SUMMARY: The Agent's byte budgets.
import Hooshix.Errors

/-! # Agent byte budgets

`agentbudget.ByteBudget`. It differs from the Gateway's budget in one point: releasing more than is
reserved clamps to zero and reports `ErrUnderflow` instead of stopping the program. The count of such
underflows is only logged and is left out.
-/

namespace Hooshix.Agent

structure ByteBudget where
  limit : Int
  used : Int
  deriving DecidableEq, Repr

namespace ByteBudget

def new (limit : Int) : ByteBudget := { limit, used := 0 }

/-- Reserves `size` bytes when the remaining capacity allows it. -/
def tryAcquire (b : ByteBudget) (size : Int) : Option ByteBudget :=
  if size < 0 ∨ size > b.limit then none
  else if size = 0 then some b
  else if b.used > b.limit - size then none
  else some { b with used := b.used + size }

/-- Returns reserved bytes and whether more was returned than reserved. -/
def release (b : ByteBudget) (size : Int) : ByteBudget × Bool :=
  if size ≤ 0 then (b, false)
  else if b.used - size < 0 then ({ b with used := 0 }, true)
  else ({ b with used := b.used - size }, false)

variable {size : Int} {b b' : ByteBudget}

theorem tryAcquire_eq_some (h : b.tryAcquire size = some b') :
    0 ≤ size ∧ b' = { b with used := b.used + size } := by
  unfold tryAcquire at h
  split at h
  · cases h
  split at h
  next hzero =>
    cases h
    simp [hzero]
  split at h <;> cases h
  exact ⟨by omega, rfl⟩

theorem tryAcquire_zero (hlimit : 0 ≤ b.limit) : b.tryAcquire 0 = some b := by
  have hrange : ¬ ((0 : Int) < 0 ∨ 0 > b.limit) := by omega
  simp only [tryAcquire, hrange, if_false, if_true]

/-- What fits can be reserved. -/
theorem tryAcquire_of_le (hused : 0 ≤ b.used) (hsize : 0 ≤ size)
    (hle : b.used + size ≤ b.limit) : b.tryAcquire size ≠ none := by
  have hrange : ¬ (size < 0 ∨ size > b.limit) := by omega
  have hfits : ¬ b.used > b.limit - size := by omega
  simp only [tryAcquire, hrange, hfits, if_false]
  split <;> simp

/-- Returning at most what is reserved is no underflow. -/
theorem release_of_le (hsize : 0 ≤ size) (hle : size ≤ b.used) :
    b.release size = ({ b with used := b.used - size }, false) := by
  unfold release
  split
  · obtain rfl : size = 0 := by omega
    simp
  split
  · omega
  · rfl

/-- The budget is as it was, or a reservation was made and given back at once. -/
def Refunded (b b' : ByteBudget) : Prop :=
  b' = b ∨ ∃ size reserved, b.tryAcquire size = some reserved ∧ b' = (reserved.release size).1

theorem Refunded.eq (h : Refunded b b') (hused : 0 ≤ b.used) : b' = b := by
  rcases h with rfl | ⟨size, reserved, hacquire, rfl⟩
  · rfl
  · obtain ⟨hsize, rfl⟩ := tryAcquire_eq_some hacquire
    rw [release_of_le hsize (Int.le_add_of_nonneg_left hused)]
    simp

end ByteBudget

end Hooshix.Agent
