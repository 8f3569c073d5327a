-- SUMMARY: The sender-side credit window of one flow-controlled stream.
import Hooshix.Contract
import Hooshix.Errors

/-! # Credit windows

`tunnelwindow.Window`. The receiver grants credit with `Add`; the sender takes credit before each
data frame with `Take`, which waits until all of it is there. The channel that wakes waiting senders
carries no data and is left out.
-/

namespace Hooshix.TunnelWindow

open Contract

structure Window where
  credit : Int
  limit : Int
  closed : Bool
  err : Option GoError
  deriving DecidableEq, Repr

abbrev errClosed : GoError := .sentinel .windowClosed

abbrev errInvalid : GoError := .sentinel .windowInvalid

abbrev errOverGrant : GoError := .sentinel .windowOverGrant

namespace Window

/-- A window without credit; a limit that is not positive becomes one. -/
def new (limit : Int) : Window where
  credit := 0
  limit := if limit ≤ 0 then 1 else limit
  closed := false
  err := none

/-- The error of a closed window. -/
def closedErr (w : Window) : GoError := w.err.getD errClosed

/-- The answer of `Take` at one look under the lock; `waits` means that it blocks for a change. -/
inductive TakeResult where
  | failed (err : GoError)
  | waits
  | taken (w : Window)
  deriving DecidableEq, Repr

def take (w : Window) (size : Int) : TakeResult :=
  if size ≤ 0 ∨ size > w.limit then .failed errInvalid
  else if w.closed then .failed w.closedErr
  else if w.credit ≥ size then .taken { w with credit := w.credit - size }
  else .waits

/-- Applies a grant; the unused credit may never exceed the limit. -/
def add (w : Window) (size : Int) : Except GoError Window :=
  if size ≤ 0 ∨ size > w.limit then .error errInvalid
  else if w.closed then .error w.closedErr
  else if w.credit + size > w.limit then .error errOverGrant
  else .ok { w with credit := w.credit + size }

/-- Only the first close sets the error. -/
def close (w : Window) (err : Option GoError) : Window :=
  if w.closed then w else { w with closed := true, err }

variable {size : Int} {w : Window}

theorem take_eq_taken {w w' : Window} (h : w.take size = .taken w') :
    0 < size ∧ size ≤ w.credit ∧ w.closed = false ∧
      w' = { w with credit := w.credit - size } := by
  unfold take at h
  repeat' split at h
  all_goals cases h
  next hopen hcredit => exact ⟨by omega, hcredit, by simpa using hopen, rfl⟩

/-- An open window gives the credit it has. -/
theorem take_of_le (hopen : w.closed = false) (hsize : 0 < size) (hcredit : size ≤ w.credit)
    (hlimit : w.credit ≤ w.limit) : w.take size = .taken { w with credit := w.credit - size } := by
  have hrange : ¬ (size ≤ 0 ∨ size > w.limit) := by omega
  simp [take, hrange, hopen, hcredit]

/-- A positive grant that keeps an open window within its limit is accepted. -/
theorem add_of_le (hopen : w.closed = false) (hsize : 0 < size) (hcredit : 0 ≤ w.credit)
    (hfits : w.credit + size ≤ w.limit) :
    w.add size = .ok { w with credit := w.credit + size } := by
  have hrange : ¬ (size ≤ 0 ∨ size > w.limit) := by omega
  have hgrant : ¬ w.credit + size > w.limit := by omega
  simp [add, hrange, hopen, hgrant]

/-- A grant within the limit is refused by a closed window only with the error of the close. -/
theorem add_of_closed (hclosed : w.closed = true) (hsize : 0 < size) (hlimit : size ≤ w.limit) :
    w.add size = .error w.closedErr := by
  have hrange : ¬ (size ≤ 0 ∨ size > w.limit) := by omega
  simp [add, hrange, hclosed]

theorem close_of_closed (hclosed : w.closed = true) (err : Option GoError) : w.close err = w := by
  simp [close, hclosed]

end Window

/-- The first grant for a receiver's byte budget. -/
def initialCredit (budget : Int) : Int :=
  if budget < 1 then 1
  else if budget > maxWindowCreditBytes then maxWindowCreditBytes
  else budget

theorem initialCredit_pos (budget : Int) : 0 < initialCredit budget := by
  unfold initialCredit
  split
  · decide
  · split
    · decide
    · omega

theorem initialCredit_le_max (budget : Int) : initialCredit budget ≤ maxWindowCreditBytes := by
  unfold initialCredit
  split
  · decide
  · split
    · exact Int.le_refl _
    · omega

/-- From one byte on, the first grant fits the budget. -/
theorem initialCredit_le {budget : Int} (hbudget : 1 ≤ budget) : initialCredit budget ≤ budget := by
  unfold initialCredit
  split
  · omega
  · split
    · omega
    · exact Int.le_refl _

end Hooshix.TunnelWindow
