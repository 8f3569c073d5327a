-- SUMMARY: The sentinel errors of the Gateway and Agent packages and the Go error values over them.
import Hooshix.Lib.ErrorChain

/-! # Go errors

Package-level error variables are compared by identity, so each is a constructor. Errors made with
`errors.New` inside a function are texts, and `fmt.Errorf` with `%w` wraps its argument under the
format.
-/

namespace Hooshix

/-- The package-level error variables that the modelled code returns or tests for. -/
inductive Sentinel where
  /-- `io.EOF` -/
  | eof
  /-- `io.ErrUnexpectedEOF` -/
  | unexpectedEOF
  /-- `context.Canceled` -/
  | canceled
  /-- `context.DeadlineExceeded` -/
  | deadlineExceeded
  /-- `os.ErrDeadlineExceeded`, the cause of a network read or write past its deadline -/
  | ioTimeout
  /-- `gatewayresources.ErrBudgetExhausted`, which the gateway package calls `errResourceBudget` -/
  | resourceBudget
  /-- `errSessionWriterClosed` -/
  | sessionWriterClosed
  /-- `tunnelwindow.ErrClosed` -/
  | windowClosed
  /-- `tunnelwindow.ErrInvalid` -/
  | windowInvalid
  /-- `tunnelwindow.ErrOverGrant` -/
  | windowOverGrant
  /-- the Gateway's `errResumeUnavailable` -/
  | resumeUnavailable
  /-- the Agent's `errResumeRejected` -/
  | resumeRejected
  /-- `ErrMetadataUnavailable` -/
  | metadataUnavailable
  /-- `ErrMetadataStale` -/
  | metadataStale
  /-- `ErrMetadataNotFound` -/
  | metadataNotFound
  /-- the Agent's `ErrSessionRevoked` -/
  | sessionRevoked
  /-- the Agent's `ErrPermanentAgentFailure` -/
  | permanentAgentFailure
  deriving DecidableEq, Repr

/-- A non-nil Go error; a Go `error` result is an `Option GoError`. -/
abbrev GoError := ErrorChain Sentinel

/-- `io.EOF` as an error value. -/
abbrev ioEOF : GoError := .sentinel .eof

/-- `errors.As` with a `net.Error` target, and its `Timeout`. Network errors that are no timeouts are
    texts. -/
def isTimeout (err : GoError) : Bool := err.is .deadlineExceeded || err.is .ioTimeout

/-- `errors.New`. -/
abbrev errorsNew (message : String) : GoError := .text message

/-! ## Sequences of calls that may fail -/

instance exceptDecidableEq {ε α : Type} [DecidableEq ε] [DecidableEq α] :
    DecidableEq (Except ε α)
  | .ok a, .ok b => decidable_of_iff (a = b) (by simp)
  | .error a, .error b => decidable_of_iff (a = b) (by simp)
  | .ok _, .error _ => .isFalse (by simp)
  | .error _, .ok _ => .isFalse (by simp)

/-- `if err := …; err != nil { return err }` -/
def check (result : Option GoError) : Except GoError Unit :=
  match result with
  | some err => .error err
  | none => .ok ()

theorem check_eq_ok {result : Option GoError} {value : Unit} :
    check result = .ok value ↔ result = none := by
  cases result <;> simp [check]

/-- `if bad { return errors.New(message) }` -/
def rejectIf (bad : Prop) [Decidable bad] (message : String) : Except GoError Unit :=
  if bad then .error (errorsNew message) else .ok ()

theorem rejectIf_eq_ok {bad : Prop} [Decidable bad] {message : String} {value : Unit} :
    rejectIf bad message = .ok value ↔ ¬ bad := by
  by_cases h : bad <;> simp [rejectIf, h]

theorem bind_eq_ok {α β : Type} {first : Except GoError α} {next : α → Except GoError β}
    {value : β} :
    (first >>= next) = .ok value ↔ ∃ a, first = .ok a ∧ next a = .ok value := by
  cases first with
  | error err => exact ⟨fun h => (by cases h), fun ⟨_, h, _⟩ => (by cases h)⟩
  | ok a => exact ⟨fun h => ⟨a, rfl, h⟩, fun ⟨_, ha, h⟩ => (by cases ha; exact h)⟩

end Hooshix
