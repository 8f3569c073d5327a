-- SUMMARY: The field checks of the contract packages on decoded strings.
import Hooshix.Contract.Patterns
import Hooshix.Errors

/-! # Field checks

The helpers of `validation.go` for single values. A pattern reads the codes of the characters.
-/

namespace Hooshix.ContractV1

open Contract (idPattern tokenPattern matchTimestamp parseTimestamp isRawBase64)

def codes (value : String) : List Nat := value.toList.map Char.toNat

def validateID (name value : String) : Option GoError :=
  if idPattern (codes value) then none
  else some (errorsNew (name ++ " is not a valid contract identifier"))

/-- The loop over identifiers. A Go map is ranged over in random order; of several wrong identifiers
    the first one listed is reported. -/
def validateIDs (values : List (String × String)) : Option GoError :=
  values.findSome? fun entry => validateID entry.1 entry.2

def validateRawBase64Length (name value : String) (size : Nat) : Option GoError :=
  match Base64.decode (codes value) with
  | none => some (errorsNew (name ++ s!" must encode exactly {size} bytes as base64url without padding"))
  | some decoded =>
    if decoded.length ≠ size then
      some (errorsNew (name ++ s!" must encode exactly {size} bytes as base64url without padding"))
    else if Base64.encode decoded ≠ codes value then
      some (errorsNew (name ++ " is not canonical base64url without padding"))
    else none

/-- `parseUTCTime`, in nanoseconds -/
def parseUTCTime (name value : String) : Except GoError Int :=
  match matchTimestamp (codes value) with
  | none =>
    .error (errorsNew (name ++ " must be RFC3339 UTC with Z suffix and optional dot-fraction"))
  | some t =>
    if t.dateExists then .ok t.instant
    else .error (.wrap (name ++ " must be RFC3339 UTC: %w") (errorsNew "day out of range"))

def oneOfStrings (value : String) (allowed : List String) : Bool := allowed.contains value

/-! ## Digests -/

def hexDigit? (c : Nat) : Option Nat :=
  if 48 ≤ c ∧ c ≤ 57 then some (c - 48)
  else if 97 ≤ c ∧ c ≤ 102 then some (c - 87)
  else if 65 ≤ c ∧ c ≤ 70 then some (c - 55)
  else none

/-- `hex.DecodeString` -/
def hexDecode : List Nat → Option Bytes
  | [] => some []
  | [_] => none
  | high :: low :: rest => do
    let high ← hexDigit? high
    let low ← hexDigit? low
    let decoded ← hexDecode rest
    return UInt8.ofNat (high * 16 + low) :: decoded

/-- The digest is 32 bytes in hex without upper-case letters. -/
def isDigest (value : String) : Bool :=
  match hexDecode (codes value) with
  | some digest => digest.length == 32 && value.toLower == value
  | none => false

/-! ## Host names -/

def isLetter (c : Char) : Bool := c.isAlpha

/-- A label of a host name, without the rule for the last one. -/
def checkLabel (label : String) : Option GoError :=
  if label.utf8ByteSize = 0 ∨ label.utf8ByteSize > 63 ∨ label.toList.head? = some '-' ∨
      label.toList.getLast? = some '-' then
    some (errorsNew "public_hostname contains invalid label")
  else if label.toList.any fun c => !(isLetter c || c.isDigit || c == '-') then
    some (errorsNew "public_hostname must contain ASCII letters, digits, and hyphens only")
  else none

def validateHostname (value : String) : Option GoError :=
  if value.utf8ByteSize = 0 ∨ value.utf8ByteSize > 253 ∨ value.toList.head? = some '.' ∨
      value.toList.getLast? = some '.' then
    some (errorsNew "public_hostname is invalid")
  else
    let labels := (value.toList.splitOn '.').map String.ofList
    if labels.length < 2 then
      some (errorsNew "public_hostname must contain at least two labels")
    else
      match labels.findSome? checkLabel with
      | some err => some err
      | none =>
        let top := labels.getLastD ""
        if top.utf8ByteSize < 2 ∨ top.utf8ByteSize > 63 then
          some (errorsNew "public_hostname top-level label must be 2..63 ASCII letters")
        else if top.toList.any fun c => !isLetter c then
          some (errorsNew "public_hostname top-level label must contain letters only")
        else none

/-! ## What the checks accept -/

variable {value : String} {name : String} {instant : Int} {size : Nat}

theorem validateID_iff :
    validateID name value = none ↔ idPattern (codes value) = true := by
  simp [validateID]

theorem validateIDs_iff {values : List (String × String)} :
    validateIDs values = none ↔ ∀ entry ∈ values, idPattern (codes entry.2) = true := by
  simp [validateIDs, List.findSome?_eq_none_iff, validateID_iff]

theorem validateRawBase64Length_iff :
    validateRawBase64Length name value size = none ↔ isRawBase64 size (codes value) = true := by
  unfold validateRawBase64Length isRawBase64
  cases Base64.decode (codes value) with
  | none => simp
  | some decoded =>
    by_cases hlength : decoded.length = size
    · by_cases hencode : Base64.encode decoded = codes value <;> simp [hlength, hencode]
    · simp [hlength]

theorem parseUTCTime_ok_iff :
    parseUTCTime name value = .ok instant ↔ parseTimestamp (codes value) = some instant := by
  unfold parseUTCTime parseTimestamp
  cases matchTimestamp (codes value) with
  | none => simp
  | some t => cases h : t.dateExists <;> simp [h]

/-! ## No check accepts the empty string -/

theorem ne_empty_of_idPattern (h : idPattern (codes value) = true) :
    value ≠ "" := by
  rintro rfl
  cases h

theorem ne_empty_of_isRawBase64 (hsize : size ≠ 0)
    (h : isRawBase64 size (codes value) = true) : value ≠ "" := by
  rintro rfl
  obtain ⟨bytes, hlength, hbytes⟩ := Contract.isRawBase64_iff.mp h
  cases bytes with
  | nil => exact hsize hlength.symm
  | cons byte bytes =>
    have hempty := congrArg Base64.decode hbytes
    rw [Base64.decode_encode] at hempty
    cases hempty

theorem ne_empty_of_isDigest (h : isDigest value = true) : value ≠ "" := by
  rintro rfl
  cases h

theorem ne_empty_of_parseTimestamp
    (h : parseTimestamp (codes value) = some instant) : value ≠ "" := by
  rintro rfl
  cases h

theorem ne_empty_of_validateHostname (h : validateHostname value = none) :
    value ≠ "" := by
  rintro rfl
  cases h

end Hooshix.ContractV1
