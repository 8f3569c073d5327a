-- SUMMARY: The string patterns of the contract: identifiers, tokens, timestamps and base64url fields.
import Hooshix.Lib.Base64
import Hooshix.Payload
import Mathlib.Algebra.Ring.Int.Defs
import Mathlib.Data.Int.Basic

/-! # String patterns

The regular expressions of `contractv1` and the checks built on them. A string is the list of the codes
of its characters. All patterns are over ASCII, so it does not matter whether these are bytes or code
points.
-/

namespace Hooshix.Contract

def isUpper (c : Nat) : Bool := 65 ≤ c && c ≤ 90

def isLower (c : Nat) : Bool := 97 ≤ c && c ≤ 122

def isDigit (c : Nat) : Bool := 48 ≤ c && c ≤ 57

def isAlnum (c : Nat) : Bool := isUpper c || isLower c || isDigit c

/-- `[A-Za-z0-9._:-]` -/
def isIDChar (c : Nat) : Bool := isAlnum c || c == 46 || c == 95 || c == 58 || c == 45

/-- `^[A-Za-z0-9][A-Za-z0-9._:-]{0,63}$` -/
def idPattern : List Nat → Bool
  | [] => false
  | c :: rest => isAlnum c && rest.all isIDChar && decide (rest.length ≤ 63)

/-- `^[A-Za-z0-9_-]{32,512}$` -/
def tokenPattern (s : List Nat) : Bool :=
  s.all (fun c => isAlnum c || c == 95 || c == 45) && decide (32 ≤ s.length) &&
    decide (s.length ≤ 512)

/-! ## Timestamps -/

/-- The numbers of a timestamp. -/
structure Timestamp where
  year : Nat
  month : Nat
  day : Nat
  hour : Nat
  minute : Nat
  second : Nat
  nanosecond : Nat
  deriving DecidableEq, Repr

/-- The number of a string of digits. -/
def number (s : List Nat) : Nat := s.foldl (fun n c => n * 10 + (c - 48)) 0

/-- `(?:0[1-9]|1[0-2])` -/
def isMonth (a b : Nat) : Bool :=
  (a == 48 && (49 ≤ b && b ≤ 57)) || (a == 49 && (48 ≤ b && b ≤ 50))

/-- `(?:0[1-9]|[12][0-9]|3[01])` -/
def isDay (a b : Nat) : Bool :=
  (a == 48 && (49 ≤ b && b ≤ 57)) || ((49 ≤ a && a ≤ 50) && isDigit b) ||
    (a == 51 && (48 ≤ b && b ≤ 49))

/-- `(?:[01][0-9]|2[0-3])` -/
def isHour (a b : Nat) : Bool :=
  ((48 ≤ a && a ≤ 49) && isDigit b) || (a == 50 && (48 ≤ b && b ≤ 51))

/-- `[0-5][0-9]` -/
def isSixty (a b : Nat) : Bool := (48 ≤ a && a ≤ 53) && isDigit b

/-- The digits of `(?:\.[0-9]{1,9})?Z$`. -/
def fraction : List Nat → Option (List Nat)
  | [90] => some []
  | 46 :: rest =>
    let digits := rest.dropLast
    if rest.getLast? = some 90 ∧ digits.all isDigit = true ∧ 1 ≤ digits.length ∧
        digits.length ≤ 9 then
      some digits
    else none
  | _ => none

/-- What `utcTimestampPattern` matches, with the numbers it is made of. -/
def matchTimestamp : List Nat → Option Timestamp
  | y1 :: y2 :: y3 :: y4 :: p1 :: m1 :: m2 :: p2 :: d1 :: d2 :: t :: h1 :: h2 :: p3 :: n1 :: n2 ::
      p4 :: s1 :: s2 :: tail =>
    if [y1, y2, y3, y4].all isDigit ∧ p1 = 45 ∧ isMonth m1 m2 ∧ p2 = 45 ∧ isDay d1 d2 ∧ t = 84 ∧
        isHour h1 h2 ∧ p3 = 58 ∧ isSixty n1 n2 ∧ p4 = 58 ∧ isSixty s1 s2 then
      (fraction tail).map fun digits =>
        { year := number [y1, y2, y3, y4]
          month := number [m1, m2]
          day := number [d1, d2]
          hour := number [h1, h2]
          minute := number [n1, n2]
          second := number [s1, s2]
          nanosecond := number digits * 10 ^ (9 - digits.length) }
    else none
  | _ => none

def isLeap (year : Nat) : Bool := year % 4 == 0 && (year % 100 != 0 || year % 400 == 0)

def daysIn (month year : Nat) : Nat :=
  if month = 2 then (if isLeap year then 29 else 28)
  else if month = 4 ∨ month = 6 ∨ month = 9 ∨ month = 11 then 30
  else 31

/-- The days from 1970-01-01 to a date. -/
def civilDays (year month day : Nat) : Int :=
  let y : Int := if month ≤ 2 then (year : Int) - 1 else year
  let m : Int := if month ≤ 2 then (month : Int) + 9 else (month : Int) - 3
  let era := y / 400
  let yearOfEra := y - era * 400
  let dayOfYear := (153 * m + 2) / 5 + (day : Int) - 1
  era * 146097 + yearOfEra * 365 + yearOfEra / 4 - yearOfEra / 100 + dayOfYear - 719468

namespace Timestamp

/-- The date exists. -/
def dateExists (t : Timestamp) : Bool := decide (t.day ≤ daysIn t.month t.year)

/-- The instant in nanoseconds. -/
def instant (t : Timestamp) : Int :=
  (civilDays t.year t.month t.day * 86400 + (t.hour * 3600 + t.minute * 60 + t.second : Nat)) *
    1000000000 + t.nanosecond

end Timestamp

/-- `time.Parse(time.RFC3339, s)` for a string that matches the pattern: it fails for a day that the
    month does not have. -/
def parseTimestamp (s : List Nat) : Option Int :=
  (matchTimestamp s).bind fun t => if t.dateExists then some t.instant else none

/-! ## Base64url fields -/

/-- `validateRawBase64Length` -/
def isRawBase64 (size : Nat) (s : List Nat) : Bool :=
  match Base64.decode s with
  | none => false
  | some decoded => decide (decoded.length = size) && Base64.encode decoded == s

variable {s : List Nat} {tail digits : List Nat} {t : Timestamp} {size : Nat} {c : Nat}

/-- A valid field is the encoding of as many bytes. -/
theorem isRawBase64_iff :
    isRawBase64 size s = true ↔
      ∃ bytes : Bytes, bytes.length = size ∧ s = Base64.encode bytes := by
  unfold isRawBase64
  constructor
  · intro h
    split at h
    next => cases h
    next decoded _ =>
      simp only [Bool.and_eq_true, decide_eq_true_eq, beq_iff_eq] at h
      exact ⟨decoded, h.1, h.2.symm⟩
  · rintro ⟨bytes, hlength, rfl⟩
    simp [Base64.decode_encode, hlength]

/-! ## No pattern admits a zero byte -/

theorem ne_zero_of_isAlnum (h : isAlnum c = true) : c ≠ 0 := by
  rintro rfl
  cases h

theorem ne_zero_of_isDigit (h : isDigit c = true) : c ≠ 0 := by
  rintro rfl
  cases h

theorem zero_not_mem_of_idPattern (h : idPattern s = true) : 0 ∉ s := by
  cases s with
  | nil => exact List.not_mem_nil
  | cons c rest =>
    simp only [idPattern, Bool.and_eq_true, List.all_eq_true] at h
    intro hmem
    rcases List.mem_cons.mp hmem with hzero | hzero
    · exact ne_zero_of_isAlnum h.1.1 hzero.symm
    · exact absurd (h.1.2 0 hzero) (by decide)

theorem zero_not_mem_of_isRawBase64 (h : isRawBase64 size s = true) : 0 ∉ s := by
  obtain ⟨bytes, -, rfl⟩ := isRawBase64_iff.mp h
  intro hzero
  exact absurd (Base64.isDigit_of_mem_encode hzero) (by decide)

theorem zero_not_mem_of_fraction (h : fraction tail = some digits) :
    0 ∉ tail := by
  simp only [fraction] at h
  repeat' split at h
  all_goals cases h
  · decide
  next rest hfraction =>
    obtain ⟨hlast, hdigits, -, -⟩ := hfraction
    have hrest : rest = rest.dropLast ++ [90] := by
      obtain ⟨front, rfl⟩ := List.getLast?_eq_some_iff.mp hlast
      simp
    intro hzero
    rw [hrest] at hzero
    simp only [List.mem_cons, List.mem_append, List.not_mem_nil, or_false] at hzero
    rcases hzero with hzero | hzero | hzero
    · cases hzero
    · exact ne_zero_of_isDigit (List.all_eq_true.mp hdigits 0 hzero) rfl
    · cases hzero

theorem zero_not_mem_of_matchTimestamp (h : matchTimestamp s = some t) : 0 ∉ s := by
  unfold matchTimestamp at h
  repeat' split at h
  case h_2 | isFalse => cases h
  rename_i hfields
  obtain ⟨digits, hfraction, -⟩ := Option.map_eq_some_iff.mp h
  have htail := zero_not_mem_of_fraction hfraction
  simp only [isMonth, isDay, isHour, isSixty, isDigit, List.all_cons, List.all_nil,
    Bool.and_eq_true, Bool.or_eq_true, decide_eq_true_eq, beq_iff_eq] at hfields
  simp only [List.mem_cons, not_or]
  refine ⟨?_, ?_, ?_, ?_, ?_, ?_, ?_, ?_, ?_, ?_, ?_, ?_, ?_, ?_, ?_, ?_, ?_, ?_, ?_, htail⟩ <;>
    omega

/-! ## Lengths -/

theorem length_of_fraction (h : fraction tail = some digits) :
    tail.length ≤ 11 := by
  simp only [fraction] at h
  repeat' split at h
  all_goals cases h
  · decide
  next hfraction =>
    have hlength := hfraction.2.2.2
    rw [List.length_dropLast] at hlength
    rw [List.length_cons]
    omega

theorem length_of_matchTimestamp (h : matchTimestamp s = some t) :
    s.length ≤ 30 := by
  unfold matchTimestamp at h
  repeat' split at h
  case h_2 | isFalse => cases h
  obtain ⟨digits, hdigits, -⟩ := Option.map_eq_some_iff.mp h
  have hlength := length_of_fraction hdigits
  simp only [List.length_cons]
  omega

end Hooshix.Contract
