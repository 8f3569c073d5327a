-- SUMMARY: Timestamps as the standard library parses them under the RFC 3339 layout.
import Hooshix.Contract.Patterns

/-! # Parsing timestamps

`time.Parse` under `time.RFC3339`. It takes more than the contract's pattern does: zones other than UTC,
an hour of one digit, a comma before the fraction, and any number of digits in it.
-/

namespace Hooshix.Contract

/-- `getnum`: a number of two digits, or of one where that is allowed. -/
def getNum (fixed : Bool) : List Nat → Option (Nat × List Nat)
  | a :: b :: rest =>
    if isDigit a then
      if isDigit b then some (number [a, b], rest)
      else if fixed then none
      else some (number [a], b :: rest)
    else none
  | [a] => if isDigit a && !fixed then some (number [a], []) else none
  | [] => none

/-- A character of the layout that stands for itself. -/
def skip (c : Nat) : List Nat → Option (List Nat)
  | a :: rest => if a = c then some rest else none
  | [] => none

/-- The fraction of a second in nanoseconds; digits after the ninth are dropped. -/
def parseNanoseconds : List Nat → Nat × List Nat
  | mark :: first :: rest =>
    if (mark = 46 ∨ mark = 44) ∧ isDigit first = true then
      let digits := ((first :: rest).takeWhile isDigit).take 9
      (number digits * 10 ^ (9 - digits.length), (first :: rest).dropWhile isDigit)
    else (0, mark :: first :: rest)
  | s => (0, s)

/-- The zone at the end, as seconds east of UTC. Offsets of 24 hours and of 60 minutes are taken. -/
def parseZone : List Nat → Option Int
  | [90] => some 0
  | [sign, h1, h2, 58, m1, m2] =>
    let hours := number [h1, h2]
    let minutes := number [m1, m2]
    let offset : Int := ((hours * 60 + minutes) * 60 : Nat)
    if [h1, h2, m1, m2].all isDigit ∧ hours ≤ 24 ∧ minutes ≤ 60 then
      if sign = 43 then some offset else if sign = 45 then some (-offset) else none
    else none
  | _ => none

/-- `2006-01-02` of the layout: year, month and day. -/
def parseDate : List Nat → Option ((Nat × Nat × Nat) × List Nat)
  | y1 :: y2 :: y3 :: y4 :: s => do
    guard ([y1, y2, y3, y4].all isDigit)
    let (month, s) ← getNum true (← skip 45 s)
    guard (1 ≤ month ∧ month ≤ 12)
    let (day, s) ← getNum true (← skip 45 s)
    return ((number [y1, y2, y3, y4], month, day), s)
  | _ => none

/-- `15:04:05` of the layout, in seconds. -/
def parseClock (s : List Nat) : Option (Nat × List Nat) := do
  let (hour, s) ← getNum false s
  guard (hour < 24)
  let (minute, s) ← getNum true (← skip 58 s)
  guard (minute < 60)
  let (second, s) ← getNum true (← skip 58 s)
  guard (second < 60)
  return (hour * 3600 + minute * 60 + second, s)

/-- `time.Parse(time.RFC3339, s)`, in nanoseconds -/
def parseRFC3339 (s : List Nat) : Option Int := do
  let ((year, month, day), s) ← parseDate s
  let (clock, s) ← parseClock (← skip 84 s)
  let (nanosecond, s) := parseNanoseconds s
  let offset ← parseZone s
  guard (1 ≤ day ∧ day ≤ daysIn month year)
  return (civilDays year month day * 86400 + (clock : Nat) - offset) * 1000000000 + nanosecond

/-! ## Timestamps of the contract

What the contract's pattern matches is parsed to the instant it was matched as. -/

theorem number_pair (a b : Nat) : number [a, b] = (a - 48) * 10 + (b - 48) := by
  simp [number]

variable {a b : Nat} {rest : List Nat}

theorem getNum_of_digits {fixed : Bool} (ha : isDigit a = true) (hb : isDigit b = true) :
    getNum fixed (a :: b :: rest) = some (number [a, b], rest) := by
  simp [getNum, ha, hb]

theorem isMonth_digits (h : isMonth a b = true) :
    isDigit a = true ∧ isDigit b = true ∧ 1 ≤ number [a, b] ∧ number [a, b] ≤ 12 := by
  simp only [isMonth, isDigit, number_pair, Bool.or_eq_true, Bool.and_eq_true, beq_iff_eq,
    decide_eq_true_eq] at h ⊢
  omega

theorem isDay_digits (h : isDay a b = true) :
    isDigit a = true ∧ isDigit b = true ∧ 1 ≤ number [a, b] := by
  simp only [isDay, isDigit, number_pair, Bool.or_eq_true, Bool.and_eq_true, beq_iff_eq,
    decide_eq_true_eq] at h ⊢
  omega

theorem isHour_digits (h : isHour a b = true) :
    isDigit a = true ∧ isDigit b = true ∧ number [a, b] < 24 := by
  simp only [isHour, isDigit, number_pair, Bool.or_eq_true, Bool.and_eq_true, beq_iff_eq,
    decide_eq_true_eq] at h ⊢
  omega

theorem isSixty_digits (h : isSixty a b = true) :
    isDigit a = true ∧ isDigit b = true ∧ number [a, b] < 60 := by
  simp only [isSixty, isDigit, number_pair, Bool.and_eq_true, decide_eq_true_eq] at h ⊢
  omega

/-- The fraction of the pattern, followed by its `Z`. -/
theorem parseNanoseconds_of_fraction {tail digits : List Nat} (h : fraction tail = some digits) :
    parseNanoseconds tail = (number digits * 10 ^ (9 - digits.length), [90]) := by
  unfold fraction at h
  split at h
  next => cases h; rfl
  case h_3 => cases h
  dsimp only at h
  split at h <;> cases h
  rename_i hfraction
  obtain ⟨hlast, hdigits, hone, hnine⟩ := hfraction
  obtain ⟨digits, rfl⟩ := List.getLast?_eq_some_iff.mp hlast
  rw [List.dropLast_concat] at hdigits hone hnine ⊢
  rcases digits with _ | ⟨d, ds⟩
  · simp at hone
  have hall : ∀ c ∈ d :: ds, isDigit c = true := List.all_eq_true.mp hdigits
  have htake : (d :: ds ++ [90]).takeWhile isDigit = d :: ds := by
    rw [List.takeWhile_append_of_pos hall]
    simp [isDigit]
  have hdrop : (d :: ds ++ [90]).dropWhile isDigit = [90] := by
    rw [List.dropWhile_append_of_pos hall]
    simp [isDigit]
  have hd : isDigit d = true := hall d List.mem_cons_self
  simp only [List.cons_append] at htake hdrop ⊢
  simp only [parseNanoseconds, true_or, hd, and_self, if_true, htake, hdrop,
    List.take_of_length_le hnine]

theorem parseDate_of_match {y1 y2 y3 y4 m1 m2 d1 d2 : Nat}
    (hyear : [y1, y2, y3, y4].all isDigit = true) (hmonth : isMonth m1 m2 = true)
    (hday : isDay d1 d2 = true) :
    parseDate (y1 :: y2 :: y3 :: y4 :: 45 :: m1 :: m2 :: 45 :: d1 :: d2 :: rest) =
      some ((number [y1, y2, y3, y4], number [m1, m2], number [d1, d2]), rest) := by
  obtain ⟨hm1, hm2, hlow, hhigh⟩ := isMonth_digits hmonth
  obtain ⟨hd1, hd2, -⟩ := isDay_digits hday
  simp only [parseDate, skip, if_true, Option.bind_eq_bind, Option.bind_some,
    getNum_of_digits hm1 hm2, getNum_of_digits hd1 hd2, hyear, hlow, hhigh, guard, and_self,
    Option.pure_def]

theorem parseClock_of_match {h1 h2 n1 n2 s1 s2 : Nat} (hhour : isHour h1 h2 = true)
    (hminute : isSixty n1 n2 = true) (hsecond : isSixty s1 s2 = true) :
    parseClock (h1 :: h2 :: 58 :: n1 :: n2 :: 58 :: s1 :: s2 :: rest) =
      some (number [h1, h2] * 3600 + number [n1, n2] * 60 + number [s1, s2], rest) := by
  obtain ⟨hh1, hh2, hhigh⟩ := isHour_digits hhour
  obtain ⟨hn1, hn2, hnhigh⟩ := isSixty_digits hminute
  obtain ⟨hs1, hs2, hshigh⟩ := isSixty_digits hsecond
  simp only [parseClock, skip, if_true, Option.bind_eq_bind, Option.bind_some,
    getNum_of_digits hh1 hh2, getNum_of_digits hn1 hn2, getNum_of_digits hs1 hs2, hhigh, hnhigh,
    hshigh, guard, Option.pure_def]

theorem parseRFC3339_of_parseTimestamp {s : List Nat} {instant : Int}
    (h : parseTimestamp s = some instant) : parseRFC3339 s = some instant := by
  unfold parseTimestamp matchTimestamp at h
  split at h
  case h_2 => cases h
  split at h
  case isFalse => simp at h
  rename_i tail hmatch
  obtain ⟨hyear, rfl, hmonth, rfl, hday, rfl, hhour, rfl, hminute, rfl, hsecond⟩ := hmatch
  rcases htail : fraction tail with _ | digits
  · simp [htail] at h
  simp only [htail, Option.map_some, Option.bind_some, Timestamp.dateExists,
    decide_eq_true_eq] at h
  split at h <;> cases h
  rename_i hdate
  obtain ⟨-, -, hday1⟩ := isDay_digits hday
  rw [parseRFC3339, parseDate_of_match hyear hmonth hday]
  simp only [Option.bind_eq_bind, Option.bind_some, skip, if_true,
    parseClock_of_match hhour hminute hsecond, parseNanoseconds_of_fraction htail, parseZone,
    guard, hday1, hdate, and_self, Timestamp.instant, Option.pure_def, Int.sub_zero]

end Hooshix.Contract
