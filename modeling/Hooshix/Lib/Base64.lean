-- SUMMARY: Base64 with the URL alphabet and without padding, and its round trip.
import Mathlib.Algebra.Ring.Nat
import Mathlib.Data.List.Basic

/-! # Base64url without padding

Characters are their codes. The decoder skips line ends and ignores the bits that the last character
carries beyond a whole byte, so several strings decode to the same bytes; exactly one of them is their
encoding.
-/

namespace Base64

/-- The character of a digit. -/
def digit (v : Nat) : Nat :=
  if v < 26 then 65 + v
  else if v < 52 then 71 + v
  else if v < 62 then v - 4
  else if v = 62 then 45
  else 95

/-- The digit of a character. -/
def value (c : Nat) : Option Nat :=
  if 65 ≤ c ∧ c ≤ 90 then some (c - 65)
  else if 97 ≤ c ∧ c ≤ 122 then some (c - 71)
  else if 48 ≤ c ∧ c ≤ 57 then some (c + 4)
  else if c = 45 then some 62
  else if c = 95 then some 63
  else none

/-- A character of the alphabet. -/
def isDigit (c : Nat) : Bool := (value c).isSome

/-- The digits of a byte string, three bytes to four digits. -/
def digits : List UInt8 → List Nat
  | a :: b :: c :: rest =>
    let n := a.toNat * 65536 + b.toNat * 256 + c.toNat
    n / 262144 :: n / 4096 % 64 :: n / 64 % 64 :: n % 64 :: digits rest
  | [a, b] =>
    let n := a.toNat * 65536 + b.toNat * 256
    [n / 262144, n / 4096 % 64, n / 64 % 64]
  | [a] =>
    let n := a.toNat * 65536
    [n / 262144, n / 4096 % 64]
  | [] => []

def encode (bytes : List UInt8) : List Nat := (digits bytes).map digit

/-- The bytes of digits; a single digit left over is no byte. -/
def bytesOf : List Nat → Option (List UInt8)
  | w :: x :: y :: z :: rest =>
    let n := w * 262144 + x * 4096 + y * 64 + z
    (bytesOf rest).map fun bytes =>
      UInt8.ofNat (n / 65536) :: UInt8.ofNat (n / 256) :: UInt8.ofNat n :: bytes
  | [w, x, y] =>
    let n := w * 262144 + x * 4096 + y * 64
    some [UInt8.ofNat (n / 65536), UInt8.ofNat (n / 256)]
  | [w, x] => some [UInt8.ofNat ((w * 262144 + x * 4096) / 65536)]
  | [_] => none
  | [] => some []

/-- Line ends are skipped. -/
def isLineEnd (c : Nat) : Bool := c == 10 || c == 13

def decode (s : List Nat) : Option (List UInt8) :=
  ((s.filter fun c => !isLineEnd c).mapM value).bind bytesOf

/-! ## Round trip -/

theorem value_digit {v : Nat} (h : v < 64) : value (digit v) = some v := by
  unfold value digit
  split_ifs <;> simp_all <;> omega

theorem not_isLineEnd_digit {v : Nat} (h : v < 64) : isLineEnd (digit v) = false := by
  unfold isLineEnd digit
  split_ifs <;> simp <;> omega

variable {bytes : List UInt8}

theorem digits_lt : ∀ v ∈ digits bytes, v < 64 := by
  induction bytes using digits.induct with
  | case1 a b c rest ih =>
    have ha := a.toNat_lt
    have hb := b.toNat_lt
    have hc := c.toNat_lt
    intro v hv
    simp only [digits, List.mem_cons] at hv
    rcases hv with rfl | rfl | rfl | rfl | hv
    · omega
    · omega
    · omega
    · omega
    · exact ih v hv
  | case2 a b =>
    have ha := a.toNat_lt
    have hb := b.toNat_lt
    intro v hv
    simp only [digits, List.mem_cons, List.not_mem_nil, or_false] at hv
    omega
  | case3 a =>
    have ha := a.toNat_lt
    intro v hv
    simp only [digits, List.mem_cons, List.not_mem_nil, or_false] at hv
    omega
  | case4 => intro v hv; cases hv

/-- A byte is the part of a number below it that was put there. -/
theorem ofNat_eq {a : UInt8} {n : Nat} (h : n % 256 = a.toNat) : UInt8.ofNat n = a := by
  apply UInt8.toNat.inj
  simpa using h

theorem bytesOf_digits (bytes : List UInt8) : bytesOf (digits bytes) = some bytes := by
  induction bytes using digits.induct with
  | case1 a b c rest ih =>
    have ha := a.toNat_lt
    have hb := b.toNat_lt
    have hc := c.toNat_lt
    simp only [digits, bytesOf, ih, Option.map_some, Option.some.injEq, List.cons.injEq, and_true]
    refine ⟨ofNat_eq ?_, ofNat_eq ?_, ofNat_eq ?_⟩ <;> omega
  | case2 a b =>
    have ha := a.toNat_lt
    have hb := b.toNat_lt
    simp only [digits, bytesOf, Option.some.injEq, List.cons.injEq, and_true]
    refine ⟨ofNat_eq ?_, ofNat_eq ?_⟩ <;> omega
  | case3 a =>
    have ha := a.toNat_lt
    simp only [digits, bytesOf, Option.some.injEq, List.cons.injEq, and_true]
    exact ofNat_eq (by omega)
  | case4 => rfl

theorem mapM_value_map_digit {vs : List Nat} (h : ∀ v ∈ vs, v < 64) :
    (vs.map digit).mapM value = some vs := by
  induction vs with
  | nil => rfl
  | cons v vs ih =>
    have hv : v < 64 := h v List.mem_cons_self
    have hrest := ih fun w hw => h w (List.mem_cons_of_mem v hw)
    simp [List.mapM_cons, value_digit hv, hrest]

theorem length_digits (bytes : List UInt8) : (digits bytes).length = (4 * bytes.length + 2) / 3 := by
  fun_induction digits bytes with
  | case1 a b c rest _ ih =>
    simp only [List.length_cons, ih]
    omega
  | case2 a b => simp
  | case3 a => simp
  | case4 => rfl

theorem length_encode (bytes : List UInt8) : (encode bytes).length = (4 * bytes.length + 2) / 3 := by
  rw [encode, List.length_map, length_digits]


theorem decode_encode (bytes : List UInt8) : decode (encode bytes) = some bytes := by
  have hfilter : (encode bytes).filter (fun c => !isLineEnd c) = encode bytes := by
    rw [List.filter_eq_self]
    intro c hc
    obtain ⟨v, hv, rfl⟩ := List.mem_map.mp hc
    simp [not_isLineEnd_digit (digits_lt v hv)]
  rw [decode, hfilter, encode, mapM_value_map_digit digits_lt, Option.bind_some, bytesOf_digits]

/-- An encoding is made of characters of the alphabet. -/
theorem isDigit_of_mem_encode {c : Nat} (h : c ∈ encode bytes) :
    isDigit c = true := by
  obtain ⟨v, hv, rfl⟩ := List.mem_map.mp h
  simp [isDigit, value_digit (digits_lt v hv)]

end Base64
