-- SUMMARY: Numbers as big-endian byte strings of a fixed length.
import Mathlib.Algebra.Ring.Nat
import Mathlib.Data.Nat.Init
import Mathlib.Tactic.Ring

/-! # Big-endian numbers

Packing and reading are inverse on numbers that fit and on byte strings of that length.
-/

namespace BigEndian

/-- The last `n` bytes of `v`, most significant first. -/
def pack : (n v : Nat) → List UInt8
  | 0, _ => []
  | n + 1, v => UInt8.ofNat (v / 256 ^ n) :: pack n v

/-- The number a byte string stands for. -/
def read : List UInt8 → Nat
  | [] => 0
  | b :: bytes => b.toNat * 256 ^ bytes.length + read bytes

@[simp] theorem length_pack (n v : Nat) : (pack n v).length = n := by
  induction n with
  | zero => rfl
  | succ n ih => simp [pack, ih]

theorem read_lt (bytes : List UInt8) : read bytes < 256 ^ bytes.length := by
  induction bytes with
  | nil => simp [read]
  | cons b bytes ih =>
    have hb : b.toNat + 1 ≤ 256 := b.toNat_lt
    have hmul : (b.toNat + 1) * 256 ^ bytes.length ≤ 256 * 256 ^ bytes.length :=
      Nat.mul_le_mul_right _ hb
    rw [Nat.add_mul, Nat.one_mul] at hmul
    rw [read, List.length_cons, Nat.pow_succ, Nat.mul_comm _ 256]
    omega

/-- Only the bytes that are packed matter. -/
theorem pack_add_mul (n v k : Nat) : pack n (k * 256 ^ n + v) = pack n v := by
  induction n generalizing k with
  | zero => rfl
  | succ n ih =>
    have hpow : k * 256 ^ (n + 1) + v = k * 256 * 256 ^ n + v := by rw [Nat.pow_succ]; ring
    have hpos : 0 < 256 ^ n := Nat.pow_pos (by decide)
    have hhead : UInt8.ofNat ((k * 256 * 256 ^ n + v) / 256 ^ n) = UInt8.ofNat (v / 256 ^ n) := by
      rw [Nat.add_comm, Nat.add_mul_div_right _ _ hpos]
      apply UInt8.toNat.inj
      simp
    rw [hpow, pack, pack, ih, hhead]

theorem pack_read (bytes : List UInt8) : pack bytes.length (read bytes) = bytes := by
  induction bytes with
  | nil => rfl
  | cons b bytes ih =>
    have hdiv : (b.toNat * 256 ^ bytes.length + read bytes) / 256 ^ bytes.length = b.toNat := by
      rw [Nat.add_comm, Nat.add_mul_div_right _ _ (Nat.pow_pos (by decide)),
        Nat.div_eq_of_lt (read_lt bytes), Nat.zero_add]
    rw [read, List.length_cons, pack, hdiv, pack_add_mul, ih, UInt8.ofNat_toNat]

theorem read_pack {n v : Nat} (h : v < 256 ^ n) : read (pack n v) = v := by
  induction n generalizing v with
  | zero => simp_all [pack, read]
  | succ n ih =>
    have hpos : 0 < 256 ^ n := Nat.pow_pos (by decide)
    have hquot : v / 256 ^ n < 256 := by
      rw [Nat.div_lt_iff_lt_mul hpos]
      rwa [Nat.pow_succ, Nat.mul_comm] at h
    have hhead : (UInt8.ofNat (v / 256 ^ n)).toNat = v / 256 ^ n := by
      simp [Nat.mod_eq_of_lt hquot]
    -- the bytes behind the first are those of the remainder
    have htail : pack n v = pack n (v % 256 ^ n) := by
      conv_lhs => rw [← Nat.div_add_mod' v (256 ^ n)]
      exact pack_add_mul n _ _
    rw [pack, read, length_pack, hhead, htail, ih (Nat.mod_lt v hpos), Nat.div_add_mod']

theorem pack_zero (n : Nat) : pack n 0 = List.replicate n 0 := by
  induction n with
  | zero => rfl
  | succ n ih => simp [pack, ih, List.replicate_succ]

/-- Only zero bytes stand for zero. -/
theorem read_eq_zero_iff {bytes : List UInt8} :
    read bytes = 0 ↔ bytes = List.replicate bytes.length 0 := by
  constructor
  · intro h
    rw [← pack_zero, ← h, pack_read]
  · intro h
    rw [h, ← pack_zero, read_pack (Nat.pow_pos (by decide))]

end BigEndian
