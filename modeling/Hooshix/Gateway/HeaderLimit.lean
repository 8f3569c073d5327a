-- SUMMARY: The reader that limits the head of a tunneled response.
import Hooshix.Payload
import Mathlib.Data.List.Infix

/-! # The response header limit

`responseHeaderLimitReader`. A read asks for a number of bytes, and the stream of the Agent hands out as
many of them as it likes. The reader looks for an empty line that ends, as the line before it, with CR and
LF; the parser behind it takes a line end without CR too.
-/

namespace Hooshix.Gateway

def separator : Bytes := [13, 10, 13, 10]

structure ResponseHeaderLimitReader where
  remaining : Nat
  matched : Nat
  done : Bool
  deriving DecidableEq, Repr

def newResponseHeaderLimitReader (limit : Nat) : ResponseHeaderLimitReader := ⟨limit, 0, false⟩

/-- The loop over the bytes of a read: how much of the separator is matched, and whether all of it was. -/
def matchSeparator : Nat → Bytes → Nat × Bool
  | matched, [] => (matched, false)
  | matched, value :: data =>
    if value = separator.getD matched 0 then
      if matched + 1 = separator.length then (matched + 1, true) else matchSeparator (matched + 1) data
    else if value = 13 then matchSeparator 1 data
    else matchSeparator 0 data

/-- A reader, what is left of its stream, what it has delivered, and whether it has returned
    `errResponseHeaderTooLarge`. -/
structure HeaderReads where
  reader : ResponseHeaderLimitReader
  stream : Bytes
  delivered : Bytes
  tooLarge : Bool
  deriving DecidableEq, Repr

namespace HeaderReads

/-- The stream hands out `data`. -/
def pass (s : HeaderReads) (size : Nat) : HeaderReads :=
  { s with stream := s.stream.drop size, delivered := s.delivered ++ s.stream.take size }

/-- `Read` with room for `size` bytes, of which the stream fills `available` at most. -/
def read (s : HeaderReads) (size available : Nat) : HeaderReads :=
  if s.reader.done then s.pass (min size available)
  else if s.reader.remaining = 0 then { s with tooLarge := true }
  else
    let size := min (min size s.reader.remaining) available
    let n := (s.stream.take size).length
    let (matched, done) := matchSeparator s.reader.matched (s.stream.take size)
    let remaining := s.reader.remaining - n
    { s.pass size with
      reader := ⟨remaining, matched, done⟩
      tooLarge := s.tooLarge || (!done && remaining = 0) }

def start (limit : Nat) (stream : Bytes) : HeaderReads :=
  ⟨newResponseHeaderLimitReader limit, stream, [], false⟩

def run (s : HeaderReads) (reads : List (Nat × Nat)) : HeaderReads :=
  reads.foldl (fun s call => s.read call.1 call.2) s

end HeaderReads

/-! ## The separator -/

theorem suffix_concat_concat (first second : Bytes) (a b : UInt8) :
    first ++ [a] <:+ second ++ [b] ↔ first <:+ second ∧ a = b := by
  rw [List.suffix_append_inj_of_length_eq (by rfl : [a].length = [b].length), List.singleton_inj]

/-- How much of the separator the bytes seen so far end with. -/
structure Seen (data : Bytes) (matched : Nat) : Prop where
  none : ¬ separator <:+: data
  one : [13] <:+ data ↔ matched = 1 ∨ matched = 3
  two : [13, 10] <:+ data ↔ matched = 2
  three : [13, 10, 13] <:+ data ↔ matched = 3
  le : matched ≤ 3

theorem Seen.next {data : Bytes} {matched : Nat} (h : Seen data matched) (value : UInt8) :
    (separator <:+: data ++ [value] ↔ matched = 3 ∧ value = 10) ∧
      ([13] <:+ data ++ [value] ↔ value = 13) ∧
      ([13, 10] <:+ data ++ [value] ↔ (matched = 1 ∨ matched = 3) ∧ value = 10) ∧
      ([13, 10, 13] <:+ data ++ [value] ↔ matched = 2 ∧ value = 13) := by
  have hsnoc := suffix_concat_concat
  refine ⟨?_, ?_, ?_, ?_⟩
  · rw [List.infix_concat_iff, or_iff_left h.none, ← h.three, eq_comm (a := value)]
    exact hsnoc [13, 10, 13] data 10 value
  · rw [eq_comm (a := value)]
    simp
  · rw [← h.one, eq_comm (a := value)]
    exact hsnoc [13] data 10 value
  · rw [← h.two, eq_comm (a := value)]
    exact hsnoc [13, 10] data 13 value

/-- A byte that does not complete the separator. -/
theorem Seen.concat {data : Bytes} {matched next : Nat} {value : UInt8} (h : Seen data matched)
    (hnext : next = if value = separator.getD matched 0 then matched + 1 else if value = 13 then 1 else 0)
    (hle : next ≤ 3) : Seen (data ++ [value]) next := by
  obtain ⟨hfound, hone, htwo, hthree⟩ := h.next value
  have hmatched : matched = 0 ∨ matched = 1 ∨ matched = 2 ∨ matched = 3 := by
    have hle := h.le
    omega
  rw [separator] at hnext
  refine ⟨?_, ?_, ?_, ?_, hle⟩
  · rw [hfound]
    rintro ⟨rfl, rfl⟩
    simp [hnext] at hle
  all_goals rcases hmatched with rfl | rfl | rfl | rfl
  all_goals
    by_cases h13 : value = 13
    · simp_all
    · by_cases h10 : value = 10 <;> simp_all

theorem matchSeparator_spec {seen : Bytes} {matched : Nat} (h : Seen seen matched) (data : Bytes) :
    if (matchSeparator matched data).2 then separator <:+: seen ++ data
    else Seen (seen ++ data) (matchSeparator matched data).1 := by
  induction data generalizing seen matched with
  | nil => simpa [matchSeparator] using h
  | cons value data ih =>
    rw [List.append_cons, matchSeparator]
    by_cases hvalue : value = separator.getD matched 0
    · rw [if_pos hvalue]
      by_cases hlast : matched + 1 = separator.length
      · have hmatched : matched = 3 := Nat.succ.inj hlast
        have hfound := (h.next value).1.mpr ⟨hmatched, by simpa [hmatched, separator] using hvalue⟩
        simp only [if_pos hlast, if_true]
        exact hfound.trans (List.infix_append' [] _ data)
      · have hle := h.le
        have hnot : matched ≠ 3 := fun heq => hlast (congrArg Nat.succ heq)
        rw [if_neg hlast]
        exact ih (h.concat (if_pos hvalue).symm (by omega))
    · rw [if_neg hvalue]
      by_cases h13 : value = 13
      · rw [if_pos h13]
        exact ih (h.concat (by rw [if_neg hvalue, if_pos h13]) (by decide))
      · rw [if_neg h13]
        exact ih (h.concat (by rw [if_neg hvalue, if_neg h13]) (by decide))

/-! ## The head -/

/-- The bytes end with an empty line; a line ends with LF and an optional CR before it. -/
def EndsEmptyLine (data : Bytes) : Prop :=
  ∃ lines, (lines = [] ∨ [10] <:+ lines) ∧ (data = lines ++ [10] ∨ data = lines ++ [13, 10])

/-- The head, the shortest prefix that ends with an empty line, has at most `limit` bytes. -/
def HeadWithin (limit : Nat) (stream : Bytes) : Prop :=
  ∃ head, head <+: stream ∧ head.length ≤ limit ∧ EndsEmptyLine head

theorem headWithin_of_separator {limit : Nat} {stream : Bytes} (h : separator <:+: stream.take limit) :
    HeadWithin limit stream := by
  obtain ⟨first, rest, hsplit⟩ := h
  refine ⟨first ++ separator, ?_, ?_, first ++ [13, 10], .inr ⟨first ++ [13], by simp⟩,
    .inr (by simp [separator])⟩
  · exact (hsplit ▸ List.prefix_append (first ++ separator) rest).trans (List.take_prefix _ _)
  · have hlength := congrArg List.length hsplit
    rw [List.length_append, List.length_take] at hlength
    omega

attribute [local simp] newResponseHeaderLimitReader

namespace HeaderReads

/-- The reads so far: nothing is lost, and until the separator is found it is looked for in what was
    delivered, within the limit. -/
structure Inv (limit : Nat) (stream : Bytes) (s : HeaderReads) : Prop where
  passed : s.delivered ++ s.stream = stream
  done : s.reader.done = true → separator <:+: stream.take limit ∧ s.tooLarge = false
  searching : s.reader.done = false → Seen s.delivered s.reader.matched ∧
    s.delivered.length + s.reader.remaining = limit ∧ (s.tooLarge = true ↔ s.reader.remaining = 0)

variable {s : HeaderReads} {stream : Bytes} {limit : Nat}

theorem passed_pass (h : s.delivered ++ s.stream = stream) (size : Nat) :
    (s.pass size).delivered ++ (s.pass size).stream = stream := by
  rw [← h, pass, List.append_assoc, List.take_append_drop]

theorem Inv.read (h : s.Inv limit stream) (size available : Nat) :
    (s.read size available).Inv limit stream := by
  unfold HeaderReads.read
  split
  next hdone =>
    exact ⟨passed_pass h.passed _, fun _ => h.done hdone,
      fun hsearch => absurd hdone (by simpa [pass] using hsearch)⟩
  next hdone =>
    obtain ⟨hseen, hlength, hlarge⟩ := h.searching (by simpa using hdone)
    split
    next hzero =>
      exact ⟨h.passed, fun hd => absurd hd hdone, fun _ => ⟨hseen, hlength, by simp [hzero]⟩⟩
    next hzero =>
      have hnot : s.tooLarge = false := Bool.eq_false_iff.mpr fun h => hzero (hlarge.mp h)
      generalize hsize : min (min size s.reader.remaining) available = size
      have hle : (s.stream.take size).length ≤ s.reader.remaining := by
        rw [List.length_take]
        omega
      have hspec := matchSeparator_spec hseen (s.stream.take size)
      refine ⟨passed_pass h.passed size, ?_, ?_⟩
      · intro hfound
        rw [if_pos hfound] at hspec
        have hprefix : s.delivered ++ s.stream.take size <+: stream.take limit := by
          rw [List.prefix_take_iff, ← h.passed, List.prefix_append_right_inj, List.length_append]
          exact ⟨List.take_prefix _ _, by omega⟩
        exact ⟨hspec.trans hprefix.isInfix, by simp_all⟩
      · intro hsearch
        rw [if_neg (by simpa using hsearch)] at hspec
        refine ⟨hspec, ?_, ?_⟩
        · simp only [pass, List.length_append]
          omega
        · simp_all

theorem Inv.run (h : s.Inv limit stream) (reads : List (Nat × Nat)) :
    (s.run reads).Inv limit stream := by
  induction reads generalizing s with
  | nil => exact h
  | cons call reads ih => exact ih (h.read call.1 call.2)

theorem inv_start (hlimit : 0 < limit) (stream : Bytes) :
    (start limit stream).Inv limit stream where
  passed := rfl
  done := nofun
  searching _ := by
    refine ⟨⟨?_, ?_, ?_, ?_, Nat.zero_le 3⟩, Nat.zero_add limit, ?_⟩
    · simp [start, separator]
    · simp [start]
    · simp [start]
    · simp [start]
    · simpa [start] using Nat.ne_of_gt hlimit

/-! ## Delivery -/

/-- How many of the reads have room for a byte and find one. -/
def roomy (reads : List (Nat × Nat)) : Nat := reads.countP fun call => 0 < call.1 ∧ 0 < call.2

/-- There is something to deliver, and the limit does not stand in its way. -/
def Ready (s : HeaderReads) : Prop :=
  s.stream ≠ [] ∧ (s.reader.done = true ∨ s.reader.remaining ≠ 0)

theorem length_pass (s : HeaderReads) (size : Nat) :
    (s.pass size).delivered.length = s.delivered.length + min size s.stream.length := by
  rw [pass, List.length_append, List.length_take]

/-- A read hands on what it has room for, up to the limit while it looks for the separator. -/
theorem exists_pass (s : HeaderReads) (size available : Nat) :
    ∃ n, (s.read size available).delivered = (s.pass n).delivered ∧
      (s.Ready → 0 < size → 0 < available → 0 < n) := by
  unfold HeaderReads.read
  split
  · exact ⟨_, rfl, fun _ hsize havailable => by omega⟩
  split
  next hdone hzero =>
    refine ⟨0, by simp [pass], fun hready => ?_⟩
    exact absurd hready.2 (not_or.mpr ⟨hdone, not_not.mpr hzero⟩)
  next hzero => exact ⟨_, rfl, fun _ hsize havailable => by omega⟩

/-- As long as the reader is ready below `least` bytes, every read with room brings it one nearer. -/
theorem delivered_of_ready (least : Nat)
    (hready : ∀ reads, (s.run reads).delivered.length < least → (s.run reads).Ready)
    (reads : List (Nat × Nat)) : min (roomy reads) least ≤ (s.run reads).delivered.length := by
  induction reads using List.reverseRecOn with
  | nil => simp [roomy]
  | append_singleton reads call ih =>
    have hrun : s.run (reads ++ [call]) = (s.run reads).read call.1 call.2 := List.foldl_concat ..
    obtain ⟨n, hdelivered, hpos⟩ := (s.run reads).exists_pass call.1 call.2
    rw [hrun, hdelivered, length_pass, roomy, List.countP_append, List.countP_singleton]
    rw [roomy] at ih
    split
    next hroom =>
      obtain ⟨hsize, havailable⟩ := of_decide_eq_true hroom
      by_cases hless : (s.run reads).delivered.length < least
      · have hnow := hready reads hless
        have hmore := hpos hnow hsize havailable
        have hstream := List.length_pos_iff.mpr hnow.1
        omega
      · omega
    next => omega

/-- What the reader is for, after reads of which `room` had room for a byte that was there. -/
structure Limited (limit : Nat) (stream : Bytes) (room : Nat) (s : HeaderReads) : Prop where
  unchanged : s.delivered ++ s.stream = stream
  /-- with its head within the limit the stream passes to its end, without an error -/
  within : HeadWithin limit stream →
    s.tooLarge = false ∧ min room stream.length ≤ s.delivered.length
  /-- with its head beyond the limit just the limit passes, and the error comes with it -/
  beyond : limit ≤ stream.length → ¬ HeadWithin limit stream →
    min room limit ≤ s.delivered.length ∧ s.delivered.length ≤ limit ∧
      (s.tooLarge = true ↔ s.delivered.length = limit)
  /-- beyond the limit nothing is read before the head is complete -/
  consumed : limit < s.delivered.length → HeadWithin limit stream

/-- The reader does what it is for on one stream, however it is read. -/
def Limits (limit : Nat) (stream : Bytes) : Prop :=
  ∀ reads, ((start limit stream).run reads).Limited limit stream (roomy reads)

section Reads

variable {limit : Nat} {stream : Bytes} (h : s.Inv limit stream)

include h

theorem Inv.stream_ne_nil (hless : s.delivered.length < stream.length) : s.stream ≠ [] := by
  intro hnil
  rw [← h.passed, hnil, List.append_nil] at hless
  exact Nat.lt_irrefl _ hless

/-- The error is not returned if the separator is within the limit, or the stream is shorter. -/
theorem Inv.tooLarge_eq_false (hfits : separator <:+: stream.take limit ∨ stream.length < limit) :
    s.tooLarge = false := by
  have hprefix : s.delivered <+: stream := h.passed ▸ List.prefix_append _ _
  cases hdone : s.reader.done with
  | true => exact (h.done hdone).2
  | false =>
    obtain ⟨hseen, hlength, hlarge⟩ := h.searching hdone
    refine Bool.eq_false_iff.mpr fun htrue => ?_
    have hfull : s.delivered.length = limit := by rw [← hlength, hlarge.mp htrue, Nat.add_zero]
    rcases hfits with hfound | hshort
    · rw [← hfull, ← List.prefix_iff_eq_take.mp hprefix] at hfound
      exact hseen.none hfound
    · have hle := hprefix.length_le
      omega

theorem Inv.ready_within (hfits : separator <:+: stream.take limit ∨ stream.length < limit)
    (hless : s.delivered.length < stream.length) : s.Ready := by
  refine ⟨h.stream_ne_nil hless, ?_⟩
  cases hdone : s.reader.done with
  | true => exact .inl rfl
  | false =>
    refine .inr fun hzero => ?_
    have hlarge := (h.searching hdone).2.2.mpr hzero
    rw [h.tooLarge_eq_false hfits] at hlarge
    cases hlarge

theorem Inv.not_done (hhead : ¬ HeadWithin limit stream) : s.reader.done = false :=
  Bool.eq_false_iff.mpr fun hdone => hhead (headWithin_of_separator (h.done hdone).1)

theorem Inv.ready_beyond (hlong : limit ≤ stream.length) (hhead : ¬ HeadWithin limit stream)
    (hless : s.delivered.length < limit) : s.Ready := by
  obtain ⟨-, hlength, -⟩ := h.searching (h.not_done hhead)
  exact ⟨h.stream_ne_nil (Nat.lt_of_lt_of_le hless hlong), .inr (by omega)⟩

end Reads

/-- The limit is that of the head just when a head within it ends with a separator within it, or the
    stream is shorter than the limit. -/
theorem limits_iff {limit : Nat} (hlimit : 0 < limit) (stream : Bytes) :
    Limits limit stream ↔
      (HeadWithin limit stream → separator <:+: stream.take limit ∨ stream.length < limit) := by
  constructor
  · intro h hhead
    by_contra hnot
    obtain ⟨hnone, hlong⟩ := not_or.mp hnot
    -- one read of everything
    have hinv := (inv_start hlimit stream).run [(stream.length, stream.length)]
    have hdelivered : ((start limit stream).run [(stream.length, stream.length)]).delivered =
        stream.take limit := by
      have hzero : limit ≠ 0 := Nat.ne_of_gt hlimit
      simp [HeaderReads.run, HeaderReads.read, start, pass, hzero]
    have hdone : ((start limit stream).run [(stream.length, stream.length)]).reader.done = false :=
      Bool.eq_false_iff.mpr fun hdone => hnone (hinv.done hdone).1
    obtain ⟨-, hlength, hlarge⟩ := hinv.searching hdone
    rw [hdelivered, List.length_take] at hlength
    have hfalse := ((h [(stream.length, stream.length)]).within hhead).1
    rw [hlarge.mpr (by omega)] at hfalse
    cases hfalse
  · intro h reads
    have hall := fun reads => (inv_start hlimit stream).run reads
    have hinv := hall reads
    refine ⟨hinv.passed, fun hhead => ⟨hinv.tooLarge_eq_false (h hhead), ?_⟩,
      fun hlong hhead => ⟨?_, ?_⟩, fun hbeyond => ?_⟩
    · exact delivered_of_ready _ (fun reads => (hall reads).ready_within (h hhead)) reads
    · exact delivered_of_ready _ (fun reads => (hall reads).ready_beyond hlong hhead) reads
    · obtain ⟨-, hlength, hlarge⟩ := hinv.searching (hinv.not_done hhead)
      exact ⟨by omega, hlarge.trans (by omega)⟩
    · by_contra hhead
      obtain ⟨-, hlength, -⟩ := hinv.searching (hinv.not_done hhead)
      omega

/-- "A: b", LF, LF, "body": a head of six bytes, without a CR. -/
theorem limits_not_bare : ¬ Limits 8 [65, 58, 32, 98, 10, 10, 98, 111, 100, 121] := by
  intro h
  have hhead : HeadWithin 8 [65, 58, 32, 98, 10, 10, 98, 111, 100, 121] :=
    ⟨[65, 58, 32, 98, 10, 10], by decide, by decide, [65, 58, 32, 98, 10], .inr (by decide), .inl rfl⟩
  exact absurd ((h [(8, 8)]).within hhead).1 (by decide)

theorem limits_iff_crlf : Limits 8 [65, 13, 10, 13, 10, 98, 111, 100, 121] :=
  (limits_iff (by decide) [65, 13, 10, 13, 10, 98, 111, 100, 121]).mpr fun _ => .inl (by decide)

end HeaderReads

end Hooshix.Gateway
