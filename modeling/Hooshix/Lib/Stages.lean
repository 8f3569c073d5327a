-- SUMMARY: A process that goes from place to place in time.
import Mathlib.Algebra.Order.Group.Int

/-! # Stages

A process is at one place at a time, and time passes while it waits there. `limit` says how long it can
stay at a place, and `rest` how long it can go on from there without progress. If every move without
progress fits into the rest of the place it leaves, the process is never further from its last progress
than the rest of the places at which progress puts it.

Time passes no further than the timers that are set: whoever set a timer acts when it is due.
-/

/-- The time, when the process came to its place, when it last made progress, and the place. -/
structure Stage (P : Type*) where
  now : Int
  since : Int
  progress : Int
  place : P
  deriving DecidableEq, Repr

namespace Stage

variable {P : Type*}

/-- The process starts at a place. -/
def start (now : Int) (place : P) : Stage P := ⟨now, now, now, place⟩

/-- The process goes to another place. -/
def enter (s : Stage P) (place : P) : Stage P := { s with since := s.now, place }

/-- The process makes progress and goes on at a place. -/
def advance (s : Stage P) (place : P) : Stage P := start s.now place

def wait (s : Stage P) (now : Int) : Stage P := { s with now }

/-- Time can pass to `now` when no timer is due before. -/
def passes (s : Stage P) (timers : List Int) (now : Int) : Bool :=
  decide (s.now ≤ now) && timers.all fun due => decide (now ≤ due)

theorem passes_iff {s : Stage P} {timers : List Int} {now : Int} :
    s.passes timers now = true ↔ s.now ≤ now ∧ ∀ due ∈ timers, now ≤ due := by
  simp [passes]

/-- The process is at its place within the limit, and what rests from there fits the bound. -/
structure Timely (limit rest : P → Int) (bound : Int) (s : Stage P) : Prop where
  now_le : s.now ≤ s.since + limit s.place
  rest_le : s.since + rest s.place ≤ s.progress + bound

section Rules

variable {limit rest : P → Int} {bound : Int} {s : Stage P} {place : P} {now : Int}

theorem Timely.start (hlimit : 0 ≤ limit place)
    (hrest : rest place ≤ bound) : (Stage.start now place).Timely limit rest bound where
  now_le := Int.le_add_of_nonneg_right hlimit
  rest_le := Int.add_le_add_left hrest now

/-- A move without progress. -/
theorem Timely.enter (hs : s.Timely limit rest bound) (hlimit : 0 ≤ limit place)
    (hrest : limit s.place + rest place ≤ rest s.place) :
    (s.enter place).Timely limit rest bound where
  now_le := Int.le_add_of_nonneg_right hlimit
  rest_le := by
    have hnow := hs.now_le
    have hbound := hs.rest_le
    simp only [Stage.enter]
    omega

theorem Timely.advance (hlimit : 0 ≤ limit place) (hrest : rest place ≤ bound) :
    (s.advance place).Timely limit rest bound :=
  Timely.start hlimit hrest

theorem Timely.wait (hs : s.Timely limit rest bound)
    (hnow : now ≤ s.since + limit s.place) : (s.wait now).Timely limit rest bound where
  now_le := hnow
  rest_le := hs.rest_le

/-- The process is not further from its last progress than the bound. -/
theorem Timely.now_le_bound (hs : s.Timely limit rest bound)
    (hplace : limit s.place ≤ rest s.place) : s.now ≤ s.progress + bound := by
  have hnow := hs.now_le
  have hbound := hs.rest_le
  omega

end Rules

end Stage
