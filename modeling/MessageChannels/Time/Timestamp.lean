import MessageChannels.Time.Span

/-!
# Points in time

A timestamp is a point in time in seconds since 1970-01-01T00:00:00Z and nanoseconds, between the
first instant of the year -262143 and the last nanosecond of the year 262142. `elapsed?` is the
exact distance from an earlier point to a later one and `plus?` the point a span later, if the
range holds it.

Every minute has sixty seconds here. A clock that writes the points inside a leap second as a second
with more than 10^9 nanoseconds has points that are none of these; the distances of such points are
left out.
-/

set_option autoImplicit false

namespace MessageChannels

/-- A point in time, of which none is inside a leap second. -/
structure Timestamp where
  secs : Int
  nanos : Nat
  first_le : -8334601228800 ≤ secs
  le_last : secs ≤ 8210266876799
  nanos_lt : nanos < 1000000000
  deriving DecidableEq

namespace Timestamp

/-- Nanoseconds since the epoch. -/
def toNanos (t : Timestamp) : Int := t.secs * 10 ^ 9 + t.nanos

/-- The start of 1970, from which seconds are counted. -/
def epoch : Timestamp := ⟨0, 0, by decide, by decide, by decide⟩

instance : Inhabited Timestamp := ⟨epoch⟩

/-- The last instant of the range. -/
def last : Timestamp := ⟨8210266876799, 999999999, by decide, by decide, by decide⟩

/-- Seconds and nanoseconds as a timestamp, if they are in the range. -/
def ofParts? (secs : Int) (nanos : Nat) : Option Timestamp :=
  if h : -8334601228800 ≤ secs ∧ secs ≤ 8210266876799 ∧ nanos < 1000000000 then
    some ⟨secs, nanos, h.1, h.2.1, h.2.2⟩
  else none

/-- The span from `start` to `stop`; none if `stop` is the earlier one. -/
def elapsed? (start stop : Timestamp) : Option Span :=
  let borrow : Int := if stop.nanos < start.nanos then 1 else 0
  let secs := stop.secs - start.secs - borrow
  let nanos := stop.nanos + 10 ^ 9 * borrow.toNat - start.nanos
  if 0 ≤ secs then Span.ofParts? secs.toNat nanos else none

/-- The point a span later, if it is in the range. -/
def plus? (t : Timestamp) (d : Span) : Option Timestamp :=
  let nanos := t.nanos + d.nanos
  ofParts? (t.secs + d.secs + nanos / 10 ^ 9) (nanos % 10 ^ 9)

/-- An earlier or equal start is exactly as far away as the difference of the two points. -/
theorem elapsed?_eq_some_iff (start stop : Timestamp) (d : Span) :
    elapsed? start stop = some d ↔ start.toNanos + d.toNanos = stop.toNanos := by
  obtain ⟨a, an, ha1, ha2, han⟩ := start
  obtain ⟨b, bn, hb1, hb2, hbn⟩ := stop
  obtain ⟨s, n, hs, hn⟩ := d
  simp only [elapsed?, Span.ofParts?, toNanos, Span.toNanos]
  by_cases hlt : bn < an
  · simp only [hlt, if_true]
    split
    · rw [dif_pos (by omega)]
      simp only [Option.some.injEq, Span.mk.injEq]
      omega
    · simp only [reduceCtorEq, false_iff]
      omega
  · simp only [hlt, if_false]
    split
    · rw [dif_pos (by simp; omega)]
      simp only [Option.some.injEq, Span.mk.injEq]
      simp
      omega
    · simp only [reduceCtorEq, false_iff]
      omega

/-- Nothing has elapsed exactly if the second point lies before the first. -/
theorem elapsed?_eq_none_iff (start stop : Timestamp) :
    elapsed? start stop = none ↔ stop.toNanos < start.toNanos := by
  obtain ⟨a, an, ha1, ha2, han⟩ := start
  obtain ⟨b, bn, hb1, hb2, hbn⟩ := stop
  simp only [elapsed?, Span.ofParts?, toNanos]
  by_cases hlt : bn < an
  · simp only [hlt, if_true]
    split
    · rw [dif_pos (by omega)]
      simp only [reduceCtorEq, false_iff]
      omega
    · simp only [true_iff]
      omega
  · simp only [hlt, if_false]
    split
    · rw [dif_pos (by simp; omega)]
      simp only [reduceCtorEq, false_iff]
      omega
    · simp only [true_iff]
      omega

/-- Adding a span is exact, and possible exactly up to the last instant. -/
theorem plus?_eq_some_iff (t : Timestamp) (d : Span) (u : Timestamp) :
    t.plus? d = some u ↔ u.toNanos = t.toNanos + d.toNanos := by
  obtain ⟨a, an, ha1, ha2, han⟩ := t
  obtain ⟨b, bn, hb1, hb2, hbn⟩ := u
  obtain ⟨s, n, hs, hn⟩ := d
  simp only [plus?, ofParts?, toNanos, Span.toNanos]
  split
  · simp only [Option.some.injEq, Timestamp.mk.injEq]
    omega
  · simp only [reduceCtorEq, false_iff]
    omega

end Timestamp

end MessageChannels
