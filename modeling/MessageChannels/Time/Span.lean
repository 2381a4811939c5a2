import MessageChannels.Text.Decimal

/-!
# Spans of time

A span is a length of time: whole seconds below 2^64 and a rest in nanoseconds below one second.
Spans are compared part by part. `lt_iff_toNanos_lt` says that this is the order of their exact
lengths in nanoseconds, `ext_toNanos` that the length determines the span.
-/

set_option autoImplicit false

namespace MessageChannels

/-- A length of time in whole seconds and nanoseconds. -/
structure Span where
  secs : Nat
  nanos : Nat
  secs_lt : secs < 2 ^ 64
  nanos_lt : nanos < 10 ^ 9
  deriving DecidableEq

namespace Span

/-- The exact length in nanoseconds. -/
def toNanos (d : Span) : Nat := d.secs * 10 ^ 9 + d.nanos

/-- The length in whole milliseconds, a begun one left out. -/
def toMillis (d : Span) : Nat := d.secs * 1000 + d.nanos / 10 ^ 6

/-- The empty span. -/
def zero : Span := ⟨0, 0, by decide, by decide⟩

/-- The longest span. -/
def longest : Span := ⟨2 ^ 64 - 1, 10 ^ 9 - 1, by decide, by decide⟩

instance : Inhabited Span := ⟨zero⟩

/-- A number of whole seconds; more than a span can hold become the longest span. -/
def ofSecs (secs : Nat) : Span :=
  if h : secs < 2 ^ 64 then ⟨secs, 0, h, by decide⟩ else longest

/-- A number of milliseconds; more than a span can hold become the longest span. -/
def ofMillis (millis : Nat) : Span :=
  if h : millis / 1000 < 2 ^ 64 then
    ⟨millis / 1000, millis % 1000 * 10 ^ 6, h, by have := Nat.mod_lt millis (y := 1000); omega⟩
  else longest

/-- Seconds and nanoseconds as a span, if they are one. -/
def ofParts? (secs nanos : Nat) : Option Span :=
  if h : secs < 2 ^ 64 ∧ nanos < 10 ^ 9 then some ⟨secs, nanos, h.1, h.2⟩ else none

/-- Seconds and nanoseconds, of which whole seconds are carried over; more than a span can hold
become the longest span. -/
def ofParts (secs nanos : Nat) : Span :=
  (ofParts? (secs + nanos / 10 ^ 9) (nanos % 10 ^ 9)).getD longest

instance : LT Span := ⟨fun a b => a.secs < b.secs ∨ a.secs = b.secs ∧ a.nanos < b.nanos⟩

instance : LE Span := ⟨fun a b => ¬ b < a⟩

instance (a b : Span) : Decidable (a < b) :=
  inferInstanceAs (Decidable (a.secs < b.secs ∨ a.secs = b.secs ∧ a.nanos < b.nanos))

instance (a b : Span) : Decidable (a ≤ b) := inferInstanceAs (Decidable (¬ b < a))

/-- Comparing part by part is comparing the exact lengths. -/
theorem lt_iff_toNanos_lt (a b : Span) : a < b ↔ a.toNanos < b.toNanos := by
  have ha := a.nanos_lt
  have hb := b.nanos_lt
  show a.secs < b.secs ∨ a.secs = b.secs ∧ a.nanos < b.nanos ↔ _
  unfold toNanos
  omega

theorem le_iff_toNanos_le (a b : Span) : a ≤ b ↔ a.toNanos ≤ b.toNanos := by
  show ¬ b < a ↔ _
  rw [lt_iff_toNanos_lt]
  omega

/-- Spans of the same length are equal. -/
theorem ext_toNanos {a b : Span} (h : a.toNanos = b.toNanos) : a = b := by
  have ha := a.nanos_lt
  have hb := b.nanos_lt
  obtain ⟨as, an, _, _⟩ := a
  obtain ⟨bs, bn, _, _⟩ := b
  simp only [toNanos] at h ha hb
  have hs : as = bs := by omega
  have hn : an = bn := by omega
  subst hs hn
  rfl

end Span

end MessageChannels
