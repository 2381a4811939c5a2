import MessageChannels.Proofs.Envelope.RetryAge

/-!
# The retry decision in exact nanoseconds

The decision compares an age with a limit, and the age comes from the difference of two points of
time: whole seconds that may be negative, and nanoseconds that are not. `difference` is that pair.
It is exact and far from the ends of a signed word of 64 bits wherever in the range the two points
lie, and where it is not negative it is a span. So the decision is the comparison of three whole
numbers, and it can only turn from redelivery to dead letter as time goes on or the limit shrinks.
-/

set_option autoImplicit false

namespace MessageChannels

namespace Timestamp

/-- The way from one point of time to another: whole seconds, less than the way by under a second,
and the nanoseconds that are left. -/
def difference (start stop : Timestamp) : Int × Nat :=
  if stop.nanos < start.nanos then
    (stop.secs - start.secs - 1, stop.nanos + 10 ^ 9 - start.nanos)
  else (stop.secs - start.secs, stop.nanos - start.nanos)

theorem difference_nanos_lt (start stop : Timestamp) : (difference start stop).2 < 10 ^ 9 := by
  have hstart := start.nanos_lt
  have hstop := stop.nanos_lt
  unfold difference
  split
  · dsimp only
    omega
  · dsimp only
    omega

/-- The difference is that of the two points in nanoseconds. -/
theorem difference_exact (start stop : Timestamp) :
    (difference start stop).1 * 10 ^ 9 + (difference start stop).2
      = stop.toNanos - start.toNanos := by
  have hstart := start.nanos_lt
  unfold difference toNanos
  split
  · dsimp only
    omega
  · dsimp only
    omega

/-- Two points of the range lie less than 2^44 seconds apart. -/
theorem difference_secs_bounds (start stop : Timestamp) :
    -2 ^ 44 < (difference start stop).1 ∧ (difference start stop).1 < 2 ^ 44 := by
  have first := start.first_le
  have last := start.le_last
  have first' := stop.first_le
  have last' := stop.le_last
  unfold difference
  split
  · dsimp only
    omega
  · dsimp only
    omega

/-- What has elapsed is the difference, unless that is negative. -/
theorem elapsed?_eq_difference (start stop : Timestamp) :
    elapsed? start stop
      = if 0 ≤ (difference start stop).1 then
          Span.ofParts? (difference start stop).1.toNat (difference start stop).2
        else none := by
  unfold elapsed? difference
  by_cases borrow : stop.nanos < start.nanos
  · simp only [if_pos borrow]
    rfl
  · simp only [if_neg borrow, Int.sub_zero]
    rfl

/-- A difference that is not negative is a span, whole. -/
theorem ofParts?_difference {start stop : Timestamp} (ahead : 0 ≤ (difference start stop).1) :
    ∃ d, Span.ofParts? (difference start stop).1.toNat (difference start stop).2 = some d ∧
      (d.secs : Int) = (difference start stop).1 ∧ d.nanos = (difference start stop).2 := by
  have bound := (difference_secs_bounds start stop).2
  have nanos := difference_nanos_lt start stop
  have fits : (difference start stop).1.toNat < 2 ^ 64 ∧ (difference start stop).2 < 10 ^ 9 := by
    constructor
    · omega
    · exact nanos
  unfold Span.ofParts?
  rw [dif_pos fits]
  refine ⟨_, rfl, ?_, rfl⟩
  exact Int.toNat_of_nonneg ahead

end Timestamp

namespace RetryDecision

/-- The greatest number of milliseconds that a word of 64 bits with a sign can hold. -/
def wordMillis : Int := 2 ^ 63 - 1

/-- What holds of the decision on a message that was published at one time and is judged at
another. -/
structure Exact (published now : Timestamp) (limit : Span) : Prop where
  /-- A dead letter is made exactly when the message is older than the limit. -/
  decision : RetryDecision.of published now limit = .deadLetter ↔
    published.toNanos + limit.toNanos < now.toNanos
  /-- The difference of the two times fits in a word, counted in seconds and in milliseconds. -/
  fits : -wordMillis ≤ (Timestamp.difference published now).1 * 1000 ∧
    ((Timestamp.difference published now).1 + 1) * 1000 ≤ wordMillis
  /-- No age is cut off: it is the difference, or zero where that is negative. -/
  age : ((messageAge published now).toNanos : Int) = max (now.toNanos - published.toNanos) 0
  converted : published.toNanos ≤ now.toNanos → ∃ d, Timestamp.elapsed? published now = some d ∧
    messageAge published now = d ∧ (d.secs : Int) = (Timestamp.difference published now).1 ∧
      d.nanos = (Timestamp.difference published now).2
  /-- A dead letter stays one at every later time. -/
  later : ∀ now' : Timestamp, now.toNanos ≤ now'.toNanos →
    RetryDecision.of published now limit = .deadLetter →
      RetryDecision.of published now' limit = .deadLetter
  /-- A dead letter is one for every smaller limit. -/
  smaller : ∀ limit' : Span, limit' ≤ limit →
    RetryDecision.of published now limit = .deadLetter →
      RetryDecision.of published now limit' = .deadLetter

theorem of_eq_deadLetter_iff (published now : Timestamp) (limit : Span) :
    RetryDecision.of published now limit = .deadLetter ↔
      published.toNanos + limit.toNanos < now.toNanos := by
  rw [of_eq]
  unfold ageNanos
  split
  · rename_i young
    constructor
    · intro h
      cases h
    · intro old
      omega
  · rename_i old
    constructor
    · intro _
      omega
    · intro _
      rfl

/-- **The retry decision is exact**, for all times of the range and all limits. -/
theorem exactly (published now : Timestamp) (limit : Span) : Exact published now limit where
  decision := of_eq_deadLetter_iff published now limit
  fits := by
    have bounds := Timestamp.difference_secs_bounds published now
    unfold wordMillis
    omega
  age := by
    rw [toNanos_messageAge]
    unfold ageNanos
    omega
  converted := by
    intro past
    have exact_ := Timestamp.difference_exact published now
    have nanos := Timestamp.difference_nanos_lt published now
    have ahead : 0 ≤ (Timestamp.difference published now).1 := by omega
    obtain ⟨d, converts, secs, rest⟩ := Timestamp.ofParts?_difference ahead
    have elapsed : Timestamp.elapsed? published now = some d := by
      rw [Timestamp.elapsed?_eq_difference, if_pos ahead, converts]
    refine ⟨d, elapsed, ?_, secs, rest⟩
    rw [messageAge, elapsed, Option.getD_some]
  later := by
    intro now' after dead
    rw [of_eq_deadLetter_iff] at dead ⊢
    omega
  smaller := by
    intro limit' less dead
    rw [Span.le_iff_toNanos_le] at less
    rw [of_eq_deadLetter_iff] at dead ⊢
    omega

/-- At the ends of the range the last nanosecond decides. -/
example :
    RetryDecision.of ⟨-8334601228800, 0, by decide, by decide, by decide⟩ .last
        ⟨16544868105599, 999999999, by decide, by decide⟩ = .redeliver ∧
      RetryDecision.of ⟨-8334601228800, 0, by decide, by decide, by decide⟩ .last
        ⟨16544868105599, 999999998, by decide, by decide⟩ = .deadLetter := by
  decide

end RetryDecision

end MessageChannels
