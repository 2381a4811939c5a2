import MessageChannels.Backoff
import MessageChannels.Proofs.Binary64.Rounding

/-!
# How delays grow

A delay is a double counting milliseconds until it is compared with the cap and cut to whole
milliseconds (`bounded`). Whatever the product of delay and power comes to, it is a double, so being
less than the rounded cap it is less than the cap (`bounded_le`), and `capped` holds of every policy
and every attempt. With the factor two the product is exact until it overflows, past every cap, and
the delays double up to the cap (`doubles`). Only a policy without an initial delay overflows in
another way: zero times an infinite power is not a number, and the delay is the cap.
-/

set_option autoImplicit false

namespace MessageChannels

namespace Span

theorem toNanos_ofMillis {millis : Nat} (fits : millis / 1000 < 2 ^ 64) :
    (ofMillis millis).toNanos = millis * 10 ^ 6 := by
  unfold ofMillis
  rw [dif_pos fits]
  unfold toNanos
  dsimp only
  omega

/-- The whole milliseconds of a span are not more than the span. -/
theorem toMillis_mul_le (d : Span) : d.toMillis * 10 ^ 6 ≤ d.toNanos := by
  unfold toMillis toNanos
  omega

/-- A length of whole milliseconds that a double counts exactly. -/
structure WholeMillis (d : Span) : Prop where
  whole : d.nanos % 10 ^ 6 = 0
  counted : d.toMillis < 2 ^ 53

theorem WholeMillis.toNanos_eq {d : Span} (millis : d.WholeMillis) :
    d.toNanos = d.toMillis * 10 ^ 6 := by
  have whole := millis.whole
  unfold toMillis toNanos
  omega

end Span

namespace BackoffPolicy

open Binary64

/-- The milliseconds after an attempt, before they are compared with the cap. -/
def grown (p : BackoffPolicy) (attempt : Nat) : Binary64 :=
  (ofNat p.initialDelay.toMillis).mul (p.multiplier.pow (min attempt maxExponent))

/-- A number of milliseconds as a delay: if it is a finite number below the cap, cut to whole ones,
else the cap. -/
def bounded (p : BackoffPolicy) (millis : Binary64) : Span :=
  if millis.isFinite && millis.lt (ofNat p.maxDelay.toMillis) then Span.ofMillis millis.toUnsigned64
  else p.maxDelay

theorem delay_eq (p : BackoffPolicy) (attempt : Nat) :
    p.delay attempt = p.bounded (p.grown attempt) := rfl

/-! ## The cap -/

/-- The whole part of a double below the cap, as a word, is not more than the cap. -/
theorem toUnsigned64_le {millis : Binary64} {cap : Nat} (isFinite : millis.isFinite = true)
    (lt : millis.lt (ofNat cap) = true) : millis.toUnsigned64 ≤ cap := by
  cases millis with
  | nan => cases isFinite
  | infinity negative => cases isFinite
  | finite negative units fits =>
    cases negative with
    | true => exact Nat.zero_le cap
    | false =>
      have below := lt_of_lt_ofNat lt
      rw [Nat.mul_comm] at below
      rw [toUnsigned64_finite]
      exact Nat.le_trans (Nat.min_le_left _ _) (Nat.le_of_lt (Nat.div_lt_of_lt_mul below))

theorem toUnsigned64_lt (millis : Binary64) : millis.toUnsigned64 < 2 ^ 64 := by
  unfold toUnsigned64
  split
  · decide
  · split <;> decide
  · split
    · decide
    · omega

/-- Whatever number of milliseconds comes out, the delay is not longer than the cap. -/
theorem bounded_le (p : BackoffPolicy) (millis : Binary64) :
    (p.bounded millis).toNanos ≤ p.maxDelay.toNanos := by
  unfold bounded
  split
  · rename_i below
    obtain ⟨isFinite, lt⟩ := Bool.and_eq_true_iff.1 below
    have word := toUnsigned64_lt millis
    rw [Span.toNanos_ofMillis (by omega)]
    calc millis.toUnsigned64 * 10 ^ 6
        ≤ p.maxDelay.toMillis * 10 ^ 6 := Nat.mul_le_mul_right _ (toUnsigned64_le isFinite lt)
      _ ≤ p.maxDelay.toNanos := p.maxDelay.toMillis_mul_le
  · exact Nat.le_refl _

/-- What holds of the delay after an attempt. -/
structure Capped (p : BackoffPolicy) (attempt : Nat) : Prop where
  /-- It is not longer than the cap, to the nanosecond. -/
  exact : (p.delay attempt).toNanos ≤ p.maxDelay.toNanos
  compared : p.delay attempt ≤ p.maxDelay
  /-- It would not be, whatever the power and the product were rounded to. -/
  rounded : ∀ millis : Binary64, p.bounded millis ≤ p.maxDelay

/-- **No delay is longer than the cap**, for every policy and every attempt. -/
theorem capped (p : BackoffPolicy) (attempt : Nat) : Capped p attempt where
  exact := by
    rw [delay_eq]
    exact p.bounded_le _
  compared := by
    rw [delay_eq, Span.le_iff_toNanos_le]
    exact p.bounded_le _
  rounded := by
    intro millis
    rw [Span.le_iff_toNanos_le]
    exact p.bounded_le millis

/-! ## Doubling -/

variable {p : BackoffPolicy} {attempt : Nat}

/-- A whole number of milliseconds that 53 bits hold is compared with the cap exactly. -/
theorem bounded_ofNat {millis : Nat} (bits : IsSignificant millis)
    (counted : p.maxDelay.toMillis < 2 ^ 53) :
    p.bounded (ofNat millis)
      = if millis < p.maxDelay.toMillis then Span.ofMillis millis else p.maxDelay := by
  unfold bounded
  rw [ofNat_of_lt (representable_of_lt counted)]
  rcases ofNat_cases bits with ⟨fits, exact_⟩ | ⟨great, infinite⟩
  · rw [exact_, whole_lt, toUnsigned64_whole]
    by_cases below : millis < p.maxDelay.toMillis
    · have word : min millis (2 ^ 64 - 1) = millis := by omega
      rw [decide_eq_true below, word, if_pos below]
      rfl
    · rw [decide_eq_false below, if_neg below]
      rfl
  · have past : ¬ millis < p.maxDelay.toMillis := by
      intro below
      have small := (representable_of_lt (Nat.lt_trans below counted)).1
      exact Nat.not_le_of_lt small great
    rw [infinite, if_neg past]
    rfl

/-- Doubling is exact, up to infinity, unless zero is multiplied with infinity. -/
theorem grown_eq (two : p.multiplier = ofNat 2) (counted : p.initialDelay.toMillis < 2 ^ 53)
    (apart : 0 < p.initialDelay.toMillis ∨ attempt < 1024) :
    p.grown attempt = ofNat (p.initialDelay.toMillis * 2 ^ min attempt maxExponent) := by
  unfold grown
  rw [two, pow_two]
  generalize p.initialDelay.toMillis = millis at counted apart
  rcases Nat.eq_zero_or_pos millis with rfl | pos
  · have early : min attempt maxExponent < 1024 := by
      have := apart.resolve_left (Nat.lt_irrefl 0)
      omega
    rw [ofNat_of_lt (representable_pow early), zero_mul_finite, Nat.zero_mul]
  · apply ofNat_mul
    · exact isSignificant_of_lt counted
    · exact isSignificant_pow _
    · exact (isSignificant_of_lt counted).shift _
    · exact pos
    · exact Nat.two_pow_pos _

/-- Without an initial delay the product is not a number once the power is infinite. -/
theorem grown_zero (two : p.multiplier = ofNat 2) (none_ : p.initialDelay = Span.zero)
    (late : 1024 ≤ attempt) : p.grown attempt = nan := by
  have exponent : 1024 ≤ min attempt maxExponent := by
    unfold maxExponent
    omega
  unfold grown
  rw [two, pow_two, ofNat_of_ge (isSignificant_pow _) (unitsLimit_le_pow exponent), none_]
  exact zero_mul_infinity false

theorem delay_of_zero (two : p.multiplier = ofNat 2) (none_ : p.initialDelay = Span.zero)
    (late : 1024 ≤ attempt) : p.delay attempt = p.maxDelay := by
  rw [delay_eq, grown_zero two none_ late]
  rfl

/-- The delay that whole milliseconds stand for, in nanoseconds. -/
theorem toNanos_bounded_ofNat {millis : Nat} (bits : IsSignificant millis)
    (cap : p.maxDelay.WholeMillis) :
    (p.bounded (ofNat millis)).toNanos = min millis p.maxDelay.toMillis * 10 ^ 6 := by
  have counted := cap.counted
  rw [bounded_ofNat bits counted]
  split
  · rename_i below
    rw [Span.toNanos_ofMillis (by omega), Nat.min_eq_left (Nat.le_of_lt below)]
  · rename_i past
    rw [cap.toNanos_eq, Nat.min_eq_right (Nat.not_lt.1 past)]

/-- Where the exponent is cut off, the doubled delay is past the cap. -/
theorem min_pow_maxExponent {millis cap : Nat} (counted : cap < 2 ^ 53)
    (apart : 0 < millis ∨ attempt < 1024) :
    min (millis * 2 ^ min attempt maxExponent) cap = min (millis * 2 ^ attempt) cap := by
  rcases Nat.le_total attempt maxExponent with within | beyond
  · rw [Nat.min_eq_left within]
  · have pos : 0 < millis := by
      apply apart.resolve_right
      unfold maxExponent at beyond
      omega
    have past {e : Nat} (far : maxExponent ≤ e) : cap ≤ millis * 2 ^ e := by
      calc cap ≤ 2 ^ 53 := Nat.le_of_lt counted
        _ ≤ 2 ^ e := Nat.pow_le_pow_right (by decide) (Nat.le_trans (by decide) far)
        _ ≤ millis * 2 ^ e := Nat.le_mul_of_pos_left _ pos
    rw [Nat.min_eq_right beyond, Nat.min_eq_right (past (Nat.le_refl _)),
      Nat.min_eq_right (past beyond)]

/-- What holds of the delays of a policy that doubles them. -/
structure Doubling (p : BackoffPolicy) (attempt : Nat) : Prop where
  /-- The delay is the doubled one or the cap, in exact nanoseconds. -/
  exact : p.initialDelay ≠ Span.zero ∨ attempt < 1024 →
    (p.delay attempt).toNanos = min (p.initialDelay.toNanos * 2 ^ attempt) p.maxDelay.toNanos
  /-- Without an initial delay, it jumps from nothing to the cap. -/
  jumps : p.initialDelay = Span.zero → 1024 ≤ attempt → p.delay attempt = p.maxDelay

/-- **Delays double up to the cap**, for every policy with the factor two whose delays are whole
milliseconds below 2^53, and every attempt; only that no delay at all becomes the cap once the power
is infinite. -/
theorem doubles (p : BackoffPolicy) (attempt : Nat) (two : p.multiplier = ofNat 2)
    (initial : p.initialDelay.WholeMillis) (cap : p.maxDelay.WholeMillis) :
    Doubling p attempt where
  exact := by
    intro apart
    have some_ : 0 < p.initialDelay.toMillis ∨ attempt < 1024 := by
      apply apart.imp_left
      intro nonzero
      apply Nat.pos_of_ne_zero
      intro none_
      apply nonzero
      apply Span.ext_toNanos
      rw [initial.toNanos_eq, none_]
      rfl
    have bits := (isSignificant_of_lt initial.counted).shift (min attempt maxExponent)
    calc (p.delay attempt).toNanos
        = (p.bounded (ofNat (p.initialDelay.toMillis * 2 ^ min attempt maxExponent))).toNanos := by
          rw [delay_eq, grown_eq two initial.counted some_]
      _ = min (p.initialDelay.toMillis * 2 ^ min attempt maxExponent) p.maxDelay.toMillis
            * 10 ^ 6 := toNanos_bounded_ofNat bits cap
      _ = min (p.initialDelay.toMillis * 2 ^ attempt) p.maxDelay.toMillis * 10 ^ 6 := by
          rw [min_pow_maxExponent cap.counted some_]
      _ = min (p.initialDelay.toNanos * 2 ^ attempt) p.maxDelay.toNanos := by
          rw [initial.toNanos_eq, cap.toNanos_eq, Nat.mul_right_comm, Nat.mul_min_mul_right]
  jumps := delay_of_zero two

/-- The ninth delay of the standard policy is the last that the cap does not shorten. -/
theorem doubles_standard :
    standard.multiplier = ofNat 2 ∧ standard.initialDelay.WholeMillis ∧
      standard.maxDelay.WholeMillis ∧ (standard.delay 8).toNanos = 25600 * 10 ^ 6 ∧
      (standard.delay 9).toNanos = 30000 * 10 ^ 6 := by
  have two : standard.multiplier = ofNat 2 := by dsimp only [standard]
  have initial : standard.initialDelay.WholeMillis := ⟨by decide, by decide⟩
  have cap : standard.maxDelay.WholeMillis := ⟨by decide, by decide⟩
  refine ⟨two, initial, cap, ?_, ?_⟩
  · exact ((doubles standard 8 two initial cap).exact (Or.inr (by decide))).trans (by decide)
  · exact ((doubles standard 9 two initial cap).exact (Or.inr (by decide))).trans (by decide)

/-- No delay does not stay none when it is doubled: a policy that starts without one waits thirty
seconds once the power is infinite. -/
theorem zero_jumps :
    ¬ ∀ (p : BackoffPolicy) (attempt : Nat), p.multiplier = ofNat 2 →
      p.initialDelay.WholeMillis → p.maxDelay.WholeMillis →
        (p.delay attempt).toNanos
          = min (p.initialDelay.toNanos * 2 ^ attempt) p.maxDelay.toNanos := by
  intro all
  have two : { standard with initialDelay := Span.zero }.multiplier = ofNat 2 := by
    dsimp only [standard]
  have zero : Span.zero.toNanos = 0 := rfl
  obtain ⟨attempt, late⟩ : ∃ attempt, 1024 ≤ attempt := ⟨1024, Nat.le_refl 1024⟩
  have doubled := all { standard with initialDelay := Span.zero } attempt two
    ⟨by decide, by decide⟩ ⟨by decide, by decide⟩
  rw [delay_of_zero two rfl late, zero, Nat.zero_mul, Nat.zero_min] at doubled
  revert doubled
  decide

end BackoffPolicy

end MessageChannels
