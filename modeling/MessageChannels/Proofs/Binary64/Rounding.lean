import Mathlib.Algebra.GroupWithZero.Nat
import Mathlib.Tactic.Ring
import MessageChannels.Binary64.Basic

/-!
# What rounding keeps

Rounding goes to a multiple of the spacing of doubles at the number that is rounded, and every number
that 53 bits hold and that is not less than it is such a multiple (`spacing_dvd`). Two facts follow:
a number that 53 bits hold is rounded to itself (`nearest_mul`), and no number is rounded past one
above it that they hold (`nearest_le`). So products and powers are exact as long as 53 bits hold
them, until they overflow (`ofNat_mul`, `pow_two`), and a comparison with a whole number is not
misled by the rounding of that number (`lt_of_lt_ofNat`).
-/

set_option autoImplicit false

namespace MessageChannels.Binary64

/-- A number that 53 significant bits hold. -/
def IsSignificant (units : Nat) : Prop := ∃ m e : Nat, m < 2 ^ 53 ∧ units = m * 2 ^ e

theorem isSignificant_of_lt {n : Nat} (small : n < 2 ^ 53) : IsSignificant n :=
  ⟨n, 0, small, by rw [Nat.pow_zero, Nat.mul_one]⟩

theorem IsSignificant.shift {n : Nat} (bits : IsSignificant n) (k : Nat) :
    IsSignificant (n * 2 ^ k) := by
  obtain ⟨m, e, small, rfl⟩ := bits
  exact ⟨m, e + k, small, by rw [Nat.pow_add, Nat.mul_assoc]⟩

theorem isSignificant_pow (k : Nat) : IsSignificant (2 ^ k) := ⟨1, k, by decide, by rw [Nat.one_mul]⟩

theorem spacing_pos (units : Nat) : 0 < spacing units := Nat.two_pow_pos _

/-- Doubles that are not less than a number are multiples of the spacing there. -/
theorem spacing_dvd {n units : Nat} (bits : IsSignificant units) (le : n ≤ units) :
    spacing n ∣ units := by
  obtain ⟨m, e, small, rfl⟩ := bits
  unfold spacing
  rcases Nat.lt_or_ge e (n.log2 - 52) with coarse | fine
  · -- Then 53 bits at this exponent do not reach as far as the number.
    have reach : m * 2 ^ e < n := by
      calc m * 2 ^ e < 2 ^ 53 * 2 ^ e := Nat.mul_lt_mul_of_pos_right small (Nat.two_pow_pos e)
        _ = 2 ^ (53 + e) := (Nat.pow_add 2 53 e).symm
        _ ≤ 2 ^ n.log2 := Nat.pow_le_pow_right (by decide) (by omega)
        _ ≤ n := Nat.log2_self_le (by rintro rfl; simp at coarse)
    exact absurd le (Nat.not_le_of_lt reach)
  · exact Nat.dvd_mul_left_of_dvd (Nat.pow_dvd_pow 2 fine) m

/-- No quotient is rounded past a double above it. -/
theorem nearest_le {num den units : Nat} (pos : 0 < den) (bits : IsSignificant units)
    (le : num ≤ units * den) : nearest num den ≤ units := by
  have floor : num / den ≤ units := Nat.div_le_of_le_mul (by rwa [Nat.mul_comm])
  obtain ⟨k, split⟩ := spacing_dvd bits floor
  have gap := spacing_pos (num / den)
  unfold nearest
  generalize spacing (num / den) = step at split gap
  subst split
  rw [Nat.mul_comm step k]
  apply Nat.mul_le_mul_right
  have most : num ≤ k * (den * step) := by
    calc num ≤ step * k * den := le
      _ = k * (den * step) := by rw [Nat.mul_assoc, Nat.mul_comm step, Nat.mul_assoc]
  have cell : 0 < den * step := Nat.mul_pos pos gap
  have below : num / (den * step) ≤ k := Nat.div_le_of_le_mul (by rwa [Nat.mul_comm])
  simp only [roundedQuotient]
  split
  · rename_i up
    -- Something is left over, so the quotient is below the double.
    have rest : 0 < num % (den * step) := by omega
    have whole := Nat.div_add_mod num (den * step)
    apply Nat.lt_of_le_of_ne below
    intro same
    rw [same, Nat.mul_comm] at whole
    omega
  · exact below

/-- A double is rounded to itself. -/
theorem nearest_mul {den units : Nat} (pos : 0 < den) (bits : IsSignificant units) :
    nearest (units * den) den = units := by
  have floor : units * den / den = units := Nat.mul_div_cancel units pos
  obtain ⟨k, split⟩ := spacing_dvd bits (Nat.le_refl units)
  have gap := spacing_pos units
  unfold nearest
  rw [floor]
  generalize spacing units = step at split gap
  subst split
  have cell : 0 < den * step := Nat.mul_pos pos gap
  have exact_ : step * k * den = k * (den * step) := by
    rw [Nat.mul_assoc, Nat.mul_comm step, Nat.mul_assoc]
  have quotient : roundedQuotient (step * k * den) (den * step) = k := by
    simp only [roundedQuotient]
    rw [exact_, Nat.mul_div_cancel k cell, Nat.mul_mod_left, if_neg (by omega)]
  rw [quotient, Nat.mul_comm]

theorem ofUnits_of_lt (negative : Bool) {den units : Nat} (pos : 0 < den)
    (fits : Representable units) : ofUnits negative (units * den) den = finite negative units fits := by
  have same := nearest_mul pos fits.2
  unfold ofUnits
  rw [dif_pos (by rw [same]; exact fits.1)]
  simp only [same]

theorem ofUnits_of_ge (negative : Bool) {den units : Nat} (pos : 0 < den)
    (bits : IsSignificant units) (great : unitsLimit ≤ units) :
    ofUnits negative (units * den) den = infinity negative := by
  have same := nearest_mul pos bits
  unfold ofUnits
  rw [dif_neg (by rw [same]; exact Nat.not_lt_of_le great)]

/-! ## Whole numbers -/

theorem mul_pow_lt {n : Nat} (a b c : Nat) (sum : a + b ≤ c) (small : n < 2 ^ a) :
    n * 2 ^ b < 2 ^ c := by
  calc n * 2 ^ b < 2 ^ a * 2 ^ b := Nat.mul_lt_mul_of_pos_right small (Nat.two_pow_pos b)
    _ = 2 ^ (a + b) := (Nat.pow_add 2 a b).symm
    _ ≤ 2 ^ c := Nat.pow_le_pow_right (by decide) sum

/-- A whole number below 2^53 is a double. -/
theorem representable_of_lt {n : Nat} (small : n < 2 ^ 53) : Representable (n * 2 ^ 1074) := by
  refine ⟨?_, (isSignificant_of_lt small).shift 1074⟩
  unfold unitsLimit
  exact mul_pow_lt 53 1074 2098 (by decide) small

/-- A whole number that 53 bits hold is itself as a double. -/
theorem ofNat_of_lt {n : Nat} (fits : Representable (n * 2 ^ 1074)) :
    ofNat n = finite false (n * 2 ^ 1074) fits := by
  have exact_ := ofUnits_of_lt false Nat.one_pos fits
  rw [Nat.mul_one] at exact_
  exact exact_

/-- From 2^1024 on it is infinite. -/
theorem ofNat_of_ge {n : Nat} (bits : IsSignificant n) (great : unitsLimit ≤ n * 2 ^ 1074) :
    ofNat n = infinity false := by
  have exact_ := ofUnits_of_ge false Nat.one_pos (bits.shift 1074) great
  rw [Nat.mul_one] at exact_
  exact exact_

/-- A whole number as a double is either itself or infinite. -/
theorem ofNat_cases {n : Nat} (bits : IsSignificant n) :
    (∃ fits : Representable (n * 2 ^ 1074), ofNat n = finite false (n * 2 ^ 1074) fits) ∨
      unitsLimit ≤ n * 2 ^ 1074 ∧ ofNat n = infinity false := by
  rcases Nat.lt_or_ge (n * 2 ^ 1074) unitsLimit with small | great
  · exact Or.inl ⟨⟨small, bits.shift 1074⟩, ofNat_of_lt _⟩
  · exact Or.inr ⟨great, ofNat_of_ge bits great⟩

theorem mul_finite {s t : Bool} {u v : Nat} (hu : Representable u) (hv : Representable v) :
    (finite s u hu).mul (finite t v hv) = ofUnits (s != t) (u * v) (2 ^ 1074) := rfl

theorem mul_infinity {s t : Bool} {u : Nat} (hu : Representable u) (pos : 0 < u) :
    (finite s u hu).mul (infinity t) = infinity (s != t) :=
  if_neg (Nat.ne_of_gt pos)

theorem infinity_mul {s t : Bool} {u : Nat} (hu : Representable u) (pos : 0 < u) :
    (infinity s).mul (finite t u hu) = infinity (s != t) :=
  if_neg (Nat.ne_of_gt pos)

theorem representable_zero : Representable 0 := by
  refine ⟨?_, isSignificant_of_lt (Nat.two_pow_pos 53)⟩
  unfold unitsLimit
  exact Nat.two_pow_pos 2098

theorem ofUnits_zero (negative : Bool) {den : Nat} (pos : 0 < den) :
    ofUnits negative 0 den = finite negative 0 representable_zero := by
  have exact_ := ofUnits_of_lt negative pos representable_zero
  rw [Nat.zero_mul] at exact_
  exact exact_

theorem ofNat_zero : ofNat 0 = finite false 0 representable_zero := by
  unfold ofNat
  generalize 2 ^ 1074 = one
  rw [Nat.zero_mul]
  exact ofUnits_zero false Nat.one_pos

/-- Zero times a finite number is zero. -/
theorem zero_mul_finite {v : Nat} (hv : Representable v) :
    (ofNat 0).mul (finite false v hv) = ofNat 0 := by
  rw [ofNat_zero, mul_finite, Nat.zero_mul]
  exact ofUnits_zero _ (Nat.two_pow_pos 1074)

/-- Zero times an infinity is not a number. -/
theorem zero_mul_infinity (t : Bool) : (ofNat 0).mul (infinity t) = nan := by
  rw [ofNat_zero]
  rfl

/-- A product of whole numbers that 53 bits hold is exact, until it overflows. -/
theorem ofNat_mul {a b : Nat} (ha : IsSignificant a) (hb : IsSignificant b)
    (hab : IsSignificant (a * b)) (posa : 0 < a) (posb : 0 < b) :
    (ofNat a).mul (ofNat b) = ofNat (a * b) := by
  have one : 0 < 2 ^ 1074 := Nat.two_pow_pos 1074
  have lea : a * 2 ^ 1074 ≤ a * b * 2 ^ 1074 :=
    Nat.mul_le_mul_right _ (Nat.le_mul_of_pos_right a posb)
  have leb : b * 2 ^ 1074 ≤ a * b * 2 ^ 1074 :=
    Nat.mul_le_mul_right _ (Nat.le_mul_of_pos_left b posa)
  have product : a * 2 ^ 1074 * (b * 2 ^ 1074) = a * b * 2 ^ 1074 * 2 ^ 1074 := by
    rw [Nat.mul_mul_mul_comm, Nat.mul_assoc (a * b)]
  rcases ofNat_cases ha with ⟨fitsa, asA⟩ | ⟨greata, asA⟩
  · rcases ofNat_cases hb with ⟨fitsb, asB⟩ | ⟨greatb, asB⟩
    · rw [asA, asB, mul_finite, product]
      -- Both factors are finite: their product is exact, or past the limit.
      rcases ofNat_cases hab with ⟨fits, asAB⟩ | ⟨great, asAB⟩
      · rw [asAB]
        exact ofUnits_of_lt _ one fits
      · rw [asAB]
        exact ofUnits_of_ge _ one (hab.shift 1074) great
    · rw [asA, asB, mul_infinity fitsa (Nat.mul_pos posa one),
        ofNat_of_ge hab (Nat.le_trans greatb leb)]
      rfl
  · rw [asA, ofNat_of_ge hab (Nat.le_trans greata lea)]
    rcases ofNat_cases hb with ⟨fitsb, asB⟩ | ⟨greatb, asB⟩
    · rw [asB, infinity_mul fitsb (Nat.mul_pos posb one)]
      rfl
    · rw [asB]
      rfl

/-! ## Powers of two -/

/-- Squaring again and again multiplies the exponents. -/
theorem powLoop_two (s r n : Nat) :
    powLoop (ofNat (2 ^ s)) (ofNat (2 ^ r)) n = ofNat (2 ^ (r + s * n)) := by
  have product (i j : Nat) : (ofNat (2 ^ i)).mul (ofNat (2 ^ j)) = ofNat (2 ^ (i + j)) := by
    rw [Nat.pow_add]
    apply ofNat_mul (isSignificant_pow i) (isSignificant_pow j)
    · rw [← Nat.pow_add]
      exact isSignificant_pow (i + j)
    · exact Nat.two_pow_pos i
    · exact Nat.two_pow_pos j
  induction n using Nat.strongRecOn generalizing s r with
  | ind n ih =>
    have factor : (if n % 2 = 1 then (ofNat (2 ^ r)).mul (ofNat (2 ^ s)) else ofNat (2 ^ r))
        = ofNat (2 ^ (r + s * (n % 2))) := by
      rcases Nat.mod_two_eq_zero_or_one n with even | odd
      · rw [even, if_neg (by decide), Nat.mul_zero, Nat.add_zero]
      · rw [odd, if_pos rfl, product, Nat.mul_one]
    rw [powLoop]
    simp only [factor]
    simp only [product]
    split
    · rename_i last
      have lowest : n % 2 = n := by omega
      rw [lowest]
    · rename_i more
      rw [ih (n / 2) (by omega)]
      congr 2
      calc r + s * (n % 2) + (s + s) * (n / 2) = r + s * (2 * (n / 2) + n % 2) := by ring
        _ = r + s * n := by rw [Nat.div_add_mod]

/-- A power of two is exact, until it overflows. -/
theorem pow_two (n : Nat) : (ofNat 2).pow n = ofNat (2 ^ n) := by
  have power := powLoop_two 1 0 n
  rw [Nat.one_mul, Nat.zero_add] at power
  exact power

/-- A power of two below 2^1024 is a double. -/
theorem representable_pow {k : Nat} (small : k < 1024) : Representable (2 ^ k * 2 ^ 1074) := by
  have next : 2 ^ k < 2 ^ (k + 1) := Nat.pow_lt_pow_right (by decide) (Nat.lt_succ_self k)
  refine ⟨?_, (isSignificant_pow k).shift 1074⟩
  unfold unitsLimit
  exact mul_pow_lt (k + 1) 1074 2098 (by omega) next

/-- From 2^1024 on it is past the greatest one. -/
theorem unitsLimit_le_pow {k : Nat} (great : 1024 ≤ k) : unitsLimit ≤ 2 ^ k * 2 ^ 1074 := by
  unfold unitsLimit
  calc 2 ^ 2098 ≤ 2 ^ (k + 1074) := Nat.pow_le_pow_right (by decide) (by omega)
    _ = 2 ^ k * 2 ^ 1074 := Nat.pow_add 2 k 1074

/-! ## Comparing with a whole number -/

theorem finite_lt {u v : Nat} (hu : Representable u) (hv : Representable v) :
    (finite false u hu).lt (finite false v hv) = decide (u < v) :=
  decide_eq_decide.2 Int.ofNat_lt

theorem toUnsigned64_finite {u : Nat} (hu : Representable u) :
    (finite false u hu).toUnsigned64 = min (u / 2 ^ 1074) (2 ^ 64 - 1) := rfl

/-- Doubles that are whole numbers compare as these. -/
theorem whole_lt {a b : Nat} (ha : Representable (a * 2 ^ 1074))
    (hb : Representable (b * 2 ^ 1074)) :
    (finite false (a * 2 ^ 1074) ha).lt (finite false (b * 2 ^ 1074) hb) = decide (a < b) := by
  rw [finite_lt, decide_eq_decide]
  constructor
  · intro less
    exact Nat.lt_of_mul_lt_mul_right less
  · intro less
    exact Nat.mul_lt_mul_of_pos_right less (Nat.two_pow_pos 1074)

/-- A double that is a whole number, as a word. -/
theorem toUnsigned64_whole {n : Nat} (fits : Representable (n * 2 ^ 1074)) :
    (finite false (n * 2 ^ 1074) fits).toUnsigned64 = min n (2 ^ 64 - 1) := by
  rw [toUnsigned64_finite, Nat.mul_div_cancel n (Nat.two_pow_pos 1074)]

/-- A double below a rounded whole number is below that number. -/
theorem lt_of_lt_ofNat {units n : Nat} {fits : Representable units}
    (lt : (finite false units fits).lt (ofNat n) = true) : units < n * 2 ^ 1074 := by
  have rounded : units < nearest (n * 2 ^ 1074) 1 := by
    unfold ofNat ofUnits at lt
    split at lt
    · rw [finite_lt] at lt
      exact of_decide_eq_true lt
    · rename_i past
      exact Nat.lt_of_lt_of_le fits.1 (Nat.not_lt.1 past)
  apply Nat.lt_of_not_le
  intro reached
  have back : nearest (n * 2 ^ 1074) 1 ≤ units := by
    apply nearest_le Nat.one_pos fits.2
    rw [Nat.mul_one]
    exact reached
  exact Nat.not_lt_of_le back rounded

end MessageChannels.Binary64
