import MessageChannels.Text.Decimal

/-!
# Binary floating-point numbers of 64 bits

A finite double is an exact multiple of the least positive one, 2^-1074: a sign and a number of
such units. Every operation is exact arithmetic on units followed by one rounding to the nearest
double, a tie going to the even one. `representable_nearest` says that rounding ends on a double,
so a finite double carries the proof that its units are one.
-/

set_option autoImplicit false

namespace MessageChannels

/-- The number of units of 2^1024, past which there is no finite double. -/
def unitsLimit : Nat := 2 ^ 2098

/-- A number of units below 2^1024 that 53 significant bits hold. -/
def Representable (units : Nat) : Prop :=
  units < unitsLimit ∧ ∃ m e : Nat, m < 2 ^ 53 ∧ units = m * 2 ^ e

/-- A double: not a number, an infinity, or a sign and a number of units of 2^-1074. -/
inductive Binary64 where
  | nan
  | infinity (negative : Bool)
  | finite (negative : Bool) (units : Nat) (exact : Representable units)
  deriving DecidableEq

namespace Binary64

/-- The distance between neighbouring doubles at a number of units. -/
def spacing (units : Nat) : Nat := 2 ^ (units.log2 - 52)

/-- A quotient of whole numbers rounded to whole numbers, a tie to the even one. -/
def roundedQuotient (num den : Nat) : Nat :=
  let k := num / den
  let rest := num % den
  if den < 2 * rest ∨ (2 * rest = den ∧ k % 2 = 1) then k + 1 else k

/-- The number of units next to a quotient among those with 53 significant bits. -/
def nearest (num den : Nat) : Nat :=
  roundedQuotient num (den * spacing (num / den)) * spacing (num / den)

theorem roundedQuotient_le (num den : Nat) : roundedQuotient num den ≤ num / den + 1 := by
  simp only [roundedQuotient]
  split <;> omega

theorem exists_mul_eq_nearest (num den : Nat) :
    ∃ m e : Nat, m < 2 ^ 53 ∧ nearest num den = m * 2 ^ e := by
  have hq : num / (den * spacing (num / den)) < 2 ^ 53 := by
    rw [← Nat.div_div_eq_div_mul]
    apply Nat.div_lt_of_lt_mul
    calc num / den < 2 ^ ((num / den).log2 + 1) := Nat.lt_log2_self
      _ ≤ 2 ^ ((num / den).log2 - 52 + 53) := Nat.pow_le_pow_right (by decide) (by omega)
      _ = spacing (num / den) * 2 ^ 53 := by rw [Nat.pow_add, spacing]
  have hk := roundedQuotient_le num (den * spacing (num / den))
  rcases Nat.lt_or_ge (roundedQuotient num (den * spacing (num / den))) (2 ^ 53) with h | h
  · exact ⟨_, _, h, rfl⟩
  · refine ⟨1, 53 + ((num / den).log2 - 52), by decide, ?_⟩
    have : roundedQuotient num (den * spacing (num / den)) = 2 ^ 53 := by omega
    rw [nearest, this, Nat.one_mul, Nat.pow_add, spacing]

/-- What rounding ends on is a double unless it is past the greatest one. -/
theorem representable_nearest (num den : Nat) (h : nearest num den < unitsLimit) :
    Representable (nearest num den) :=
  ⟨h, exists_mul_eq_nearest num den⟩

/-- The double next to a quotient of units. -/
def ofUnits (negative : Bool) (num den : Nat) : Binary64 :=
  if h : nearest num den < unitsLimit then
    finite negative (nearest num den) (representable_nearest num den h)
  else infinity negative

/-- The double next to a natural number. -/
def ofNat (n : Nat) : Binary64 := ofUnits false (n * 2 ^ 1074) 1

/-- The double next to an integer. -/
def ofInt (n : Int) : Binary64 := ofUnits (decide (n < 0)) (n.natAbs * 2 ^ 1074) 1

/-- The number with the other sign. -/
def neg : Binary64 → Binary64
  | nan => nan
  | infinity s => infinity !s
  | finite s u h => finite (!s) u h

/-- The rounded product. -/
def mul : Binary64 → Binary64 → Binary64
  | nan, _ => nan
  | _, nan => nan
  | infinity s, infinity t => infinity (s != t)
  | infinity s, finite t u _ => if u = 0 then nan else infinity (s != t)
  | finite s u _, infinity t => if u = 0 then nan else infinity (s != t)
  | finite s u _, finite t v _ => ofUnits (s != t) (u * v) (2 ^ 1074)

/-- The rounded quotient. -/
def div : Binary64 → Binary64 → Binary64
  | nan, _ => nan
  | _, nan => nan
  | infinity _, infinity _ => nan
  | infinity s, finite t _ _ => infinity (s != t)
  | finite s _ _, infinity t => ofUnits (s != t) 0 1
  | finite s u _, finite t v _ =>
    if v = 0 then (if u = 0 then nan else infinity (s != t))
    else ofUnits (s != t) (u * 2 ^ 1074) v

/-- The power by repeated squaring: for each bit of the exponent, lowest first, the result takes the
square reached as a factor if the bit is set. Every product is rounded. -/
def powLoop (square result : Binary64) (n : Nat) : Binary64 :=
  let result' := if n % 2 = 1 then result.mul square else result
  if h : n / 2 = 0 then result' else powLoop (square.mul square) result' (n / 2)
termination_by n
decreasing_by omega

/-- A power with a natural exponent. -/
def pow (x : Binary64) (n : Nat) : Binary64 := powLoop x (ofNat 1) n

/-- Whether a number is neither infinite nor not a number. -/
def isFinite : Binary64 → Bool
  | finite _ _ _ => true
  | _ => false

/-- Whether a number is an infinity. -/
def isInfinite : Binary64 → Bool
  | infinity _ => true
  | _ => false

/-- Whether a number is a zero of either sign. -/
def isZero : Binary64 → Bool
  | finite _ u _ => u == 0
  | _ => false

/-- The signed number of units. -/
def signedUnits (negative : Bool) (units : Nat) : Int :=
  if negative then -Int.ofNat units else Int.ofNat units

/-- Whether one number is less than another; never, if either is not a number. -/
def lt : Binary64 → Binary64 → Bool
  | nan, _ => false
  | _, nan => false
  | infinity s, infinity t => s && !t
  | infinity s, finite _ _ _ => s
  | finite _ _ _, infinity t => !t
  | finite s u _, finite t v _ => decide (signedUnits s u < signedUnits t v)

/-- The whole part as an unsigned number of 64 bits: zero for negative numbers and for what is not a
number, the greatest one for all that are too great. -/
def toUnsigned64 : Binary64 → Nat
  | nan => 0
  | infinity s => if s then 0 else 2 ^ 64 - 1
  | finite s u _ => if s then 0 else min (u / 2 ^ 1074) (2 ^ 64 - 1)

end Binary64

end MessageChannels
