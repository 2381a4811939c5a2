import MessageChannels.Binary64.Basic

/-!
# The shortest decimal that reads back

Between a double and each of its neighbours lies a halfway point; the decimals between the two
halfway points read back as that double (the points themselves only if its significand is even).
`shortest` finds the least number of digits with which one of them is written, and of those
decimals the nearest to the double. `FloatFormat` holds what a text format decides on its own: where
positional writing ends, which way a tie goes and how an exponent is written.
-/

set_option autoImplicit false

namespace MessageChannels

namespace Binary64

/-- A positive decimal: digits times a power of ten. -/
structure Decimal where
  digits : Nat
  exponent : Int
  deriving DecidableEq

/-- The two halfway points around a number of units, in quarters of a unit. -/
def halfwayPoints (units : Nat) : Nat × Nat :=
  let gap := spacing units
  let below := if units = 2 ^ units.log2 ∧ 53 ≤ units.log2 then gap else 2 * gap
  (4 * units - below, 4 * units + 2 * gap)

/-- Whether a decimal lies between the halfway points of a number of units. -/
def readsBack (units : Nat) (d : Decimal) : Bool :=
  let (low, high) := halfwayPoints units
  let up := d.digits * 10 ^ d.exponent.toNat * 2 ^ 1076
  let scale := 10 ^ (-d.exponent).toNat
  if units / spacing units % 2 = 0 then decide (low * scale ≤ up) && decide (up ≤ high * scale)
  else decide (low * scale < up) && decide (up < high * scale)

/-- The exponent of the first digit of a number of units below one: the least number of places,
counted from `places`, that brings it to one. -/
def placesToOne : Nat → Nat → Nat → Nat
  | 0, places, _ => places
  | fuel + 1, places, units =>
    if 2 ^ 1074 ≤ units * 10 then places + 1 else placesToOne fuel (places + 1) (units * 10)

/-- The exponent of the first decimal digit of a positive number of units. -/
def leadingExponent (units : Nat) : Int :=
  if 2 ^ 1074 ≤ units then ((Nat.toDigits 10 (units / 2 ^ 1074)).length : Int) - 1
  else -(placesToOne 400 0 units : Int)

/-- The whole number below a positive number of units over a power of ten. -/
def scaledDown (units : Nat) (exponent : Int) : Nat :=
  units * 10 ^ (-exponent).toNat / (2 ^ 1074 * 10 ^ exponent.toNat)

/-- How a text format writes numbers: positional while the decimal point comes after place
`leastPoint` and not after place `greatestPoint`, counted from the first digit; which way a number
exactly between two shortest decimals goes; and whether a plus sign stands before an exponent that
is not negative. -/
structure FloatFormat where
  leastPoint : Int
  greatestPoint : Int
  tieToEven : Bool
  plusSign : Bool
  deriving DecidableEq

/-- Whether the lower of the two decimals around a number of units is the one to write. -/
def prefersLow (format : FloatFormat) (units : Nat) (low : Decimal) : Bool :=
  let twice := 2 * (units * 10 ^ (-low.exponent).toNat)
  let middle := (2 * low.digits + 1) * (2 ^ 1074 * 10 ^ low.exponent.toNat)
  decide (twice < middle)
    || decide (twice = middle) && format.tieToEven && decide (low.digits % 2 = 0)

/-- The nearer of the two decimals around a number of units, of those that read back. -/
def candidate? (format : FloatFormat) (units : Nat) (exponent : Int) : Option Decimal :=
  let low : Decimal := ⟨scaledDown units exponent, exponent⟩
  let high : Decimal := ⟨low.digits + 1, exponent⟩
  match readsBack units low, readsBack units high with
  | true, true => some (if prefersLow format units low then low else high)
  | true, false => some low
  | false, true => some high
  | false, false => none

/-- The first decimal that reads back when the digits after the leading one grow in number. -/
def searchDigits (format : FloatFormat) (units : Nat) (leading : Int) : Nat → Nat → Decimal
  | 0, used => ⟨scaledDown units (leading - used), leading - used⟩
  | fuel + 1, used =>
    match candidate? format units (leading - used) with
    | some d => d
    | none => searchDigits format units leading fuel (used + 1)

/-- A decimal without zeros at its end. -/
def trimmed : Nat → Decimal → Decimal
  | 0, d => d
  | fuel + 1, d =>
    if d.digits ≠ 0 ∧ d.digits % 10 = 0 then trimmed fuel ⟨d.digits / 10, d.exponent + 1⟩
    else d

/-- The shortest decimal that reads back as a positive number of units. -/
def shortest (format : FloatFormat) (units : Nat) : Decimal :=
  trimmed 400 (searchDigits format units (leadingExponent units) 17 0)

/-- The text of a decimal. -/
def Decimal.text (format : FloatFormat) (d : Decimal) : String :=
  let digits := Nat.toDigits 10 d.digits
  let point : Int := digits.length + d.exponent
  if format.leastPoint < point ∧ point ≤ format.greatestPoint then
    if 0 ≤ d.exponent then
      String.ofList (digits ++ List.replicate d.exponent.toNat '0') ++ ".0"
    else if 0 < point then
      String.ofList (digits.take point.toNat ++ '.' :: digits.drop point.toNat)
    else
      "0." ++ String.ofList (List.replicate (-point).toNat '0' ++ digits)
  else
    let rest := digits.drop 1
    String.ofList (digits.take 1 ++ if rest = [] then [] else '.' :: rest)
      ++ (if format.plusSign ∧ 1 ≤ point then "e+" else "e") ++ toString (point - 1)

/-- The text of a number. -/
def text (format : FloatFormat) : Binary64 → String
  | nan => "NaN"
  | infinity negative => if negative then "-inf" else "inf"
  | finite negative units _ =>
    (if negative then "-" else "")
      ++ if units = 0 then "0.0" else (shortest format units).text format

/-- Diagnostic texts write numbers from 0.0001 up to below 10^16 positionally; a tie goes up, and an
exponent bears no plus sign. -/
def diagnostic : FloatFormat := ⟨-4, 16, false, false⟩

end Binary64

end MessageChannels
