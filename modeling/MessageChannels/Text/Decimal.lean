/-!
# Whole numbers and their decimal texts

Whole numbers are written without leading zeros and with a sign only where negative. Reading takes
what configuration files and attributes hold: one optional sign and then digits only, within the
limits of the number's type.

A power of a whole number, such as a limit `2 ^ 64` or a unit `10 ^ 9`, is the core library's in all
of this library, also in the modules of its theory, where algebra offers powers of its own.
-/

set_option autoImplicit false

namespace MessageChannels

attribute [instance(2000), default_instance 20000] instPowNat

namespace Decimal

/-- The value of an ASCII digit. -/
def digit? (c : Char) : Option Nat :=
  if '0' ≤ c ∧ c ≤ '9' then some (c.toNat - '0'.toNat) else none

/-- The number that digits denote, after a number read so far; none if a character is no digit. -/
def digits? : Nat → List Char → Option Nat
  | n, [] => some n
  | n, c :: cs =>
    match digit? c with
    | some d => digits? (10 * n + d) cs
    | none => none

/-- The number that one or more digits denote. -/
def natural? : List Char → Option Nat
  | [] => none
  | cs => digits? 0 cs

/-- The integer that an optional sign and digits denote. -/
def integer? : List Char → Option Int
  | '+' :: cs => (natural? cs).map Int.ofNat
  | '-' :: cs => (natural? cs).map fun n => -Int.ofNat n
  | cs => (natural? cs).map Int.ofNat

/-- The integers of a numeric type. -/
structure Range where
  least : Int
  greatest : Int
  deriving DecidableEq

/-- Signed integers of so many bits. -/
def Range.signed (bits : Nat) : Range := ⟨-2 ^ (bits - 1), 2 ^ (bits - 1) - 1⟩

/-- Unsigned integers of so many bits. -/
def Range.unsigned (bits : Nat) : Range := ⟨0, 2 ^ bits - 1⟩

/-- Whether a text of a range may begin with a minus sign. -/
def Range.admitsMinus (r : Range) : Bool := decide (r.least < 0)

/-- The number of a range that a text denotes: an optional sign, one or more digits, nothing else. A
range without negative numbers takes no minus sign, not even before zero. -/
def read? (r : Range) (text : String) : Option Int :=
  if text.toList.head? = some '-' ∧ r.admitsMinus = false then none
  else
    match integer? text.toList with
    | some n => if r.least ≤ n ∧ n ≤ r.greatest then some n else none
    | none => none

/-- A number in at least so many digits, zeros in front. -/
def padded (width n : Nat) : String :=
  let digits := toString n
  String.ofList (List.replicate (width - digits.length) '0') ++ digits

end Decimal

end MessageChannels
