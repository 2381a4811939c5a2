import MessageChannels.Text.Decimal
import MessageChannels.Time.Timestamp

/-!
# Dates, and times in words

The day of a timestamp in the proleptic Gregorian calendar, the way a timestamp is written (date,
`T`, time of day and the fraction in the least of 0, 3, 6 or 9 places that keeps it, `Z`), and the
way a span is written (in the largest unit it fills, with as many places as it needs).
-/

set_option autoImplicit false

namespace MessageChannels

/-- A day of the proleptic Gregorian calendar. -/
structure Date where
  year : Int
  month : Nat
  day : Nat
  deriving DecidableEq

/-- The date so many days after 1970-01-01. Years are taken to begin in March, so that a leap day is
the last day of its year, and in cycles of 400 years, each of 146097 days. -/
def Date.ofDays (days : Int) : Date :=
  let shifted := days + 719468
  let cycle := shifted / 146097
  let dayOfCycle := (shifted % 146097).toNat
  let yearOfCycle :=
    (dayOfCycle - dayOfCycle / 1460 + dayOfCycle / 36524 - dayOfCycle / 146096) / 365
  let dayOfYear := dayOfCycle - (365 * yearOfCycle + yearOfCycle / 4 - yearOfCycle / 100)
  let monthFromMarch := (5 * dayOfYear + 2) / 153
  let day := dayOfYear - (153 * monthFromMarch + 2) / 5 + 1
  let month := if monthFromMarch < 10 then monthFromMarch + 3 else monthFromMarch - 9
  let year : Int := yearOfCycle + cycle * 400
  ⟨if month ≤ 2 then year + 1 else year, month, day⟩

/-- A year in four digits, or signed and in at least four digits if it needs more or a minus. -/
def Date.yearText (year : Int) : String :=
  if 0 ≤ year ∧ year ≤ 9999 then Decimal.padded 4 year.toNat
  else (if year < 0 then "-" else "+") ++ Decimal.padded 4 year.natAbs

/-- A date as year, month and day. -/
def Date.text (d : Date) : String :=
  yearText d.year ++ "-" ++ Decimal.padded 2 d.month ++ "-" ++ Decimal.padded 2 d.day

namespace Timestamp

/-- The fraction of a second in the least of 0, 3, 6 or 9 places that keeps it. -/
def fractionText (nanos : Nat) : String :=
  if nanos = 0 then ""
  else if nanos % 10 ^ 6 = 0 then "." ++ Decimal.padded 3 (nanos / 10 ^ 6)
  else if nanos % 10 ^ 3 = 0 then "." ++ Decimal.padded 6 (nanos / 10 ^ 3)
  else "." ++ Decimal.padded 9 nanos

/-- A timestamp as date, time of day and zone. -/
def text (t : Timestamp) : String :=
  let second := (t.secs % 86400).toNat
  (Date.ofDays (t.secs / 86400)).text
    ++ "T" ++ Decimal.padded 2 (second / 3600)
    ++ ":" ++ Decimal.padded 2 (second / 60 % 60)
    ++ ":" ++ Decimal.padded 2 (second % 60)
    ++ fractionText t.nanos ++ "Z"

end Timestamp

namespace Span

/-- A number with a fraction of so many places, zeros at its end left out. -/
def decimalText (whole fraction places : Nat) : String :=
  let digits := (Decimal.padded places fraction).toList
  let kept := (digits.reverse.dropWhile (· = '0')).reverse
  toString whole ++ (if kept = [] ∨ places = 0 then "" else "." ++ String.ofList kept)

/-- A span in the largest unit that it fills. -/
def text (d : Span) : String :=
  if 0 < d.secs then decimalText d.secs d.nanos 9 ++ "s"
  else if 10 ^ 6 ≤ d.nanos then decimalText (d.nanos / 10 ^ 6) (d.nanos % 10 ^ 6) 6 ++ "ms"
  else if 10 ^ 3 ≤ d.nanos then decimalText (d.nanos / 10 ^ 3) (d.nanos % 10 ^ 3) 3 ++ "µs"
  else toString d.nanos ++ "ns"

end Span

end MessageChannels
