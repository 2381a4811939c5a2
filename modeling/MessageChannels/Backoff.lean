import MessageChannels.Binary64.Shortest
import MessageChannels.Text.Quoted
import MessageChannels.Time.Calendar

/-!
# Growing delays

How often and how patiently a step of a service's start is tried again. The delay before a retry
grows by a factor with every attempt and never exceeds a cap. The arithmetic is that of doubles
counting milliseconds: a product that is not a finite number below the cap is the cap.
-/

set_option autoImplicit false

namespace MessageChannels

/-- How often a step is tried again and how long to wait before. -/
structure BackoffPolicy where
  /-- Retries after the first attempt. -/
  maxRetries : Nat
  /-- The delay before the first retry. -/
  initialDelay : Span
  /-- The longest delay. -/
  maxDelay : Span
  /-- The factor from one delay to the next. -/
  multiplier : Binary64
  deriving DecidableEq

namespace BackoffPolicy

/-- Three retries, after 100 milliseconds at first, doubling up to 30 seconds. -/
def standard : BackoffPolicy where
  maxRetries := 3
  initialDelay := Span.ofMillis 100
  maxDelay := Span.ofSecs 30
  multiplier := Binary64.ofNat 2

/-- A single attempt. -/
def noRetry : BackoffPolicy where
  maxRetries := 0
  initialDelay := Span.zero
  maxDelay := Span.zero
  multiplier := Binary64.ofNat 1

/-- The greatest exponent of the factor. -/
def maxExponent : Nat := 2 ^ 31 - 1

/-- The delay after attempt number `attempt`, counted from zero. -/
def delay (p : BackoffPolicy) (attempt : Nat) : Span :=
  let cap := Binary64.ofNat p.maxDelay.toMillis
  let grown :=
    (Binary64.ofNat p.initialDelay.toMillis).mul (p.multiplier.pow (min attempt maxExponent))
  if grown.isFinite && grown.lt cap then Span.ofMillis grown.toUnsigned64 else p.maxDelay

/-- A policy in a diagnostic text. -/
def diagnostic (p : BackoffPolicy) : String :=
  Text.record "BackoffPolicy"
    [("max_retries", toString p.maxRetries), ("initial_delay", p.initialDelay.text),
      ("max_delay", p.maxDelay.text), ("multiplier", p.multiplier.text Binary64.diagnostic)] false

end BackoffPolicy

end MessageChannels
