import MessageChannels.Backoff
import MessageChannels.Journal

/-!
# Trying a step again

`Retry.verdict` decides after each attempt what comes next; `Retry.run` follows the verdicts through
an endless sequence of outcomes and ends after at most `maxRetries + 1` attempts. A run says how it
ended, how long was waited between attempts and what was counted and reported.
-/

set_option autoImplicit false

namespace MessageChannels.Retry

/-- What comes after an attempt. -/
inductive Verdict where
  /-- The step succeeded. -/
  | succeed
  /-- The error is not worth another attempt. -/
  | failAtOnce
  /-- No retries are left. -/
  | giveUp
  /-- Another attempt follows after a delay. -/
  | retryAfter (delay : Span)
  deriving DecidableEq

variable {ε α : Type}

/-- The verdict on the outcome of an attempt, after so many retries. -/
def verdict (policy : BackoffPolicy) (retryable : ε → Bool) (retries : Nat) :
    Except ε α → Verdict
  | .ok _ => .succeed
  | .error e =>
    if !retryable e then .failAtOnce
    else if retries = policy.maxRetries then .giveUp
    else .retryAfter (policy.delay retries)

/-- What a verdict counts and reports, after so many retries and an error with the given wording. -/
def Verdict.notes (retries : Nat) (wording : String) : Verdict → List Note
  | .succeed => if 0 < retries then [.counted .retrySuccesses ""] else []
  | .failAtOnce => [.reported "Bootstrap step failed permanently" (some wording)]
  | .giveUp =>
    [.counted .retriesExhausted "",
      .reported "Bootstrap step still failing, giving up" (some wording)]
  | .retryAfter _ => [.counted .retryAttempts ""]

/-- The wording of an outcome's error. -/
def errorWording (wording : ε → String) : Except ε α → String
  | .ok _ => ""
  | .error e => wording e

/-- How the attempts at a step went. -/
structure Run (ε α : Type) where
  /-- The outcome of the last attempt. -/
  result : Except ε α
  /-- The delays between the attempts. -/
  delays : List Span
  /-- What was counted and reported. -/
  notes : List Note

/-- The number of attempts of a run. -/
def Run.attempts (r : Run ε α) : Nat := r.delays.length + 1

/-- The attempts from number `retries` on, of which `left` more may be followed by another. -/
def runFrom (policy : BackoffPolicy) (retryable : ε → Bool) (wording : ε → String)
    (outcomes : Nat → Except ε α) : Nat → Nat → Run ε α
  | left, retries =>
    let outcome := outcomes retries
    let v := verdict policy retryable retries outcome
    let notes := v.notes retries (errorWording wording outcome)
    match v, left with
    | .retryAfter d, left + 1 =>
      let later := runFrom policy retryable wording outcomes left (retries + 1)
      ⟨later.result, d :: later.delays, notes ++ later.notes⟩
    | _, _ => ⟨outcome, [], notes⟩

/-- The attempts at a step, whose outcomes are given in order. -/
def run (policy : BackoffPolicy) (retryable : ε → Bool) (wording : ε → String)
    (outcomes : Nat → Except ε α) : Run ε α :=
  runFrom policy retryable wording outcomes policy.maxRetries 0

/-- The attempts at a step of which every failure is worth another attempt. -/
def runPersistently (policy : BackoffPolicy) (wording : ε → String) (outcomes : Nat → Except ε α) :
    Run ε α :=
  run policy (fun _ => true) wording outcomes

end MessageChannels.Retry
