import Mathlib.Order.Bounds.Defs
import MessageChannels.Proofs.Lifecycle.Retry

/-!
# The loop of attempts

`Loops` is the loop as it goes round: it calls the step, looks at what comes of the call, and either
ends or sleeps, counts one more retry and calls again. It has no bound but its own tests, the number
of the call and the count of retries are kept apart, and the count cannot pass a limit. The loop ends
whatever comes of its calls, and in one way only, which is the run of attempts (`loops_iff`). What it
does, returns and counts is told by the number of its last call, which is the least that can be the
last (`retriedUntil`).
-/

set_option autoImplicit false

namespace MessageChannels.Retry

/-- What the loop does: it calls the step, whose calls are numbered from 0, or it sleeps. -/
inductive Deed where
  | called (number : Nat)
  | slept (delay : Span)
  deriving DecidableEq

/-- The loop from a call on, with a count of retries that cannot pass a limit: what it does, and the
run that it makes. -/
inductive Loops {ε α : Type} (policy : BackoffPolicy) (retryable : ε → Bool) (wording : ε → String)
    (outcomes : Nat → Except ε α) (limit : Nat) : Nat → Nat → List Deed → Run ε α → Prop where
  | ends {call retries : Nat}
      (last : ∀ d, verdict policy retryable retries (outcomes call) ≠ .retryAfter d) :
      Loops policy retryable wording outcomes limit call retries [.called call]
        ⟨outcomes call, [], notesOf policy retryable wording retries (outcomes call)⟩
  | again {call retries : Nat} {d : Span} {deeds : List Deed} {later : Run ε α}
      (more : verdict policy retryable retries (outcomes call) = .retryAfter d)
      (counts : retries + 1 ≤ limit)
      (rest : Loops policy retryable wording outcomes limit (call + 1) (retries + 1) deeds later) :
      Loops policy retryable wording outcomes limit call retries
        (.called call :: .slept d :: deeds)
        ⟨later.result, d :: later.delays,
          notesOf policy retryable wording retries (outcomes call) ++ later.notes⟩

/-- A call can be the last: nothing is to be tried again after its outcome, or no retries are left. -/
def CanEnd {ε α : Type} (policy : BackoffPolicy) (retryable : ε → Bool)
    (outcomes : Nat → Except ε α) (call : Nat) : Prop :=
  Settles retryable (outcomes call) ∨ call = policy.maxRetries

/-- What is done from a call on, with so many more after it: one delay between any two. -/
def deedsFrom (policy : BackoffPolicy) (call more : Nat) : List Deed :=
  (List.range' call more).flatMap (fun i => [.called i, .slept (policy.delay i)])
    ++ [.called (call + more)]

/-- How the loop went whose last call has a number. -/
structure Went {ε α : Type} (policy : BackoffPolicy) (retryable : ε → Bool)
    (outcomes : Nat → Except ε α) (last : Nat) (deeds : List Deed) (r : Run ε α) : Prop where
  result : r.result = outcomes last
  attempts : r.attempts = last + 1
  /-- It sleeps once between a call and the next, for the delay of the former. -/
  deeds : deeds = (List.range last).flatMap (fun i => [.called i, .slept (policy.delay i)])
    ++ [.called last]
  delays : r.delays = (List.range last).map policy.delay
  retries : Note.count r.notes .retryAttempts "" = last
  successes : Note.count r.notes .retrySuccesses ""
    = if (outcomes last).isOk ∧ 0 < last then 1 else 0
  exhausted : Note.count r.notes .retriesExhausted "" = 1 ∧
      (∃ e, outcomes last = .error e ∧ retryable e = true) ∨
    Note.count r.notes .retriesExhausted "" = 0 ∧
      ∀ e, outcomes last = .error e → retryable e = false

variable {ε α : Type} {policy : BackoffPolicy} {retryable : ε → Bool} {wording : ε → String}
  {outcomes : Nat → Except ε α} {limit call retries left : Nat} {deeds deeds' : List Deed}
  {r r' : Run ε α}

/-! ## The loop is the run -/

/-- The loop goes round in one way only. -/
theorem Loops.unique (loops : Loops policy retryable wording outcomes limit call retries deeds r)
    (loops' : Loops policy retryable wording outcomes limit call retries deeds' r') :
    deeds' = deeds ∧ r' = r := by
  induction loops generalizing deeds' r' with
  | ends last =>
    cases loops' with
    | ends _ => exact ⟨rfl, rfl⟩
    | again more => exact absurd more (last _)
  | again more counts rest ih =>
    cases loops' with
    | ends last => exact absurd more (last _)
    | again more' _ rest' =>
      cases more.symm.trans more'
      obtain ⟨rfl, rfl⟩ := ih rest'
      exact ⟨rfl, rfl⟩

theorem deedsFrom_succ (policy : BackoffPolicy) (call more : Nat) :
    deedsFrom policy call (more + 1)
      = .called call :: .slept (policy.delay call) :: deedsFrom policy (call + 1) more := by
  rw [deedsFrom, deedsFrom, List.range'_succ, List.flatMap_cons, Nat.add_right_comm call 1 more]
  rfl

/-- The attempts from one on are the loop from there on, whose count stays below the retries that are
allowed. -/
theorem loops_runFrom (all : left + retries = policy.maxRetries) (within : policy.maxRetries ≤ limit) :
    Loops policy retryable wording outcomes limit retries retries
      (deedsFrom policy retries
        (runFrom policy retryable wording outcomes left retries).delays.length)
      (runFrom policy retryable wording outcomes left retries) := by
  induction left generalizing retries with
  | zero =>
    rcases verdict_cases policy retryable retries (outcomes retries) with
      ⟨_, noRetry⟩ | ⟨_, _, _, more, _⟩
    · rw [runFrom_last (Or.inl rfl)]
      exact .ends noRetry
    · exact absurd (by omega) more
  | succ left ih =>
    rcases verdict_cases policy retryable retries (outcomes retries) with
      ⟨_, noRetry⟩ | ⟨_, _, _, _, again⟩
    · rw [runFrom_last (Or.inr noRetry)]
      exact .ends noRetry
    · have rest := @ih (retries + 1) (by omega)
      rw [runFrom_again again, List.length_cons, deedsFrom_succ]
      exact .again again (by omega) rest

/-- **The loop ends, as the run of attempts**, and its count passes no limit that its retries keep. -/
theorem loops_iff (within : policy.maxRetries ≤ limit) :
    Loops policy retryable wording outcomes limit 0 0 deeds r ↔
      deeds = deedsFrom policy 0 (run policy retryable wording outcomes).delays.length ∧
        r = run policy retryable wording outcomes := by
  have loops : Loops policy retryable wording outcomes limit 0 0 _
      (run policy retryable wording outcomes) := loops_runFrom (Nat.add_zero _) within
  constructor
  · exact loops.unique
  · rintro ⟨rfl, rfl⟩
    exact loops

/-! ## What is counted -/

/-- An attempt that is followed by another is counted as a retry. -/
theorem notesOf_again {outcome : Except ε α} {d : Span}
    (again : verdict policy retryable retries outcome = .retryAfter d) :
    notesOf policy retryable wording retries outcome = [.counted .retryAttempts ""] := by
  rw [notesOf, again]
  rfl

/-- What is counted when no attempt follows an outcome, after so many retries: no retry, a success if it
came after any, and that no retries are left if it is an error worth another attempt. -/
structure CountsLast {ε α : Type} (retryable : ε → Bool) (retries : Nat) (outcome : Except ε α)
    (notes : List Note) : Prop where
  unretried : Note.count notes .retryAttempts "" = 0
  successes : Note.count notes .retrySuccesses "" = if outcome.isOk ∧ 0 < retries then 1 else 0
  exhausted : Note.count notes .retriesExhausted "" = 1 ∧
      (∃ e, outcome = .error e ∧ retryable e = true) ∨
    Note.count notes .retriesExhausted "" = 0 ∧ ∀ e, outcome = .error e → retryable e = false

theorem countsLast_notesOf {outcome : Except ε α}
    (last : ∀ d, verdict policy retryable retries outcome ≠ .retryAfter d) :
    CountsLast retryable retries outcome (notesOf policy retryable wording retries outcome) := by
  cases outcome with
  | ok a =>
    have notes : notesOf policy retryable wording retries (.ok a : Except ε α)
        = if 0 < retries then [.counted .retrySuccesses ""] else [] := rfl
    rw [notes]
    split
    · rename_i after
      exact ⟨rfl, by simp [Note.count, Except.isOk, Except.toBool, after], Or.inr ⟨rfl, nofun⟩⟩
    · rename_i first
      exact ⟨rfl, by simp [Note.count, first], Or.inr ⟨rfl, nofun⟩⟩
  | error e =>
    have unsuccessful : ¬ ((Except.error e : Except ε α).isOk = true ∧ 0 < retries) := by
      simp [Except.isOk, Except.toBool]
    cases worth : retryable e with
    | false =>
      have notes : notesOf policy retryable wording retries (.error e : Except ε α)
          = [.reported "Bootstrap step failed permanently" (some (wording e))] := by
        simp [notesOf, verdict, worth, Verdict.notes, errorWording]
      rw [notes]
      refine ⟨rfl, (if_neg unsuccessful).symm, Or.inr ⟨rfl, fun e' same => ?_⟩⟩
      cases same
      exact worth
    | true =>
      have exhausted : retries = policy.maxRetries :=
        Decidable.byContradiction fun more =>
          last (policy.delay retries) (by simp [verdict, worth, more])
      have notes : notesOf policy retryable wording retries (.error e : Except ε α)
          = [.counted .retriesExhausted "",
              .reported "Bootstrap step still failing, giving up" (some (wording e))] := by
        simp [notesOf, verdict, worth, exhausted, Verdict.notes, errorWording]
      rw [notes]
      exact ⟨rfl, (if_neg unsuccessful).symm, Or.inl ⟨rfl, e, rfl, worth⟩⟩

/-- **What the loop counts**: a retry for every call but its last, and what its last call counts. -/
theorem Loops.counts (loops : Loops policy retryable wording outcomes limit call retries deeds r) :
    ∃ last, CountsLast retryable (retries + r.delays.length) (outcomes (call + r.delays.length)) last ∧
      Note.count r.notes .retryAttempts "" = r.delays.length ∧
      ∀ counter, counter ≠ .retryAttempts → Note.count r.notes counter "" = Note.count last counter ""
    := by
  induction loops with
  | ends last => exact ⟨_, countsLast_notesOf last, (countsLast_notesOf last).unretried, fun _ _ => rfl⟩
  | again more counts rest ih =>
    obtain ⟨last, ends, retries, others⟩ := ih
    refine ⟨last, ?_, ?_, fun counter other => ?_⟩
    · rw [List.length_cons, ← Nat.add_assoc, ← Nat.add_assoc, Nat.add_right_comm,
        Nat.add_right_comm _ _ 1]
      exact ends
    · rw [notesOf_again more, Note.count_append, retries, List.length_cons, Nat.add_comm]
      rfl
    · rw [notesOf_again more, Note.count_append, others counter other]
      simp [Note.count, Ne.symm other]

/-! ## The last call -/

/-- The number of delays is that of the last call: the least that can be the last. -/
theorem isLeast_run (policy : BackoffPolicy) (retryable : ε → Bool) (wording : ε → String)
    (outcomes : Nat → Except ε α) :
    IsLeast {call | CanEnd policy retryable outcomes call}
      (run policy retryable wording outcomes).delays.length := by
  have followed := followed_run policy retryable wording outcomes
  constructor
  · have stopped := followed.stopped
    rw [Nat.zero_add] at stopped
    exact stopped
  · refine fun call ends => Nat.le_of_not_lt fun before => ?_
    rcases ends with settles | exhausted
    · obtain ⟨e, failed, worth⟩ := followed.retried call before
      rw [Nat.zero_add] at failed
      rw [failed] at settles
      cases settles.symm.trans worth
    · have bounded := followed.bounded
      omega

/-- **A step is tried until it settles or no retries are left.** -/
theorem retriedUntil (policy : BackoffPolicy) (retryable : ε → Bool) (wording : ε → String)
    (outcomes : Nat → Except ε α) :
    (∃ last deeds, IsLeast {call | CanEnd policy retryable outcomes call} last ∧
      Went policy retryable outcomes last deeds (run policy retryable wording outcomes) ∧
      ∀ limit, policy.maxRetries ≤ limit → ∀ deeds' r,
        Loops policy retryable wording outcomes limit 0 0 deeds' r ↔
          deeds' = deeds ∧ r = run policy retryable wording outcomes) ∧
      runPersistently policy wording outcomes = run policy (fun _ => true) wording outcomes := by
  refine ⟨⟨_, _, isLeast_run policy retryable wording outcomes, ?_, fun limit within deeds' r =>
    loops_iff within⟩, rfl⟩
  have followed := followed_run policy retryable wording outcomes
  have loops : Loops policy retryable wording outcomes policy.maxRetries 0 0 _
      (run policy retryable wording outcomes) := (loops_iff (Nat.le_refl _)).2 ⟨rfl, rfl⟩
  obtain ⟨last, ends, retries, others⟩ := loops.counts
  rw [Nat.zero_add] at ends
  constructor
  · rw [followed.result, Nat.zero_add]
  · rfl
  · rw [deedsFrom, List.range_eq_range', Nat.zero_add]
  · rw [List.range_eq_range']
    exact followed.delays
  · exact retries
  · rw [others .retrySuccesses nofun]
    exact ends.successes
  · rw [others .retriesExhausted nofun]
    exact ends.exhausted

end MessageChannels.Retry
