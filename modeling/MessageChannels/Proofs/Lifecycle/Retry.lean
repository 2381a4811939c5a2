import MessageChannels.Retry

/-!
# How attempts follow each other

A run of attempts goes on while an attempt fails with an error worth another attempt and retries are
left (`Retry.Followed`). This determines the run: which attempt is the last, its outcome, and the
delays before the attempts after the first.
-/

set_option autoImplicit false

namespace MessageChannels.Retry

variable {ε α : Type} {policy : BackoffPolicy} {retryable : ε → Bool} {wording : ε → String}
  {outcomes : Nat → Except ε α}

/-- Whether nothing is to be tried again after an outcome, if there are retries left. -/
def Settles (retryable : ε → Bool) : Except ε α → Prop
  | .ok _ => True
  | .error e => retryable e = false

/-- A run of attempts from number `retries` on, of which so many may be followed by another, went by
the outcomes: each attempt but the last failed with an error worth another, and the last one settled
or left no retries. -/
structure Followed (policy : BackoffPolicy) (retryable : ε → Bool) (outcomes : Nat → Except ε α)
    (left retries : Nat) (r : Run ε α) : Prop where
  bounded : r.delays.length ≤ left
  retried : ∀ i < r.delays.length, ∃ e, outcomes (retries + i) = .error e ∧ retryable e = true
  result : r.result = outcomes (retries + r.delays.length)
  stopped : Settles retryable (outcomes (retries + r.delays.length)) ∨ r.delays.length = left
  delays : r.delays = (List.range' retries r.delays.length).map policy.delay

/-- A verdict asks for another attempt exactly after an error worth one while retries are left. -/
theorem verdict_cases (policy : BackoffPolicy) (retryable : ε → Bool) (retries : Nat)
    (outcome : Except ε α) :
    ((Settles retryable outcome ∨ retries = policy.maxRetries) ∧
        ∀ d, verdict policy retryable retries outcome ≠ .retryAfter d) ∨
      ∃ e, outcome = .error e ∧ retryable e = true ∧ retries ≠ policy.maxRetries ∧
        verdict policy retryable retries outcome = .retryAfter (policy.delay retries) := by
  cases outcome with
  | ok a => exact Or.inl ⟨Or.inl trivial, nofun⟩
  | error e =>
    cases worth : retryable e with
    | false =>
      refine Or.inl ⟨Or.inl worth, fun d => ?_⟩
      simp [verdict, worth]
    | true =>
      by_cases last : retries = policy.maxRetries
      · refine Or.inl ⟨Or.inr last, fun d => ?_⟩
        simp [verdict, worth, last]
      · exact Or.inr ⟨e, rfl, worth, last, by simp [verdict, worth, last]⟩

/-- What is counted and reported of an attempt. -/
def notesOf (policy : BackoffPolicy) (retryable : ε → Bool) (wording : ε → String) (retries : Nat)
    (outcome : Except ε α) : List Note :=
  (verdict policy retryable retries outcome).notes retries (errorWording wording outcome)

/-- The attempt after which none follows. -/
theorem runFrom_last {left retries : Nat}
    (last : left = 0 ∨ ∀ d, verdict policy retryable retries (outcomes retries) ≠ .retryAfter d) :
    runFrom policy retryable wording outcomes left retries
      = ⟨outcomes retries, [], notesOf policy retryable wording retries (outcomes retries)⟩ := by
  cases left with
  | zero =>
    rw [runFrom]
    · rfl
    · exact nofun
  | succ left =>
    rw [runFrom.eq_def, notesOf]
    cases v : verdict policy retryable retries (outcomes retries) with
    | retryAfter d =>
      rcases last with none_left | noRetry
      · cases none_left
      · exact absurd v (noRetry d)
    | _ => simp only [v]

/-- The attempt after which another follows. -/
theorem runFrom_again {left retries : Nat} {d : Span}
    (again : verdict policy retryable retries (outcomes retries) = .retryAfter d) :
    runFrom policy retryable wording outcomes (left + 1) retries
      = ⟨(runFrom policy retryable wording outcomes left (retries + 1)).result,
          d :: (runFrom policy retryable wording outcomes left (retries + 1)).delays,
          notesOf policy retryable wording retries (outcomes retries)
            ++ (runFrom policy retryable wording outcomes left (retries + 1)).notes⟩ := by
  rw [runFrom.eq_def, notesOf]
  simp only [again]

theorem followed_runFrom {left retries : Nat} (all : left + retries = policy.maxRetries) :
    Followed policy retryable outcomes left retries
      (runFrom policy retryable wording outcomes left retries) := by
  -- An attempt that is the last makes a run of its own.
  have ends {left retries : Nat}
      (stopped : Settles retryable (outcomes retries) ∨ left = 0)
      (last : left = 0 ∨ ∀ d, verdict policy retryable retries (outcomes retries) ≠ .retryAfter d) :
      Followed policy retryable outcomes left retries
        (runFrom policy retryable wording outcomes left retries) := by
    rw [runFrom_last last]
    refine ⟨Nat.zero_le _, fun i bound => absurd bound (Nat.not_lt_zero i), rfl, ?_, rfl⟩
    rcases stopped with settled | none_left
    · exact Or.inl settled
    · exact Or.inr none_left.symm
  induction left generalizing retries with
  | zero => exact ends (Or.inr rfl) (Or.inl rfl)
  | succ left ih =>
    rcases verdict_cases policy retryable retries (outcomes retries) with
      ⟨stopped, noRetry⟩ | ⟨e, failed, worth, more, again⟩
    · refine ends (stopped.imp_right fun exhausted => ?_) (Or.inr noRetry)
      omega
    · have later := @ih (retries + 1) (by omega)
      have shift (n : Nat) : retries + (n + 1) = retries + 1 + n := by omega
      rw [runFrom_again again]
      constructor
      · exact Nat.succ_le_succ later.bounded
      · intro i bound
        cases i with
        | zero => exact ⟨e, failed, worth⟩
        | succ i =>
          rw [shift]
          exact later.retried i (Nat.lt_of_succ_lt_succ bound)
      · refine later.result.trans (congrArg outcomes ?_)
        rw [List.length_cons]
        omega
      · rw [List.length_cons, shift (List.length _)]
        exact later.stopped.imp_right (congrArg Nat.succ)
      · rw [List.length_cons, List.range'_succ, List.map_cons, ← later.delays]

/-- **The attempts at a step** go on until one settles or no retries are left. -/
theorem followed_run (policy : BackoffPolicy) (retryable : ε → Bool) (wording : ε → String)
    (outcomes : Nat → Except ε α) :
    Followed policy retryable outcomes policy.maxRetries 0
      (run policy retryable wording outcomes) :=
  followed_runFrom (Nat.add_zero _)

end MessageChannels.Retry
