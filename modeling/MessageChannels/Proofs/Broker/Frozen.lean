import MessageChannels.Proofs.Broker.Ledger

/-!
# A closed broker is frozen

Handlers that still run when a broker closes go on to publish, to settle and to give up what they
hold, and streams are still looked at. `LateStep` says all that any of this can do to a closed broker:
it may forget that a delivery is held, that a stream is open, or set up a failure that no publish will
meet. Everything else is as it was when the broker closed, and a stream shows one error at most.
-/

set_option autoImplicit false

namespace MessageChannels

namespace Broker

/-- A broker is closed and has the topics, subscriptions, backlogs and logs that it had. -/
structure Rests (b b' : Broker) : Prop where
  closed : b'.closed = true
  topics : b'.topics = b.topics
  subscriptions : b'.subscriptions = b.subscriptions
  published : b'.published = b.published
  acked : b'.acked = b.acked
  nacked : b'.nacked = b.nacked

/-- The failures that the next publishes to a topic meet, in order. -/
def queuedFailures (b : Broker) (topic : String) : List TransportError :=
  (b.failures.get? topic).getD []

/-- What a stream shows in a change: a delivery or a failure, if it is looked at and there is one. -/
def shownIn (b : Broker) (stream : Nat) : Change → List Poll
  | .poll n =>
    if n = stream then
      match (b.pollStream n).2 with
      | .pending => []
      | .ended => []
      | shown => [shown]
    else []
  | _ => []

/-- What a stream shows in a run. -/
def shown (b : Broker) (stream : Nat) : List Change → List Poll
  | [] => []
  | c :: cs => b.shownIn stream c ++ (b.change c).shown stream cs

/-- What holds of a closed broker after a run. -/
structure Frozen (b : Broker) (cs : List Change) : Prop where
  rests : b.Rests (b.after cs)
  /-- The next message that were accepted would bear the same identifier. -/
  numbering : ∀ now m, ((b.after cs).stamped now m).id = (b.stamped now m).id
  /-- No failure that is queued is met any more. -/
  queued : ∀ topic, b.queuedFailures topic <+: (b.after cs).queuedFailures topic
  failures : (∀ topic e, .failNext topic e ∉ cs) → (b.after cs).failures = b.failures
  refuses : ∀ now request, (b.after cs).perform now request
    = (b.after cs, .error (.cancelled "the client connection is closing"))
  shows : ∀ stream, b.shown stream cs = [] ∨
    b.shown stream cs = [.failed (.cancelled "the client connection is closing")]
  /-- A stream that has not ended and does not sleep shows that error when it is looked at. -/
  ends : ∀ stream s, (b.after cs).streams.find? (fun s => s.number = stream) = some s →
    s.ended = false → (∀ p ∈ (b.after cs).parked, p.stream ≠ stream) →
    (b.after cs).shownIn stream (.poll stream)
      = [.failed (.cancelled "the client connection is closing")]

/-- What a change can make of a closed broker. -/
inductive LateStep (b : Broker) (c : Change) : Broker → Prop where
  | same : LateStep b c b
  | setUp (topic : String) (e : TransportError) (cause : c = .failNext topic e) :
      LateStep b c (b.failNextPublish topic e)
  | ended (stream : Nat) : LateStep b c (b.endStream stream)
  | dropped (stream : Nat) : LateStep b c (b.dropStream stream)
  | unheld (delivery : Nat) : LateStep b c (b.unhold delivery)

/-- A stream, if it is there, has ended. -/
def Over (b : Broker) (stream : Nat) : Prop :=
  ∀ s ∈ b.streams, s.number = stream → s.ended = true

variable {b b' : Broker} {c : Change}

/-! ## Changes of a closed broker -/

theorem perform_closed (closed : b.closed = true) (now : Timestamp) (request : Request) :
    b.perform now request = (b, .error closing) := by
  unfold perform
  rw [if_pos closed]

/-- A look at a stream of a closed broker finds that the stream has ended or sleeps, or ends it. -/
theorem pollStream_closed (closed : b.closed = true) (stream : Nat) :
    b.pollStream stream = (b, .ended) ∨ b.pollStream stream = (b, .pending) ∨
      b.pollStream stream = (b.endStream stream, .failed closing) := by
  unfold pollStream
  split
  · exact Or.inl rfl
  · rename_i s found
    have number : s.number = stream := by simpa using List.find?_some found
    split
    · exact Or.inl rfl
    · split
      · exact Or.inr (Or.inl rfl)
      · right
        right
        rw [look, if_pos closed, number]

theorem lateStep_change (closed : b.closed = true) (c : Change) : LateStep b c (b.change c) := by
  -- However a delivery is decided, a closed broker only forgets that it is held.
  have forgets (n : Nat) {decided : Broker} (forgotten : decided = b ∨ decided = b.unhold n) :
      LateStep b c decided := by
    rcases forgotten with rfl | rfl
    · exact .same
    · exact .unheld n
  have shut (n : Nat) : (b.unhold n).closed = true := closed
  cases c with
  | perform now request =>
    rw [change, perform_closed closed]
    exact .same
  | failNext topic e => exact .setUp topic e rfl
  | poll stream =>
    rw [change]
    rcases pollStream_closed closed stream with seen | seen | seen
    · rw [seen]
      exact .same
    · rw [seen]
      exact .same
    · rw [seen]
      exact .ended stream
  | dropStream stream => exact .dropped stream
  | ack n =>
    apply forgets n
    cases held : b.held? n with
    | none => exact Or.inl (by simp only [change, ack, held])
    | some h => exact Or.inr (by simp only [change, ack, held, shut, if_true])
  | nack n =>
    apply forgets n
    cases held : b.held? n with
    | none => exact Or.inl (by simp only [change, nack, held])
    | some h => exact Or.inr (by simp only [change, nack, held, shut, if_true])
  | release n =>
    apply forgets n
    cases held : b.held? n with
    | none => exact Or.inl (by simp only [change, release, held])
    | some h => exact Or.inr (by simp only [change, release, held, shut, if_true])

theorem LateStep.rests (step : LateStep b c b') (closed : b.closed = true) : b.Rests b' := by
  cases step <;> exact ⟨closed, rfl, rfl, rfl, rfl, rfl⟩

theorem LateStep.failures (step : LateStep b c b') (other : ∀ topic e, c ≠ .failNext topic e) :
    b'.failures = b.failures := by
  cases step with
  | setUp topic e cause => exact absurd cause (other topic e)
  | _ => rfl

/-- A failure that is set up meets a publish only after those that are queued. -/
theorem LateStep.queued (step : LateStep b c b') (topic : String) :
    b.queuedFailures topic <+: b'.queuedFailures topic := by
  cases step with
  | setUp other e cause =>
    unfold queuedFailures failNextPublish
    rw [Dictionary.get?_insert]
    split
    · rename_i same
      subst same
      exact List.prefix_append _ _
    · exact List.prefix_refl _
  | _ => exact List.prefix_refl _

/-! ## Streams of a closed broker -/

theorem LateStep.over (step : LateStep b c b') {stream : Nat} (past : b.Over stream) :
    b'.Over stream := by
  intro s member number
  cases step with
  | ended other =>
    obtain ⟨s₀, old, rfl⟩ := List.mem_map.1 member
    split
    · rfl
    · rename_i apart
      rw [if_neg apart] at number
      exact past s₀ old number
  | dropped other => exact past s (List.mem_filter.1 member).1 number
  | _ => exact past s member number

theorem over_endStream (b : Broker) (stream : Nat) : (b.endStream stream).Over stream := by
  intro s member number
  obtain ⟨s₀, _, rfl⟩ := List.mem_map.1 member
  split
  · rfl
  · rename_i apart
    rw [if_neg apart] at number
    exact absurd number apart

theorem shownIn_of_over {stream : Nat} (past : b.Over stream) (c : Change) :
    b.shownIn stream c = [] := by
  cases c with
  | poll n =>
    by_cases same : n = stream
    · subst same
      have seen : b.pollStream n = (b, .ended) := by
        unfold pollStream
        split
        · rfl
        · rename_i s found
          have number : s.number = n := by simpa using List.find?_some found
          rw [if_pos (past s (List.mem_of_find?_eq_some found) number)]
      simp only [shownIn, if_true, seen]
    · simp only [shownIn, if_neg same]
  | _ => rfl

/-- A stream of a closed broker shows nothing, or the error with which it ends. -/
theorem shownIn_closed (closed : b.closed = true) (stream : Nat) (c : Change) :
    b.shownIn stream c = [] ∨
      b.shownIn stream c = [.failed closing] ∧ (b.change c).Over stream := by
  cases c with
  | poll n =>
    by_cases same : n = stream
    · subst same
      rcases pollStream_closed closed n with seen | seen | seen
      · simp only [shownIn, if_true, seen, true_or]
      · simp only [shownIn, if_true, seen, true_or]
      · right
        refine ⟨by simp only [shownIn, if_true, seen], ?_⟩
        rw [change, seen]
        exact over_endStream b n
    · simp only [shownIn, if_neg same, true_or]
  | _ => exact Or.inl rfl

theorem shown_of_over {stream : Nat} (closed : b.closed = true) (past : b.Over stream)
    (cs : List Change) : b.shown stream cs = [] := by
  induction cs generalizing b with
  | nil => rfl
  | cons c cs ih =>
    have step := lateStep_change closed c
    rw [shown, shownIn_of_over past, ih (step.rests closed).closed (step.over past)]
    rfl

theorem shown_closed (closed : b.closed = true) (stream : Nat) (cs : List Change) :
    b.shown stream cs = [] ∨ b.shown stream cs = [.failed closing] := by
  induction cs generalizing b with
  | nil => exact Or.inl rfl
  | cons c cs ih =>
    have closed' := ((lateStep_change closed c).rests closed).closed
    rw [shown]
    rcases shownIn_closed closed stream c with nothing | ⟨error, past⟩
    · rw [nothing]
      exact ih closed'
    · rw [error, shown_of_over closed' past]
      exact Or.inr rfl

/-! ## Runs of a closed broker -/

theorem Rests.trans {b₁ b₂ : Broker} (first : b.Rests b₁) (second : b₁.Rests b₂) : b.Rests b₂ where
  closed := second.closed
  topics := second.topics.trans first.topics
  subscriptions := second.subscriptions.trans first.subscriptions
  published := second.published.trans first.published
  acked := second.acked.trans first.acked
  nacked := second.nacked.trans first.nacked

theorem rests_after (closed : b.closed = true) (cs : List Change) : b.Rests (b.after cs) := by
  induction cs generalizing b with
  | nil => exact ⟨closed, rfl, rfl, rfl, rfl, rfl⟩
  | cons c cs ih =>
    have first := (lateStep_change closed c).rests closed
    exact first.trans (ih first.closed)

theorem queued_after (closed : b.closed = true) (topic : String) (cs : List Change) :
    b.queuedFailures topic <+: (b.after cs).queuedFailures topic := by
  induction cs generalizing b with
  | nil => exact List.prefix_refl _
  | cons c cs ih =>
    have step := lateStep_change closed c
    exact (step.queued topic).trans (ih (step.rests closed).closed)

theorem failures_after (closed : b.closed = true) {cs : List Change}
    (others : ∀ topic e, .failNext topic e ∉ cs) : (b.after cs).failures = b.failures := by
  induction cs generalizing b with
  | nil => rfl
  | cons c cs ih =>
    have step := lateStep_change closed c
    have same : (b.change c).failures = b.failures := by
      apply step.failures
      rintro topic e rfl
      exact others topic e List.mem_cons_self
    have later : ∀ topic e, .failNext topic e ∉ cs := fun topic e member =>
      others topic e (List.mem_cons_of_mem _ member)
    exact (ih (step.rests closed).closed later).trans same

theorem closed_foldl_announce (creations : List Nat) (b : Broker) :
    (creations.foldl announce b).closed = b.closed := by
  induction creations generalizing b with
  | nil => rfl
  | cons first creations ih => exact ih (b.announce first)

theorem closed_of_close {now : Timestamp} (closes : (b.perform now .close).2 = .ok .done) :
    (b.perform now .close).1.closed = true := by
  unfold perform at closes ⊢
  split at closes
  · cases closes
  · rename_i opened
    rw [if_neg opened]
    exact closed_foldl_announce _ _

/-- **A broker is frozen** from the moment on at which it is closed. -/
theorem frozen {now : Timestamp} (closes : (b.perform now .close).2 = .ok .done)
    (cs : List Change) : (b.perform now .close).1.Frozen cs := by
  have closed := closed_of_close closes
  generalize (b.perform now .close).1 = b at closed
  have rests := rests_after closed cs
  refine ⟨rests, fun now m => ?_, fun topic => queued_after closed topic cs,
    failures_after closed, perform_closed rests.closed, fun stream => shown_closed closed stream cs,
    fun stream s found going awake => ?_⟩
  · simp only [stamped, rests.published]
  · have unparked : (b.after cs).parked.any (fun p => p.stream = stream) = false := by
      simpa using awake
    have seen : ((b.after cs).pollStream stream).2 = .failed closing := by
      simp only [pollStream, found, going, unparked, look, rests.closed, Bool.false_eq_true,
        if_false, if_true]
    simp only [shownIn, if_true, seen]
    rfl

/-- A letter is delivered, another waits, and the next publish is to fail; a second stream sleeps. -/
def lettersDelivered : Broker :=
  empty.after
    [.perform .epoch (.createTopic "letters"),
      .perform .epoch (.createSubscription "letters" "reader" (.ofSecs 10)),
      .perform .epoch (.createSubscription "letters" "archive" (.ofSecs 10)),
      .perform .epoch (.publish "letters" ⟨Text.toBytes "a", Dictionary.empty⟩),
      .perform .epoch (.publish "letters" ⟨Text.toBytes "b", Dictionary.empty⟩),
      .failNext "letters" (.unavailable "lost"),
      .perform .epoch (.receive "letters" "reader"), .poll 0]

/-- What comes too late: the delivery is returned, a letter published, a subscription deleted, and the
stream looked at twice. -/
def tooLate : List Change :=
  [.nack 0, .perform .epoch (.publish "letters" ⟨Text.toBytes "c", Dictionary.empty⟩),
    .perform .epoch (.deleteSubscription "archive"), .poll 0, .perform .epoch .close, .poll 0]

theorem frozen_tooLate :
    (lettersDelivered.perform .epoch .close).2 = .ok .done ∧
      (lettersDelivered.perform .epoch .close).1.Frozen tooLate ∧
      (lettersDelivered.perform .epoch .close).1.shown 0 tooLate = [.failed closing] ∧
      ((lettersDelivered.perform .epoch .close).1.after tooLate).held = [] ∧
      (((lettersDelivered.perform .epoch .close).1.after tooLate).backlog "reader").length = 1 := by
  have closes : (lettersDelivered.perform .epoch .close).2 = .ok .done := rfl
  refine ⟨closes, frozen closes tooLate, ?_, ?_, ?_⟩
  · decide +kernel
  · decide +kernel
  · decide +kernel

end Broker

end MessageChannels
