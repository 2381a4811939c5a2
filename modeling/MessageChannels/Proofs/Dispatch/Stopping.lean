import Mathlib.Data.List.Induction
import MessageChannels.Proofs.Dispatch.Handlers
import MessageChannels.Proofs.Envelope.Route

/-!
# How a receive loop stops

A receive loop that is cancelled, or whose service is closed, begins no handler any more and stops
in its next turn. It then waits for its handlers, however they end, and returns the outcome with
which it stopped. That outcome depends on the step in which the loop stops alone; where several
causes coincide in it, being cancelled comes first and the closing of the service second.
-/

set_option autoImplicit false

namespace MessageChannels

/-- Two states of one loop: what never changes is the same. -/
structure Loop.Same (l l' : Loop) : Prop where
  ctx : l'.ctx = l.ctx
  source : l'.source = l.source
  subscription : l'.subscription = l.subscription

namespace Loop.Same

variable {l l₁ l₂ : Loop}

theorem refl (l : Loop) : l.Same l := by
  constructor <;> rfl

theorem trans (first : l.Same l₁) (second : l₁.Same l₂) : l.Same l₂ where
  ctx := second.ctx.trans first.ctx
  source := second.source.trans first.source
  subscription := second.subscription.trans first.subscription

end Loop.Same

namespace System

/-- A loop stops in the turn that follows a run, with an outcome. -/
structure StopsAfter (s : System) (before : List Event) (op k : Nat) (l l' : Loop)
    (outcome : Except ChannelError Unit) : Prop where
  standing : (s.after before).operations[op]? = some ⟨k, .receiving l'⟩
  runs : l'.Runs
  same : l.Same l'
  cause : (s.after before).Stops k l' outcome
  stopped : ((s.after before).step (.turn op)).operations[op]?
    = some ⟨k, .receiving (l'.stopped outcome)⟩

/-- A loop stops in a run, with an outcome. -/
def StoppedIn (s : System) (op k : Nat) (l : Loop) (es : List Event)
    (outcome : Except ChannelError Unit) : Prop :=
  ∃ before after l', es = before ++ .turn op :: after ∧ s.StopsAfter before op k l l' outcome

/-- What becomes of a receive loop in a run. -/
structure Stopping (s : System) (op k : Nat) (l : Loop) (es : List Event) : Prop where
  /-- No handler begins once the loop is cancelled or its service closed. -/
  quiet : ∀ before after, es = before ++ after →
    (s.after before).isCancelled l.ctx = true ∨ (s.after before).isClosed k = true →
    (s.after before).handlersBegun op after = []
  /-- The loop returns only when all its handlers have ended. -/
  awaits : ∀ result, (s.after es).result? op = some result →
    (s.running op ++ s.handlersBegun op es).Perm (s.handlersEnded op es)
  /-- It returns the outcome with which it stopped. -/
  returned : ∀ result, (s.after es).result? op = some result →
    ∃ outcome, s.StoppedIn op k l es outcome ∧ result = outcome.map fun _ => .done
  /-- That is Ok if the loop was cancelled by then, and only if it was. -/
  ok_iff : ∀ before after l' outcome, es = before ++ .turn op :: after →
    s.StopsAfter before op k l l' outcome →
    (outcome = .ok () ↔ (s.after before).isCancelled l.ctx = true)
  /-- If the source shows an error when the loop stops uncancelled, the outcome is that the service is
  closed, or else what the error means, -/
  failed : ∀ before after l' outcome, es = before ++ .turn op :: after →
    s.StopsAfter before op k l l' outcome → (s.after before).isCancelled l.ctx = false →
    ∀ err, ((s.after before).poll l.source).2 = .failed err →
      outcome = .error (if (s.after before).isClosed k = true then .closed
        else .ofTransport receiveOperation l.subscription err)
  /-- and if the source has ended, that the service is closed, or else that the transport is not
  available. -/
  ended : ∀ before after l' outcome, es = before ++ .turn op :: after →
    s.StopsAfter before op k l l' outcome → (s.after before).isCancelled l.ctx = false →
    ((s.after before).poll l.source).2 = .ended →
      outcome = .error (if (s.after before).isClosed k = true then .closed
        else .transport receiveOperation l.subscription (.unavailable "delivery stream ended"))
  /-- Being cancelled and the closing of the service stop the loop in its next turn. -/
  stops : ∀ l', (s.after es).operations[op]? = some ⟨k, .receiving l'⟩ → l'.Runs →
    (s.after es).isCancelled l.ctx = true ∨ (s.after es).isClosed k = true →
    ∃ outcome, s.StopsAfter es op k l l' outcome
  /-- So does whatever stops it, if it waits for a delivery and has nothing to take notice of. -/
  sees : ∀ l' outcome, (s.after es).operations[op]? = some ⟨k, .receiving l'⟩ →
    l'.phase = .listening → l'.ended = [] → (s.after es).Stops k l' outcome →
    s.StopsAfter es op k l l' outcome
  /-- A loop that has stopped returns as soon as it has noticed the end of its last handler. -/
  returns : ∀ l' outcome, (s.after es).operations[op]? = some ⟨k, .receiving l'⟩ →
    l'.phase = .draining outcome → s.StoppedIn op k l es outcome ∧
      (l'.running = [] → ((s.after es).after (List.replicate (l'.ended.length + 1) (.turn op))).result?
        op = some (outcome.map fun _ => .done))

/-- Where a receive loop that has not stopped can be after a run. -/
inductive LoopAfter (s : System) (op k : Nat) (l : Loop) (es : List Event) :
    OperationState → Prop where
  | runs (l' : Loop) (same : l.Same l') (runs : l'.Runs) : LoopAfter s op k l es (.receiving l')
  | drains (l' : Loop) (outcome : Except ChannelError Unit) (phase : l'.phase = .draining outcome)
      (same : l.Same l') (stopped : s.StoppedIn op k l es outcome) :
      LoopAfter s op k l es (.receiving l')
  | returned (outcome : Except ChannelError Unit) (stopped : s.StoppedIn op k l es outcome) :
      LoopAfter s op k l es (.finished (outcome.map fun _ => .done))
  | abandoned : LoopAfter s op k l es .abandoned

variable {e : Event} {op k : Nat} {s : System} {l l' : Loop} {es : List Event}
  {outcome : Except ChannelError Unit}

/-! ## The cause of a stop -/

theorem Stops.ok_iff (stops : s.Stops k l outcome) :
    outcome = .ok () ↔ s.isCancelled l.ctx = true := by
  cases stops with
  | cancelled cancelled => simp [cancelled]
  | closed going => simp [going]
  | failed err going => simp [going]
  | ended going => simp [going]

/-- A loop that stops uncancelled and whose source shows an error. -/
theorem Stops.of_failed (stops : s.Stops k l outcome) (going : s.isCancelled l.ctx = false)
    {err : TransportError} (shown : (s.poll l.source).2 = .failed err) :
    outcome = .error (if s.isClosed k = true then .closed
      else .ofTransport receiveOperation l.subscription err) := by
  cases stops with
  | cancelled cancelled => cases going.symm.trans cancelled
  | closed _ closed => rw [if_pos closed]
  | failed err' _ opened shown' =>
    cases shown.symm.trans shown'
    simp [opened]
  | ended _ _ shown' => cases shown.symm.trans shown'

/-- A loop that stops uncancelled and whose source has ended. -/
theorem Stops.of_ended (stops : s.Stops k l outcome) (going : s.isCancelled l.ctx = false)
    (shown : (s.poll l.source).2 = .ended) :
    outcome = .error (if s.isClosed k = true then .closed
      else .transport receiveOperation l.subscription (.unavailable "delivery stream ended")) := by
  cases stops with
  | cancelled cancelled => cases going.symm.trans cancelled
  | closed _ closed => rw [if_pos closed]
  | failed _ _ _ shown' => cases shown.symm.trans shown'
  | ended _ opened _ => simp [opened]

/-! ## Where a loop can be -/

theorem LoopNext.same (next : s.LoopNext e op k l (.receiving l')) : l.Same l' := by
  cases next <;> exact ⟨rfl, rfl, rfl⟩

/-- A loop that has stopped stays so until it returns. -/
theorem LoopNext.draining {state : OperationState} (next : s.LoopNext e op k l state)
    (phase : l.phase = .draining outcome) :
    (∃ l', state = .receiving l' ∧ l'.phase = .draining outcome) ∨
      state = .finished (outcome.map fun _ => .done) ∨ state = .abandoned := by
  cases next with
  | stayed => exact Or.inl ⟨l, rfl, phase⟩
  | handlerEnded i panicked => exact Or.inl ⟨_, rfl, phase⟩
  | joined => exact Or.inl ⟨_, rfl, phase⟩
  | pulled d cause listening => cases phase.symm.trans listening
  | handed d cause holding => cases phase.symm.trans holding
  | stopped outcome' cause runs => exact absurd phase (runs outcome)
  | returned outcome' cause phase' =>
    cases phase.symm.trans phase'
    exact Or.inr (Or.inl rfl)
  | abandoned => exact Or.inr (Or.inr rfl)

theorem StoppedIn.snoc (stopped : s.StoppedIn op k l es outcome) (e : Event) :
    s.StoppedIn op k l (es ++ [e]) outcome := by
  obtain ⟨before, after, l', rfl, stops⟩ := stopped
  exact ⟨before, after ++ [e], l', by simp, stops⟩

/-- One more event after a run. -/
theorem LoopAfter.snoc {state : OperationState} (after : s.LoopAfter op k l es state)
    (standing : (s.after es).operations[op]? = some ⟨k, state⟩) (e : Event) :
    ∃ state', (s.after (es ++ [e])).operations[op]? = some ⟨k, state'⟩ ∧
      s.LoopAfter op k l (es ++ [e]) state' := by
  rw [after_snoc]
  cases after with
  | runs l₁ same runs =>
    obtain ⟨state', found', next⟩ := loop_step standing e
    refine ⟨state', found', ?_⟩
    cases next with
    | stayed => exact .runs l₁ same runs
    | handlerEnded i panicked => exact .runs _ (same.trans ⟨rfl, rfl, rfl⟩) runs
    | joined => exact .runs _ (same.trans ⟨rfl, rfl, rfl⟩) runs
    | pulled d => exact .runs _ (same.trans ⟨rfl, rfl, rfl⟩) fun _ h => by cases h
    | handed d => exact .runs _ (same.trans ⟨rfl, rfl, rfl⟩) fun _ h => by cases h
    | stopped outcome cause runs stops =>
      subst cause
      exact .drains _ outcome rfl (same.trans ⟨rfl, rfl, rfl⟩)
        ⟨es, [], l₁, rfl, standing, runs, same, stops, found'⟩
    | returned outcome cause phase => exact absurd phase (runs outcome)
    | abandoned => exact .abandoned
  | drains l₁ outcome phase same stopped =>
    obtain ⟨state', found', next⟩ := loop_step standing e
    refine ⟨state', found', ?_⟩
    rcases next.draining phase with ⟨l₂, rfl, phase'⟩ | rfl | rfl
    · exact .drains l₂ outcome phase' (same.trans next.same) (stopped.snoc e)
    · exact .returned outcome (stopped.snoc e)
    · exact .abandoned
  | returned outcome stopped =>
    exact ⟨_, (ended_step standing rfl e).1, .returned outcome (stopped.snoc e)⟩
  | abandoned => exact ⟨_, (ended_step standing rfl e).1, .abandoned⟩

/-- **Where a loop can be after a run** that finds it not yet stopped. -/
theorem loop_after (found : s.operations[op]? = some ⟨k, .receiving l⟩) (runs : l.Runs)
    (es : List Event) :
    ∃ state, (s.after es).operations[op]? = some ⟨k, state⟩ ∧ s.LoopAfter op k l es state := by
  induction es using List.reverseRecOn with
  | nil => exact ⟨_, found, .runs l (.refl l) runs⟩
  | append_singleton es e ih =>
    obtain ⟨state, standing, after⟩ := ih
    exact after.snoc standing e

theorem same_of_loop_after (found : s.operations[op]? = some ⟨k, .receiving l⟩) (runs : l.Runs)
    {j : Nat} (later : (s.after es).operations[op]? = some ⟨j, .receiving l'⟩) :
    j = k ∧ l.Same l' := by
  obtain ⟨state, standing, after⟩ := loop_after found runs es
  cases standing.symm.trans later
  cases after with
  | runs _ same => exact ⟨rfl, same⟩
  | drains _ outcome phase same => exact ⟨rfl, same⟩

theorem stoppedIn_of_result (found : s.operations[op]? = some ⟨k, .receiving l⟩) (runs : l.Runs)
    {result : Except ChannelError Outcome} (later : (s.after es).result? op = some result) :
    ∃ outcome, (s.after es).operations[op]? = some ⟨k, .finished (outcome.map fun _ => .done)⟩ ∧
      s.StoppedIn op k l es outcome ∧ result = outcome.map fun _ => .done := by
  obtain ⟨state, standing, after⟩ := loop_after found runs es
  simp only [result?, standing, Option.bind_some] at later
  cases after with
  | runs => cases later
  | drains => cases later
  | returned outcome stopped =>
    cases later
    exact ⟨outcome, standing, stopped, rfl⟩
  | abandoned => cases later

/-! ## What a loop does before and after it stops -/

/-- A loop begins no handler once it is cancelled or its service closed. -/
theorem quiet_after (reachable : s.Reachable)
    (found : s.operations[op]? = some ⟨k, .receiving l⟩) (runs : l.Runs) (before : List Event)
    {after : List Event} (halted : (s.after before).isCancelled l.ctx = true ∨
      (s.after before).isClosed k = true) : (s.after before).handlersBegun op after = [] := by
  apply List.eq_nil_iff_forall_not_mem.2
  intro i begins
  obtain ⟨between, e, rest, rfl, begun⟩ := mem_handlersBegun begins
  obtain ⟨j, l₁, standing, _, going, opened, _⟩ := handed_of_begun begun
  rw [← after_append] at standing going opened
  obtain ⟨rfl, same⟩ := same_of_loop_after found runs standing
  rw [after_append] at going opened
  rcases halted with cancelled | closed
  · have lasts := isCancelled_after cancelled between
    rw [same.ctx, lasts] at going
    cases going
  · -- The service exists, so its being closed lasts.
    obtain ⟨v, c, service, _⟩ := reachable.registered.operations op ⟨j, .receiving l⟩ l.channel found
      rfl
    obtain ⟨v', service', _⟩ := (lasts_after s before).services j v service
    have lasts := isClosed_after service' closed between
    rw [lasts] at opened
    cases opened

/-- A stopped loop without handlers returns once it has noticed those that ended. -/
theorem result_of_draining (found : s.operations[op]? = some ⟨k, .receiving l⟩)
    (phase : l.phase = .draining outcome) (idle : l.running = []) :
    (s.after (List.replicate (l.ended.length + 1) (.turn op))).result? op
      = some (outcome.map fun _ => .done) := by
  induction ended : l.ended generalizing s l with
  | nil =>
    obtain ⟨_, finishes, _⟩ := turn_draining found phase
    exact result?_of_finished (finishes ended idle)
  | cons panicked rest ih =>
    obtain ⟨joins, _⟩ := turn_draining found phase
    have joined := joins (by simp [ended])
    exact ih joined phase idle (by simp [Loop.joined, ended])

/-- **How a receive loop stops**, in every run from a point at which it has not. -/
theorem stopping (reachable : s.Reachable)
    (found : s.operations[op]? = some ⟨k, .receiving l⟩) (runs : l.Runs) (es : List Event) :
    s.Stopping op k l es where
  quiet := by
    rintro before after rfl halted
    exact quiet_after reachable found runs before halted
  awaits := by
    intro result later
    obtain ⟨outcome, standing, _⟩ := stoppedIn_of_result found runs later
    have accounted := handlers_after reachable op es fun k given =>
      by cases standing.symm.trans given
    rw [running_of_getElem? standing] at accounted
    exact accounted.trans (List.Perm.of_eq (List.append_nil _))
  returned := by
    intro result later
    obtain ⟨outcome, _, stopped, same⟩ := stoppedIn_of_result found runs later
    exact ⟨outcome, stopped, same⟩
  ok_iff := by
    rintro before after l' outcome rfl stops
    rw [← stops.same.ctx]
    exact stops.cause.ok_iff
  failed := by
    rintro before after l' outcome rfl stops going err shown
    rw [← stops.same.ctx] at going
    rw [← stops.same.source] at shown
    rw [← stops.same.subscription]
    exact stops.cause.of_failed going shown
  ended := by
    rintro before after l' outcome rfl stops going shown
    rw [← stops.same.ctx] at going
    rw [← stops.same.source] at shown
    rw [← stops.same.subscription]
    exact stops.cause.of_ended going shown
  stops := by
    intro l' later runs' halted
    obtain ⟨_, same⟩ := same_of_loop_after found runs later
    rw [← same.ctx] at halted
    obtain ⟨outcome, cause, stopped⟩ := turn_stops later runs' halted
    exact ⟨outcome, later, runs', same, cause, stopped⟩
  sees := by
    intro l' outcome later phase noticed cause
    obtain ⟨_, same⟩ := same_of_loop_after found runs later
    exact ⟨later, runs_of_listening phase, same, cause, turn_of_stops later phase noticed cause⟩
  returns := by
    intro l' outcome later phase
    refine ⟨?_, result_of_draining later phase⟩
    obtain ⟨state, standing, after⟩ := loop_after found runs es
    cases standing.symm.trans later
    cases after with
    | runs _ _ runs' => exact absurd phase (runs' outcome)
    | drains _ outcome' phase' same stopped =>
      cases phase'.symm.trans phase
      exact stopped

/-- A loop whose handler runs is cancelled and its service closed before its next turn; the handler
panics, and the loop returns. -/
def cancelledAndClosed : List Event :=
  [.cancel 0, .begin 0 .close, .turn 1, .handlerEnded 1 0 true, .turn 1, .turn 1]

theorem stopping_cancelledAndClosed :
    ((start .epoch).after oneReceived).Stopping 1 0
        ⟨"orders", "orders-sub", 0, .stream 0, .listening, 999, [0], []⟩ cancelledAndClosed ∧
      (((start .epoch).after oneReceived).after cancelledAndClosed).result? 1 = some (.ok .done) := by
  refine ⟨stopping ⟨.epoch, _, rfl⟩ rfl ?_ cancelledAndClosed, rfl⟩
  intro outcome h
  cases h

end System

end MessageChannels
