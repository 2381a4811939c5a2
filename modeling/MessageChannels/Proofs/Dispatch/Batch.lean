import MessageChannels.Proofs.Dispatch.Collecting
import MessageChannels.Proofs.Dispatch.Sources
import MessageChannels.Proofs.Service.Closed

/-!
# Receiving a number of deliveries

Receiving a number of deliveries takes no more than are wanted. If it returns a batch, that is all
that was taken, in order, each acknowledged once; it is full unless the caller has cancelled
(`collects_taken`). What was acknowledged is always in a batch that is returned, but the batch is
lost with its acknowledgements where receiving returns an error after it has begun to take
(`acknowledged_after`): when the service is closed, the source fails or the source ends.
-/

set_option autoImplicit false

namespace MessageChannels

namespace System

/-- An envelope of a channel of a service is that of a delivery, and is acknowledged; nothing but that
was ever passed to the handle. -/
structure AckedOnce (s : System) (k : Nat) (channel : String) (i : Nat) (d : Taken) : Prop where
  found : s.envelopes[i]? = some ⟨d.message, channel, k, d.acker, .acked⟩
  once : s.settlements i = [(d.acker, .ack)]

/-- A token is cancelled at a turn of a run, after which an operation takes nothing. -/
def CutShort (s : System) (op ctx : Nat) (es : List Event) : Prop :=
  ∃ before after, es = before ++ .turn op :: after ∧ (s.after before).isCancelled ctx = true ∧
    s.pulled op before = s.pulled op es

/-- What receiving a number of deliveries takes in a run, and what it returns. -/
structure Collects (s : System) (op k : Nat) (channel topic subscription : String)
    (count ctx : Nat) (es : List Event) : Prop where
  /-- Sources give up what it takes and nothing else. -/
  drawn : s.DrawsOpenly op es
  bounded : (s.pulled op es).length ≤ count
  /-- What it returns is what it took, and as much as was wanted unless it was cancelled. -/
  returned : ∀ outcome, (s.after es).result? op = some (.ok outcome) →
    ∃ batch, outcome = .collected batch ∧ batch.Nodup ∧
      List.Forall₂ ((s.after es).AckedOnce k channel) batch (s.pulled op es) ∧
      (batch.length = count ∨ s.CutShort op ctx es)
  /-- Where nothing is wanted, nothing is asked of the transport. -/
  empty : count = 0 →
    (s.after es).result? op = some (.ok (.collected [])) ∧ (s.after es).requests op = []
  opens : count ≠ 0 → s.request? op = some (.receive topic subscription)
  /-- Its next turn returns the batch when it is full. -/
  full : ∀ c, (s.after es).operations[op]? = some ⟨k, .collecting c⟩ →
    (s.pulled op es).length = count →
    ((s.after es).step (.turn op)).result? op = some (.ok (.collected c.envelopes))
  /-- Before that, being cancelled comes first, whatever else is the case. -/
  cancelled : ∀ c, (s.after es).operations[op]? = some ⟨k, .collecting c⟩ →
    (s.pulled op es).length < count → (s.after es).isCancelled ctx = true →
    ((s.after es).step (.turn op)).result? op = some (.ok (.collected c.envelopes))
  /-- The closing of the service comes second. -/
  closed : ∀ c, (s.after es).operations[op]? = some ⟨k, .collecting c⟩ →
    (s.pulled op es).length < count → (s.after es).isCancelled ctx = false →
    (s.after es).isClosed k = true →
    ((s.after es).step (.turn op)).result? op = some (.error .closed)

/-- What becomes of the envelopes that an operation which collects has acknowledged. -/
structure Acknowledges (s : System) (op k ctx : Nat) (es : List Event) : Prop where
  /-- As long as it goes on, it has them. -/
  kept : ∀ c, (s.after es).operations[op]? = some ⟨k, .collecting c⟩ →
    c.envelopes = s.acknowledged op es
  returned : ∀ outcome, (s.after es).result? op = some (.ok outcome) →
    outcome = .collected (s.acknowledged op es)
  /-- If it returns an error, they are lost. Unless there are none, it has ended while it was not
  cancelled and wanted more, by the closing of its service or by what its source showed. -/
  lost : ∀ err, (s.after es).result? op = some (.error err) → s.acknowledged op es ≠ [] →
    ∃ c, c.ctx = ctx ∧ c.envelopes = s.acknowledged op es ∧ s.EndedIn op k c es (.error err)

variable {op k count ctx : Nat} {s : System} {c : Collection} {es : List Event} {v : Service}
  {channel subscription : String} {batch : List Nat} {state : OperationState}

/-! ## Where it can be, and its result -/

theorem Ends.of_ok {envelopes : List Nat} (ends : s.Ends k c (.ok envelopes)) :
    envelopes = c.envelopes ∧ (c.count ≤ c.envelopes.length ∨ s.isCancelled c.ctx = true) := by
  cases ends with
  | full full => exact ⟨rfl, Or.inl full⟩
  | cancelled wanting cancelled => exact ⟨rfl, Or.inr cancelled⟩

theorem CollectionAfter.within (after : s.CollectionAfter op k channel count ctx es state batch) :
    batch.length ≤ count := by
  cases after with
  | collects subscription source batch within => exact within
  | returned subscription source batch result within => exact within
  | abandoned batch within => exact within
  | _ => exact Nat.zero_le _

theorem CollectionAfter.of_collecting
    (after : s.CollectionAfter op k channel count ctx es (.collecting c) batch) :
    c.ctx = ctx ∧ c.count = count ∧ c.envelopes = batch := by
  cases after
  exact ⟨rfl, rfl, rfl⟩

theorem CollectionAfter.of_ok {outcome : Outcome}
    (after : s.CollectionAfter op k channel count ctx es state batch)
    (ok : state.result? = some (.ok outcome)) :
    outcome = .collected batch ∧ (batch.length = count ∨ s.CutShort op ctx es) := by
  cases after with
  | returned subscription source batch result within ended =>
    obtain ⟨before, after, split, standing, ends, last⟩ := ended
    cases result with
    | error err => cases ok
    | ok envelopes =>
      cases ok
      obtain ⟨rfl, full | cancelled⟩ := ends.of_ok
      · exact ⟨rfl, Or.inl (Nat.le_antisymm within full)⟩
      · exact ⟨rfl, Or.inr ⟨before, after, split, cancelled, last⟩⟩
  | empty nothing =>
    cases ok
    exact ⟨rfl, Or.inl nothing.symm⟩
  | _ => cases ok

theorem CollectionAfter.of_error {err : ChannelError}
    (after : s.CollectionAfter op k channel count ctx es state batch)
    (error : state.result? = some (.error err)) (some : batch ≠ []) :
    ∃ c, c.ctx = ctx ∧ c.envelopes = batch ∧ s.EndedIn op k c es (.error err) := by
  cases after with
  | returned subscription source batch result within ended =>
    cases result with
    | ok envelopes => cases error
    | error err' =>
      cases error
      exact ⟨_, rfl, rfl, ended⟩
  | refused err' => exact absurd rfl some
  | _ => cases error

theorem Gathered.length_eq (gathered : s.Gathered op k channel es batch) :
    batch.length = (s.pulled op es).length :=
  gathered.taken.length_eq

theorem state_of_result? {result : Except ChannelError Outcome}
    (standing : s.operations[op]? = some ⟨k, state⟩) (returned : s.result? op = some result) :
    state.result? = some result := by
  rw [result?, standing] at returned
  exact returned

/-- Nothing but its acknowledgement is passed to the handle of an envelope that is acknowledged. -/
theorem ackedOnce (reachable : s.Reachable) {i : Nat} {d : Taken}
    (found : s.envelopes[i]? = some ⟨d.message, channel, k, d.acker, .acked⟩) :
    s.AckedOnce k channel i d :=
  ⟨found, reachable.settled.settlements i _ found⟩

/-- What ends a collection is what it returns in its next turn. -/
theorem result_of_ends {result : Except ChannelError (List Nat)}
    (found : s.operations[op]? = some ⟨k, .collecting c⟩) (ends : s.Ends k c result) :
    (s.step (.turn op)).result? op = some (result.map .collected) :=
  result?_of_finished (turn_of_ends found ends).1

/-! ## Beginning -/

/-- On an open service, receiving on a channel that has a subscription asks for its source, unless
nothing is wanted. -/
theorem receiveN_begun (alive : s.service? k = some v) {c : Channel}
    (known : v.registry.lookup? channel = some c) (named : c.subscription = some subscription)
    (opened : v.closed = false) (count ctx : Nat) :
    s.step (.begin k (.receiveN channel count ctx))
      = if count = 0 then (s.addOperation k).finish s.operations.length (.ok (.collected []))
        else (s.addOperation k).await s.operations.length
          (.opening ⟨channel, c.topic, subscription, ctx, .collect count⟩) := by
  have subscribed : v.subscribed channel = .ok (c, subscription) := by
    simp [Service.subscribed, known, named, opened]
  rw [step_begin alive]
  show (s.addOperation k).beginReceive s.operations.length v channel ctx (.collect count) = _
  simp only [beginReceive, subscribed, Intent.collect.injEq]

/-! ## Runs -/

/-- **Receiving a number of deliveries returns what it takes.** -/
theorem collects_taken (reachable : s.Reachable) (alive : s.service? k = some v) {c : Channel}
    (known : v.registry.lookup? channel = some c) (named : c.subscription = some subscription)
    (opened : v.closed = false) (count ctx : Nat) (es : List Event) :
    (s.step (.begin k (.receiveN channel count ctx))).Collects s.operations.length k channel c.topic
      subscription count ctx es := by
  have begun := receiveN_begun alive known named opened count ctx
  have fresh := s.getElem?_addOperation k
  have reachable' := (reachable.step (.begin k (.receiveN channel count ctx))).after es
  obtain ⟨state, batch, standing, gathered, after⟩ :=
    collecting_after reachable k channel count ctx es
  refine ⟨?drawn, ?bounded, ?returned, ?empty, ?opens, ?full, ?cancelled, ?closed⟩
  case drawn =>
    obtain ⟨_, first, _⟩ := receive_begun s k (.collect count) channel ctx
    exact drawsOpenly (List.getElem?_eq_some_iff.1 first).1 es
  case bounded =>
    rw [← gathered.length_eq]
    exact after.within
  case returned =>
    intro outcome returned
    obtain ⟨rfl, size⟩ := after.of_ok (state_of_result? standing returned)
    exact ⟨batch, rfl, gathered.distinct,
      gathered.taken.imp fun i d found => ackedOnce reachable' found, size⟩
  case empty =>
    intro nothing
    rw [begun, if_pos nothing]
    refine result_after (k := k) ?_ ?_ es
    · exact getElem?_setState_self fresh _
    · exact reachable.requests_eq_nil (Nat.le_refl _)
  case opens =>
    intro wanted
    rw [begun, if_neg wanted, request?, operations_await, getElem?_setState_self fresh]
    rfl
  case full =>
    intro c collecting full
    cases standing.symm.trans collecting
    obtain ⟨_, rfl, rfl⟩ := after.of_collecting
    rw [← gathered.length_eq] at full
    exact result_of_ends collecting (.full (Nat.le_of_eq full.symm))
  case cancelled =>
    intro c collecting wanting cancelled
    cases standing.symm.trans collecting
    obtain ⟨rfl, rfl, rfl⟩ := after.of_collecting
    rw [← gathered.length_eq] at wanting
    exact result_of_ends collecting (.cancelled wanting cancelled)
  case closed =>
    intro c collecting wanting going closed
    cases standing.symm.trans collecting
    obtain ⟨rfl, rfl, rfl⟩ := after.of_collecting
    rw [← gathered.length_eq] at wanting
    exact result_of_ends collecting (.closed wanting going closed)

/-- Two of three wanted orders are taken before the caller cancels, the service is closed, and the
transport with it. -/
def cancelledBatch : List Event :=
  [.serve 2, .turn 2, .turn 2, .cancel 0, .begin 0 .close, .serve 3, .turn 2]

/-- Two events are published on a service. -/
def twoPublished : List Event :=
  ordersSetting ++ [.begin 0 (.publish "orders" "made" (.ok .null)), .serve 0,
    .begin 0 (.publish "orders" "paid" (.ok .null)), .serve 1]

theorem collects_taken_cancelledBatch :
    (((start .epoch).after twoPublished).step (.begin 0 (.receiveN "orders" 3 0))).Collects 2 0
        "orders" "orders-topic" "orders-sub" 3 0 cancelledBatch ∧
      ((((start .epoch).after twoPublished).step (.begin 0 (.receiveN "orders" 3 0))).after
        cancelledBatch).result? 2 = some (.ok (.collected [0, 1])) :=
  ⟨collects_taken (s := (start .epoch).after twoPublished) (v := ordersService)
    (c := ((Channel.publishOnly "orders" "orders-topic").withSubscription "orders-sub").completed)
    ⟨.epoch, _, rfl⟩ rfl rfl rfl rfl 3 0 cancelledBatch, rfl⟩

/-- **What becomes of what was acknowledged.** -/
theorem acknowledged_after (reachable : s.Reachable) (k : Nat) (channel : String) (count ctx : Nat)
    (es : List Event) : (s.step (.begin k (.receiveN channel count ctx))).Acknowledges
      s.operations.length k ctx es := by
  obtain ⟨state, batch, standing, gathered, after⟩ :=
    collecting_after reachable k channel count ctx es
  refine ⟨?_, ?_, ?_⟩
  · intro c collecting
    cases standing.symm.trans collecting
    exact after.of_collecting.2.2.trans gathered.acked.symm
  · intro outcome returned
    rw [gathered.acked]
    exact (after.of_ok (state_of_result? standing returned)).1
  · intro err returned some
    rw [gathered.acked] at some ⊢
    exact after.of_error (state_of_result? standing returned) some

/-- The service is closed when one of two wanted orders is taken. -/
def closedBatch : List Event := [.serve 2, .turn 2, .begin 0 .close, .turn 2]

theorem acknowledged_closedBatch :
    (((start .epoch).after twoPublished).step (.begin 0 (.receiveN "orders" 2 0))).Acknowledges 2 0 0
        closedBatch ∧
      (((start .epoch).after twoPublished).step (.begin 0 (.receiveN "orders" 2 0))).acknowledged 2
        closedBatch = [0] :=
  ⟨acknowledged_after ⟨.epoch, _, rfl⟩ 0 "orders" 2 0 closedBatch, by decide +kernel⟩

/-- An envelope may be acknowledged and lost. -/
theorem acknowledged_lost :
    ¬ ∀ (s : System) (k : Nat) (channel : String) (count ctx : Nat) (es : List Event), s.Reachable →
      ∀ result i, ((s.step (.begin k (.receiveN channel count ctx))).after es).result?
          s.operations.length = some result →
        i ∈ (s.step (.begin k (.receiveN channel count ctx))).acknowledged s.operations.length es →
        ∃ batch, result = .ok (.collected batch) ∧ i ∈ batch := by
  intro all
  obtain ⟨batch, returned, _⟩ := all ((start .epoch).after twoPublished) 0 "orders" 2 0 closedBatch
    ⟨.epoch, _, rfl⟩ (.error .closed) 0 rfl (by decide +kernel)
  cases returned

end System

end MessageChannels
