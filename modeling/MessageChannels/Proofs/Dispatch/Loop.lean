import MessageChannels.Proofs.System.Lasting
import MessageChannels.Proofs.System.Request

/-!
# What a receive loop can do

A receive loop comes into being when a source is opened for it, with all its permits free
(`loop_before`). From then on an event leaves it alone or moves it in one of the ways of `LoopNext`,
each with what the loop saw when it moved that way (`loop_step`). What is proved about loops goes by
these two and never opens the operations again.
-/

set_option autoImplicit false

namespace MessageChannels

namespace System

/-- Why a loop stops, and the outcome: of causes that coincide, the first in this order counts. -/
inductive Stops (s : System) (k : Nat) (l : Loop) : Except ChannelError Unit → Prop where
  | cancelled (cancelled : s.isCancelled l.ctx = true) : Stops s k l (.ok ())
  | closed (going : s.isCancelled l.ctx = false) (closed : s.isClosed k = true) :
      Stops s k l (.error .closed)
  | failed (err : TransportError) (going : s.isCancelled l.ctx = false)
      (opened : s.isClosed k = false) (shown : (s.poll l.source).2 = .failed err) :
      Stops s k l (.error (.ofTransport receiveOperation l.subscription err))
  | ended (going : s.isCancelled l.ctx = false) (opened : s.isClosed k = false)
      (shown : (s.poll l.source).2 = .ended) :
      Stops s k l (.error (.transport receiveOperation l.subscription
        (.unavailable "delivery stream ended")))

end System

/-- A loop has not stopped. -/
def Loop.Runs (l : Loop) : Prop := ∀ outcome, l.phase ≠ .draining outcome

namespace System

/-- What an event makes of an operation that is a receive loop of a service. -/
inductive LoopNext (s : System) (e : Event) (op k : Nat) (l : Loop) : OperationState → Prop where
  | stayed (idle : ∀ i panicked, e = .handlerEnded op i panicked → i ∉ l.running) :
      LoopNext s e op k l (.receiving l)
  /-- A handler ends and gives its permit back. -/
  | handlerEnded (i : Nat) (panicked : Bool) (cause : e = .handlerEnded op i panicked)
      (runs : i ∈ l.running) :
      LoopNext s e op k l (.receiving
        { l with
          free := l.free + 1
          running := l.running.erase i
          ended := l.ended ++ [panicked] })
  /-- The loop takes notice of a handler's end. -/
  | joined (cause : e = .turn op) (ended : l.ended ≠ []) : LoopNext s e op k l (.receiving l.joined)
  /-- The loop takes a delivery. -/
  | pulled (d : Taken) (cause : e = .turn op) (phase : l.phase = .listening)
      (going : s.isCancelled l.ctx = false) (opened : s.isClosed k = false)
      (shown : (s.poll l.source).2 = .delivered d) :
      LoopNext s e op k l (.receiving { l with phase := .holding d })
  /-- The loop hands its delivery to a handler, for which there is a permit. -/
  | handed (d : Taken) (cause : e = .turn op) (phase : l.phase = .holding d)
      (going : s.isCancelled l.ctx = false) (opened : s.isClosed k = false) (permit : 0 < l.free) :
      LoopNext s e op k l (.receiving (l.handed s.envelopes.length))
  | stopped (outcome : Except ChannelError Unit) (cause : e = .turn op) (runs : l.Runs)
      (stops : s.Stops k l outcome) : LoopNext s e op k l (.receiving (l.stopped outcome))
  | returned (outcome : Except ChannelError Unit) (cause : e = .turn op)
      (phase : l.phase = .draining outcome) (noticed : l.ended = []) (idle : l.running = []) :
      LoopNext s e op k l (.finished (outcome.map fun _ => .done))
  | abandoned (cause : e = .abandon op) : LoopNext s e op k l .abandoned

variable {e : Event} {op k : Nat} {s : System} {l : Loop}

/-! ## Turns -/

theorem turn_loop (found : s.operations[op]? = some ⟨k, .receiving l⟩) :
    s.step (.turn op) = (s.turnLoop op k l).1 := by
  simp only [step, turn, found]

/-- A loop that has not stopped looks first whether it is cancelled, then whether it is closed. -/
theorem move_of_stop {cancelled closed : Bool} (runs : l.Runs)
    (cause : cancelled = true ∨ closed = true) :
    l.move cancelled closed = .stop (if cancelled = true then .ok () else .error .closed) := by
  cases phase : l.phase with
  | draining outcome => exact absurd phase (runs outcome)
  | _ =>
    cases cancelled with
    | true => simp [Loop.move, phase]
    | false => simp [Loop.move, phase, cause.resolve_left Bool.false_ne_true]

theorem turn_stop (found : s.operations[op]? = some ⟨k, .receiving l⟩)
    {outcome : Except ChannelError Unit}
    (move : l.move (s.isCancelled l.ctx) (s.isClosed k) = .stop outcome) :
    (s.step (.turn op)).operations[op]? = some ⟨k, .receiving (l.stopped outcome)⟩ := by
  rw [turn_loop found]
  simp only [turnLoop, move]
  exact operations_stopLoop found outcome

/-- The next turn of a loop that is cancelled or whose service is closed stops it. -/
theorem turn_stops (found : s.operations[op]? = some ⟨k, .receiving l⟩) (runs : l.Runs)
    (cause : s.isCancelled l.ctx = true ∨ s.isClosed k = true) :
    ∃ outcome, s.Stops k l outcome ∧
      (s.step (.turn op)).operations[op]? = some ⟨k, .receiving (l.stopped outcome)⟩ := by
  refine ⟨_, ?_, turn_stop found (move_of_stop runs cause)⟩
  cases cancelled : s.isCancelled l.ctx with
  | true => exact .cancelled cancelled
  | false => exact .closed cancelled (cause.resolve_left (by simp [cancelled]))

/-- A turn of a loop that has something to take notice of, and nothing before that. -/
theorem turn_join (found : s.operations[op]? = some ⟨k, .receiving l⟩) {panicked : Bool}
    (move : l.move (s.isCancelled l.ctx) (s.isClosed k) = .join panicked) :
    (s.step (.turn op)).operations[op]? = some ⟨k, .receiving l.joined⟩ := by
  rw [turn_loop found]
  simp only [turnLoop, move]
  refine getElem?_setState_self (o := ⟨k, .receiving l⟩) ?_ _
  cases panicked <;> exact found

/-- A loop that waits for a delivery, and has nothing to take notice of, looks at its source. -/
theorem move_of_look (going : s.isCancelled l.ctx = false) (opened : s.isClosed k = false)
    (phase : l.phase = .listening) (noticed : l.ended = []) :
    l.move (s.isCancelled l.ctx) (s.isClosed k) = .look := by
  simp [Loop.move, phase, going, opened, noticed]

theorem runs_of_listening (phase : l.phase = .listening) : l.Runs := by
  intro outcome draining
  cases phase.symm.trans draining

theorem standing_poll (found : s.operations[op]? = some ⟨k, .receiving l⟩) :
    (s.poll l.source).1.operations[op]? = some ⟨k, .receiving l⟩ := by
  rw [operations_poll]
  exact found

/-- Whatever stops a loop stops it in its next turn, if it waits for a delivery and has nothing to
take notice of. -/
theorem turn_of_stops (found : s.operations[op]? = some ⟨k, .receiving l⟩)
    (phase : l.phase = .listening) (noticed : l.ended = []) {outcome : Except ChannelError Unit}
    (stops : s.Stops k l outcome) :
    (s.step (.turn op)).operations[op]? = some ⟨k, .receiving (l.stopped outcome)⟩ := by
  have runs := runs_of_listening phase
  cases stops with
  | cancelled cancelled =>
    apply turn_stop found
    rw [move_of_stop runs (Or.inl cancelled), if_pos cancelled]
  | closed going closed =>
    apply turn_stop found
    rw [move_of_stop runs (Or.inr closed), going]
    rfl
  | failed err going opened shown =>
    rw [turn_loop found]
    simp only [turnLoop, move_of_look going opened phase noticed, shown, Loop.seen]
    exact operations_stopLoop (standing_poll found) _
  | ended going opened shown =>
    rw [turn_loop found]
    simp only [turnLoop, move_of_look going opened phase noticed, shown, Loop.seen]
    rw [opened]
    exact operations_stopLoop (standing_poll found) _

/-- A look at the source of a loop that is neither cancelled nor closed. -/
theorem turn_look (found : s.operations[op]? = some ⟨k, .receiving l⟩)
    (going : s.isCancelled l.ctx = false) (opened : s.isClosed k = false)
    (phase : l.phase = .listening) (noticed : l.ended = []) :
    ∃ state, (s.step (.turn op)).operations[op]? = some ⟨k, state⟩ ∧
      s.LoopNext (.turn op) op k l state := by
  have stops {outcome : Except ChannelError Unit} (stops : s.Stops k l outcome) :
      ∃ state, (s.step (.turn op)).operations[op]? = some ⟨k, state⟩ ∧
        s.LoopNext (.turn op) op k l state :=
    ⟨_, turn_of_stops found phase noticed stops, .stopped _ rfl (runs_of_listening phase) stops⟩
  cases shown : (s.poll l.source).2 with
  | pending =>
    rw [turn_loop found]
    simp only [turnLoop, move_of_look going opened phase noticed, shown, Loop.seen]
    exact ⟨_, standing_poll found, .stayed fun _ _ h => by cases h⟩
  | delivered d =>
    rw [turn_loop found]
    simp only [turnLoop, move_of_look going opened phase noticed, shown, Loop.seen]
    exact ⟨_, getElem?_setState_self (standing_poll found) _,
      .pulled d rfl phase going opened shown⟩
  | failed err => exact stops (.failed err going opened shown)
  | ended => exact stops (.ended going opened shown)

/-- What a turn does to a loop that has not stopped. -/
theorem turn_of_runs (found : s.operations[op]? = some ⟨k, .receiving l⟩) (runs : l.Runs) :
    ∃ state, (s.step (.turn op)).operations[op]? = some ⟨k, state⟩ ∧
      s.LoopNext (.turn op) op k l state := by
  by_cases cause : s.isCancelled l.ctx = true ∨ s.isClosed k = true
  · obtain ⟨outcome, stops, found'⟩ := turn_stops found runs cause
    exact ⟨_, found', .stopped outcome rfl runs stops⟩
  · have going : s.isCancelled l.ctx = false := by simpa using fun h => cause (Or.inl h)
    have opened : s.isClosed k = false := by simpa using fun h => cause (Or.inr h)
    cases phase : l.phase with
    | draining outcome => exact absurd phase (runs outcome)
    | listening =>
      cases ended : l.ended with
      | nil => exact turn_look found going opened phase ended
      | cons panicked rest =>
        have move : l.move (s.isCancelled l.ctx) (s.isClosed k) = .join panicked := by
          simp [Loop.move, phase, going, opened, ended]
        exact ⟨_, turn_join found move, .joined rfl (by simp [ended])⟩
    | holding d =>
      rw [turn_loop found]
      by_cases permit : 0 < l.free
      · have move : l.move (s.isCancelled l.ctx) (s.isClosed k) = .hand d := by
          simp [Loop.move, phase, going, opened, permit]
        simp only [turnLoop, move]
        exact ⟨_, getElem?_setState_self (o := ⟨k, .receiving l⟩) found _,
          .handed d rfl phase going opened permit⟩
      · have move : l.move (s.isCancelled l.ctx) (s.isClosed k) = .wait := by
          simp [Loop.move, phase, going, opened, permit]
        simp only [turnLoop, move]
        exact ⟨_, found, .stayed fun _ _ h => by cases h⟩

/-- A loop that has stopped takes notice of handlers that ended, and returns when none is left. -/
theorem turn_draining (found : s.operations[op]? = some ⟨k, .receiving l⟩)
    {outcome : Except ChannelError Unit} (phase : l.phase = .draining outcome) :
    (l.ended ≠ [] → (s.step (.turn op)).operations[op]? = some ⟨k, .receiving l.joined⟩) ∧
      (l.ended = [] → l.running = [] → (s.step (.turn op)).operations[op]?
        = some ⟨k, .finished (outcome.map fun _ => .done)⟩) ∧
      (l.ended = [] → l.running ≠ [] →
        (s.step (.turn op)).operations[op]? = some ⟨k, .receiving l⟩) := by
  refine ⟨fun some => ?_, fun none idle => ?_, fun none busy => ?_⟩
  · obtain ⟨panicked, rest, ended⟩ := List.exists_cons_of_ne_nil some
    have move : l.move (s.isCancelled l.ctx) (s.isClosed k) = .join panicked := by
      simp [Loop.move, phase, ended]
    exact turn_join found move
  · have move : l.move (s.isCancelled l.ctx) (s.isClosed k) = .finish outcome := by
      simp [Loop.move, phase, none, idle]
    rw [turn_loop found]
    simp only [turnLoop, move]
    exact getElem?_setState_self found _
  · have move : l.move (s.isCancelled l.ctx) (s.isClosed k) = .wait := by
      simp [Loop.move, phase, none, busy]
    rw [turn_loop found]
    simp only [turnLoop, move]
    exact found

theorem turn_of_draining (found : s.operations[op]? = some ⟨k, .receiving l⟩)
    {outcome : Except ChannelError Unit} (phase : l.phase = .draining outcome) :
    ∃ state, (s.step (.turn op)).operations[op]? = some ⟨k, state⟩ ∧
      s.LoopNext (.turn op) op k l state := by
  obtain ⟨joins, returns, waits⟩ := turn_draining found phase
  by_cases ended : l.ended = []
  · by_cases idle : l.running = []
    · exact ⟨_, returns ended idle, .returned outcome rfl phase ended idle⟩
    · exact ⟨_, waits ended idle, .stayed fun _ _ h => by cases h⟩
  · exact ⟨_, joins ended, .joined rfl ended⟩

/-- **What an event does to a receive loop.** -/
theorem loop_step (found : s.operations[op]? = some ⟨k, .receiving l⟩) (e : Event) :
    ∃ state, (s.step e).operations[op]? = some ⟨k, state⟩ ∧ s.LoopNext e op k l state := by
  have begun := (List.getElem?_eq_some_iff.1 found).1
  have stands := map_state_of_getElem? found
  by_cases about : e.operation s = op
  · cases concerns_of_about begun about with
    | serve =>
      have waits : s.request? op = none := by simp [request?, found, OperationState.request?]
      refine ⟨_, ?_, .stayed fun _ _ h => by cases h⟩
      simp only [step, serve, waits]
      exact found
    | reply r =>
      refine ⟨_, ?_, .stayed fun _ _ h => by cases h⟩
      simp only [step, answer, found]
    | turn =>
      by_cases runs : l.Runs
      · exact turn_of_runs found runs
      · obtain ⟨outcome, phase⟩ := not_forall.1 runs
        exact turn_of_draining found (not_not.1 phase)
    | handlerEnded i panicked =>
      simp only [step, System.handlerEnded, stands]
      refine ⟨_, getElem?_setState_self found _, ?_⟩
      unfold Loop.handlerEnded
      split
      · rename_i runs
        exact .handlerEnded i panicked rfl (List.contains_iff_mem.1 runs)
      · rename_i other
        refine .stayed fun i' panicked' h runs => other ?_
        cases h
        exact List.contains_iff_mem.2 runs
    | abandon =>
      simp only [step, abandon, stands]
      exact ⟨_, getElem?_setState_self (operations_stopLoop found _) _, .abandoned rfl⟩
  · obtain ⟨same, _⟩ := s.frame_step e (Ne.symm about) begun
    refine ⟨_, same.trans found, .stayed ?_⟩
    rintro i panicked rfl
    exact absurd rfl about

/-! ## Where loops come from -/

/-- An operation is no receive loop. -/
def NoLoop (s : System) (op : Nat) : Prop :=
  ∀ (k : Nat) (l : Loop), s.operations[op]? ≠ some ⟨k, .receiving l⟩

theorem noLoop_setState {state : OperationState} (other : ∀ l, state ≠ .receiving l) :
    (s.setState op state).NoLoop op := by
  intro k l found
  rw [getElem?_setState, if_pos rfl] at found
  obtain ⟨o, _, heq⟩ := Option.map_eq_some_iff.1 found
  exact other l (congrArg Operation.state heq)

theorem noLoop_finish (result : Except ChannelError Outcome) : (s.finish op result).NoLoop op :=
  noLoop_setState fun _ h => by cases h

theorem noLoop_await {state : OperationState} (other : ∀ l, state ≠ .receiving l) :
    (s.await op state).NoLoop op := by
  unfold await
  split
  · exact noLoop_setState other
  · exact noLoop_setState other

theorem noLoop_endPublish (p : Publishing) (result : Except ChannelError String) :
    (s.endPublish op p result).NoLoop op := by
  unfold endPublish
  split <;> exact noLoop_finish _

theorem noLoop_beginPublish (k : Nat) (p : Publishing) : (s.beginPublish op k p).NoLoop op := by
  unfold beginPublish
  split
  · exact noLoop_endPublish p _
  · exact noLoop_await fun _ h => by cases h

theorem noLoop_tend (next : Topology.Next) : (s.tend op next).NoLoop op := by
  unfold tend
  split
  · exact noLoop_await fun _ h => by cases h
  · exact noLoop_finish _
  · exact noLoop_finish _

theorem noLoop_beginReceive (v : Service) (channel : String) (ctx : Nat) (intent : Intent) :
    (s.beginReceive op v channel ctx intent).NoLoop op := by
  unfold beginReceive
  split
  · exact noLoop_finish _
  · split
    · exact noLoop_finish _
    · exact noLoop_await fun _ h => by cases h

theorem noLoop_run (k : Nat) (v : Service) (c : Command) : (s.run op k v c).NoLoop op := by
  cases c with
  | publish channel event payload =>
    dsimp only [run]
    split
    · exact noLoop_finish _
    · exact noLoop_finish _
    · exact noLoop_beginPublish k _
  | deleteChannel channel =>
    dsimp only [run]
    split
    · exact noLoop_finish _
    · exact noLoop_tend _
  | close => exact noLoop_await fun _ h => by cases h
  | receive channel ctx => exact noLoop_beginReceive v channel ctx _
  | receiveN channel count ctx => exact noLoop_beginReceive v channel ctx _
  | _ => exact noLoop_tend _

theorem noLoop_route (i : Nat) (made : Envelope) (v : Service) (cause : String) :
    (s.route op i made v cause).NoLoop op := by
  unfold route
  split
  · exact noLoop_finish _
  · exact noLoop_finish _
  · dsimp only
    split
    · exact noLoop_beginPublish _ _
    · exact noLoop_beginPublish _ _
    · exact noLoop_finish _
    · exact noLoop_finish _

theorem noLoop_decide (i : Nat) (made : Envelope) (v : Service) (cause : String)
    (c : FailureCommand) : (s.decide op i made v cause c).NoLoop op := by
  cases c with
  | deadLetter => exact noLoop_route i made v cause
  | retry =>
    dsimp only [decide]
    split
    · exact noLoop_finish _
    · split
      · exact noLoop_finish _
      · exact noLoop_route i made v cause

theorem NoLoop.of_operations {s' : System} (none : s.NoLoop op)
    (same : s'.operations = s.operations) : s'.NoLoop op :=
  fun k l found => none k l (same ▸ found)

theorem noLoop_turnCollection {c : Collection} (none : s.NoLoop op) :
    (s.turnCollection op k c).1.NoLoop op := by
  unfold turnCollection
  dsimp only
  split
  · exact noLoop_finish _
  · split
    · exact none.of_operations (operations_poll s c.source)
    · exact noLoop_setState fun _ h => by cases h
    · exact noLoop_finish _

/-- A loop that was opened for a receiver on a service and has done nothing. -/
def freshLoop (s : System) (k : Nat) (o : Opening) (source : Source) : Loop :=
  ⟨o.channel, o.subscription, o.ctx, source, .listening,
    ((s.services[k]?).map Service.maxOutstanding).getD 0, [], []⟩

/-- A loop comes of a reply to a receiver that waits for its source. -/
theorem loop_of_answer {j : Nat} {state : OperationState}
    (standing : s.operations[op]? = some ⟨j, state⟩) {reply : Except TransportError Reply}
    (found' : (s.answer op reply).operations[op]? = some ⟨k, .receiving l⟩) :
    (∃ l₀, s.operations[op]? = some ⟨k, .receiving l₀⟩) ∨
      ∃ o source, s.operations[op]? = some ⟨k, .opening o⟩ ∧ l = s.freshLoop k o source := by
  simp only [answer, standing] at found'
  cases state with
  | publishing p => cases reply <;> exact absurd found' (noLoop_endPublish p _ k l)
  | tending w => exact absurd found' (noLoop_tend _ k l)
  | closing => cases reply <;> exact absurd found' (noLoop_finish _ k l)
  | opening o =>
    dsimp only [answerOpening] at found'
    split at found'
    · rename_i source
      unfold listen at found'
      split at found'
      · rw [getElem?_setState_self standing] at found'
        cases found'
        exact Or.inr ⟨o, source, standing, rfl⟩
      · refine absurd found' (noLoop_setState ?_ k l)
        exact fun _ h => by cases h
    · exact absurd found' (noLoop_finish _ k l)
    · exact absurd found' (noLoop_finish _ k l)
  | _ => exact Or.inl ⟨l, found'⟩

/-- No loop comes of an event that begins an operation, or of one about an operation that was not
begun. -/
theorem noLoop_unbegun (unbegun : s.operations.length ≤ op) (e : Event) :
    (s.step e).NoLoop op := by
  rcases begun_or_unbegun unbegun e with later | ⟨rfl, ⟨k, c, rfl⟩ | ⟨i, c, cause, rfl⟩⟩
  · intro k l found
    rw [List.getElem?_eq_none later] at found
    cases found
  · show (s.begin k c).1.NoLoop _
    unfold begin
    dsimp only
    split
    · exact noLoop_run k _ c
    · exact noLoop_finish _
  · show (s.beginFailure i c cause).1.NoLoop _
    unfold beginFailure
    dsimp only
    split
    · exact noLoop_finish _
    · split
      · exact noLoop_decide i _ _ cause c
      · exact noLoop_finish _

/-- **Where a receive loop comes from**: it was there before, or it was just opened. -/
theorem loop_before (e : Event)
    (found' : (s.step e).operations[op]? = some ⟨k, .receiving l⟩) :
    (∃ l₀, s.operations[op]? = some ⟨k, .receiving l₀⟩) ∨
      ∃ o source, s.operations[op]? = some ⟨k, .opening o⟩ ∧ l = s.freshLoop k o source := by
  by_cases begun : op < s.operations.length
  · by_cases about : e.operation s = op
    · obtain ⟨⟨j, state⟩, standing⟩ : ∃ o, s.operations[op]? = some o :=
        ⟨_, List.getElem?_eq_getElem begun⟩
      have stands := map_state_of_getElem? standing
      cases concerns_of_about begun about with
      | serve =>
        simp only [step, serve] at found'
        split at found'
        · exact Or.inl ⟨l, found'⟩
        · exact loop_of_answer (s := { s with broker := (s.broker.perform s.clock _).1 }) standing
            found'
      | reply r => exact loop_of_answer standing found'
      | turn =>
        cases state with
        | receiving l₀ =>
          obtain ⟨state', found₁, _⟩ := loop_step standing (.turn op)
          cases found₁.symm.trans found'
          exact Or.inl ⟨l₀, standing⟩
        | collecting c =>
          simp only [step, turn, standing] at found'
          refine absurd found' (noLoop_turnCollection ?_ k l)
          intro k' l' found
          cases standing.symm.trans found
        | _ =>
          simp only [step, turn, standing] at found'
          cases found'
      | handlerEnded i panicked =>
        cases state with
        | receiving l₀ =>
          obtain ⟨state', found₁, _⟩ := loop_step standing (.handlerEnded op i panicked)
          cases found₁.symm.trans found'
          exact Or.inl ⟨l₀, standing⟩
        | _ =>
          simp only [step, System.handlerEnded, stands] at found'
          cases standing.symm.trans found'
      | abandon =>
        cases state with
        | finished result =>
          simp only [step, abandon, stands] at found'
          cases standing.symm.trans found'
        | _ =>
          simp only [step, abandon, stands] at found'
          refine absurd found' (noLoop_setState ?_ k l)
          exact fun _ h => by cases h
    · obtain ⟨same, _⟩ := s.frame_step e (Ne.symm about) begun
      exact Or.inl ⟨l, same.symm.trans found'⟩
  · exact absurd found' (noLoop_unbegun (Nat.le_of_not_lt begun) e k l)

end System

end MessageChannels
