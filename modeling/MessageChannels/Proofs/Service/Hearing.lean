import MessageChannels.Proofs.Dispatch.Loop
import MessageChannels.Proofs.Topology.Tending

/-!
# What operations hear of the transport

An operation hears replies to its calls and what its source shows. `hears_step` says once and for all
what an event lets an operation hear, and what error it comes to by that: a failure that it hears is
its error, unless it says that what was to be created is there already or what was to be deleted is
gone; a source that ends is an error that the operation makes up itself; and where it hears nothing it
comes to no error but that its service is closed. From then on it hears nothing.
-/

set_option autoImplicit false

namespace MessageChannels

open MessageChannels.Topology (stateOf)

namespace Request

/-- The topic or subscription that a request concerns. -/
def resource : Request → String
  | topicExists t => t
  | createTopic t => t
  | deleteTopic t => t
  | subscriptionExists n => n
  | createSubscription _ n _ => n
  | deleteSubscription n => n
  | publish t _ => t
  | receive _ n => n
  | close => "transport"

/-- Whether a failure of a request counts as success: what is to be created exists already, or what
is to be deleted does not exist. -/
def excuses : Request → TransportError → Bool
  | createTopic _, e => e.isAlreadyExists
  | createSubscription _ _ _, e => e.isAlreadyExists
  | deleteTopic _, e => e.isNotFound
  | deleteSubscription _, e => e.isNotFound
  | _, _ => false

end Request

/-- What an operation hears of the transport. -/
inductive Heard where
  | replied (request : Request) (reply : Except TransportError Reply)
  /-- Its source shows something, or its end. -/
  | shown (subscription : String) (poll : Poll)

namespace Heard

/-- The topic or subscription that something heard concerns. -/
def resource : Heard → String
  | replied r _ => r.resource
  | shown n _ => n

/-- The failure that is heard. -/
def failure? : Heard → Option TransportError
  | replied _ (.error e) => some e
  | shown _ (.failed e) => some e
  | _ => none

/-- Whether what is heard is a failure that counts as success. -/
def isExcused : Heard → Bool
  | replied r (.error e) => r.excuses e
  | _ => false

/-- Whether a source is heard to end. A reply that opens no source is the end of it. -/
def isEnd : Heard → Bool
  | replied (.receive _ _) (.ok (.opened _)) => false
  | replied (.receive _ _) (.ok _) => true
  | shown _ .ended => true
  | _ => false

/-- What is heard of a look at a source: nothing, as long as there is nothing to be seen. -/
def ofPoll (subscription : String) : Poll → List Heard
  | .pending => []
  | .delivered d => [.shown subscription (.delivered d)]
  | .failed e => [.shown subscription (.failed e)]
  | .ended => [.shown subscription .ended]

end Heard

namespace OperationState

/-- The error that an operation has come to, whether it has returned it or still waits for handlers. -/
def error? : OperationState → Option ChannelError
  | finished (.error e) => some e
  | receiving l =>
    match l.phase with
    | .draining (.error e) => some e
    | _ => none
  | _ => none

/-- Whether an operation can still hear something of the transport. -/
def listens : OperationState → Bool
  | finished _ => false
  | abandoned => false
  | receiving l =>
    match l.phase with
    | .draining _ => false
    | _ => true
  | _ => true

/-- Whether an operation is one that receives. -/
def receives : OperationState → Bool
  | opening _ => true
  | receiving _ => true
  | collecting _ => true
  | _ => false

/-- An operation does not close its service and is not given up; topology work is at a chore that has
a question. -/
def Plainly : OperationState → Prop
  | closing => False
  | abandoned => False
  | tending w => w.chore ≠ .verifyOpen
  | _ => True

theorem listens_eq_false_of_error? {state : OperationState} {e : ChannelError}
    (error : state.error? = some e) : state.listens = false := by
  cases state with
  | finished result => rfl
  | receiving l =>
    cases phase : l.phase with
    | draining outcome => simp [listens, phase]
    | listening => simp [error?, phase] at error
    | holding d => simp [error?, phase] at error
  | _ => cases error

end OperationState

namespace System

/-- What an operation that is given a turn hears of its source. -/
def seenBy (s : System) (op : Nat) : List Heard :=
  match s.operations[op]? with
  | some ⟨k, .receiving l⟩ =>
    match l.move (s.isCancelled l.ctx) (s.isClosed k) with
    | .look => Heard.ofPoll l.subscription (s.poll l.source).2
    | _ => []
  | some ⟨k, .collecting c⟩ =>
    match c.move (s.isCancelled c.ctx) (s.isClosed k) with
    | .look => Heard.ofPoll c.subscription (s.poll c.source).2
    | _ => []
  | _ => []

/-- What an operation hears in an event. -/
def heardIn (s : System) (op : Nat) : Event → List Heard
  | .turn k => if k = op then s.seenBy op else []
  | e =>
    match s.request? op, s.replyIn op e with
    | some r, some reply => [.replied r reply]
    | _, _ => []

/-- What an operation hears in a run. -/
def heard (s : System) (op : Nat) : List Event → List Heard
  | [] => []
  | e :: es => s.heardIn op e ++ (s.step e).heard op es

/-- What an operation makes of what it hears, in a service that is closed or not. -/
inductive Takes (closed : Bool) (before : OperationState) (h : Heard) (after : OperationState) :
    Prop where
  /-- It hears what it asked for, or what counts as that. -/
  | heeded (spared : h.failure? = none ∨ h.isExcused = true)
      (next : after.error? = none ∨ after.error? = some .closed ∧ closed = true)
  | failed (err : TransportError) (name : String) (failure : h.failure? = some err)
      (blamed : h.isExcused = false)
      (error : after.error? = some (.ofTransport name h.resource err))
  /-- Its source has ended. -/
  | ended (receives : before.receives = true) (isEnd : h.isEnd = true)
      (error : after.error? = some (streamEnded closed h.resource))

/-- What an event makes of an operation of a service, by what the operation hears in it. -/
inductive HearsNext (s : System) (e : Event) (op k : Nat) (before after : OperationState) :
    Prop where
  | silent (nothing : s.heardIn op e = []) (same : after.error? = before.error?)
      (deaf : after.listens = true → before.listens = true)
  /-- The operation finds its service closed. -/
  | shut (nothing : s.heardIn op e = []) (listening : before.listens = true)
      (closed : s.isClosed k = true) (error : after.error? = some .closed)
  | took (h : Heard) (hears : s.heardIn op e = [h]) (listening : before.listens = true)
      (takes : Takes (s.isClosed k) before h after)

/-- A step of an operation that keeps to what it is. -/
structure Proper (before after : OperationState) : Prop where
  plainly : after.Plainly
  receives : after.receives = true → before.receives = true

theorem Proper.of_deaf {before after : OperationState} (plainly : after.Plainly)
    (deaf : after.receives = false) : Proper before after :=
  ⟨plainly, fun h => absurd (deaf.symm.trans h) Bool.false_ne_true⟩

/-- An event leaves an operation somewhere that accounts for what the operation hears in it. -/
def Hears (s : System) (e : Event) (op k : Nat) (before : OperationState) : Prop :=
  ∃ after, (s.step e).operations[op]? = some ⟨k, after⟩ ∧ Proper before after ∧
    s.HearsNext e op k before after

variable {e : Event} {op k : Nat} {s : System} {state : OperationState} {w : Topology.Work}
  {l : Loop} {c : Collection} {reply : Except TransportError Reply}

/-! ## Runs -/

theorem heard_append (s : System) (op : Nat) (es fs : List Event) :
    s.heard op (es ++ fs) = s.heard op es ++ (s.after es).heard op fs := by
  induction es generalizing s with
  | nil => rfl
  | cons e es ih =>
    rw [List.cons_append, heard, ih, heard, List.append_assoc]
    rfl

theorem heard_snoc (s : System) (op : Nat) (es : List Event) (e : Event) :
    s.heard op (es ++ [e]) = s.heard op es ++ (s.after es).heardIn op e := by
  rw [heard_append, heard, heard, List.append_nil]

/-! ## Replies -/

theorem standing_endPublish_ok (found : s.operations[op]? = some ⟨k, state⟩) (p : Publishing)
    (id : String) : ∃ outcome, (s.endPublish op p (.ok id)).operations[op]?
      = some ⟨k, .finished (.ok outcome)⟩ := by
  cases purpose : p.purpose with
  | event =>
    refine ⟨.published id, ?_⟩
    simp only [endPublish, purpose]
    exact getElem?_setState_self found _
  | deadLetter i waits channel =>
    refine ⟨.done, ?_⟩
    simp only [endPublish, purpose]
    refine getElem?_setState_self (o := ⟨k, state⟩) ?_ _
    show (if waits then s.settleFrom i .deadLetterPending .ack else s).operations[op]? = _
    split
    · rw [operations_settleFrom, found]
    · exact found

theorem standing_endPublish_error (found : s.operations[op]? = some ⟨k, state⟩) (p : Publishing)
    (err : ChannelError) : (s.endPublish op p (.error err)).operations[op]?
      = some ⟨k, .finished (.error err)⟩ := by
  cases purpose : p.purpose with
  | event =>
    simp only [endPublish, purpose]
    exact getElem?_setState_self found _
  | deadLetter i waits channel =>
    simp only [endPublish, purpose]
    refine getElem?_setState_self (o := ⟨k, state⟩) ?_ _
    show (if waits then s.settleFrom i .deadLetterPending .nack else s).operations[op]? = _
    split
    · rw [operations_settleFrom, found]
    · exact found

/-- Topology work goes on to a chore with a question, is all done, or finds its service closed. -/
theorem begin_cases (closed : Bool) (chores : List Topology.Chore) :
    Topology.begin closed chores = .error .closed ∧ closed = true ∨
      Topology.begin closed chores = .ok none ∨
      ∃ w, Topology.begin closed chores = .ok (some w) ∧ w.chore ≠ .verifyOpen := by
  induction chores with
  | nil => exact Or.inr (Or.inl rfl)
  | cons c later ih =>
    unfold Topology.begin
    split
    · rename_i refused
      exact Or.inl ⟨rfl, ((Bool.and_eq_true _ _).mp refused).2⟩
    · split
      · exact ih
      · rename_i real
        refine Or.inr (Or.inr ⟨_, rfl, fun h => real ?_⟩)
        exact Topology.Chore.question?_eq_none.2 h

/-- The request of topology work concerns what its chore does, and excuses what settles the chore if
it is for a change. -/
theorem request_of_work {r : Request} (asks : w.request? = some r) (e : TransportError) :
    r.resource = w.chore.resource ∧
      r.excuses e = (w.changing && w.chore.isSettledBy e) := by
  obtain ⟨chore, changing, later⟩ := w
  cases changing with
  | false => cases chore <;> cases asks <;> exact ⟨rfl, rfl⟩
  | true => cases chore <;> cases asks <;> exact ⟨rfl, rfl⟩

theorem error?_of_begin (closed : Bool) (chores : List Topology.Chore) :
    (stateOf (Topology.begin closed chores)).Plainly ∧
      (stateOf (Topology.begin closed chores)).receives = false ∧
      ((stateOf (Topology.begin closed chores)).error? = none ∨
        (stateOf (Topology.begin closed chores)).error? = some .closed ∧ closed = true) := by
  rcases begin_cases closed chores with ⟨begun, shut⟩ | begun | ⟨w, begun, real⟩
  · rw [begun]
    exact ⟨trivial, rfl, Or.inr ⟨rfl, shut⟩⟩
  · rw [begun]
    exact ⟨trivial, rfl, Or.inl rfl⟩
  · rw [begun]
    exact ⟨real, rfl, Or.inl rfl⟩

/-- What topology work makes of a reply to its call. -/
theorem work_takes {r : Request} (asks : w.request? = some r) (closed : Bool)
    (real : w.chore ≠ .verifyOpen) (reply : Except TransportError Reply) :
    Proper (.tending w) (stateOf (w.answer closed reply)) ∧
      Takes closed (.tending w) (.replied r reply) (stateOf (w.answer closed reply)) := by
  obtain ⟨plainly, deaf, next⟩ := error?_of_begin closed w.later
  have goes : Proper (.tending w) (stateOf (Topology.begin closed w.later)) :=
    ⟨plainly, fun h => absurd (deaf.symm.trans h) Bool.false_ne_true⟩
  cases reply with
  | ok reply =>
    simp only [Topology.Work.answer]
    split
    · exact ⟨goes, .heeded (Or.inl rfl) next⟩
    · exact ⟨⟨real, id⟩, .heeded (Or.inl rfl) (Or.inl rfl)⟩
  | error e =>
    obtain ⟨resource, excuses⟩ := request_of_work asks e
    cases changing : w.changing with
    | false =>
      simp only [Topology.Work.answer, changing, Bool.not_false, if_true]
      refine ⟨.of_deaf trivial rfl, .failed e w.chore.questionName rfl ?_ ?_⟩
      · exact excuses.trans (by rw [changing]; rfl)
      · show some _ = some (ChannelError.ofTransport _ r.resource e)
        rw [resource]
    | true =>
      simp only [Topology.Work.answer, changing, Bool.not_true, Bool.false_eq_true, if_false]
      split
      · rename_i settled
        refine ⟨goes, .heeded (Or.inr ?_) next⟩
        exact excuses.trans (by rw [changing, settled]; rfl)
      · rename_i unsettled
        refine ⟨.of_deaf trivial rfl, .failed e w.chore.changeName rfl ?_ ?_⟩
        · refine excuses.trans ?_
          rw [changing, Bool.true_and]
          simpa using unsettled
        · show some _ = some (ChannelError.ofTransport _ r.resource e)
          rw [resource]

/-- What an operation makes of a reply to its request. -/
theorem answer_takes {r : Request} (found : s.operations[op]? = some ⟨k, state⟩)
    (plainly : state.Plainly) (asks : state.request? = some r)
    (reply : Except TransportError Reply) :
    ∃ after, (s.answer op reply).operations[op]? = some ⟨k, after⟩ ∧ Proper state after ∧
      Takes (s.isClosed k) state (.replied r reply) after := by
  cases state with
  | publishing p =>
    cases asks
    cases reply with
    | ok reply =>
      have noted : ((s.count .published p.label).count .publishDurations p.label).operations[op]?
          = some ⟨k, .publishing p⟩ := found
      obtain ⟨outcome, ends⟩ := standing_endPublish_ok noted p reply.id
      simp only [answer, found, answerPublish]
      exact ⟨_, ends, .of_deaf trivial rfl, .heeded (Or.inl rfl) (Or.inl rfl)⟩
    | error e =>
      have noted : (s.count .publishErrors p.label).operations[op]? = some ⟨k, .publishing p⟩ :=
        found
      simp only [answer, found, answerPublish]
      exact ⟨_, standing_endPublish_error noted p _, .of_deaf trivial rfl,
        .failed e p.operation rfl rfl rfl⟩
  | tending w =>
    obtain ⟨proper, takes⟩ := work_takes asks (s.isClosed k) plainly reply
    simp only [answer, found]
    exact ⟨_, getElem?_tend_self found _, proper, takes⟩
  | closing => exact plainly.elim
  | opening o =>
    cases asks
    have ends (err : ChannelError) : (s.finish op (.error err)).operations[op]?
        = some ⟨k, .finished (.error err)⟩ := getElem?_setState_self found _
    simp only [answer, found, answerOpening]
    split
    · rename_i source
      unfold listen
      split
      · exact ⟨_, getElem?_setState_self found _, ⟨trivial, fun _ => rfl⟩,
          .heeded (Or.inl rfl) (Or.inl rfl)⟩
      · exact ⟨_, getElem?_setState_self found _, ⟨trivial, fun _ => rfl⟩,
          .heeded (Or.inl rfl) (Or.inl rfl)⟩
    · rename_i reply other
      refine ⟨_, ends _, .of_deaf trivial rfl, .ended rfl ?_ rfl⟩
      cases reply with
      | opened source => exact absurd rfl (other source)
      | _ => rfl
    · rename_i e
      exact ⟨_, ends _, .of_deaf trivial rfl, .failed e receiveOperation rfl rfl rfl⟩
  | _ => cases asks

/-! ## Turns -/

theorem error?_of_runs (runs : l.Runs) :
    (OperationState.receiving l).error? = none ∧ (OperationState.receiving l).listens = true := by
  cases phase : l.phase with
  | draining outcome => exact absurd phase (runs outcome)
  | listening => simp [OperationState.error?, OperationState.listens, phase]
  | holding d => simp [OperationState.error?, OperationState.listens, phase]

/-- A loop that stops in a move other than a look is cancelled, or its service is closed. -/
theorem stop_cases {cancelled closed : Bool} {outcome : Except ChannelError Unit}
    (move : l.move cancelled closed = .stop outcome) :
    l.Runs ∧ (outcome = .ok () ∨ outcome = .error .closed ∧ closed = true) := by
  have runs : l.Runs := by
    intro other phase
    cases ended : l.ended <;> simp [Loop.move, phase, ended] at move
    split at move <;> cases move
  by_cases cause : cancelled = true ∨ closed = true
  · rw [move_of_stop runs cause] at move
    cases move
    refine ⟨runs, ?_⟩
    cases cancelled with
    | true => exact Or.inl rfl
    | false => exact Or.inr ⟨rfl, cause.resolve_left Bool.false_ne_true⟩
  · have going : cancelled = false := by simpa using fun h => cause (Or.inl h)
    have opened : closed = false := by simpa using fun h => cause (Or.inr h)
    subst going opened
    cases phase : l.phase with
    | draining outcome => exact absurd phase (runs outcome)
    | listening => cases ended : l.ended <;> simp [Loop.move, phase, ended] at move
    | holding d =>
      simp only [Loop.move, phase, Bool.false_eq_true, if_false] at move
      split at move <;> cases move

theorem phase_of_finish {cancelled closed : Bool} {outcome : Except ChannelError Unit}
    (move : l.move cancelled closed = .finish outcome) : l.phase = .draining outcome := by
  cases phase : l.phase with
  | draining other =>
    cases ended : l.ended with
    | nil =>
      simp only [Loop.move, phase, ended] at move
      split at move
      · cases move
        rfl
      · cases move
    | cons panicked rest => simp [Loop.move, phase, ended] at move
  | listening =>
    cases cancelled <;> cases closed <;> cases ended : l.ended <;>
      simp [Loop.move, phase, ended] at move
  | holding d =>
    cases cancelled <;> cases closed <;> simp [Loop.move, phase] at move
    split at move <;> cases move

theorem heardIn_turn_loop (found : s.operations[op]? = some ⟨k, .receiving l⟩) :
    s.heardIn op (.turn op) = match l.move (s.isCancelled l.ctx) (s.isClosed k) with
      | .look => Heard.ofPoll l.subscription (s.poll l.source).2
      | _ => [] := by
  simp only [heardIn, if_true, seenBy, found]

/-- What a receive loop hears when it looks at its source. -/
theorem loop_looks (found : s.operations[op]? = some ⟨k, .receiving l⟩)
    (move : l.move (s.isCancelled l.ctx) (s.isClosed k) = .look) :
    s.Hears (.turn op) op k (.receiving l) := by
  obtain ⟨_, listening, _⟩ := phase_of_move l (s.isCancelled l.ctx) (s.isClosed k)
  have runs := runs_of_listening (listening move)
  have proper {l' : Loop} : Proper (.receiving l) (.receiving l') := ⟨trivial, fun _ => rfl⟩
  have hears := heardIn_turn_loop found
  rw [move] at hears
  have stopped {outcome : Except ChannelError Unit}
      (seen : l.seen (s.isClosed k) (s.poll l.source).2 = some (.inr outcome)) :
      (s.step (.turn op)).operations[op]? = some ⟨k, .receiving (l.stopped outcome)⟩ := by
    rw [turn_loop found]
    simp only [turnLoop, move, seen]
    exact operations_stopLoop (standing_poll found) _
  have took {after : OperationState} (h : Heard)
      (shown : Heard.ofPoll l.subscription (s.poll l.source).2 = [h])
      (takes : Takes (s.isClosed k) (.receiving l) h after) :
      s.HearsNext (.turn op) op k (.receiving l) after :=
    .took h (hears.trans shown) (error?_of_runs runs).2 takes
  cases shown : (s.poll l.source).2 with
  | pending =>
    rw [shown] at hears
    refine ⟨_, ?_, proper, .silent hears rfl id⟩
    rw [turn_loop found]
    simp only [turnLoop, move, shown, Loop.seen]
    exact standing_poll found
  | delivered d =>
    refine ⟨.receiving { l with phase := .holding d }, ?_, proper,
      took (.shown l.subscription (.delivered d)) (by rw [shown]; rfl) ?_⟩
    · rw [turn_loop found]
      simp only [turnLoop, move, shown, Loop.seen]
      exact getElem?_setState_self (standing_poll found) _
    · exact .heeded (Or.inl rfl) (Or.inl rfl)
  | failed e =>
    refine ⟨_, stopped (by rw [shown]; rfl), proper, took _ (by rw [shown]; rfl) ?_⟩
    exact .failed e receiveOperation rfl rfl rfl
  | ended =>
    refine ⟨_, stopped (by rw [shown]; rfl), proper, took _ (by rw [shown]; rfl) ?_⟩
    exact .ended rfl rfl rfl

/-- What a receive loop hears in its turn. -/
theorem loop_hears (found : s.operations[op]? = some ⟨k, .receiving l⟩) :
    s.Hears (.turn op) op k (.receiving l) := by
  obtain ⟨_, _, holding⟩ := phase_of_move l (s.isCancelled l.ctx) (s.isClosed k)
  have proper {l' : Loop} : Proper (.receiving l) (.receiving l') := ⟨trivial, fun _ => rfl⟩
  have hears := heardIn_turn_loop found
  cases move : l.move (s.isCancelled l.ctx) (s.isClosed k) with
  | look => exact loop_looks found move
  | join panicked =>
    rw [move] at hears
    exact ⟨_, turn_join found move, proper, .silent hears rfl id⟩
  | hand d =>
    rw [move] at hears
    have runs : l.Runs := fun outcome h => by cases (holding d move).symm.trans h
    refine ⟨.receiving (l.handed s.envelopes.length), ?_, proper, .silent hears ?_ ?_⟩
    · rw [turn_loop found]
      simp only [turnLoop, move]
      exact getElem?_setState_self (o := ⟨k, .receiving l⟩) found _
    · exact (error?_of_runs runs).1.symm
    · exact fun _ => (error?_of_runs runs).2
  | stop outcome =>
    rw [move] at hears
    obtain ⟨runs, rfl | ⟨rfl, closed⟩⟩ := stop_cases move
    · refine ⟨_, turn_stop found move, proper, .silent hears ?_ fun h => by cases h⟩
      exact (error?_of_runs runs).1.symm
    · exact ⟨_, turn_stop found move, proper, .shut hears (error?_of_runs runs).2 closed rfl⟩
  | finish outcome =>
    rw [move] at hears
    have phase := phase_of_finish move
    refine ⟨.finished (outcome.map fun _ => .done), ?_, .of_deaf trivial rfl,
      .silent hears ?_ fun h => by cases h⟩
    · rw [turn_loop found]
      simp only [turnLoop, move]
      exact getElem?_setState_self found _
    · cases outcome <;> simp [OperationState.error?, phase, Except.map]
  | wait =>
    rw [move] at hears
    refine ⟨_, ?_, proper, .silent hears rfl id⟩
    rw [turn_loop found]
    simp only [turnLoop, move]
    exact found

theorem heardIn_turn_collection (found : s.operations[op]? = some ⟨k, .collecting c⟩) :
    s.heardIn op (.turn op) = match c.move (s.isCancelled c.ctx) (s.isClosed k) with
      | .look => Heard.ofPoll c.subscription (s.poll c.source).2
      | _ => [] := by
  simp only [heardIn, if_true, seenBy, found]

theorem turn_collection (found : s.operations[op]? = some ⟨k, .collecting c⟩) :
    s.step (.turn op) = (s.turnCollection op k c).1 := by
  simp only [step, System.turn, found]

/-- Where a collection stands that gives up its source and returns. -/
theorem standing_collected {t : System} (found : s.operations[op]? = some ⟨k, .collecting c⟩)
    (same : t.operations = s.operations) (result : Except ChannelError Outcome) :
    ((t.dropSource c.source).finish op result).operations[op]? = some ⟨k, .finished result⟩ := by
  refine getElem?_setState_self (o := ⟨k, .collecting c⟩) ?_ _
  rw [operations_dropSource, same, found]

/-- A collection that returns an error without a look finds its service closed. -/
theorem closed_of_finish {cancelled closed : Bool} {err : ChannelError}
    (move : c.move cancelled closed = .finish (.error err)) : err = .closed ∧ closed = true := by
  unfold Collection.move at move
  split at move
  · cases move
  · split at move
    · cases move
    · split at move
      · rename_i closed
        cases move
        exact ⟨rfl, closed⟩
      · cases move

/-- What a collection hears when it looks at its source. -/
theorem collection_looks (found : s.operations[op]? = some ⟨k, .collecting c⟩)
    (move : c.move (s.isCancelled c.ctx) (s.isClosed k) = .look) :
    s.Hears (.turn op) op k (.collecting c) := by
  have polled : (s.poll c.source).1.operations = s.operations := operations_poll s c.source
  have hears := heardIn_turn_collection found
  rw [move] at hears
  have failed {err : ChannelError}
      (seen : c.seen (s.isClosed k) (s.poll c.source).2 = some (.inr err)) :
      (s.step (.turn op)).operations[op]? = some ⟨k, .finished (.error err)⟩ := by
    rw [turn_collection found]
    simp only [turnCollection, move, seen]
    exact standing_collected found polled _
  have took {after : OperationState} (h : Heard)
      (shown : Heard.ofPoll c.subscription (s.poll c.source).2 = [h])
      (takes : Takes (s.isClosed k) (.collecting c) h after) :
      s.HearsNext (.turn op) op k (.collecting c) after :=
    .took h (hears.trans shown) rfl takes
  cases shown : (s.poll c.source).2 with
  | pending =>
    rw [shown] at hears
    refine ⟨.collecting c, ?_, ⟨trivial, fun _ => rfl⟩, .silent hears rfl id⟩
    rw [turn_collection found]
    simp only [turnCollection, move, shown, Collection.seen]
    rw [polled, found]
  | delivered d =>
    refine ⟨.collecting { c with envelopes := c.envelopes ++
        [(s.poll c.source).1.envelopes.length] }, ?_, ⟨trivial, fun _ => rfl⟩,
      took (.shown c.subscription (.delivered d)) (by rw [shown]; rfl) ?_⟩
    · rw [turn_collection found]
      simp only [turnCollection, move, shown, Collection.seen]
      refine getElem?_setState_self (o := ⟨k, .collecting c⟩) ?_ _
      rw [ack, operations_settleFrom]
      exact polled ▸ found
    · exact .heeded (Or.inl rfl) (Or.inl rfl)
  | failed e =>
    refine ⟨_, failed (by rw [shown]; rfl), .of_deaf trivial rfl, took _ (by rw [shown]; rfl) ?_⟩
    exact .failed e receiveOperation rfl rfl rfl
  | ended =>
    refine ⟨_, failed (by rw [shown]; rfl), .of_deaf trivial rfl, took _ (by rw [shown]; rfl) ?_⟩
    exact .ended rfl rfl rfl

/-- What a collection hears in its turn. -/
theorem collection_hears (found : s.operations[op]? = some ⟨k, .collecting c⟩) :
    s.Hears (.turn op) op k (.collecting c) := by
  have hears := heardIn_turn_collection found
  cases move : c.move (s.isCancelled c.ctx) (s.isClosed k) with
  | look => exact collection_looks found move
  | finish result =>
    rw [move] at hears
    have standing : (s.step (.turn op)).operations[op]?
        = some ⟨k, .finished (result.map .collected)⟩ := by
      rw [turn_collection found]
      simp only [turnCollection, move]
      exact standing_collected found rfl _
    cases result with
    | ok envelopes => exact ⟨_, standing, ⟨trivial, nofun⟩, .silent hears rfl nofun⟩
    | error err =>
      obtain ⟨rfl, closed⟩ := closed_of_finish move
      exact ⟨_, standing, ⟨trivial, nofun⟩, .shut hears rfl closed rfl⟩

/-! ## Every event -/

/-- An operation hears nothing where it gets no turn and no reply. -/
theorem heardIn_eq_nil (turns : e ≠ .turn op) (unreplied : s.replyIn op e = none) :
    s.heardIn op e = [] := by
  unfold heardIn
  split
  · rename_i k
    rw [if_neg]
    rintro rfl
    exact turns rfl
  · rw [unreplied]
    split
    · rename_i h
      cases h
    · rfl

theorem heardIn_of_replies {r : Request} {reply : Except TransportError Reply}
    (asks : s.request? op = some r) (turns : e ≠ .turn op) (replies : s.replyIn op e = some reply) :
    s.heardIn op e = [.replied r reply] := by
  unfold heardIn
  split
  · cases replies
  · rw [asks, replies]

theorem replyIn_of_not_about (about : e.operation s ≠ op) : s.replyIn op e = none := by
  unfold replyIn
  split
  · exact if_neg about
  · exact if_neg fun h => about h.1
  · rfl

theorem listens_of_request? {r : Request} (asks : state.request? = some r) :
    state.listens = true := by
  cases state with
  | receiving l => cases asks
  | finished result => cases asks
  | abandoned => cases asks
  | _ => rfl

/-- A reply that an operation gets is an answer to its request. -/
theorem step_of_replyIn (replies : s.replyIn op e = some reply) :
    (∃ r, s.request? op = some r) ∧ e ≠ .turn op ∧
      ∃ t : System, s.step e = t.answer op reply ∧ t.operations = s.operations ∧
        t.services = s.services := by
  cases e with
  | serve j =>
    simp only [replyIn] at replies
    split at replies
    · rename_i here
      obtain ⟨r, asks, performs⟩ := Option.map_eq_some_iff.1 replies
      refine ⟨⟨r, asks⟩, by simp, { s with broker := (s.broker.perform s.clock r).1 }, ?_, rfl, rfl⟩
      simp only [step, serve, here, asks, performs]
    · cases replies
  | reply j r =>
    simp only [replyIn] at replies
    split at replies
    · rename_i waits
      cases replies
      exact ⟨Option.isSome_iff_exists.1 waits.2, by simp, s, by rw [step, waits.1], rfl, rfl⟩
    · cases replies
  | _ => cases replies

/-- What an operation hears in a reply. -/
theorem reply_hears (found : s.operations[op]? = some ⟨k, state⟩) (plainly : state.Plainly)
    (replies : s.replyIn op e = some reply) : s.Hears e op k state := by
  obtain ⟨⟨r, waits⟩, turns, t, step, same, services⟩ := step_of_replyIn replies
  have found' : t.operations[op]? = some ⟨k, state⟩ := same ▸ found
  have asks : state.request? = some r := by
    rw [request?, found] at waits
    exact waits
  have shut : t.isClosed k = s.isClosed k := by rw [isClosed, isClosed, services]
  obtain ⟨after, standing, proper, takes⟩ := answer_takes found' plainly asks reply
  refine ⟨after, step ▸ standing, proper, .took _ ?_ (listens_of_request? asks) (shut ▸ takes)⟩
  exact heardIn_of_replies waits turns replies

/-- An operation that waits for no reply does not heed one. -/
theorem answer_unasked (found : s.operations[op]? = some ⟨k, state⟩) (plainly : state.Plainly)
    (unasked : state.request? = none) (reply : Except TransportError Reply) :
    s.answer op reply = s := by
  cases state with
  | publishing p => cases unasked
  | tending w =>
    obtain ⟨r, asks⟩ := Topology.Work.request?_isSome plainly
    cases asks.symm.trans unasked
  | closing => exact plainly.elim
  | opening o => cases unasked
  | _ => simp only [answer, found]

theorem hears_of_unmoved (found : s.operations[op]? = some ⟨k, state⟩) (plainly : state.Plainly)
    (same : s.step e = s) (turns : e ≠ .turn op) (unreplied : s.replyIn op e = none) :
    s.Hears e op k state := by
  refine ⟨state, ?_, ⟨plainly, id⟩, .silent (heardIn_eq_nil turns unreplied) rfl id⟩
  rw [same]
  exact found

/-- The end of a handler is nothing that an operation hears of the transport. -/
theorem handlerEnded_hears (found : s.operations[op]? = some ⟨k, state⟩) (plainly : state.Plainly)
    (i : Nat) (panicked : Bool) : s.Hears (.handlerEnded op i panicked) op k state := by
  have stands := map_state_of_getElem? found
  cases state with
  | receiving l =>
    refine ⟨.receiving (l.handlerEnded i panicked), ?_, ⟨trivial, fun _ => rfl⟩,
      .silent (heardIn_eq_nil nofun rfl) ?_ ?_⟩
    · simp only [step, handlerEnded, stands]
      exact getElem?_setState_self found _
    · unfold Loop.handlerEnded
      split <;> rfl
    · unfold Loop.handlerEnded
      split <;> exact id
  | _ =>
    refine hears_of_unmoved found plainly ?_ nofun rfl
    simp only [step, handlerEnded, stands]

/-- An operation is given up unless it has returned before. -/
theorem abandon_hears (found : s.operations[op]? = some ⟨k, state⟩) (plainly : state.Plainly) :
    s.Hears (.abandon op) op k state ∨
      (s.step (.abandon op)).operations[op]? = some ⟨k, .abandoned⟩ := by
  have stands := map_state_of_getElem? found
  cases state with
  | finished result =>
    left
    refine hears_of_unmoved found plainly ?_ nofun rfl
    simp only [step, abandon, stands]
  | receiving l =>
    right
    simp only [step, abandon, stands]
    exact getElem?_setState_self (operations_stopLoop found _) _
  | collecting c =>
    right
    simp only [step, abandon, stands]
    refine getElem?_setState_self (o := ⟨k, .collecting c⟩) ?_ _
    rw [operations_dropSource, found]
  | _ =>
    right
    simp only [step, abandon, stands]
    exact getElem?_setState_self found _

/-- **What an operation hears in an event**, and what the event makes of it, if it does not give the
operation up. -/
theorem hears_step (found : s.operations[op]? = some ⟨k, state⟩) (plainly : state.Plainly)
    (e : Event) : s.Hears e op k state ∨
      e = .abandon op ∧ (s.step e).operations[op]? = some ⟨k, .abandoned⟩ := by
  have begun := (List.getElem?_eq_some_iff.1 found).1
  by_cases about : e.operation s = op
  · cases concerns_of_about begun about with
    | serve =>
      left
      cases replies : s.replyIn op (.serve op) with
      | some reply => exact reply_hears found plainly replies
      | none =>
        have unasked : s.request? op = none := by simpa [replyIn] using replies
        refine hears_of_unmoved found plainly ?_ (by simp) replies
        simp only [step, serve, unasked]
    | reply r =>
      left
      cases replies : s.replyIn op (.reply op r) with
      | some reply => exact reply_hears found plainly replies
      | none =>
        have unasked : s.request? op = none := by simpa [replyIn] using replies
        rw [request?, found] at unasked
        exact hears_of_unmoved found plainly (answer_unasked found plainly unasked r) (by simp)
          replies
    | turn =>
      left
      cases state with
      | receiving l => exact loop_hears found
      | collecting c => exact collection_hears found
      | _ =>
        refine ⟨_, ?_, ⟨plainly, id⟩, .silent ?_ rfl id⟩
        · simp only [step, turn, found]
        · simp only [heardIn, if_true, seenBy, found]
    | handlerEnded i panicked => exact Or.inl (handlerEnded_hears found plainly i panicked)
    | abandon => exact (abandon_hears found plainly).imp_right fun given => ⟨rfl, given⟩
  · left
    obtain ⟨same, _⟩ := s.frame_step e (Ne.symm about) begun
    refine ⟨state, same.trans found, ⟨plainly, id⟩, .silent ?_ rfl id⟩
    exact heardIn_eq_nil (fun h => about (h ▸ rfl)) (replyIn_of_not_about about)

end System

end MessageChannels
