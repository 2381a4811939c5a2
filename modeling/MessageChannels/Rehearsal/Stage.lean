import MessageChannels.Rehearsal.Answer
import MessageChannels.Rehearsal.Script
import MessageChannels.Retry

/-!
# The stage of a rehearsal

All that a rehearsal knows apart from what its tasks have yet to do: the system, virtual time in
milliseconds, the failures set up, what is kept under names, and for every task what it waits for. A
task that waits is made runnable by the first change after which its wait is over; runnable tasks
keep the order in which they became so.

Task number zero is the one that does the script's steps. The others are receive loops, collections
and handlers, in the order in which they were begun.
-/

set_option autoImplicit false

namespace MessageChannels.Rehearsal

/-! ## Virtual time -/

/-- The longest that a timer runs on virtual time, in milliseconds: thirty years of 365 days. -/
def longestTimer : Nat := 30 * 365 * 86400 * 1000

/-- How long a timer of a span runs on virtual time, in milliseconds. Virtual time goes by whole
milliseconds, so a begun one is waited for. -/
def timerMillis (d : Span) : Nat :=
  min (d.secs * 1000 + (d.nanos + 999999) / 10 ^ 6) longestTimer

/-- The points in virtual time of calls, the first at `start`, given the delays between them. -/
def callTimes : Nat → List Span → List Nat
  | start, [] => [start]
  | start, d :: ds => start :: callTimes (start + timerMillis d) ds

/-- The hooks that are called in a start or stop, each with the point in virtual time at which it is,
from a point on; and the point at which the last deed is done. -/
def timed : Nat → List Lifecycle.Deed → List (String × Lifecycle.Hook × Nat) × Nat
  | now, [] => ([], now)
  | now, .called service hook :: rest =>
    let (later, last) := timed now rest
    ((service, hook, now) :: later, last)
  | now, .slept d :: rest => timed (now + timerMillis d) rest

/-! ## What tasks wait for -/

/-- What a task waits for. -/
inductive Wait where
  /-- A point in virtual time, by the timer of a number. -/
  | until (time timer : Nat)
  /-- The cancelling of a token. -/
  | cancelled (token : Nat)
  /-- The end of a task. -/
  | ended (task : Nat)
  /-- The end of an operation, which the task carries on as far as it goes. -/
  | operation (op : Nat)
  deriving DecidableEq

/-- What a task is for. -/
inductive Duty where
  /-- Receive on a channel for a receive step, with a token. -/
  | receive (run : Nat) (channel : String) (ctx : Nat)
  /-- Take a number of deliveries of a channel, with a token. -/
  | receiveN (channel : String) (count : Nat) (ctx : Nat)
  /-- Handle an envelope for a receive step. -/
  | handle (run envelope : Nat)
  deriving DecidableEq

/-- A request that waits for its delay to pass. -/
structure PendingCall where
  operation : Nat
  substitute : Option Substitute
  due : Nat
  /-- The number of the timer that its delay runs by; none without a delay. -/
  timer : Option Nat

/-- A receive step: what its handlers do, what they answered, and how many run. -/
structure Reception where
  ctx : Nat
  operation : Option Nat
  script : List (List Action)
  /-- The identifier of each delivery, in the order in which handlers began, with their answers. -/
  records : List (String × List Answer)
  running : Nat
  peak : Nat

/-- A task that waits for any of some things. -/
structure Watch where
  task : Nat
  waits : List Wait
  deriving DecidableEq

/-- The stage of a rehearsal. The service that is rehearsed is service number zero. -/
structure Stage where
  system : System
  /-- The clock that steps move. -/
  manual : Timestamp
  /-- Whether service and broker go by that clock. -/
  ownClock : Bool
  /-- Virtual time in milliseconds. -/
  now : Nat
  /-- How many timers were set; they are numbered in that order. -/
  timers : Nat
  /-- What is set up for requests, first come first served for each kind. -/
  faults : List (Method × Fault)
  calls : List PendingCall
  /-- Envelopes kept under names. -/
  slots : Dictionary Nat
  /-- For each that holds an envelope, the envelope: handlers, names, and steps that act on one. -/
  holders : List Nat
  /-- Streams opened on the broker directly, by name. -/
  streams : Dictionary Nat
  /-- Deliveries taken from the broker directly, by name. -/
  deliveries : Dictionary Nat
  receptions : List Reception
  /-- How the start of the environment's services is retried. -/
  policy : BackoffPolicy
  /-- How often the service was added to the environment. -/
  members : Nat
  dropped : Bool
  shown : Option Snapshot
  /-- How much of the journal has been answered. -/
  answered : Nat
  duties : List Duty
  endedTasks : List Nat
  /-- The operation that a task carries on. -/
  taskOperations : List (Nat × Nat)
  watching : List Watch
  /-- The operations that could go on, but make way for other tasks first. -/
  makingWay : List Nat
  runnable : List Nat

namespace Stage

/-- The stage on which a script begins. -/
def ofScript (script : Script) : Stage where
  system :=
    (System.start (if script.ownClock then script.start else present)).addService
      (buildService script.settings)
  manual := script.start
  ownClock := script.ownClock
  now := 0
  timers := 0
  faults := []
  calls := []
  slots := Dictionary.empty
  holders := []
  streams := Dictionary.empty
  deliveries := Dictionary.empty
  receptions := []
  policy := BackoffPolicy.standard
  members := 0
  dropped := false
  shown := none
  answered := 0
  duties := []
  endedTasks := []
  taskOperations := []
  watching := []
  makingWay := []
  runnable := []

/-! ## Waiting -/

/-- Whether looking at a source would show something new. -/
def sourceReady (st : Stage) : Source → Bool
  | .stream n => st.system.broker.parked.all (fun p => p.stream ≠ n)
  | .script n =>
    match st.system.scripts[n]? with
    | none => true
    | some s => !s.items.isEmpty || !s.hangs

/-- Whether an operation could go on. -/
def operationReady (st : Stage) (op : Nat) : Bool :=
  match st.system.operations[op]? with
  | none => true
  | some o =>
    match o.state with
    | .receiving l =>
      match l.move (st.system.isCancelled l.ctx) (st.system.isClosed o.service) with
      | .wait => false
      | .look => st.sourceReady l.source
      | _ => true
    | .collecting c =>
      match c.move (st.system.isCancelled c.ctx) (st.system.isClosed o.service) with
      | .finish _ => true
      | .look => st.sourceReady c.source
    | _ =>
      match st.calls.find? (fun c => c.operation = op) with
      | some call => call.due ≤ st.now
      | none => true

/-- Whether a wait is over. -/
def isOver (st : Stage) : Wait → Bool
  | .until time _ => time ≤ st.now
  | .cancelled token => st.system.isCancelled token
  | .ended task => st.endedTasks.contains task
  | .operation op => !st.makingWay.contains op && st.operationReady op

/-- The timers that a wait is for: when each is due, and its number. -/
def timersOf (st : Stage) : Wait → List (Nat × Nat)
  | .until time timer => [(time, timer)]
  | .operation op =>
    (st.calls.filter (fun c => c.operation = op)).filterMap fun c => c.timer.map fun t => (c.due, t)
  | _ => []

/-- The number of the first timer that is due of those that some waits are for; past them all if
there is none. -/
def timerPlace (st : Stage) (waits : List Wait) : Nat :=
  let due := (waits.flatMap st.timersOf).filter fun t => t.1 ≤ st.now
  (due.map Prod.snd).foldl min st.timers

/-- The place of the stream that a wait listens to among the parked ones of an earlier broker; past
them all if it listens to none. -/
def parkedPlace (st : Stage) (before : Broker) (w : Wait) : Nat :=
  let place : Source → Nat
    | .stream n => before.parked.findIdx (fun p => p.stream = n)
    | .script _ => before.parked.length
  match w with
  | .operation op =>
    match (st.system.operations[op]?).map Operation.state with
    | some (.receiving l) => place l.source
    | some (.collecting c) => place c.source
    | _ => before.parked.length
  | _ => before.parked.length

/-- Make the tasks runnable whose wait is over after a change. Of timers that are due, the one that
was set first comes first, and of streams that have news, the one that was parked first. -/
def wake (st : Stage) (before : Broker) : Stage :=
  let (met, waiting) := st.watching.partition fun w => w.waits.any st.isOver
  let timer (w : Watch) : Nat := st.timerPlace w.waits
  let stream (w : Watch) : Nat :=
    (w.waits.map (st.parkedPlace before)).foldl min before.parked.length
  let inOrder := met.mergeSort fun a b =>
    decide (timer a < timer b) || timer a == timer b && decide (stream a ≤ stream b)
  { st with watching := waiting, runnable := st.runnable ++ inOrder.map Watch.task }

/-- Change the stage, and wake whom the change concerns. -/
def change (st : Stage) (f : Stage → Stage) : Stage := (f st).wake st.system.broker

/-- Change the system. -/
def onSystem (st : Stage) (f : System → System) : Stage := { st with system := f st.system }

/-- Change the broker. -/
def onBroker (st : Stage) (f : Broker → Broker) : Stage :=
  st.onSystem fun s => { s with broker := f s.broker }

/-- The next point in virtual time at which something happens. -/
def nextDue? (st : Stage) : Option Nat :=
  ((st.watching.flatMap fun w => w.waits.flatMap st.timersOf).map Prod.fst).min?

/-- When a timer is due that is set now and runs for some milliseconds. -/
def dueAfter (st : Stage) (millis : Nat) : Nat := st.now + min millis longestTimer

/-! ## Tasks -/

/-- Begin a task, which is runnable at once; returns its number. -/
def spawn (st : Stage) (duty : Duty) : Stage × Nat :=
  let task := st.duties.length + 1
  ({ st with duties := st.duties ++ [duty], runnable := st.runnable ++ [task] }, task)

/-- The duty of a task. -/
def duty? (st : Stage) (task : Nat) : Option Duty := if task = 0 then none else st.duties[task - 1]?

/-- The operation that a task carries on. -/
def operationOf? (st : Stage) (task : Nat) : Option Nat :=
  (st.taskOperations.find? (fun p => p.1 = task)).map Prod.snd

/-- Change a receive step. -/
def onReception (st : Stage) (run : Nat) (f : Reception → Reception) : Stage :=
  { st with receptions := st.receptions.modify run f }

/-! ## Holding envelopes -/

/-- One more holds an envelope. -/
def hold (st : Stage) (envelope : Nat) : Stage := { st with holders := envelope :: st.holders }

/-- One holds an envelope no more; the last one gives it up. -/
def unhold (st : Stage) (envelope : Nat) : Stage :=
  let holders := st.holders.erase envelope
  let st := { st with holders := holders }
  if holders.contains envelope then st else st.onSystem (·.release envelope)

/-- Keep an envelope under a name, in the place of what was kept there. -/
def keep (st : Stage) (slot : String) (envelope : Nat) : Stage :=
  let before := st.slots.get? slot
  let st := { st with slots := st.slots.insert slot envelope }.hold envelope
  match before with
  | some e => st.unhold e
  | none => st

/-- Keep nothing under a name any more. -/
def forget (st : Stage) (slot : String) : Stage :=
  match st.slots.get? slot with
  | some e => { st with slots := st.slots.erase slot }.unhold e
  | none => st

/-! ## Operations -/

/-- The first thing set up for a kind of request, and what is set up after it. -/
def takeFault (method : Method) : List (Method × Fault) → Option Fault × List (Method × Fault)
  | [] => (none, [])
  | (m, f) :: rest =>
    if m = method then (some f, rest)
    else
      let (found, others) := takeFault method rest
      (found, (m, f) :: others)

/-- A request reaches the transport: what is set up for it decides when and by what it is answered.
-/
def place (st : Stage) (op : Nat) (r : Request) : Stage :=
  let (fault, others) := takeFault (methodOf r) st.faults
  let substitute := fault.bind Fault.substitute
  let call : PendingCall := match fault.bind Fault.delay with
    | some delay => ⟨op, substitute, st.dueAfter delay, some st.timers⟩
    | none => ⟨op, substitute, st.now, none⟩
  { st with faults := others, calls := st.calls ++ [call], timers := st.timers + 1 }

/-- A request is answered. -/
def resolve (st : Stage) (call : PendingCall) : Stage :=
  let op := call.operation
  let st := { st with calls := st.calls.filter (fun c => c.operation ≠ op) }
  match call.substitute with
  | none => st.onSystem (·.serve op)
  | some (.fail e) => st.onSystem (·.answer op (.error e))
  | some (.reply r) => st.onSystem (·.answer op (.ok r))
  | some (.source source) =>
    st.onSystem fun s =>
      let (s, n) := s.addScript source
      s.answer op (.ok (.opened (.script n)))

/-- A receive loop hands envelopes over: each gets a handler. -/
def startHandlers (st : Stage) (op before : Nat) : Stage :=
  match (st.system.operations[op]?).map Operation.state with
  | some (.receiving _) =>
    let run := st.receptions.findIdx (fun r => r.operation = some op)
    (List.range' before (st.system.envelopes.length - before)).foldl
      (fun st e => ((st.hold e).spawn (.handle run e)).1) st
  | _ => st

/-- Carry an operation on by one step; whether it could. -/
def advance (st : Stage) (op : Nat) : Stage × Bool :=
  match st.system.request? op with
  | some r =>
    match st.calls.find? (fun c => c.operation = op) with
    | none => (st.place op r, true)
    | some call => if call.due ≤ st.now then (st.resolve call, true) else (st, false)
  | none =>
    let (system, moved) := st.system.turn op
    (({ st with system := system }).startHandlers op st.system.envelopes.length, moved)

/-- Whether the next step of an operation is one of those that count towards what a task may do in
one turn: to get a delayed reply, to hand a delivery to a handler, or to take notice of a handler's
end. -/
def isCounted (st : Stage) (op : Nat) : Bool :=
  match st.system.operations[op]? with
  | none => false
  | some o =>
    match o.state with
    | .receiving l =>
      match l.move (st.system.isCancelled l.ctx) (st.system.isClosed o.service) with
      | .hand _ => true
      | .join _ => true
      | _ => false
    | _ => st.calls.any fun c => c.operation == op && c.timer.isSome && decide (c.due ≤ st.now)

/-- Whether an operation is where it makes way for others once it has done what it may in a turn:
before a receive loop looks at what it waits for, and before it takes notice of a handler's end. -/
def canMakeWay (st : Stage) (op : Nat) : Bool :=
  match (st.system.operations[op]?).map Operation.state with
  | some (.receiving l) =>
    match l.phase with
    | .listening => true
    | .holding _ => false
    | .draining _ => !l.ended.isEmpty
  | _ => false

/-- How many of the steps that count a task does in one turn. -/
def turnAllowance : Nat := 128

/-- How many deliveries a substitute for the broker brings. -/
def Substitute.size : Option Substitute → Nat
  | some (.source s) => s.items.length
  | _ => 0

/-- More steps than an operation can be carried on by before it has to wait. -/
def effort (st : Stage) (op : Nat) : Nat :=
  let chores := match (st.system.operations[op]?).map Operation.state with
    | some (.tending w) => w.later.length
    | _ => 0
  let waiting := st.system.broker.subscriptions.values.foldl (fun n s => n + s.backlog.length) 0
  let written := st.system.scripts.foldl (fun n s => n + s.items.length) 0
  let announced := st.faults.foldl (fun n f => n + Substitute.size f.2.substitute) 0
  let awaited := st.calls.foldl (fun n c => n + Substitute.size c.substitute) 0
  8 * (chores + waiting + written + announced + awaited + st.duties.length) + 64

/-- Carry an operation on until it has to wait, or has used up its allowance and makes way. -/
def carryOn (op : Nat) : Nat → Nat → Stage → Stage
  | 0, _, st => st
  | fuel + 1, allowance, st =>
    if allowance = 0 && st.canMakeWay op then { st with makingWay := st.makingWay ++ [op] }
    else
      let allowance := if st.isCounted op then allowance - 1 else allowance
      let (next, moved) := st.advance op
      let next := next.wake st.system.broker
      if moved then carryOn op fuel allowance next else next

/-- An operation that makes way makes way no longer. -/
def goOn (st : Stage) (op : Nat) : Stage :=
  { st with makingWay := st.makingWay.filter (· ≠ op) }

/-- The operations that made way go on. -/
def resume (st : Stage) : Stage := st.change fun st => { st with makingWay := [] }

/-- Whether an operation has come to an end. -/
def isDone (st : Stage) (op : Nat) : Bool :=
  match st.system.operations[op]? with
  | none => true
  | some o => !o.state.inProgress

/-- Look whether a wait is over, carrying on the operation that is waited for. -/
def look (st : Stage) : Wait → Stage × Bool
  | .operation op =>
    let st := carryOn op (st.effort op) turnAllowance st
    (st, st.isDone op)
  | w => (st, st.isOver w)

/-! ## Answering -/

/-- The state that answers show. -/
def snapshot (st : Stage) : Snapshot :=
  let b := st.system.broker
  let topics := (Dictionary.ofList (b.published.map fun p => (p.1, ()))).keys
  { closed := if st.dropped then none else some (st.system.isClosed 0)
    transportClosed := b.closed
    topics := b.topics.keys
    subscriptions := b.subscriptions.entries.map fun e =>
      (e.1, e.2.backlog.length, e.2.ackDeadline)
    published := topics.map fun t => (t, (b.publishedTo t).length)
    acked := b.acked.map fun h => h.message.id
    nacked := b.nacked.map fun h => h.message.id }

/-- What entries of a journal say of the transport. -/
def transportCalls (entries : List Entry) : List TransportCall :=
  entries.filterMap fun e => match e with
    | .asked _ r => some (.asked r)
    | .settled _ (.scripted id) v => some (.settled id v)
    | _ => none

/-- What entries of a journal report. -/
def reports (entries : List Entry) : List (String × Option String) :=
  entries.filterMap fun e => match e with
    | .note (.reported event cause) => some (event, cause)
    | _ => none

/-- The answer of a step, with what came in since the last one. -/
def answer (st : Stage) (a : Answer) : Stage × Answer :=
  let entries := st.system.journal.drop st.answered
  let now := st.snapshot
  let state := if st.shown = some now then none else some now
  ({ st with answered := st.system.journal.length, shown := some now },
    .step a (transportCalls entries) (reports entries) state)

end Stage

end MessageChannels.Rehearsal
