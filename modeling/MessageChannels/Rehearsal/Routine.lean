import MessageChannels.Rehearsal.Stage

/-!
# What a task does

A routine is what is left for a task to do: look at the stage, change it, wait, or do two things
side by side. `Routine.poll` lets it run until it has to wait. A `Course` is a routine with a hole
for what follows, so that longer ones can be written as a sequence.
-/

set_option autoImplicit false

namespace MessageChannels.Rehearsal

/-- What is left for a task to do. -/
inductive Routine where
  | done (a : Answer)
  /-- The task ends without an answer. -/
  | panic
  | read (k : Stage → Routine)
  | write (f : Stage → Stage) (k : Routine)
  | await (w : Wait) (k : Routine)
  /-- Two routines side by side, the first one first in each turn. -/
  | both (p q : Routine) (k : Answer → Answer → Routine)

namespace Routine

/-- What a routine that could not go on waits for. -/
def waits : Routine → List Wait
  | await w _ => [w]
  | both p q _ => p.waits ++ q.waits
  | _ => []

/-- Whether a routine has ended without an answer. -/
def isPanic : Routine → Bool
  | panic => true
  | _ => false

/-- Give up the operations that a routine waits for. -/
def abandon (r : Routine) (st : Stage) : Stage :=
  r.waits.foldl (fun st w => match w with
    | .operation op =>
      { st with calls := st.calls.filter (fun c => c.operation ≠ op) }.onSystem (·.abandon op)
    | _ => st) st

/-- Let a routine run until it has to wait. -/
def poll : Routine → Stage → Stage × Routine
  | done a, st => (st, done a)
  | panic, st => (st, panic)
  | read k, st => poll (k st) st
  | write f k, st => poll k (st.change f)
  | await w k, st =>
    let (st, met) := st.look w
    if met then poll k st else (st, await w k)
  | both p q k, st =>
    let (st, p') := poll p st
    if p'.isPanic then (q.abandon st, panic)
    else
      let (st, q') := poll q st
      if q'.isPanic then (p'.abandon st, panic)
      else
        match p', q' with
        | done a, done b => poll (k a b) st
        | _, _ => (st, both p' q' k)

end Routine

/-- A routine with a hole for what follows. -/
def Course (α : Type) : Type := (α → Routine) → Routine

namespace Course

instance : Monad Course where
  pure a := fun k => k a
  bind m f := fun k => m fun a => f a k

/-- Look at the stage. -/
def stage : Course Stage := fun k => .read k

/-- Change the stage. -/
def change (f : Stage → Stage) : Course Unit := fun k => .write f (k ())

/-- Change the system. -/
def onSystem (f : System → System) : Course Unit := change (·.onSystem f)

/-- Wait. -/
def await (w : Wait) : Course Unit := fun k => .await w (k ())

/-- End the task without an answer. -/
def panic {α : Type} : Course α := fun _ => .panic

/-- Do two things side by side. -/
def both (p q : Course Answer) : Course (Answer × Answer) :=
  fun k => .both (p .done) (q .done) fun a b => k (a, b)

/-- The routine of a course. -/
def toRoutine (c : Course Answer) : Routine := c .done

/-- Let virtual time pass. -/
def sleep (millis : Nat) : Course Unit := do
  let st ← stage
  change fun st => { st with timers := st.timers + 1 }
  await (.until (st.dueAfter millis) st.timers)

/-- Carry on an operation until it ends. -/
def finishOperation (op : Nat) : Course (Except ChannelError Outcome) := do
  await (.operation op)
  return ((← stage).system.result? op).getD (.error .closed)

/-- Do what a command asks of the service. -/
def operate (c : Command) : Course (Except ChannelError Outcome) := do
  let (system, op) := (← stage).system.begin 0 c
  onSystem fun _ => system
  finishOperation op

/-- Decide on a failed envelope. -/
def decideFailure (envelope : Nat) (c : FailureCommand) (cause : String) :
    Course (Except ChannelError Outcome) := do
  let (system, op) := (← stage).system.beginFailure envelope c cause
  onSystem fun _ => system
  finishOperation op

/-- Begin a task; returns its number. -/
def spawn (duty : Duty) : Course Nat := do
  let (st, task) := (← stage).spawn duty
  change fun _ => st
  return task

end Course

end MessageChannels.Rehearsal
