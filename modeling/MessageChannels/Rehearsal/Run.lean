import MessageChannels.Rehearsal.Perform

/-!
# Running a rehearsal

Tasks take turns on one thread. Runnable tasks run in the order in which they became so, each until
it has to wait. The task of the script's steps is looked at first, and again whenever no other task
is runnable or so many have run since; only then do the operations go on that made way. When nothing
can run, virtual time moves to the next point for which a task waits.
-/

set_option autoImplicit false

namespace MessageChannels.Rehearsal

/-- A rehearsal in progress. -/
structure Progress where
  stage : Stage
  /-- What the steps' task has left to do. -/
  main : Routine
  /-- What each other task that has begun has left to do. -/
  routines : List (Nat × Routine)
  /-- How many tasks may run before the steps' task is looked at again. -/
  budget : Nat

/-- How many tasks run at most before the steps' task is looked at again. -/
def turnLimit : Nat := 61

/-- Wait for what a routine waits for; the task is runnable if that is over already. -/
def Stage.watch (st : Stage) (task : Nat) (r : Routine) : Stage :=
  ({ st with watching := st.watching ++ [⟨task, r.waits⟩] } : Stage).wake st.system.broker

namespace Progress

/-- A rehearsal at its beginning. -/
def ofScript (script : Script) : Progress where
  stage := { Stage.ofScript script with runnable := [0] }
  main := (do return .list (← performSteps script.steps) : Course Answer).toRoutine
  routines := []
  budget := 0

/-- What a task has left to do. -/
def routineOf (p : Progress) (task : Nat) : Routine :=
  match p.routines.find? (fun r => r.1 = task) with
  | some r => r.2
  | none =>
    match p.stage.duty? task with
    | some duty => (duty.perform task).toRoutine
    | none => .done .nothing

/-- The stage after a task has ended. A handler gives up its envelope, and its receive loop takes
notice; a task that received gives up the service. -/
def endTask (st : Stage) (task : Nat) (panicked : Bool) : Stage :=
  let st :=
    match st.duty? task with
    | some (.handle run envelope) =>
      let st := st.onReception run fun r => { r with running := r.running - 1 }
      let st := st.change (·.unhold envelope)
      match (st.receptions[run]?).bind Reception.operation with
      | some op => st.change fun st =>
        (st.onSystem (·.handlerEnded op envelope panicked)).goOn op
      | none => st
    | some _ => st.change (·.onSystem (·.changeHandles 0 (-1)))
    | none => st
  st.change fun st => { st with endedTasks := st.endedTasks ++ [task] }

/-- Let a task run until it has to wait. -/
def runTask (p : Progress) (task : Nat) : Progress :=
  let stage := { p.stage with runnable := p.stage.runnable.erase task }
  let (stage, r) := (p.routineOf task).poll stage
  let others := p.routines.filter (fun r => r.1 ≠ task)
  let p := { p with budget := p.budget - 1 }
  match r with
  | .done _ => { p with stage := endTask stage task false, routines := others }
  | .panic => { p with stage := endTask stage task true, routines := others }
  | r => { p with stage := stage.watch task r, routines := (task, r) :: others }

/-- Let the steps' task run until it has to wait. -/
def runMain (p : Progress) : Progress :=
  let stage := { p.stage with runnable := p.stage.runnable.erase 0 }
  let (stage, r) := p.main.poll stage
  match r with
  | .done _ => { p with stage := stage, main := r, budget := turnLimit }
  | .panic => { p with stage := stage, main := r, budget := turnLimit }
  | r => { p with stage := stage.watch 0 r, main := r, budget := turnLimit }

/-- Move virtual time to a point, and wake whom it concerns; the steps' task is looked at first. -/
def moveTo (p : Progress) (time : Nat) : Progress :=
  { p with
    stage := p.stage.change fun st => { st with now := max st.now time }
    budget := 0 }

/-- Let the operations go on that made way; the steps' task is looked at first. -/
def resume (p : Progress) : Progress := { p with stage := p.stage.resume, budget := 0 }

/-- One turn of a rehearsal; nothing if no turn can be taken. -/
def step? (p : Progress) : Option Progress :=
  match p.stage.runnable.find? (· ≠ 0) with
  | some task =>
    if 0 < p.budget then some (p.runTask task)
    else if p.stage.makingWay ≠ [] then some p.resume
    else if p.stage.runnable.contains 0 then some p.runMain
    else some { p with budget := turnLimit }
  | none =>
    if p.stage.makingWay ≠ [] then some p.resume
    else if p.stage.runnable.contains 0 then some p.runMain
    else (p.stage.nextDue?).map p.moveTo

/-- Whether the steps are done. -/
def isOver (p : Progress) : Bool :=
  match p.main with
  | .done _ => true
  | .panic => true
  | _ => false

/-- Take turns until the steps are done or no turn can be taken. -/
def run : Nat → Progress → Progress
  | 0, p => p
  | fuel + 1, p =>
    if p.isOver then p
    else
      match p.step? with
      | some p => run fuel p
      | none => p

end Progress

/-- What a rehearsal answers: an answer for each step, and what was counted. -/
structure Report where
  steps : List Answer
  notes : List Note

/-- More turns than a script is given before it is taken to go on for ever. -/
def patience : Nat := 1000000

/-- Run a rehearsal. -/
def Script.run (script : Script) : Report :=
  let p := Progress.run patience (.ofScript script)
  let steps := match p.main with
    | .done (.list answers) => answers
    | _ => []
  ⟨steps, p.stage.system.notes⟩

end MessageChannels.Rehearsal
