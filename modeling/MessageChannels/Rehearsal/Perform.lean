import MessageChannels.Rehearsal.Routine
import MessageChannels.Time.ManualClock
import MessageChannels.Worker

/-!
# Doing steps and actions

What each step of a script and each action of a handler does, as a course: it changes the stage,
waits where the service has to wait, and ends with its answer.
-/

set_option autoImplicit false

namespace MessageChannels.Rehearsal

open Course

/-- What an operation's result answers. -/
def Answer.ofOutcome : Except ChannelError Outcome → Answer :=
  Answer.ofResult fun
    | .published id => .text id
    | _ => .nothing

/-- Report an error, if a result is one. -/
def reportFailure (event : String) : Except ChannelError Outcome → Course Unit
  | .ok _ => pure ()
  | .error e => onSystem (·.note (.reported event (some e.message)))

/-- What is reported when a decision on an envelope fails. -/
def failureReport : FailureCommand → String
  | .retry => "Failed to handle retryable error"
  | .deadLetter => "Failed to dead-letter message"

/-- Decide on a failed envelope, only reporting a failure. -/
def tryDecideFailure (envelope : Nat) (c : FailureCommand) (cause : String) : Course Unit := do
  reportFailure (failureReport c) (← decideFailure envelope c cause)

/-! ## The environment -/

/-- The name of a channel service. -/
def serviceName : String := "channel-service"

/-- Start the service: reconcile its topology, with as many retries as are left. -/
def startService (policy : BackoffPolicy) : Nat → Nat → Course (Except HookError Unit)
  | left, retries => do
    let outcome : Except HookError Unit :=
      match ← operate .reconcileAll with
      | .ok _ => .ok ()
      | .error e => .error (.channel e)
    let verdict := Retry.verdict policy HookError.isTransient retries outcome
    onSystem fun s =>
      (verdict.notes retries (Retry.errorWording HookError.message outcome)).foldl System.note s
    match verdict, left with
    | .retryAfter d, left + 1 =>
      sleep (timerMillis d)
      startService policy left (retries + 1)
    | _, _ => return outcome

/-- Start the service as often as it was added. -/
def startServices (policy : BackoffPolicy) : Nat → Course (Except LifecycleError Unit)
  | 0 => return .ok ()
  | members + 1 => do
    match ← startService policy policy.maxRetries 0 with
    | .ok () => startServices policy members
    | .error e => return .error (.init serviceName e)

/-- Close the service as often as it was added; the names of those that failed. -/
def stopServices : Nat → Course (List String)
  | 0 => return []
  | members + 1 => do
    match ← operate .close with
    | .ok _ => stopServices members
    | .error e =>
      onSystem (·.note (Lifecycle.closeFailure (.channel e)))
      return serviceName :: (← stopServices members)

/-! ## The broker -/

/-- Set the clock that steps move. -/
def setManual (t : Timestamp) : Course Answer := do
  change fun st =>
    let st := { st with manual := t }
    if st.ownClock then st.onSystem (·.setClock t) else st
  return .time t

/-- Ask the broker directly. -/
def askBroker (r : Request) : Course (Except TransportError Reply) := do
  let s := (← stage).system
  let (broker, reply) := s.broker.perform s.clock r
  change (·.onBroker fun _ => broker)
  return reply

/-- Open a stream directly, in the place of one of the same name. -/
def openStream (topic subscription name : String) : Course Answer := do
  let reply ← askBroker (.receive topic subscription)
  if let .ok (.opened (.stream n)) := reply then
    change fun st =>
      let before := st.streams.get? name
      let st := { st with streams := st.streams.insert name n }
      match before with
      | some old => st.onBroker (·.dropStream old)
      | none => st
  return .ofReply reply

/-- Look at a stream that was opened directly, and keep what it delivers under a name. -/
def nextOf (stream slot : String) : Course Answer := do
  let st ← stage
  match st.streams.get? stream with
  | none => return .text "end"
  | some n =>
    let (broker, shown) := st.system.broker.pollStream n
    change (·.onBroker fun _ => broker)
    match shown with
    | .pending => return .text "pending"
    | .ended => return .text "end"
    | .failed e => return .transportError e
    | .delivered d =>
      change fun st =>
        match d.acker with
        | .scripted _ => st
        | .held number =>
          let before := st.deliveries.get? slot
          let st := { st with deliveries := st.deliveries.insert slot number }
          match before with
          | some old => st.onBroker (·.release old)
          | none => st
      return .ok (.message d.message)

/-- Change the broker by a delivery that is kept under a name. -/
def withDelivery (slot : String) (f : Nat → Broker → Broker) : Course Unit :=
  change fun st =>
    match st.deliveries.get? slot with
    | some number => st.onBroker (f number)
    | none => st

/-- Set things up for a kind of request. -/
def setUp (method : Method) (faults : List Fault) : Course Unit :=
  change fun st => { st with faults := st.faults ++ faults.map fun f => (method, f) }

/-! ## Receiving -/

/-- A new token, cancelled or not. -/
def newToken (cancelled : Bool) : Course Nat := do
  let (system, token) := (← stage).system.addToken
  onSystem fun _ => if cancelled then system.cancel token else system
  return token

/-- Begin a task that carries on an operation, and so holds the service. -/
def spawnReceiving (duty : Duty) : Course Nat := do
  let task ← spawn duty
  onSystem (·.changeHandles 0 1)
  return task

/-- A second after the last step done meanwhile, cancel a token and wait for the task to end; the
result of its operation. -/
def endReceiving (task token : Nat) : Course (Except ChannelError Outcome) := do
  sleep 1000
  onSystem (·.cancel token)
  await (.ended task)
  let st ← stage
  return ((st.operationOf? task).bind st.system.result?).getD (.error .closed)

/-- The envelopes of some numbers. -/
def envelopesOf (st : Stage) (numbers : List Nat) : List Answer :=
  numbers.filterMap fun n => (st.system.envelopes[n]?).map Answer.envelope

/-- Keep collected envelopes under numbered names, or give them up. -/
def keepCollected (keep : Option String) (numbers : List Nat) : Course Unit :=
  change fun st =>
    match keep with
    | some name =>
      (numbers.zipIdx).foldl (fun st (n, i) => st.keep (name ++ toString i) n) st
    | none => numbers.foldl (fun st n => st.onSystem (·.release n)) st

/-- What is answered of a state. -/
def stateAnswer (what : Subject) (st : Stage) : Answer :=
  match what with
  | .service => .ofText? ((st.system.services[0]?).map Service.diagnostic)
  | .transport => .text st.system.broker.diagnostic
  | .environment =>
    .text (Lifecycle.diagnostic (List.replicate st.members serviceName) st.policy)

/-- The channel of an envelope, while someone holds its service. -/
def channelOf (st : Stage) (e : Envelope) : Except ChannelError Channel :=
  match st.system.service? e.service with
  | none => .error .closed
  | some v => v.registry.lookup e.channel

/-! ## Steps and actions -/

/-- What an action is done on: an envelope, and the token of its handler. -/
structure Subjects where
  envelope : Nat
  ctx : Nat

/-- What an action answered, with the disposition after it. -/
def actedOn (on : Subjects) (a : Answer) : Course Answer := do
  return .acted a (((← stage).system.disposition? on.envelope).getD .received)

/-- What is answered of an envelope. -/
def ofEnvelope (on : Subjects) (f : Stage → Envelope → Answer) : Course Answer := do
  let st ← stage
  return ((st.system.envelopes[on.envelope]?).map (f st)).getD .nothing

mutual

/-- Do a step. -/
def Step.perform : Step → Course Answer
  | .command c => return .ofOutcome (← operate c)
  | .tryPublish channel event payload => do
    let result ← operate (.publish channel event payload)
    reportFailure "Failed to publish event" result
    match result with
    | .ok (.published id) => return .text id
    | _ => return .nothing
  | .lookup channel =>
    return .ofResult .channel (((← stage).system.registry 0).lookup channel)
  | .registry => return .registry ((← stage).system.registry 0)
  | .dropService => do
    change fun st =>
      { st with dropped := true, members := 0, policy := .standard }.onSystem
        (·.changeHandles 0 (-1))
    return .nothing
  | .diagnostic what => return stateAnswer what (← stage)
  | .serviceName => return .text serviceName
  | .addService policy => do
    change fun st => { st with policy := policy.getD st.policy, members := st.members + 1 }
    return .number (← stage).members
  | .startServices => do
    let st ← stage
    return .ofLifecycle (← startServices st.policy st.members)
  | .stopServices => do
    let failed ← stopServices (← stage).members
    return .ofLifecycle (Lifecycle.closeResult failed)
  | .isRetryable e => return .flag e.isTransient
  | .advance d => do setManual ((← stage).manual.advance d)
  | .setClock t => setManual t
  | .sleep millis => do
    Course.sleep millis
    return .nothing
  | .setUp method faults => do
    Rehearsal.setUp method faults
    return .nothing
  | .request r => return .ofReply (← askBroker r)
  | .failNextPublish topic e => do
    change (·.onBroker (·.failNextPublish topic e))
    return .nothing
  | .published topic =>
    return .list (((← stage).system.broker.publishedTo topic).map .message)
  | .openStream topic subscription name => Rehearsal.openStream topic subscription name
  | .next stream slot => nextOf stream slot
  | .settleSlot slot v => do
    withDelivery slot fun n b => match v with
      | .ack => b.ack n
      | .nack => b.nack n
    return .nothing
  | .dropSlot slot => do
    withDelivery slot fun n b => b.release n
    change fun st => { st with deliveries := st.deliveries.erase slot }
    return .nothing
  | .dropStream name => do
    change fun st =>
      match st.streams.get? name with
      | some n => { st with streams := st.streams.erase name }.onBroker (·.dropStream n)
      | none => st
    return .nothing
  | .receiveN channel count cancelled keep idle => do
    let token ← newToken cancelled
    let task ← spawnReceiving (.receiveN channel count token)
    let idle ← performIdle idle
    match ← endReceiving task token with
    | .ok (.collected numbers) =>
      let envelopes := envelopesOf (← stage) numbers
      keepCollected keep numbers
      return .collected (.ok (.list envelopes)) idle
    | .ok _ => return .collected (.ok (.list [])) idle
    | .error e => return .collected (.channelError e) idle
  | .receive channel script cancelled idle => do
    let token ← newToken cancelled
    let run := (← stage).receptions.length
    change fun st =>
      { st with receptions := st.receptions ++ [⟨token, none, script, [], 0, 0⟩] }
    let task ← spawnReceiving (.receive run channel token)
    let idle ← performIdle idle
    let result ← endReceiving task token
    match (← stage).receptions[run]? with
    | some r => return .received (.ofOutcome result) r.records r.peak idle
    | none => return .received (.ofOutcome result) [] 0 idle
  | .envelope slot actions => do
    match (← stage).slots.get? slot with
    | none => return .nothing
    | some envelope =>
      let token ← newToken false
      change (·.hold envelope)
      let answers ← performActions ⟨envelope, token⟩ (fun _ => pure ()) actions
      change (·.unhold envelope)
      return .list answers
  | .dropEnvelope slot => do
    change (·.forget slot)
    return .nothing

/-- Do steps, each a second later than the one before. -/
def performIdle : List Step → Course (List Answer)
  | [] => return []
  | step :: rest => do
    Course.sleep 1000
    let a ← step.perform
    let (st, a) := (← stage).answer a
    change fun _ => st
    return a :: (← performIdle rest)

/-- Do an action; some answer nothing. -/
def Action.perform (on : Subjects) : Action → Course (Option Answer)
  | .ack => do
    onSystem (·.ack on.envelope)
    return some (← actedOn on .nothing)
  | .nack => do
    onSystem (·.nack on.envelope)
    return some (← actedOn on .nothing)
  | .info => do return some (← actedOn on (← ofEnvelope on fun _ e => .envelope e))
  | .isTerminal => do
    return some (← actedOn on (← ofEnvelope on fun _ e => .flag e.disposition.isTerminal))
  | .channel => do
    return some (← actedOn on
      (← ofEnvelope on fun st e => .ofResult Answer.channel (channelOf st e)))
  | .summary => do
    return some (← actedOn on (← ofEnvelope on fun _ e => .text e.message.summary))
  | .diagnostic => do return some (← actedOn on (← ofEnvelope on fun _ e => .text e.diagnostic))
  | .cancel => do
    onSystem (·.cancel on.ctx)
    return some (← actedOn on .nothing)
  | .isCancelled => do
    return some (← actedOn on (.flag ((← stage).system.isCancelled on.ctx)))
  | .untilCancelled => do
    await (.cancelled on.ctx)
    return some (← actedOn on .nothing)
  | .panic => Course.panic
  | .fail c cause => do
    let result ← decideFailure on.envelope c cause
    return some (← actedOn on (.ofOutcome result))
  | .tryFail c cause => do
    tryDecideFailure on.envelope c cause
    return some (← actedOn on .nothing)
  | .deadLetterWhile cause actions => do
    let (first, meanwhile) ← both
      (do return .ofOutcome (← decideFailure on.envelope .deadLetter cause))
      (do return .list (← performActions on (fun _ => pure ()) actions))
    let meanwhile := match meanwhile with
      | .list answers => answers
      | _ => []
    return some (← actedOn on (.concurrently first meanwhile))
  | .payload shape => do
    return some (← actedOn on
      (← ofEnvelope on fun _ e => .ofResult Answer.value (e.payload shape)))
  | .attribute key => do
    return some (← actedOn on (← ofEnvelope on fun _ e => .ofText? (e.message.attribute? key)))
  | .sleep millis => do
    Course.sleep millis
    return some (← actedOn on .nothing)
  | .step s => do
    let a ← s.perform
    return some (← actedOn on a)
  | .keep slot => do
    change (·.keep slot on.envelope)
    return none
  | .worker => return none

/-- Do actions in order; each answer is also passed on as soon as it is there. -/
def performActions (on : Subjects) (pass : Answer → Course Unit) :
    List Action → Course (List Answer)
  | [] => return []
  | action :: rest => do
    match ← action.perform on with
    | some a =>
      pass a
      return a :: (← performActions on pass rest)
    | none => performActions on pass rest

end

/-! ## Duties -/

/-- Leave an envelope to the worker. -/
def performWorker (envelope : Nat) : Course Unit := do
  match (← stage).system.envelopes[envelope]? with
  | none => return ()
  | some e =>
    match Worker.judge e with
    | .ack => onSystem (·.ack envelope)
    | .retry cause => tryDecideFailure envelope .retry cause
    | .deadLetter cause => tryDecideFailure envelope .deadLetter cause

/-- Handle an envelope as the script of a receive step says; past its end, acknowledge it. -/
def performHandler (run envelope : Nat) : Course Answer := do
  let st ← stage
  match st.receptions[run]?, st.system.envelopes[envelope]? with
  | some r, some e =>
    let place := r.records.length
    change (·.onReception run fun r =>
      { r with
        records := r.records ++ [(e.message.id, [])]
        running := r.running + 1
        peak := max r.peak (r.running + 1) })
    let pass (a : Answer) : Course Unit :=
      change (·.onReception run fun r =>
        { r with records := r.records.modify place fun d => (d.1, d.2 ++ [a]) })
    match (r.script[place]?).getD [.ack] with
    | .worker :: _ => performWorker envelope
    | actions => do
      let _ ← performActions ⟨envelope, r.ctx⟩ pass actions
      pure ()
    return .nothing
  | _, _ => return .nothing

/-- Carry on an operation as a task. -/
def performReceiving (task : Nat) (c : Command) (begun : Nat → Course Unit) : Course Answer := do
  let (system, op) := (← stage).system.begin 0 c
  change fun st =>
    { st with system := system, taskOperations := st.taskOperations ++ [(task, op)] }
  begun op
  await (.operation op)
  return .nothing

/-- What a task does. -/
def Duty.perform (task : Nat) : Duty → Course Answer
  | .receive run channel ctx =>
    performReceiving task (.receive channel ctx) fun op =>
      change (·.onReception run fun r => { r with operation := some op })
  | .receiveN channel count ctx =>
    performReceiving task (.receiveN channel count ctx) fun _ => pure ()
  | .handle run envelope => performHandler run envelope

/-- What the task that does a script's steps does. -/
def performSteps : List Step → Course (List Answer)
  | [] => return []
  | step :: rest => do
    let a ← step.perform
    let (st, a) := (← stage).answer a
    change fun _ => st
    return a :: (← performSteps rest)

end MessageChannels.Rehearsal
