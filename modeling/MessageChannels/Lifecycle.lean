import MessageChannels.Error
import MessageChannels.Retry

/-!
# Starting and stopping services

An environment starts its services in the order in which they were added, each with retries, and
stops at the first that cannot be started. It closes them in the reverse order and goes on past
failures. What a service's hooks do is given call by call, for as many calls as there may be. A report
says what was done: which hooks were called, and which delays were waited out between them.
-/

set_option autoImplicit false

namespace MessageChannels

/-- Why a hook of a service failed: an error of its own, or one of a channel operation. -/
inductive HookError where
  | plain (text : String)
  | channel (e : ChannelError)
  deriving DecidableEq

namespace HookError

/-- The wording of a hook's failure. -/
def message : HookError → String
  | plain text => text
  | channel e => e.message

/-- Whether the start of a channel service is worth trying again: not if its channels are not
configured, nor once it is closed. -/
def isTransient : HookError → Bool
  | plain _ => true
  | channel e => !e.isConfiguration && !e.isClosed

end HookError

/-- Why an environment could not be started or stopped. -/
inductive LifecycleError where
  | init (service : String) (source : HookError)
  | close (services : List String)
  deriving DecidableEq

/-- The wording of a failure to start or stop. -/
def LifecycleError.message : LifecycleError → String
  | init service source => "failed to initialize service \"" ++ service ++ "\": " ++ source.message
  | close services => "failed to close services: " ++ ", ".intercalate services

namespace Lifecycle

/-- A hook of a service. -/
inductive Hook where
  | init
  | close
  deriving DecidableEq

/-- A service of an environment: the outcomes of its hooks call by call, and how often each was
called. -/
structure Member where
  name : String
  isRetryable : HookError → Bool
  initOutcome : Nat → Except HookError Unit
  closeOutcome : Nat → Except HookError Unit
  initCalls : Nat
  closeCalls : Nat

/-- What an environment does. -/
inductive Deed where
  /-- A hook of a service is called. -/
  | called (service : String) (hook : Hook)
  /-- A delay is waited out before the next call. -/
  | slept (delay : Span)
  deriving DecidableEq

namespace Deed

/-- The service and the hook that are called, if any. -/
def call? : Deed → Option (String × Hook)
  | called service hook => some (service, hook)
  | slept _ => none

/-- The delay that is waited out, if any. -/
def delay? : Deed → Option Span
  | called _ _ => none
  | slept delay => some delay

end Deed

/-- How a start or stop went. -/
structure Report where
  result : Except LifecycleError Unit
  /-- What was done, one after the other. -/
  deeds : List Deed
  notes : List Note
  members : List Member

namespace Report

/-- The hooks that were called. -/
def calls (r : Report) : List (String × Hook) := r.deeds.filterMap Deed.call?

/-- The delays that were waited out. -/
def delays (r : Report) : List Span := r.deeds.filterMap Deed.delay?

end Report

/-- What is done to start a member: calls, and a delay between each and the next. -/
def initDeeds (m : Member) (delays : List Span) : List Deed :=
  delays.flatMap (fun d => [.called m.name .init, .slept d]) ++ [.called m.name .init]

theorem initDeeds_cons (m : Member) (d : Span) (delays : List Span) :
    initDeeds m (d :: delays) = .called m.name .init :: .slept d :: initDeeds m delays :=
  rfl

/-- A member is called once more than delays are waited out. -/
theorem filterMap_call?_initDeeds (m : Member) (delays : List Span) :
    (initDeeds m delays).filterMap Deed.call?
      = List.replicate (delays.length + 1) (m.name, .init) := by
  induction delays with
  | nil => rfl
  | cons d delays ih =>
    rw [initDeeds_cons, List.length_cons, List.replicate_succ, ← ih]
    rfl

theorem filterMap_delay?_initDeeds (m : Member) (delays : List Span) :
    (initDeeds m delays).filterMap Deed.delay? = delays := by
  induction delays with
  | nil => rfl
  | cons d delays ih => exact congrArg (List.cons d) ih

/-- Start services in order. -/
def start (policy : BackoffPolicy) : List Member → Report
  | [] => ⟨.ok (), [], [], []⟩
  | m :: rest =>
    let run := Retry.run policy m.isRetryable HookError.message
      (fun k => m.initOutcome (m.initCalls + k))
    let deeds := initDeeds m run.delays
    let m := { m with initCalls := m.initCalls + run.attempts }
    match run.result with
    | .error e => ⟨.error (.init m.name e), deeds, run.notes, m :: rest⟩
    | .ok () =>
      let later := start policy rest
      ⟨later.result, deeds ++ later.deeds, run.notes ++ later.notes, m :: later.members⟩

/-- The result of closing services, of which some failed. -/
def closeResult (failed : List String) : Except LifecycleError Unit :=
  if failed = [] then .ok () else .error (.close failed)

/-- What is reported of a service that could not be closed. -/
def closeFailure (e : HookError) : Note := .reported "Service failed to close" (some e.message)

/-- Close services in the order given: what is done, the names of those that failed, and the
reports. -/
def closeEach : List Member → List Deed × List String × List Note
  | [] => ([], [], [])
  | m :: rest =>
    let (deeds, failed, notes) := closeEach rest
    let call : Deed := .called m.name .close
    match m.closeOutcome m.closeCalls with
    | .ok () => (call :: deeds, failed, notes)
    | .error e => (call :: deeds, m.name :: failed, closeFailure e :: notes)

/-- Stop services in the reverse of their order. -/
def stop (members : List Member) : Report :=
  let (deeds, failed, notes) := closeEach members.reverse
  ⟨closeResult failed, deeds, notes,
    members.map fun m => { m with closeCalls := m.closeCalls + 1 }⟩

/-- An environment in a diagnostic text. -/
def diagnostic (names : List String) (policy : BackoffPolicy) : String :=
  Text.record "AppEnv"
    [("services", Text.bracketed (names.map Text.quoted)), ("init_policy", policy.diagnostic)] false

end Lifecycle

end MessageChannels
