import MessageChannels.Lifecycle
import MessageChannels.System.Operation

/-!
# Scripts for rehearsals

A rehearsal runs a service over an in-memory broker in virtual time and with failures set up in
advance. Its script is a list of steps, done one after the other. A step that receives says what the
handler of each delivery does (`Action`), and what is done meanwhile.
-/

set_option autoImplicit false

namespace MessageChannels.Rehearsal

/-- A kind of request. -/
inductive Method where
  | topicExists
  | createTopic
  | deleteTopic
  | subscriptionExists
  | createSubscription
  | deleteSubscription
  | publish
  | receive
  | close
  deriving DecidableEq

/-- The kind of a request. -/
def methodOf : Request → Method
  | .topicExists _ => .topicExists
  | .createTopic _ => .createTopic
  | .deleteTopic _ => .deleteTopic
  | .subscriptionExists _ => .subscriptionExists
  | .createSubscription _ _ _ => .createSubscription
  | .deleteSubscription _ => .deleteSubscription
  | .publish _ _ => .publish
  | .receive _ _ => .receive
  | .close => .close

/-- What a request meets instead of the broker. -/
inductive Substitute where
  | fail (e : TransportError)
  | reply (r : Reply)
  | source (s : ScriptedSource)

/-- What is set up for a request: a delay in milliseconds, and a substitute for the broker. -/
structure Fault where
  delay : Option Nat
  substitute : Option Substitute

/-- What a diagnostic text is wanted of. -/
inductive Subject where
  | service
  | transport
  | environment

mutual

/-- What the handler of a delivery does. -/
inductive Action where
  | ack
  | nack
  | info
  | isTerminal
  | channel
  | summary
  | diagnostic
  | cancel
  | isCancelled
  | untilCancelled
  | panic
  /-- Decide on the envelope; the result is answered. -/
  | fail (c : FailureCommand) (cause : String)
  /-- Decide on the envelope; a failure is only reported. -/
  | tryFail (c : FailureCommand) (cause : String)
  /-- Route the envelope to the dead letters and, while that waits, do more. -/
  | deadLetterWhile (cause : String) (actions : List Action)
  | payload (shape : Json.Shape)
  | attribute (key : String)
  | sleep (millis : Nat)
  | step (s : Step)
  /-- Keep the envelope under a name. -/
  | keep (slot : String)
  /-- Leave the delivery to the worker. -/
  | worker

/-- A step of a script. -/
inductive Step where
  | command (c : Command)
  /-- Publish an event; a failure is only reported. -/
  | tryPublish (channel event : String) (payload : Except String Json)
  | lookup (channel : String)
  | registry
  | dropService
  | diagnostic (what : Subject)
  | serviceName
  /-- Add the service to the environment, and set the policy of its start. -/
  | addService (policy : Option BackoffPolicy)
  | startServices
  | stopServices
  | isRetryable (e : HookError)
  | advance (d : Span)
  | setClock (t : Timestamp)
  | sleep (millis : Nat)
  | setUp (method : Method) (faults : List Fault)
  /-- Ask the broker directly. -/
  | request (r : Request)
  | failNextPublish (topic : String) (e : TransportError)
  | published (topic : String)
  | openStream (topic subscription name : String)
  | next (stream slot : String)
  | settleSlot (slot : String) (v : Settlement)
  | dropSlot (slot : String)
  | dropStream (name : String)
  | receiveN (channel : String) (count : Nat) (cancelled : Bool) (keep : Option String)
      (idle : List Step)
  | receive (channel : String) (script : List (List Action)) (cancelled : Bool) (idle : List Step)
  | envelope (slot : String) (actions : List Action)
  | dropEnvelope (slot : String)

end

instance : Inhabited Action := ⟨.ack⟩

instance : Inhabited Step := ⟨.registry⟩

/-- A setting of the service that is rehearsed. -/
inductive Setting where
  | channel (c : Channel)
  | deadLetter (c : Channel)
  | maxOutstanding (n : Nat)

/-- The service that settings describe. -/
def buildService (settings : List Setting) : Service :=
  let registry := settings.foldl (fun r s => match s with
    | .channel c => Registry.add r c
    | .deadLetter c => Registry.setDeadLetter r c
    | .maxOutstanding _ => r) Registry.empty
  let limit := settings.foldl (fun n s => match s with
    | .maxOutstanding m => some m
    | _ => n) none
  Service.build registry limit

/-- The time that service and broker go by when they do not go by the clock that steps move. It
stands still, so that a rehearsal does not depend on when it is held. -/
def present : Timestamp := (Timestamp.ofParts? 1782864000 0).getD .epoch

/-- A rehearsal: the time at its start, whether the clock that steps move is the one that the
service and the broker go by, the service, and the steps. -/
structure Script where
  start : Timestamp
  ownClock : Bool
  settings : List Setting
  steps : List Step

end MessageChannels.Rehearsal
