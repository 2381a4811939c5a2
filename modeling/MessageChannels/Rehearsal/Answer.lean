import MessageChannels.Lifecycle
import MessageChannels.System.Operation

/-!
# What rehearsals answer

Each step answers something, and with it what was asked of the transport and reported since the last
answer, and the state of service and broker if it has changed since it was last shown.
-/

set_option autoImplicit false

namespace MessageChannels.Rehearsal

/-- Something that reached the transport. -/
inductive TransportCall where
  | asked (r : Request)
  /-- A delivery that was written in advance was settled. -/
  | settled (id : String) (v : Settlement)
  deriving DecidableEq

/-- The state of service and broker that answers show. -/
structure Snapshot where
  /-- Whether the service is closed; nothing once it was given up. -/
  closed : Option Bool
  transportClosed : Bool
  topics : List String
  /-- Each subscription with the length of its backlog and its deadline. -/
  subscriptions : List (String × Nat × Span)
  /-- Each topic that messages were published to, with their number. -/
  published : List (String × Nat)
  acked : List String
  nacked : List String
  deriving DecidableEq

/-- What a step or an action answers. -/
inductive Answer where
  | nothing
  | flag (b : Bool)
  | number (n : Nat)
  | text (s : String)
  | value (v : Json)
  | time (t : Timestamp)
  | channel (c : Channel)
  | message (m : Message)
  | envelope (e : Envelope)
  | registry (r : Registry)
  | list (answers : List Answer)
  | ok (a : Answer)
  | channelError (e : ChannelError)
  | transportError (e : TransportError)
  | lifecycleError (e : LifecycleError)
  /-- What an action answered, and the disposition after it. -/
  | acted (a : Answer) (d : Disposition)
  /-- What a route answered, and the actions done meanwhile. -/
  | concurrently (first : Answer) (meanwhile : List Answer)
  /-- How receiving went: its result, the deliveries with what their handlers answered, how many
  handlers ran at once at most, and the steps done meanwhile. -/
  | received (result : Answer) (deliveries : List (String × List Answer)) (peak : Nat)
      (idle : List Answer)
  /-- How a collection went, and the steps done meanwhile. -/
  | collected (result : Answer) (idle : List Answer)
  /-- A step's answer, with what came in and the state if it is to be shown. -/
  | step (a : Answer) (calls : List TransportCall) (reports : List (String × Option String))
      (state : Option Snapshot)

namespace Answer

instance : Inhabited Answer := ⟨nothing⟩

/-- A text if there is one. -/
def ofText? : Option String → Answer
  | some s => text s
  | none => nothing

/-- A result of a channel operation. -/
def ofResult {α : Type} (f : α → Answer) : Except ChannelError α → Answer
  | .ok a => ok (f a)
  | .error e => channelError e

/-- A result of a start or stop. -/
def ofLifecycle : Except LifecycleError Unit → Answer
  | .ok () => ok nothing
  | .error e => lifecycleError e

/-- A reply of the broker. -/
def ofReply : Except TransportError Reply → Answer
  | .ok (.present b) => ok (flag b)
  | .ok (.accepted id) => ok (text id)
  | .ok _ => ok nothing
  | .error e => transportError e

end Answer

end MessageChannels.Rehearsal
