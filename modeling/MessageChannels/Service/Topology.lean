import MessageChannels.Registry
import MessageChannels.Transport

/-!
# Making and removing topics and subscriptions

Work on the topology is a list of chores done in order. A chore looks whether its topic or
subscription exists and then creates what is missing or deletes what is there; that someone else was
faster counts as success. The work ends at the first failure and leaves what was done before it.
Before creating anything, and before each channel's deletion, the service must still be open.
-/

set_option autoImplicit false

namespace MessageChannels.Topology

/-- One thing to be seen to. -/
inductive Chore where
  /-- The service must be open. -/
  | verifyOpen
  | ensureTopic (topic : String)
  | ensureSubscription (topic subscription : String)
  | removeSubscription (subscription : String)
  | removeTopic (topic : String)
  deriving DecidableEq

/-- The deadline of subscriptions that a service creates. -/
def ackDeadline : Span := Span.ofSecs 10

/-- What is there for a channel: its topic, then its subscription. -/
def ensureChores (c : Channel) : List Chore :=
  .ensureTopic c.topic ::
    match c.subscription with
    | some s => [.ensureSubscription c.topic s]
    | none => []

/-- What is removed for a channel: its subscription, then its topic. -/
def removeChores (c : Channel) : List Chore :=
  .verifyOpen ::
    match c.subscription with
    | some s => [.removeSubscription s, .removeTopic c.topic]
    | none => [.removeTopic c.topic]

/-- The work of making everything that a registry names. -/
def reconcile (r : Registry) : List Chore := .verifyOpen :: r.toList.flatMap ensureChores

/-- The work of removing everything that a registry names. -/
def remove (r : Registry) : List Chore := .verifyOpen :: r.toList.flatMap removeChores

namespace Chore

/-- Whether the service must be open for a chore to be begun. -/
def needsOpen : Chore → Bool
  | verifyOpen => true
  | ensureTopic _ => true
  | ensureSubscription _ _ => true
  | removeSubscription _ => false
  | removeTopic _ => false

/-- Whether a chore makes something, rather than removing it. -/
def isMaking : Chore → Bool
  | ensureTopic _ => true
  | ensureSubscription _ _ => true
  | _ => false

/-- The question that a chore begins with. -/
def question? : Chore → Option Request
  | verifyOpen => none
  | ensureTopic t => some (.topicExists t)
  | ensureSubscription _ s => some (.subscriptionExists s)
  | removeSubscription s => some (.subscriptionExists s)
  | removeTopic t => some (.topicExists t)

/-- The change that a chore asks for if the answer to its question calls for one. -/
def change? : Chore → Option Request
  | verifyOpen => none
  | ensureTopic t => some (.createTopic t)
  | ensureSubscription t s => some (.createSubscription t s ackDeadline)
  | removeSubscription s => some (.deleteSubscription s)
  | removeTopic t => some (.deleteTopic t)

/-- The name of the topic or subscription that a chore is about. -/
def resource : Chore → String
  | verifyOpen => ""
  | ensureTopic t => t
  | ensureSubscription _ s => s
  | removeSubscription s => s
  | removeTopic t => t

/-- What a chore's question is called in errors. -/
def questionName : Chore → String
  | verifyOpen => ""
  | ensureTopic _ => "check existence of topic"
  | ensureSubscription _ _ => "check existence of subscription"
  | removeSubscription _ => "check existence of subscription"
  | removeTopic _ => "check existence of topic"

/-- What a chore's change is called in errors. -/
def changeName : Chore → String
  | verifyOpen => ""
  | ensureTopic _ => "create topic"
  | ensureSubscription _ _ => "create subscription"
  | removeSubscription _ => "delete subscription"
  | removeTopic _ => "delete topic"

/-- Whether a failure of a chore's change says that there is nothing to change any more. -/
def isSettledBy (c : Chore) (e : TransportError) : Bool :=
  if c.isMaking then e.isAlreadyExists else e.isNotFound

end Chore

/-- Work in progress: the chore at hand, whether its change is under way (or else its question), and
the chores after it. -/
structure Work where
  chore : Chore
  changing : Bool
  later : List Chore
  deriving DecidableEq

/-- What the work is waiting for. -/
def Work.request? (w : Work) : Option Request :=
  if w.changing then w.chore.change? else w.chore.question?

/-- How the work goes on: with a chore, or it is all done. -/
abbrev Next := Except ChannelError (Option Work)

/-- Begin the first chore that has a question, in a service that is closed or not. -/
def begin (closed : Bool) : List Chore → Next
  | [] => .ok none
  | c :: later =>
    if c.needsOpen && closed then .error .closed
    else if c.question? = none then begin closed later
    else .ok (some ⟨c, false, later⟩)

/-- Go on after a reply or failure, in a service that is closed or not. -/
def Work.answer (w : Work) (closed : Bool) : Except TransportError Reply → Next
  | .ok reply =>
    if w.changing || reply.isPresent == w.chore.isMaking then begin closed w.later
    else .ok (some { w with changing := true })
  | .error e =>
    if !w.changing then .error (.ofTransport w.chore.questionName w.chore.resource e)
    else if w.chore.isSettledBy e then begin closed w.later
    else .error (.ofTransport w.chore.changeName w.chore.resource e)

end MessageChannels.Topology
