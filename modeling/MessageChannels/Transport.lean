import MessageChannels.Error
import MessageChannels.Message

/-!
# What a service asks of a transport

A transport manages topics and subscriptions, takes messages and delivers them. A service asks it
one thing at a time (`Request`) and waits for the reply or a failure. Deliveries come from a source
that a transport has opened: a stream of a broker, or a list of deliveries written in advance.
-/

set_option autoImplicit false

namespace MessageChannels

/-- What a transport can be asked to do. -/
inductive Request where
  | topicExists (topic : String)
  | createTopic (topic : String)
  | deleteTopic (topic : String)
  | subscriptionExists (subscription : String)
  | createSubscription (topic subscription : String) (ackDeadline : Span)
  | deleteSubscription (subscription : String)
  | publish (topic : String) (message : Outbound)
  | receive (topic subscription : String)
  | close
  deriving DecidableEq

/-- Where deliveries come from. -/
inductive Source where
  /-- A stream of the broker, by number. -/
  | stream (number : Nat)
  /-- A list written in advance, by number. -/
  | script (number : Nat)
  deriving DecidableEq

/-- What a transport replies when it does what it is asked. -/
inductive Reply where
  | done
  | present (exists_ : Bool)
  | accepted (id : String)
  | opened (source : Source)
  deriving DecidableEq

namespace Reply

/-- Whether a reply says that something exists. -/
def isPresent : Reply → Bool
  | present b => b
  | _ => false

/-- The identifier that a reply gives to a message. -/
def id : Reply → String
  | accepted id => id
  | _ => ""

end Reply

/-- The handle that settles a delivery. -/
inductive Acker where
  /-- A delivery held from the broker, by number. -/
  | held (number : Nat)
  /-- A delivery written in advance, by the identifier of its message. -/
  | scripted (id : String)
  deriving DecidableEq

/-- A message taken from a source, with the handle that settles it. -/
structure Taken where
  message : Message
  acker : Acker
  deriving DecidableEq

/-- What a source shows when it is looked at. -/
inductive Poll where
  | pending
  | delivered (d : Taken)
  | failed (e : TransportError)
  | ended
  deriving DecidableEq

/-- What is done with a delivery in the end. -/
inductive Settlement where
  | ack
  | nack
  deriving DecidableEq

end MessageChannels
