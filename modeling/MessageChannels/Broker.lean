import MessageChannels.Transport

/-!
# The in-memory broker

A broker keeps topics and subscriptions. Publishing appends a message to the backlog of every
subscription of its topic. Reading takes the first message of a backlog, which is then held until it
is settled: acknowledging ends it, rejecting or giving it up appends it to the backlog again. Once
closed, a broker refuses every request and changes no more.

Streams read one subscription each. A stream that finds its backlog empty is parked until there is
news of the subscription that it was opened on: a message, its deletion, or the closing of the
broker. Each creation of a subscription has a number, and news of a creation wakes the streams
parked on that creation; a stream that is awake looks its subscription up by name.

The numbers that messages, deliveries and streams are given have no greatest one, and a deadline is
kept and never looked at: a delivery is held until it is settled or given up.
-/

set_option autoImplicit false

namespace MessageChannels

/-- A subscription: its topic, its deadline, the messages waiting, and the number of its creation.
-/
structure Subscription where
  topic : String
  ackDeadline : Span
  backlog : List Message
  creation : Nat
  deriving DecidableEq

/-- A message that was taken from a subscription and is not settled. -/
structure Held where
  number : Nat
  subscription : String
  message : Message
  deriving DecidableEq

/-- An open stream of deliveries. -/
structure Stream where
  number : Nat
  subscription : String
  creation : Nat
  ended : Bool
  deriving DecidableEq

/-- A stream that waits for news of a creation. -/
structure Parked where
  stream : Nat
  creation : Nat
  deriving DecidableEq

/-- The state of a broker. -/
structure Broker where
  closed : Bool
  topics : Dictionary Unit
  subscriptions : Dictionary Subscription
  /-- Accepted messages with their topics, oldest first. -/
  published : List (String × Message)
  /-- Failures that the next publishes to a topic meet, in order. -/
  failures : Dictionary (List TransportError)
  acked : List Held
  nacked : List Held
  /-- Deliveries that are not settled. -/
  held : List Held
  /-- How many deliveries were made. -/
  taken : Nat
  streams : List Stream
  /-- How many streams were opened. -/
  opened : Nat
  /-- Streams waiting for news, longest waiting first. -/
  parked : List Parked
  /-- How many subscriptions were created. -/
  creations : Nat
  deriving DecidableEq

namespace Broker

/-- A broker without topics. -/
def empty : Broker where
  closed := false
  topics := Dictionary.empty
  subscriptions := Dictionary.empty
  published := []
  failures := Dictionary.empty
  acked := []
  nacked := []
  held := []
  taken := 0
  streams := []
  opened := 0
  parked := []
  creations := 0

instance : Inhabited Broker := ⟨empty⟩

/-! ## Looking -/

/-- Whether a topic exists. -/
def hasTopic (b : Broker) (topic : String) : Bool := b.topics.contains topic

/-- Whether a subscription exists. -/
def hasSubscription (b : Broker) (subscription : String) : Bool :=
  b.subscriptions.contains subscription

/-- The messages accepted on a topic, oldest first. -/
def publishedTo (b : Broker) (topic : String) : List Message :=
  (b.published.filter (fun p => p.1 = topic)).map Prod.snd

/-- The messages waiting on a subscription. -/
def backlog (b : Broker) (subscription : String) : List Message :=
  ((b.subscriptions.get? subscription).map Subscription.backlog).getD []

/-- A broker in a diagnostic text. -/
def diagnostic (b : Broker) : String :=
  Text.record "InMemoryTransport"
    [("closed", toString b.closed), ("topics", Text.braced (b.topics.keys.map Text.quoted)),
      ("subscriptions", toString b.subscriptions.size),
      ("published", toString b.published.length)] true

/-! ## Changing -/

/-- The refusal of a closed broker. -/
def closing : TransportError := .cancelled "the client connection is closing"

/-- The broker after news of a creation: the streams parked on it are parked no more. -/
def announce (b : Broker) (creation : Nat) : Broker :=
  { b with parked := b.parked.filter (fun p => p.creation ≠ creation) }

/-- The broker after a message was appended to the backlog of a subscription. -/
def enqueue (b : Broker) (subscription : String) (m : Message) : Broker :=
  match b.subscriptions.get? subscription with
  | none => b
  | some s =>
    { b with subscriptions := b.subscriptions.insert subscription
              { s with backlog := s.backlog ++ [m] } }.announce s.creation

/-- Make the next publish to a topic that has no earlier failure to meet fail with an error. -/
def failNextPublish (b : Broker) (topic : String) (e : TransportError) : Broker :=
  { b with failures := b.failures.insert topic ((b.failures.get? topic).getD [] ++ [e]) }

/-- The failure that the next publish to a topic meets, and those after it. -/
def nextFailure? (b : Broker) (topic : String) : Option (TransportError × List TransportError) :=
  match b.failures.get? topic with
  | some (e :: later) => some (e, later)
  | _ => none

/-- The message that an outbound one becomes when it is accepted next. -/
def stamped (b : Broker) (now : Timestamp) (m : Outbound) : Message :=
  ⟨toString (b.published.length + 1), m.data, m.attributes, now⟩

/-- The names of the subscriptions of a topic. -/
def subscribers (b : Broker) (topic : String) : List String :=
  (b.subscriptions.entries.filter (fun e => e.2.topic = topic)).map Prod.fst

/-- Accept a message: it is appended to the backlog of every subscription of its topic. -/
def accept (b : Broker) (topic : String) (m : Message) : Broker :=
  let b := (b.subscribers topic).foldl (fun b s => b.enqueue s m) b
  { b with published := b.published ++ [(topic, m)] }

/-- Publish a message. A failure set up for its topic comes first and is used up. -/
def publish (b : Broker) (now : Timestamp) (topic : String) (m : Outbound) :
    Broker × Except TransportError Reply :=
  match b.nextFailure? topic with
  | some (e, later) => ({ b with failures := b.failures.insert topic later }, .error e)
  | none =>
    if b.hasTopic topic then
      (b.accept topic (b.stamped now m), .ok (.accepted (b.stamped now m).id))
    else (b, .error (.notFound ("topic " ++ topic)))

/-- Open a stream on a subscription of a topic. -/
def openStream (b : Broker) (topic subscription : String) :
    Broker × Except TransportError Reply :=
  match b.subscriptions.get? subscription with
  | some s =>
    if s.topic = topic then
      ({ b with streams := b.streams ++ [⟨b.opened, subscription, s.creation, false⟩]
                opened := b.opened + 1 },
        .ok (.opened (.stream b.opened)))
    else (b, .error (.notFound ("subscription " ++ subscription ++ " on topic " ++ topic)))
  | none => (b, .error (.notFound ("subscription " ++ subscription ++ " on topic " ++ topic)))

/-- Close the broker, which is news of every subscription. -/
def close (b : Broker) : Broker :=
  (b.subscriptions.values.map Subscription.creation).foldl announce { b with closed := true }

/-- Do what a request asks, at a time. -/
def perform (b : Broker) (now : Timestamp) (request : Request) :
    Broker × Except TransportError Reply :=
  if b.closed then (b, .error closing)
  else
    match request with
    | .topicExists t => (b, .ok (.present (b.hasTopic t)))
    | .createTopic t =>
      if b.hasTopic t then (b, .error (.alreadyExists ("topic " ++ t)))
      else ({ b with topics := b.topics.insert t () }, .ok .done)
    | .deleteTopic t =>
      if b.hasTopic t then ({ b with topics := b.topics.erase t }, .ok .done)
      else (b, .error (.notFound ("topic " ++ t)))
    | .subscriptionExists s => (b, .ok (.present (b.hasSubscription s)))
    | .createSubscription t s deadline =>
      if !b.hasTopic t then (b, .error (.notFound ("topic " ++ t)))
      else if b.hasSubscription s then (b, .error (.alreadyExists ("subscription " ++ s)))
      else
        ({ b with subscriptions := b.subscriptions.insert s ⟨t, deadline, [], b.creations⟩
                  creations := b.creations + 1 }, .ok .done)
    | .deleteSubscription s =>
      match b.subscriptions.get? s with
      | some sub =>
        ({ b with subscriptions := b.subscriptions.erase s }.announce sub.creation, .ok .done)
      | none => (b, .error (.notFound ("subscription " ++ s)))
    | .publish t m => b.publish now t m
    | .receive t s => b.openStream t s
    | .close => (b.close, .ok .done)

/-! ## Reading -/

/-- The broker after a stream has ended. -/
def endStream (b : Broker) (number : Nat) : Broker :=
  { b with streams := b.streams.map fun s =>
      if s.number = number then { s with ended := true } else s }

/-- What a stream that is awake finds when it looks its subscription up. -/
def look (b : Broker) (s : Stream) : Broker × Poll :=
  if b.closed then (b.endStream s.number, .failed closing)
  else
    match b.subscriptions.get? s.subscription with
    | none => (b.endStream s.number, .failed (.notFound ("subscription " ++ s.subscription)))
    | some sub =>
      match sub.backlog with
      | m :: rest =>
        ({ b with
            subscriptions := b.subscriptions.insert s.subscription { sub with backlog := rest }
            held := b.held ++ [⟨b.taken, s.subscription, m⟩]
            taken := b.taken + 1 },
          .delivered ⟨m, .held b.taken⟩)
      | [] => ({ b with parked := b.parked ++ [⟨s.number, s.creation⟩] }, .pending)

/-- Look at a stream. A parked one is not looked at before there is news, and one that has ended
shows nothing more. -/
def pollStream (b : Broker) (number : Nat) : Broker × Poll :=
  match b.streams.find? (fun s => s.number = number) with
  | none => (b, .ended)
  | some s =>
    if s.ended then (b, .ended)
    else if b.parked.any (fun p => p.stream = number) then (b, .pending)
    else b.look s

/-- The broker after a stream was given up. -/
def dropStream (b : Broker) (number : Nat) : Broker :=
  { b with
    streams := b.streams.filter (fun s => s.number ≠ number)
    parked := b.parked.filter (fun p => p.stream ≠ number) }

/-! ## Settling -/

/-- The delivery of a number, if it is not settled. -/
def held? (b : Broker) (number : Nat) : Option Held :=
  b.held.find? (fun h => h.number = number)

/-- The broker without an unsettled delivery. -/
def unhold (b : Broker) (number : Nat) : Broker :=
  { b with held := b.held.filter (fun h => h.number ≠ number) }

/-- Acknowledge a delivery; without effect if it is settled. A closed broker records nothing. -/
def ack (b : Broker) (number : Nat) : Broker :=
  match b.held? number with
  | none => b
  | some h =>
    let b := b.unhold number
    if b.closed then b else { b with acked := b.acked ++ [h] }

/-- Reject a delivery, which is queued again; without effect if it is settled. A closed broker
records and queues nothing. -/
def nack (b : Broker) (number : Nat) : Broker :=
  match b.held? number with
  | none => b
  | some h =>
    let b := b.unhold number
    if b.closed then b
    else { b with nacked := b.nacked ++ [h] }.enqueue h.subscription h.message

/-- Give a delivery up, which is queued again unless it is settled or the broker closed. -/
def release (b : Broker) (number : Nat) : Broker :=
  match b.held? number with
  | none => b
  | some h =>
    let b := b.unhold number
    if b.closed then b else b.enqueue h.subscription h.message

end Broker

end MessageChannels
