import MessageChannels.Error
import MessageChannels.Transport

/-!
# Receiving

A receive loop takes deliveries from a source and hands each to a handler that runs beside it, as
many at once as it has permits. It looks, in this order, whether it is cancelled, whether the
service is closed, whether a handler has ended, and what the source shows. A delivery for which
there is no permit is held until there is one; if the loop stops meanwhile, the delivery is given
up. A stopped loop waits for its handlers.

A collection takes a number of deliveries and acknowledges each at once.

The permits of a loop are its own and are never withdrawn, so a loop that waits for one gets it or is
stopped: there is no move for permits that are gone.

`Loop.move` and `Collection.move` decide what comes next from what is seen; what a move does to the
rest of the world is not decided here.
-/

set_option autoImplicit false

namespace MessageChannels

/-- What receiving is called in errors. -/
def receiveOperation : String := "receive from subscription"

/-- The error of a source that shows no more deliveries. -/
def streamEnded (closed : Bool) (subscription : String) : ChannelError :=
  if closed then .closed
  else .ofTransport receiveOperation subscription (.unavailable "delivery stream ended")

/-- What a receive loop is at. -/
inductive LoopPhase where
  /-- It waits for the next delivery. -/
  | listening
  /-- It holds a delivery and waits for a permit. -/
  | holding (d : Taken)
  /-- It has stopped and waits for its handlers. -/
  | draining (outcome : Except ChannelError Unit)

/-- A receive loop. -/
structure Loop where
  channel : String
  subscription : String
  /-- The token that cancels it. -/
  ctx : Nat
  source : Source
  phase : LoopPhase
  /-- The permits that are free. -/
  free : Nat
  /-- The envelopes whose handlers have not ended. -/
  running : List Nat
  /-- The handlers that have ended and not been noticed; whether each panicked. -/
  ended : List Bool

/-- What a receive loop does next. -/
inductive LoopMove where
  /-- Take notice of a handler's end. -/
  | join (panicked : Bool)
  /-- Look at the source. -/
  | look
  /-- Hand the held delivery to a handler. -/
  | hand (d : Taken)
  /-- Stop receiving. -/
  | stop (outcome : Except ChannelError Unit)
  /-- Return. -/
  | finish (outcome : Except ChannelError Unit)
  /-- Nothing, until something changes. -/
  | wait

namespace Loop

/-- What a loop does next, given whether it is cancelled and whether the service is closed. -/
def move (l : Loop) (cancelled closed : Bool) : LoopMove :=
  match l.phase with
  | .listening =>
    if cancelled then .stop (.ok ())
    else if closed then .stop (.error .closed)
    else
      match l.ended with
      | panicked :: _ => .join panicked
      | [] => .look
  | .holding d =>
    if cancelled then .stop (.ok ())
    else if closed then .stop (.error .closed)
    else if 0 < l.free then .hand d
    else .wait
  | .draining outcome =>
    match l.ended with
    | panicked :: _ => .join panicked
    | [] => if l.running.isEmpty then .finish outcome else .wait

/-- The loop after it took notice of a handler's end. -/
def joined (l : Loop) : Loop := { l with ended := l.ended.drop 1 }

/-- The loop after it handed its delivery over as an envelope. -/
def handed (l : Loop) (envelope : Nat) : Loop :=
  { l with phase := .listening, free := l.free - 1, running := l.running ++ [envelope] }

/-- The loop after it stopped. -/
def stopped (l : Loop) (outcome : Except ChannelError Unit) : Loop :=
  { l with phase := .draining outcome }

/-- The loop after a handler has ended, which gives its permit back. -/
def handlerEnded (l : Loop) (envelope : Nat) (panicked : Bool) : Loop :=
  if l.running.contains envelope then
    { l with
      free := l.free + 1
      running := l.running.erase envelope
      ended := l.ended ++ [panicked] }
  else l

/-- What a loop makes of what its source shows: a delivery to hold, or an outcome to stop with. -/
def seen (l : Loop) (closed : Bool) : Poll → Option (Taken ⊕ Except ChannelError Unit)
  | .pending => none
  | .delivered d => some (.inl d)
  | .failed e => some (.inr (.error (.ofTransport receiveOperation l.subscription e)))
  | .ended => some (.inr (.error (streamEnded closed l.subscription)))

end Loop

/-- A collection of deliveries. -/
structure Collection where
  channel : String
  subscription : String
  ctx : Nat
  source : Source
  /-- How many deliveries are wanted. -/
  count : Nat
  /-- The envelopes of those taken. -/
  envelopes : List Nat

/-- What a collection does next. -/
inductive CollectionMove where
  | look
  | finish (result : Except ChannelError (List Nat))

namespace Collection

/-- What a collection does next, given whether it is cancelled and whether the service is closed. -/
def move (c : Collection) (cancelled closed : Bool) : CollectionMove :=
  if c.count ≤ c.envelopes.length then .finish (.ok c.envelopes)
  else if cancelled then .finish (.ok c.envelopes)
  else if closed then .finish (.error .closed)
  else .look

/-- What a collection makes of what its source shows: a delivery to take, or an error to end with.
-/
def seen (c : Collection) (closed : Bool) : Poll → Option (Taken ⊕ ChannelError)
  | .pending => none
  | .delivered d => some (.inl d)
  | .failed e => some (.inr (.ofTransport receiveOperation c.subscription e))
  | .ended => some (.inr (streamEnded closed c.subscription))

end Collection

end MessageChannels
