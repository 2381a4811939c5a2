import MessageChannels.Proofs.Broker.Ledger
import MessageChannels.System.Operation

/-!
# Runs of a system

An event is all that happens between two points at which something waits. Events come in any order:
operations are begun, get replies, look at their sources and are given up at any time, envelopes are
settled or dropped by whoever holds them, and others use the broker directly. Replies come from the
broker (`serve`) or are made up (`reply`), so that a run is one over any transport; a run without
`reply` is one over the broker alone.
-/

set_option autoImplicit false

namespace MessageChannels

/-- What can happen to a system between two points at which something waits. -/
inductive Event where
  | addService (v : Service)
  | addToken
  | addScript (script : ScriptedSource)
  | cancel (token : Nat)
  | setClock (now : Timestamp)
  | changeHandles (service : Nat) (by_ : Int)
  /-- The broker is used by someone who is not a service. -/
  | direct (c : Broker.Change)
  | begin (service : Nat) (c : Command)
  /-- A decision on a failed envelope is begun. -/
  | fail (envelope : Nat) (c : FailureCommand) (cause : String)
  /-- The broker does what an operation asks and replies. -/
  | serve (op : Nat)
  /-- An operation gets a reply that is not the broker's. -/
  | reply (op : Nat) (r : Except TransportError Reply)
  | turn (op : Nat)
  | handlerEnded (op envelope : Nat) (panicked : Bool)
  | abandon (op : Nat)
  | ack (envelope : Nat)
  | nack (envelope : Nat)
  | release (envelope : Nat)

namespace System

/-- The system after an event. -/
def step (s : System) : Event → System
  | .addService v => s.addService v
  | .addToken => s.addToken.1
  | .addScript script => (s.addScript script).1
  | .cancel token => s.cancel token
  | .setClock now => s.setClock now
  | .changeHandles service n => s.changeHandles service n
  | .direct c => { s with broker := s.broker.change c }
  | .begin service c => (s.begin service c).1
  | .fail envelope c cause => (s.beginFailure envelope c cause).1
  | .serve op => s.serve op
  | .reply op r => s.answer op r
  | .turn op => (s.turn op).1
  | .handlerEnded op envelope panicked => s.handlerEnded op envelope panicked
  | .abandon op => s.abandon op
  | .ack envelope => s.ack envelope
  | .nack envelope => s.nack envelope
  | .release envelope => s.release envelope

/-- The system after a run of events. -/
def after (s : System) (es : List Event) : System := es.foldl step s

/-- What a run can make of a system that begins with nothing. -/
def Reachable (s : System) : Prop := ∃ now es, s = (start now).after es

theorem after_cons (s : System) (e : Event) (es : List Event) :
    s.after (e :: es) = (s.step e).after es := rfl

theorem after_append (s : System) (es fs : List Event) :
    s.after (es ++ fs) = (s.after es).after fs := List.foldl_append

theorem after_snoc (s : System) (es : List Event) (e : Event) :
    s.after (es ++ [e]) = (s.after es).step e := after_append s es [e]

theorem Reachable.after {s : System} (h : s.Reachable) (es : List Event) :
    (s.after es).Reachable := by
  obtain ⟨now, fs, rfl⟩ := h
  exact ⟨now, fs ++ es, (after_append _ fs es).symm⟩

theorem Reachable.step {s : System} (h : s.Reachable) (e : Event) : (s.step e).Reachable :=
  h.after [e]

/-- What every event keeps holds after every run. -/
theorem after_induction {P : System → Prop} (next : ∀ s e, P s → P (s.step e)) {s : System}
    (base : P s) (es : List Event) : P (s.after es) := by
  induction es generalizing s with
  | nil => exact base
  | cons e es ih => exact ih (next s e base)

/-- What holds at the beginning and is kept by every event holds wherever a run leads. -/
theorem Reachable.induction {P : System → Prop} (init : ∀ now, P (start now))
    (next : ∀ s e, P s → P (s.step e)) {s : System} (h : s.Reachable) : P s := by
  obtain ⟨now, es, rfl⟩ := h
  exact after_induction next (init now) es

/-! ## A setting for runs -/

/-- A service with a channel that has a subscription, and a channel for dead letters. -/
def ordersService : Service :=
  .build ((Registry.empty.add ((Channel.publishOnly "orders" "orders-topic").withSubscription
    "orders-sub")).setDeadLetter (.publishOnly "dead" "dead-topic")) none

/-- One such service, a token, and a broker that has the topics and the subscription. -/
def ordersSetting : List Event :=
  [.addService ordersService, .addToken,
    .direct (.perform .epoch (.createTopic "orders-topic")),
    .direct (.perform .epoch (.createTopic "dead-topic")),
    .direct (.perform .epoch (.createSubscription "orders-topic" "orders-sub" (.ofSecs 10)))]

/-- An event is published and received. -/
def oneReceived : List Event :=
  ordersSetting ++ [.begin 0 (.publish "orders" "made" (.ok .null)), .serve 0,
    .begin 0 (.receive "orders" 0), .serve 1, .turn 1, .turn 1]

end System

end MessageChannels
