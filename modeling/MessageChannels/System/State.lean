import MessageChannels.Broker
import MessageChannels.Envelope
import MessageChannels.Journal
import MessageChannels.Service.Dispatch
import MessageChannels.Service.Topology

/-!
# Services over one broker

A system is a broker, a clock, any number of services, the envelopes they made, the cancellation
tokens of their callers, and the operations that were begun on the services. An operation runs from
one point where it has to wait to the next; between two such points nothing else happens. The state
of an operation says what it waits for: a reply of the transport, or, for receiving, a change of
what it looks at.

The journal is what a bystander sees: every request asked of the transport, every settlement passed
to a handle, what was counted and what was reported.
-/

set_option autoImplicit false

namespace MessageChannels

/-- A channel service. -/
structure Service where
  registry : Registry
  /-- How many handlers of one receive loop may run at once. -/
  maxOutstanding : Nat
  maxOutstanding_pos : 0 < maxOutstanding
  closed : Bool
  /-- How many hold the service. -/
  handles : Nat

namespace Service

/-- The number of handlers that may run at once unless another is given. -/
def defaultMaxOutstanding : Nat := 1000

/-- A service of a registry. At least one handler may run. -/
def build (registry : Registry) (maxOutstanding : Option Nat) : Service where
  registry := registry
  maxOutstanding := max (maxOutstanding.getD defaultMaxOutstanding) 1
  maxOutstanding_pos := by omega
  closed := false
  handles := 1

/-- A service in a diagnostic text. -/
def diagnostic (v : Service) : String :=
  Text.record "ChannelService"
    [("channels", toString v.registry.size), ("closed", toString v.closed)] true

/-- The channel of a name and its subscription, of a service that is open. -/
def subscribed (v : Service) (channel : String) : Except ChannelError (Channel × String) :=
  match v.registry.lookup? channel with
  | none => .error (.channelNotFound channel)
  | some c =>
    match c.subscription with
    | none => .error (.noSubscription channel)
    | some s => if v.closed then .error .closed else .ok (c, s)

end Service

/-- What a publish is for. -/
inductive Purpose where
  /-- An event of the application. -/
  | event
  /-- A dead letter of an envelope of a channel; whether the envelope waits for it. -/
  | deadLetter (envelope : Nat) (waits : Bool) (channel : String)
  deriving DecidableEq

/-- A publish in progress. -/
structure Publishing where
  /-- The channel under which it is counted. -/
  label : String
  topic : String
  message : Outbound
  purpose : Purpose
  deriving DecidableEq

/-- What a publish is called in errors. -/
def Publishing.operation (p : Publishing) : String :=
  match p.purpose with
  | .event => "publish event to topic"
  | .deadLetter _ _ _ => "publish dead letter to topic"

/-- What deliveries are received for. -/
inductive Intent where
  | dispatch
  | collect (count : Nat)
  deriving DecidableEq

/-- Receiving that waits for its source. -/
structure Opening where
  channel : String
  topic : String
  subscription : String
  ctx : Nat
  intent : Intent
  deriving DecidableEq

/-- What an operation returns. -/
inductive Outcome where
  | done
  | published (id : String)
  | collected (envelopes : List Nat)
  deriving DecidableEq

/-- Where an operation stands. -/
inductive OperationState where
  | publishing (p : Publishing)
  | tending (w : Topology.Work)
  | closing
  | opening (o : Opening)
  | receiving (l : Loop)
  | collecting (c : Collection)
  | finished (result : Except ChannelError Outcome)
  /-- Given up before its end. -/
  | abandoned

namespace OperationState

/-- The request whose reply an operation waits for. -/
def request? : OperationState → Option Request
  | publishing p => some (.publish p.topic p.message)
  | tending w => w.request?
  | closing => some .close
  | opening o => some (.receive o.topic o.subscription)
  | _ => none

/-- Whether an operation has not come to an end. -/
def inProgress : OperationState → Bool
  | finished _ => false
  | abandoned => false
  | _ => true

/-- The result of an operation that has finished. -/
def result? : OperationState → Option (Except ChannelError Outcome)
  | finished result => some result
  | _ => none

end OperationState

/-- An operation on a service. -/
structure Operation where
  service : Nat
  state : OperationState

/-- A source of deliveries that were written in advance: messages and failures in order, and whether
the source ends after the last or shows nothing more. -/
structure ScriptedSource where
  items : List (Except TransportError Message)
  hangs : Bool

/-- What a bystander sees. -/
inductive Entry where
  | note (n : Note)
  /-- An operation asked the transport for something. -/
  | asked (operation : Nat) (request : Request)
  /-- A settlement was passed to the handle of an envelope. -/
  | settled (envelope : Nat) (acker : Acker) (settlement : Settlement)
  deriving DecidableEq

/-- Services over one broker, with all that was begun and made on them. Services, envelopes, tokens,
operations and written sources are numbered in the order in which they came. -/
structure System where
  broker : Broker
  clock : Timestamp
  services : List Service
  envelopes : List Envelope
  tokens : List Bool
  operations : List Operation
  scripts : List ScriptedSource
  journal : List Entry

namespace System

/-- A system of a broker without topics, at a time. -/
def start (now : Timestamp) : System := ⟨.empty, now, [], [], [], [], [], []⟩

/-- The system with one more entry in its journal. -/
def record (s : System) (e : Entry) : System := { s with journal := s.journal ++ [e] }

/-- The system with one more note in its journal. -/
def note (s : System) (n : Note) : System := s.record (.note n)

/-- The notes in the journal. -/
def notes (s : System) : List Note :=
  s.journal.filterMap fun e => match e with
    | .note n => some n
    | _ => none

/-- Count one of something under a channel. -/
def count (s : System) (counter : Counter) (channel : String) : System :=
  s.note (.counted counter channel)

/-- Whether a service is closed. -/
def isClosed (s : System) (service : Nat) : Bool :=
  ((s.services[service]?).map Service.closed).getD true

/-- Whether a token is cancelled. -/
def isCancelled (s : System) (token : Nat) : Bool := (s.tokens[token]?).getD false

/-- Whether someone still holds a service: a handle, or an operation in progress. -/
def isAlive (s : System) (service : Nat) : Bool :=
  ((s.services[service]?).map fun v => decide (0 < v.handles)).getD false
    || s.operations.any fun o => o.service == service && o.state.inProgress

/-- The service of a number, while someone holds it. -/
def service? (s : System) (service : Nat) : Option Service :=
  if s.isAlive service then s.services[service]? else none

/-- The registry of a service, empty if there is no such service. -/
def registry (s : System) (service : Nat) : Registry :=
  ((s.services[service]?).map Service.registry).getD .empty

/-- The disposition of an envelope. -/
def disposition? (s : System) (envelope : Nat) : Option Disposition :=
  (s.envelopes[envelope]?).map Envelope.disposition

/-- The result of an operation that has finished. -/
def result? (s : System) (operation : Nat) : Option (Except ChannelError Outcome) :=
  (s.operations[operation]?).bind fun o => o.state.result?

/-- Add a service; its number is the number of those before it. -/
def addService (s : System) (v : Service) : System := { s with services := s.services ++ [v] }

/-- Add a token that is not cancelled. -/
def addToken (s : System) : System × Nat :=
  ({ s with tokens := s.tokens ++ [false] }, s.tokens.length)

/-- Cancel a token. -/
def cancel (s : System) (token : Nat) : System := { s with tokens := s.tokens.set token true }

/-- Add a written source. -/
def addScript (s : System) (script : ScriptedSource) : System × Nat :=
  ({ s with scripts := s.scripts ++ [script] }, s.scripts.length)

/-- Set the clock. -/
def setClock (s : System) (now : Timestamp) : System := { s with clock := now }

/-- One more, or with a negative number fewer, hold a service. -/
def changeHandles (s : System) (service : Nat) (by_ : Int) : System :=
  { s with services := s.services.modify service fun v =>
      { v with handles := (v.handles + by_).toNat } }

/-- Change an envelope's disposition. -/
def setDisposition (s : System) (envelope : Nat) (d : Disposition) : System :=
  { s with envelopes := s.envelopes.modify envelope fun e => { e with disposition := d } }

/-- Change where an operation stands. -/
def setState (s : System) (operation : Nat) (state : OperationState) : System :=
  { s with operations := s.operations.modify operation fun o => { o with state := state } }

end System

end MessageChannels
