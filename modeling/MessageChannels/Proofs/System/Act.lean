import Mathlib.Logic.Relation
import MessageChannels.Proofs.System.Event

/-!
# What an event can do

Every event is a sequence of acts (`acts_step`), and an `Act` says all that one of them does, with
what holds when it is done: which operation is concerned, where that operation stands, who asked for
it. An invariant of all runs is proved once for each act and never by opening the operations.
-/

set_option autoImplicit false

namespace MessageChannels

namespace OperationState

/-- The envelope that waits for the publish of an operation. -/
def routing? : OperationState → Option Nat
  | publishing p =>
    match p.purpose with
    | .deadLetter envelope true _ => some envelope
    | _ => none
  | _ => none

/-- The delivery that an operation holds while it waits for a permit. -/
def holding? : OperationState → Option Taken
  | receiving l =>
    match l.phase with
    | .holding d => some d
    | _ => none
  | _ => none

/-- The channel whose deliveries an operation is to make envelopes of. -/
def channel? : OperationState → Option String
  | opening o => some o.channel
  | receiving l => some l.channel
  | collecting c => some c.channel
  | _ => none

/-- The envelopes whose handlers run, of a receive loop. -/
def running : OperationState → List Nat
  | receiving l => l.running
  | _ => []

/-- An operation goes from one state to another with no envelope that waits for it, the delivery in
its hands and its channel stay what they are, and no handler begins. -/
structure Plain (before after : OperationState) : Prop where
  routing_before : before.routing? = none
  routing_after : after.routing? = none
  holding : after.holding? = before.holding?
  channel : after.channel? = none ∨ after.channel? = before.channel?
  running : after.running ⊆ before.running

theorem routing?_eq_some {state : OperationState} {i : Nat} (h : state.routing? = some i) :
    ∃ p channel, state = .publishing p ∧ p.purpose = .deadLetter i true channel := by
  cases state with
  | publishing p =>
    unfold routing? at h
    cases hp : p.purpose with
    | event => simp [hp] at h
    | deadLetter envelope waits channel =>
      cases waits with
      | false => simp [hp] at h
      | true =>
        simp only [hp, Option.some.injEq] at h
        exact ⟨p, channel, rfl, h ▸ hp⟩
  | _ => cases h

end OperationState

/-- Whether a counter is about publishes, and not about envelopes or starts. -/
def Counter.countsPublishes : Counter → Bool
  | published => true
  | publishErrors => true
  | publishDurations => true
  | deadLettered => true
  | deadLetterErrors => true
  | _ => false

namespace Event

/-- The operation that an event is about: the next one, if it begins one. -/
def operation (s : System) : Event → Nat
  | .serve op => op
  | .reply op _ => op
  | .turn op => op
  | .handlerEnded op _ _ => op
  | .abandon op => op
  | _ => s.operations.length

/-- Whether an event gives an operation a reply. -/
def Answers (op : Nat) (e : Event) : Prop := e = .serve op ∨ ∃ r, e = .reply op r

/-- Whether an event may lead to a note beside what becomes of envelopes: to a report, and to a
count of publishes if it gives an operation a reply or is a decision on an envelope. -/
def Tells (op : Nat) (e : Event) : Note → Prop
  | .reported _ _ => True
  | .counted counter _ =>
    counter.countsPublishes = true ∧ (e.Answers op ∨ ∃ i c cause, e = .fail i c cause)

/-- Whether an event may settle an envelope that is only received: by a call on it, or by a
collection that has just made it. -/
def Settles (s : System) (op i : Nat) (v : Settlement) (e : Event) : Prop :=
  e = .ack i ∧ v = .ack ∨ e = .nack i ∧ v = .nack ∨ (∃ c cause, e = .fail i c cause ∧ v = .nack) ∨
    e = .turn op ∧ v = .ack ∧ i + 1 = s.envelopes.length ∧
      ∃ k c, s.operations[op]? = some ⟨k, .collecting c⟩

/-- The events that may settle an envelope which is only received. -/
def MaySettle (op i : Nat) (e : Event) : Prop :=
  e = .ack i ∨ e = .nack i ∨ (∃ c cause, e = .fail i c cause) ∨ e = .turn op

theorem Settles.maySettle {s : System} {op i : Nat} {v : Settlement} {e : Event}
    (h : e.Settles s op i v) : e.MaySettle op i := by
  rcases h with ⟨h, _⟩ | ⟨h, _⟩ | ⟨c, cause, h, _⟩ | ⟨h, _⟩
  · exact Or.inl h
  · exact Or.inr (Or.inl h)
  · exact Or.inr (Or.inr (Or.inl ⟨c, cause, h⟩))
  · exact Or.inr (Or.inr (Or.inr h))

end Event

namespace System

/-- Whether services stand where they stood, none opened again and none with another registry. -/
def Kept (before after : List Service) : Prop :=
  ∀ (k : Nat) (v : Service), before[k]? = some v → ∃ v' : Service, after[k]? = some v' ∧
    v'.registry = v.registry ∧ v'.maxOutstanding = v.maxOutstanding ∧
      (v.closed = true → v'.closed = true)

/-- What an event that is about an operation can do at once. -/
inductive Act (e : Event) (op : Nat) (s : System) : System → Prop where
  /-- Services, the clock, tokens and written sources change; a cancelled token stays so, and
  services are only added as such. -/
  | world (services : List Service) (clock : Timestamp) (tokens : List Bool)
      (scripts : List ScriptedSource) (kept : Kept s.services services)
      (lasting : ∀ t : Nat, s.tokens[t]? = some true → tokens[t]? = some true)
      (number : (∀ v, e ≠ .addService v) → services.length = s.services.length) :
      Act e op s { s with services, clock, tokens, scripts }
  | wrote (n : Note) (told : e.Tells op n) : Act e op s (s.note n)
  | asked (r : Request) (waits : s.request? op = some r) : Act e op s (s.record (.asked op r))
  | direct (c : Broker.Change) (cause : e = .direct c) :
      Act e op s { s with broker := s.broker.change c }
  | performed (r : Request) (cause : e = .serve op) (waits : s.request? op = some r) :
      Act e op s { s with broker := (s.broker.perform s.clock r).1 }
  /-- A look at a source shows no delivery. -/
  | looked (source : Source) (nothing : ∀ d, (s.poll source).2 ≠ .delivered d) :
      Act e op s (s.poll source).1
  | leftSource (source : Source) : Act e op s (s.dropSource source)
  | gaveUp (i : Nat) (made : Envelope) (cause : e = .release i)
      (found : s.envelopes[i]? = some made) : Act e op s (s.dropAcker made.acker)
  | started (service : Nat) (new : op = s.operations.length) : Act e op s (s.addOperation service)
  | moved (o : Operation) (state : OperationState) (found : s.operations[op]? = some o)
      (plain : o.state.Plain state) : Act e op s (s.setState op state)
  | registered (k : Nat) (v : Service) (o : Opening) (c : Channel)
      (found : s.operations[op]? = some ⟨k, .abandoned⟩) (service : s.services[k]? = some v)
      (lookup : v.registry.lookup? o.channel = some c) (topic : c.topic = o.topic)
      (subscription : c.subscription = some o.subscription) (opened : v.closed = false) :
      Act e op s (s.setState op (.opening o))
  /-- A receive loop takes a delivery from its source. -/
  | pulled (k : Nat) (l : Loop) (d : Taken) (found : s.operations[op]? = some ⟨k, .receiving l⟩)
      (phase : l.phase = .listening) (shown : (s.poll l.source).2 = .delivered d) :
      Act e op s ((s.poll l.source).1.setState op (.receiving { l with phase := .holding d }))
  /-- A receive loop hands its delivery to a handler. -/
  | handed (k : Nat) (l : Loop) (d : Taken) (cause : e = .turn op)
      (found : s.operations[op]? = some ⟨k, .receiving l⟩) (phase : l.phase = .holding d) :
      Act e op s
        ((s.addEnvelope k l.channel d).1.setState op (.receiving (l.handed s.envelopes.length)))
  /-- A receive loop stops while it holds a delivery. -/
  | letGo (k : Nat) (l : Loop) (d : Taken) (outcome : Except ChannelError Unit)
      (found : s.operations[op]? = some ⟨k, .receiving l⟩) (phase : l.phase = .holding d) :
      Act e op s ((s.dropAcker d.acker).setState op (.receiving (l.stopped outcome)))
  /-- A collection takes a delivery from its source. -/
  | collected (k : Nat) (c : Collection) (d : Taken)
      (found : s.operations[op]? = some ⟨k, .collecting c⟩)
      (shown : (s.poll c.source).2 = .delivered d) :
      Act e op s ((s.poll c.source).1.addEnvelope k c.channel d).1
  | settled (i : Nat) (made : Envelope) (v : Settlement) (found : s.envelopes[i]? = some made)
      (received : made.disposition = .received) (cause : e.Settles s op i v) :
      Act e op s (s.settleFrom i .received v)
  /-- A dead-letter route begins to wait for its publish. -/
  | entered (i : Nat) (made : Envelope) (p : Publishing) (k : Nat) (c : FailureCommand)
      (text channel : String) (cause : e = .fail i c text)
      (found : s.envelopes[i]? = some made) (received : made.disposition = .received)
      (standing : s.operations[op]? = some ⟨k, .abandoned⟩)
      (purpose : p.purpose = .deadLetter i true channel) :
      Act e op s ((s.setDisposition i .deadLetterPending).setState op (.publishing p))
  /-- The publish of a dead-letter route comes to its end. -/
  | left (i k : Nat) (p : Publishing) (v : Settlement) (channel : String)
      (result : Except ChannelError Outcome) (cause : e.Answers op)
      (standing : s.operations[op]? = some ⟨k, .publishing p⟩)
      (purpose : p.purpose = .deadLetter i true channel) :
      Act e op s ((s.settleFrom i .deadLetterPending v).setState op (.finished result))
  /-- A dead-letter route is given up. -/
  | dropped (o : Operation) (i : Nat) (cause : e = .abandon op)
      (found : s.operations[op]? = some o) (routing : o.state.routing? = some i) :
      Act e op s (s.setState op .abandoned)

/-- What an event that is about an operation can do. -/
abbrev Acts (e : Event) (op : Nat) : System → System → Prop := Relation.ReflTransGen (Act e op)

end System

end MessageChannels
