import MessageChannels.Proofs.Delivery.Owner
import MessageChannels.Proofs.Json.RoundTrip
import MessageChannels.Proofs.Service.Closed

/-!
# Published events decode to what was published

An event that the broker accepts waits once on every subscription of its topic. Whatever happens to
it from then on, every envelope that is made of it carries the bytes and the attributes that it was
published with: it names the event, and its payload reads back.
-/

set_option autoImplicit false

namespace MessageChannels

/-- Reading without a wanted shape reads any value. -/
theorem Envelope.payload_any (e : Envelope) {v : Json} (read : Json.ofBytes e.message.data = .ok v) :
    e.payload .any = .ok v := by
  have any : Json.Shape.any.ofBytes e.message.data = .ok v := read
  rw [payload, any]

namespace Broker

/-- An open broker without a failure to meet accepts what is published on a topic that exists. -/
theorem perform_publish_accepted {b : Broker} {now : Timestamp} {topic : String} {m : Outbound}
    (opened : b.closed = false) (exists_ : b.hasTopic topic = true)
    (unfailing : b.nextFailure? topic = none) :
    b.perform now (.publish topic m)
      = (b.accept topic (b.stamped now m), .ok (.accepted (b.stamped now m).id)) := by
  rw [perform, opened, if_neg Bool.false_ne_true]
  show b.publish now topic m = _
  rw [publish, unfailing]
  exact if_pos exists_

/-- An accepted message waits on every subscription of its topic, last, and on no other. -/
theorem subscriptions_accept (b : Broker) (topic : String) (m : Message) (name : String) :
    (b.accept topic m).subscriptions.get? name
      = (b.subscriptions.get? name).map (·.deposit topic m) := by
  have ledger := congrArg Ledger.subscriptions (b.ledger_accept topic m)
  have subscriptions : (b.accept topic m).subscriptions = b.subscriptions.map (·.deposit topic m) :=
    ledger
  rw [subscriptions, Dictionary.get?_map]

end Broker

namespace System

variable {op i k : Nat} {s : System} {p : Publishing}

/-! ## Publishing an event -/

/-- The publish of an event on a channel. -/
def eventPublishing (channel : String) (c : Channel) (name : String) (v : Json) : Publishing :=
  ⟨channel, c.topic, .event name v, .event⟩

theorem step_publish {sv : Service} {channel name : String} {c : Channel}
    (alive : s.service? k = some sv) (opened : sv.closed = false)
    (registered : sv.registry.lookup? channel = some c) (v : Json) :
    (s.step (.begin k (.publish channel name (.ok v)))).operations[s.operations.length]?
      = some ⟨k, .publishing (eventPublishing channel c name v)⟩ := by
  have began : s.step (.begin k (.publish channel name (.ok v)))
      = (s.addOperation k).beginPublish s.operations.length k (eventPublishing channel c name v) := by
    rw [step_begin alive]
    simp only [run, registered, eventPublishing]
  rw [began]
  exact (beginPublish_open (s.getElem?_addOperation k) ((isClosed_addOperation alive).trans opened)).1

/-- The broker's acceptance ends the publish of an event with the identifier of its message. -/
theorem serve_event (standing : s.operations[op]? = some ⟨k, .publishing p⟩)
    (purpose : p.purpose = .event) (opened : s.broker.closed = false)
    (exists_ : s.broker.hasTopic p.topic = true) (unfailing : s.broker.nextFailure? p.topic = none) :
    (s.step (.serve op)).broker = s.broker.accept p.topic (s.broker.stamped s.clock p.message) ∧
      (s.step (.serve op)).result? op
        = some (.ok (.published (s.broker.stamped s.clock p.message).id)) := by
  have asks : s.request? op = some (.publish p.topic p.message) := by
    simp only [request?, standing, Option.bind_some, OperationState.request?]
  have accepted : s.broker.perform s.clock (.publish p.topic p.message)
      = (s.broker.accept p.topic (s.broker.stamped s.clock p.message),
        .ok (.accepted (s.broker.stamped s.clock p.message).id)) :=
    Broker.perform_publish_accepted opened exists_ unfailing
  let s₁ : System :=
    { s with broker := s.broker.accept p.topic (s.broker.stamped s.clock p.message) }
  have ends : s.step (.serve op) = ((s₁.count .published p.label).count .publishDurations
      p.label).finish op (.ok (.published (s.broker.stamped s.clock p.message).id)) := by
    have standing₁ : s₁.operations[op]? = some ⟨k, .publishing p⟩ := standing
    show s.serve op = _
    simp only [serve, asks, accepted]
    show s₁.answer op _ = _
    simp only [answer, standing₁, answerPublish, endPublish, purpose]
    rfl
  rw [ends]
  exact ⟨rfl, result?_of_finished (getElem?_setState_self (o := ⟨k, .publishing p⟩) standing _)⟩

/-! ## Envelopes of a message -/

/-- An envelope holds a message of the broker if it was made of a delivery of the broker. -/
theorem Reachable.message_of_id (reachable : s.Reachable) {topic : String} {m : Message}
    (published : (topic, m) ∈ s.broker.published) {e : Envelope} {n : Nat}
    (found : s.envelopes[i]? = some e) (delivered : e.acker = .held n)
    (same : e.message.id = m.id) : e.message = m := by
  obtain ⟨now, es, rfl⟩ := reachable
  have sound := Reachable.sound ⟨now, es, rfl⟩
  have delivery : ((start now).after es).delivery? (.envelope i) = some (n, e.message) := by
    simp only [delivery?, found, Option.bind_some, Envelope.taken, Taken.held?, delivered]
  obtain ⟨topic', accepted⟩ := (owned_after now es).published (.envelope i) n e.message delivery
  exact congrArg Prod.snd (sound.eq_of_id accepted published same)

end System

/-! ## The round trip -/

/-- An envelope names an event and has its payload. -/
structure Envelope.Decodes (e : Envelope) (name : String) (v : Json) : Prop where
  event : e.message.attribute? Outbound.eventAttribute = some name
  payload : e.payload .any = .ok v.ordered
  /-- A value whose members are in the order in which readers keep them comes back as it is. -/
  same : v.Sorted → e.payload .any = .ok v

theorem Envelope.decodes_event {e : Envelope} {name : String} {v : Json} (fits : v.Fits 127)
    (data : e.message.data = (Outbound.event name v).data)
    (attributes : e.message.attributes = (Outbound.event name v).attributes) :
    e.Decodes name v := by
  have read : Json.ofBytes e.message.data = .ok v.ordered := by
    rw [data]
    exact Json.ofBytes_compact fits
  have payload := e.payload_any read
  refine ⟨?_, payload, fun sorted => sorted.ordered_eq ▸ payload⟩
  rw [Message.attribute?, attributes]
  exact (Dictionary.get?_insert _ _ _ _).trans (if_pos rfl)

namespace System

variable {k : Nat} {s : System}

/-- What comes of the publish of an event that the broker accepts as a message: the call returns its
identifier, every subscription of the topic gains it and no other changes, and whatever happens from
then on, the envelopes that are made of it decode to the event. -/
structure EventAccepted (s : System) (op : Nat) (topic : String) (m : Message) (name : String)
    (v : Json) : Prop where
  returned : (s.step (.serve op)).result? op = some (.ok (.published m.id))
  gained : ∀ sub, (s.step (.serve op)).broker.subscriptions.get? sub
    = (s.broker.subscriptions.get? sub).map (·.deposit topic m)
  decodes : ∀ (es : List Event) (i n : Nat) (e : Envelope),
    ((s.step (.serve op)).after es).envelopes[i]? = some e → e.acker = .held n →
    e.message.id = m.id → e.Decodes name v

/-- **A published event decodes to what was published.** An event is published on a channel of an
open service; other things happen, and the broker that takes it is open, has the topic and has no
failure to meet. -/
theorem event_decodes (reachable : s.Reachable) {sv : Service} {channel : String} {c : Channel}
    (alive : s.service? k = some sv) (opened : sv.closed = false)
    (registered : sv.registry.lookup? channel = some c) (name : String) {v : Json}
    (fits : v.Fits 127) {between : List Event}
    (others : ∀ e ∈ between, ¬ Concerns s.operations.length e)
    {t : System} (later : t = (s.step (.begin k (.publish channel name (.ok v)))).after between)
    (running : t.broker.closed = false) (exists_ : t.broker.hasTopic c.topic = true)
    (unfailing : t.broker.nextFailure? c.topic = none) :
    ∃ m, t.EventAccepted s.operations.length c.topic m name v := by
  have standing : t.operations[s.operations.length]?
      = some ⟨k, .publishing (eventPublishing channel c name v)⟩ :=
    later ▸ unconcerned_after (step_publish alive opened registered v) others
  have reachableThen : t.Reachable := later ▸ (reachable.step _).after between
  obtain ⟨broker, result⟩ := serve_event standing rfl running exists_ unfailing
  refine ⟨t.broker.stamped t.clock (.event name v), result, fun sub => ?_, ?_⟩
  · rw [broker]
    exact t.broker.subscriptions_accept c.topic _ sub
  · intro es i n e found delivered same
    -- What was accepted stays published, so a delivery with its identifier is of this message.
    have accepted : (c.topic, t.broker.stamped t.clock (.event name v))
        ∈ (t.step (.serve s.operations.length)).broker.published := by
      rw [broker]
      exact List.mem_append_right _ List.mem_cons_self
    obtain ⟨cs, changed⟩ := (t.step (.serve s.operations.length)).broker_after es
    have message := ((reachableThen.step _).after es).message_of_id
      (changed ▸ Broker.published_after accepted cs) found delivered same
    exact Envelope.decodes_event fits (by rw [message]; rfl) (by rw [message]; rfl)

/-- A payload with an escape, a character beyond ASCII, both limits of integers and nested lists. -/
def parcel : Json :=
  .object [("limits", .array [.integer (-2 ^ 63), .integer (2 ^ 64 - 1)]),
    ("note", .text "5 €\n\"now\""), ("stops", .array [.array [], .null, .bool true])]

theorem fits_parcel : parcel.Fits 127 := by
  refine .object (by decide) fun m hm => ?_
  simp only [List.mem_cons, List.not_mem_nil, or_false] at hm
  rcases hm with rfl | rfl | rfl
  · refine .array fun v hv => ?_
    simp only [List.mem_cons, List.not_mem_nil, or_false] at hv
    rcases hv with rfl | rfl <;> exact .integer (by decide) (by decide)
  · exact .text _
  · refine .array fun v hv => ?_
    simp only [List.mem_cons, List.not_mem_nil, or_false] at hv
    rcases hv with rfl | rfl | rfl
    · exact .array fun v hv => nomatch hv
    · exact .null
    · exact .bool true

/-- A parcel is published while a receive loop is being opened. -/
def parcelPublished : System :=
  ((((start .epoch).after ordersSetting).step
    (.begin 0 (.publish "orders" "sent" (.ok parcel)))).after [.begin 0 (.receive "orders" 0)])

/-- The parcel is received, returned and received again. -/
theorem event_decodes_parcel :
    ∃ m, parcelPublished.EventAccepted 0 "orders-topic" m "sent" parcel ∧
      (((parcelPublished.step (.serve 0)).after
        [.serve 1, .turn 1, .turn 1, .nack 0, .turn 1, .turn 1]).envelopes.map fun e =>
          (e.message.id, e.disposition)) = [("1", .nacked), ("1", .received)] := by
  have others : ∀ e ∈ [Event.begin 0 (.receive "orders" 0)], ¬ Concerns 0 e := by
    intro e he
    rw [List.mem_singleton.1 he]
    exact nofun
  obtain ⟨m, accepted⟩ := @event_decodes 0 ((start .epoch).after ordersSetting)
    ⟨.epoch, ordersSetting, rfl⟩ ordersService "orders"
    ((Channel.publishOnly "orders" "orders-topic").withSubscription "orders-sub").completed
    rfl rfl (by decide) "sent" parcel fits_parcel _ others parcelPublished rfl (by decide)
    (by decide) (by decide)
  exact ⟨m, accepted, by decide⟩

end System

end MessageChannels
