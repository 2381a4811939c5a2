import MessageChannels.Proofs.Envelope.Settlement
import MessageChannels.Proofs.System.Registered

/-!
# Routes to the dead letters

A call that routes an envelope to the dead letters has ended at once, or has asked for its copy to
be published (`RouteBegun`). In the second case it makes one attempt, whose reply is what the call
returns and settles the envelope if that waits. What happens while the attempt waits changes nothing
of this. So an envelope is settled once, whatever is called on it (`settledOnce`): where a route does
not wait for a reply, it leaves the envelope alone or settles it in the step in which it begins.
-/

set_option autoImplicit false

namespace MessageChannels

namespace System

variable {op i k : Nat} {s : System} {made : Envelope} {p : Publishing} {waits : Bool}
  {channel : String}

/-! ## Dispositions over a run -/

theorem disposition_after (reachable : s.Reachable) {d : Disposition}
    (standing : s.disposition? i = some d) (terminal : d.isTerminal = true) (es : List Event) :
    (s.after es).disposition? i = some d := by
  obtain ⟨made, found, rfl⟩ := Option.map_eq_some_iff.1 standing
  rw [disposition?, terminal_after reachable found terminal es]
  rfl

theorem routing?_of_standing (standing : s.operations[op]? = some ⟨k, .publishing p⟩)
    (purpose : p.purpose = .deadLetter i true channel) : s.routing? op = some i := by
  simp [routing?, standing, OperationState.routing?, purpose]

/-- Nothing that holds of envelopes depends on the broker. -/
theorem Settled.with_broker (settled : s.Settled) (b : Broker) :
    ({ s with broker := b } : System).Settled :=
  ⟨settled.settlements, settled.unmade, settled.pending, settled.alone⟩

/-- An envelope is pending until the reply to its dead letter, and settled by that reply. -/
theorem route_settles (reachable : s.Reachable)
    (standing : s.operations[op]? = some ⟨k, .publishing p⟩)
    (purpose : p.purpose = .deadLetter i true channel) {es : List Event}
    (completes : .abandon op ∉ es) :
    (s.replyTo? op es = none → (s.after es).disposition? i = some .deadLetterPending) ∧
      ∀ reply, s.replyTo? op es = some reply →
        (s.after es).disposition? i = some (Settlement.ofReply reply).disposition := by
  rcases waits_or_replied standing completes with
    ⟨hreply, hstanding, _, _⟩ | ⟨before, e, after, reply, rfl, hreply, hstanding, _, _, replies⟩
  · constructor
    · intro _
      exact (reachable.after es).settled.disposition?_of_routing
        (routing?_of_standing hstanding purpose)
    · intro reply h
      cases hreply.symm.trans h
  · constructor
    · intro h
      cases hreply.symm.trans h
    · intro reply' h
      obtain rfl : reply = reply' := Option.some.inj (hreply.symm.trans h)
      have hrouting := routing?_of_standing hstanding purpose
      have settled := (reachable.after before).settled
      have now : ((s.after before).step e).disposition? i
          = some (Settlement.ofReply reply).disposition := by
        rcases replies with ⟨_, heq⟩ | ⟨_, _, heq⟩
        · rw [heq]
          exact disposition_answer settled hrouting reply
        · rw [heq]
          refine disposition_answer (settled.with_broker _) ?_ reply
          exact hrouting
      rw [after_append, after_cons]
      exact disposition_after ((reachable.after before).step e) now (by simp) after

/-! ## One attempt -/

/-- One attempt to publish a dead letter, after the events that follow its beginning. -/
structure Attempt (s : System) (op : Nat) (p : Publishing) (es : List Event) : Prop where
  once : (s.after es).requests op = [.publish p.topic p.message]
  waiting : s.replyTo? op es = none →
    (s.after es).result? op = none ∧ s.acceptedFrom op es = []
  result : ∀ reply, s.replyTo? op es = some reply →
    (s.after es).result? op = some (routeResult p reply)
  /-- If acceptance is the broker's, there is one copy where the reply says so, and none elsewhere. -/
  copied : (∀ r, .reply op (.ok r) ∉ es) → ∀ reply, s.replyTo? op es = some reply →
    Copied (s.acceptedFrom op es) p reply
  published : ∀ q ∈ s.acceptedFrom op es, q ∈ (s.after es).broker.published

theorem result?_of_finished {result : Except ChannelError Outcome}
    (standing : s.operations[op]? = some ⟨k, .finished result⟩) : s.result? op = some result := by
  simp [result?, standing, OperationState.result?]

theorem attempt (standing : s.operations[op]? = some ⟨k, .publishing p⟩)
    (purpose : p.purpose = .deadLetter i waits channel)
    (asked : s.requests op = [.publish p.topic p.message]) {es : List Event}
    (completes : .abandon op ∉ es) : s.Attempt op p es := by
  obtain ⟨hrequests, hnone, hsome⟩ := route_after standing purpose completes
  refine ⟨hrequests.trans asked, fun h => ?_, fun reply h => ?_, fun genuine reply h => ?_,
    fun q hq => published_of_accepted hq⟩
  · obtain ⟨hstanding, haccepted⟩ := hnone h
    exact ⟨by simp [result?, hstanding, OperationState.result?], haccepted⟩
  · exact result?_of_finished (hsome reply h).1
  · exact (hsome reply h).2 genuine

/-! ## How a route begins -/

/-- The publish of a dead letter of an envelope. -/
def routePublishing (i : Nat) (made : Envelope) (target source : Channel) (cause : String)
    (waits : Bool) : Publishing :=
  ⟨target.id, target.topic, DeadLetter.copy made.message source cause,
    .deadLetter i waits made.channel⟩

theorem beginPublish_closed (standing : s.operations[op]? = some ⟨k, .abandoned⟩)
    (purpose : p.purpose = .deadLetter i waits channel) {service : Nat}
    (closed : s.isClosed service = true) :
    (s.beginPublish op service p).operations[op]? = some ⟨k, .finished (.error .closed)⟩ ∧
      (s.beginPublish op service p).requests op = s.requests op ∧
      (s.beginPublish op service p).envelopes
        = (if waits then s.settleFrom i .deadLetterPending .nack else s).envelopes := by
  have heq : s.beginPublish op service p
      = ((if waits then s.settleFrom i .deadLetterPending .nack else s).count .deadLetterErrors
          channel).finish op (.error .closed) := by
    simp only [beginPublish, closed, if_true, endPublish, purpose]
  rw [heq]
  refine ⟨?_, ?_, rfl⟩
  · refine getElem?_setState_self (o := ⟨k, .abandoned⟩) ?_ _
    show (if waits then s.settleFrom i .deadLetterPending .nack else s).operations[op]? = _
    split
    · rw [operations_settleFrom, standing]
    · exact standing
  · refine (requests_note _ _ op).trans ?_
    split
    · exact requests_settleFrom s i _ _ op
    · rfl

theorem beginPublish_open (standing : s.operations[op]? = some ⟨k, .abandoned⟩) {service : Nat}
    (opened : s.isClosed service = false) :
    (s.beginPublish op service p).operations[op]? = some ⟨k, .publishing p⟩ ∧
      (s.beginPublish op service p).requests op
        = s.requests op ++ [.publish p.topic p.message] ∧
      (s.beginPublish op service p).envelopes = s.envelopes := by
  have heq : s.beginPublish op service p
      = (s.setState op (.publishing p)).record (.asked op (.publish p.topic p.message)) := by
    simp only [beginPublish, opened]
    rfl
  rw [heq]
  refine ⟨getElem?_setState_self standing _, ?_, rfl⟩
  rw [requests_asked, if_pos rfl]
  rfl

/-- What a call on an envelope does first: it begins an operation and decides. -/
theorem step_fail {v : Service} (found : s.envelopes[i]? = some made)
    (alive : s.service? made.service = some v) (c : FailureCommand) (cause : String) :
    s.step (.fail i c cause)
      = (s.addOperation made.service).decide s.operations.length i made v cause c := by
  simp only [step, beginFailure, found, alive]

theorem isClosed_addOperation {v : Service} (alive : s.service? k = some v) :
    (s.addOperation k).isClosed k = v.closed := by
  have hservice : (s.addOperation k).services[k]? = some v := service?_eq_some (s := s) alive
  simp only [isClosed, hservice]
  rfl

/-- The source of an envelope's message is known to the envelope's service. -/
theorem Reachable.source (reachable : s.Reachable) {v : Service}
    (found : s.envelopes[i]? = some made) (alive : s.service? made.service = some v) :
    ∃ source, v.registry.lookup? made.channel = some source := by
  obtain ⟨v', c, hv', hc⟩ := reachable.registered.envelopes i made found
  obtain rfl : v = v' := Option.some.inj ((service?_eq_some alive).symm.trans hv')
  exact ⟨c, hc⟩

theorem route_received {a : System} {v : Service} {target source : Channel} {cause : String}
    (configured : v.registry.deadLetter? = some target)
    (known : v.registry.lookup? made.channel = some source)
    (received : made.disposition = .received) :
    a.route op i made v cause = (a.setDisposition i .deadLetterPending).beginPublish op made.service
      (routePublishing i made target source cause true) := by
  simp only [route, configured, known, received, routePublishing]

theorem route_acked {a : System} {v : Service} {target source : Channel} {cause : String}
    (configured : v.registry.deadLetter? = some target)
    (known : v.registry.lookup? made.channel = some source) (acked : made.disposition = .acked) :
    a.route op i made v cause
      = a.beginPublish op made.service (routePublishing i made target source cause false) := by
  simp only [route, configured, known, acked, routePublishing]

/-- A closed service refuses a route where it begins, which settles a received envelope. -/
theorem route_refused {a : System} {v : Service} {target source : Channel} (cause : String)
    (configured : v.registry.deadLetter? = some target)
    (known : v.registry.lookup? made.channel = some source)
    (standing : a.operations[op]? = some ⟨k, .abandoned⟩) (found : a.envelopes[i]? = some made)
    (free : made.disposition = .received ∨ made.disposition = .acked)
    (closed : a.isClosed made.service = true) :
    (a.route op i made v cause).operations[op]? = some ⟨k, .finished (.error .closed)⟩ ∧
      (a.route op i made v cause).requests op = a.requests op ∧
      (a.route op i made v cause).disposition? i
        = some (if made.disposition = .received then .nacked else .acked) := by
  rcases free with received | acked
  · rw [route_received configured known received, if_pos received]
    obtain ⟨hdone, hrequests, henvelopes⟩ := beginPublish_closed (s := a.setDisposition i _)
      (p := routePublishing i made target source cause true) standing rfl closed
    refine ⟨hdone, hrequests, ?_⟩
    rw [disposition?, henvelopes, if_pos rfl, settleFrom_setDisposition found received, ← received,
      (settleFrom_settledAs found .nack).envelopes, getElem?_set_iff found, if_pos rfl]
    rfl
  · have other : made.disposition ≠ .received := by
      rw [acked]
      exact Disposition.noConfusion
    rw [route_acked configured known acked, if_neg other]
    obtain ⟨hdone, hrequests, henvelopes⟩ := beginPublish_closed
      (p := routePublishing i made target source cause false) standing rfl closed
    refine ⟨hdone, hrequests, ?_⟩
    rw [disposition?, henvelopes, if_neg Bool.false_ne_true, found, Option.map_some, acked]

/-- How a call that routes an envelope begins: it has ended at once, or it has asked for its copy to
be published. -/
inductive RouteBegun (s₁ : System) (op k i : Nat) (made : Envelope) (v : Service)
    (source : Channel) (cause : String) : Prop where
  | unconfigured (none : v.registry.deadLetter? = none)
      (standing : s₁.operations[op]? = some ⟨k, .finished (.error .noDeadLetterChannel)⟩)
      (unasked : s₁.requests op = []) (same : s₁.envelopes[i]? = some made)
  | idle (target : Channel) (configured : v.registry.deadLetter? = some target)
      (settled : made.disposition = .nacked ∨ made.disposition = .deadLetterPending)
      (standing : s₁.operations[op]? = some ⟨k, .finished (.ok .done)⟩)
      (unasked : s₁.requests op = []) (same : s₁.envelopes[i]? = some made)
  | refused (target : Channel) (configured : v.registry.deadLetter? = some target)
      (free : made.disposition = .received ∨ made.disposition = .acked) (closed : v.closed = true)
      (standing : s₁.operations[op]? = some ⟨k, .finished (.error .closed)⟩)
      (unasked : s₁.requests op = [])
      (settled : s₁.disposition? i
        = some (if made.disposition = .received then .nacked else .acked))
  | asked (target : Channel) (waits : Bool) (configured : v.registry.deadLetter? = some target)
      (free : made.disposition = if waits then .received else .acked) (opened : v.closed = false)
      (standing : s₁.operations[op]?
        = some ⟨k, .publishing (routePublishing i made target source cause waits)⟩)
      (once : s₁.requests op
        = [.publish target.topic (DeadLetter.copy made.message source cause)])
      (alone : waits = false → s₁.envelopes[i]? = some made)

theorem routeBegun {a : System} {v : Service} {source : Channel}
    (standing : a.operations[op]? = some ⟨k, .abandoned⟩) (unasked : a.requests op = [])
    (found : a.envelopes[i]? = some made) (known : v.registry.lookup? made.channel = some source)
    (closed : a.isClosed made.service = v.closed) (cause : String) :
    (a.route op i made v cause).RouteBegun op k i made v source cause := by
  have done (result : Except ChannelError Outcome) :
      (a.finish op result).operations[op]? = some ⟨k, .finished result⟩ :=
    getElem?_setState_self standing _
  cases configured : v.registry.deadLetter? with
  | none =>
    have heq : a.route op i made v cause = a.finish op (.error .noDeadLetterChannel) := by
      rw [route, configured]
    rw [heq]
    exact .unconfigured configured (done _) unasked found
  | some target =>
    have idle (settled : made.disposition = .nacked ∨ made.disposition = .deadLetterPending) :
        (a.route op i made v cause).RouteBegun op k i made v source cause := by
      have heq : a.route op i made v cause = a.finish op (.ok .done) := by
        rcases settled with h | h <;> simp only [route, configured, known, h]
      rw [heq]
      exact .idle target configured settled (done _) unasked found
    have free (h : made.disposition = .received ∨ made.disposition = .acked) :
        (a.route op i made v cause).RouteBegun op k i made v source cause := by
      cases shut : v.closed with
      | true =>
        obtain ⟨hdone, hrequests, hdisposition⟩ := route_refused cause configured known standing
          found h (closed.trans shut)
        exact .refused target configured h shut hdone (hrequests.trans unasked) hdisposition
      | false =>
        have opened := closed.trans shut
        rcases h with received | acked
        · rw [route_received configured known received]
          obtain ⟨hpublishing, hrequests, _⟩ := beginPublish_open
            (s := a.setDisposition i .deadLetterPending)
            (p := routePublishing i made target source cause true) standing opened
          exact .asked target true configured received shut hpublishing
            (hrequests.trans (congrArg (· ++ _) unasked)) Bool.noConfusion
        · rw [route_acked configured known acked]
          obtain ⟨hpublishing, hrequests, henvelopes⟩ := beginPublish_open
            (p := routePublishing i made target source cause false) standing opened
          exact .asked target false configured acked shut hpublishing
            (hrequests.trans (congrArg (· ++ _) unasked)) fun _ => henvelopes ▸ found
    cases hd : made.disposition with
    | received => exact free (Or.inl hd)
    | acked => exact free (Or.inr hd)
    | nacked => exact idle (Or.inl hd)
    | deadLetterPending => exact idle (Or.inr hd)

/-- A decision on an envelope routes it, or returns it, whether the service is closed or not. -/
theorem decide_cases {v : Service} {source : Channel}
    (known : v.registry.lookup? made.channel = some source)
    (c : FailureCommand) (now : Timestamp) (op i : Nat) (cause : String) :
    (∀ (a : System) (w : Service), a.clock = now → w.registry = v.registry →
      a.decide op i made w cause c = a.route op i made w cause) ∨
    ∀ (a : System) (w : Service), a.clock = now → w.registry = v.registry →
      a.decide op i made w cause c = (a.nack i).finish op (.ok .done) := by
  cases c with
  | deadLetter => exact Or.inl fun a w _ _ => rfl
  | retry =>
    cases h : RetryDecision.of made.message.publishTime now source.maxRetryAge with
    | redeliver =>
      refine Or.inr fun a w clock registry => ?_
      simp only [decide, registry, known, clock, h]
    | deadLetter =>
      refine Or.inl fun a w clock registry => ?_
      simp only [decide, registry, known, clock, h]

theorem disposition_nack (found : s.envelopes[i]? = some made) :
    (s.nack i).disposition? i
      = some (if made.disposition = .received then .nacked else made.disposition) := by
  by_cases received : made.disposition = .received
  · rw [if_pos received, nack, ← received, disposition?,
      (settleFrom_settledAs found .nack).envelopes, getElem?_set_iff found, if_pos rfl]
    rfl
  · have same : s.nack i = s := by simp [nack, settleFrom, found, received]
    rw [if_neg received, same, disposition?, found, Option.map_some]

/-! ## Settled once -/

/-- On a closed service every call on a received envelope returns it: by itself where the message is
to be delivered again, and where it is to become a dead letter because that is refused. -/
theorem disposition_fail_closed (reachable : s.Reachable) (found : s.envelopes[i]? = some made)
    {v : Service} (alive : s.service? made.service = some v) (closed : v.closed = true)
    (configured : v.registry.deadLetter? ≠ none) (received : made.disposition = .received)
    (c : FailureCommand) (cause : String) :
    (s.step (.fail i c cause)).disposition? i = some .nacked := by
  obtain ⟨source, known⟩ := reachable.source found alive
  obtain ⟨target, configured⟩ := Option.ne_none_iff_exists'.1 configured
  rw [step_fail found alive]
  rcases decide_cases known c s.clock s.operations.length i cause with routes | returns
  · rw [routes (s.addOperation made.service) v rfl rfl]
    obtain ⟨_, _, settled⟩ := route_refused (a := s.addOperation made.service) cause configured known
      (s.getElem?_addOperation made.service) found (Or.inl received)
      ((isClosed_addOperation alive).trans closed)
    rw [settled, if_pos received]
  · rw [returns (s.addOperation made.service) v rfl rfl]
    have settled := disposition_nack (s := s.addOperation made.service) found
    rw [if_pos received] at settled
    exact settled

/-- What holds of an envelope that was made, whatever is called on it and whatever else happens. -/
structure SettledOnce (s : System) (i : Nat) (made : Envelope) : Prop where
  /-- The handle was used at most once. -/
  once : s.settlements i = [] ∨ ∃ v, s.settlements i = [(made.acker, v)]
  acked : (made.acker, .ack) ∈ s.settlements i ↔ made.disposition = .acked
  nacked : (made.acker, .nack) ∈ s.settlements i ↔ made.disposition = .nacked
  /-- What is settled stays so. -/
  terminal : made.disposition.isTerminal = true →
    ∀ es, (s.after es).disposition? i = some made.disposition
  /-- An envelope begins to wait for a dead letter only when it is received, by a call on it, whose
  operation it then waits for; when it ends to wait, it is settled, and by the reply to that
  operation. -/
  pending : ∀ e, made.disposition ≠ .deadLetterPending →
    (s.step e).disposition? i = some .deadLetterPending →
    made.disposition = .received ∧ (∃ c cause, e = .fail i c cause) ∧
      (s.step e).routing? s.operations.length = some i ∧
      ∀ es e', ((s.step e).after es).disposition? i = some .deadLetterPending →
        (((s.step e).after es).step e').disposition? i ≠ some .deadLetterPending →
        e'.Answers s.operations.length ∧
          ∃ v, (((s.step e).after es).step e').disposition? i = some (Settlement.disposition v)
  /-- An operation that an envelope waits for finds it pending, and any reply settles it. -/
  succeeds : ∀ op, s.routing? op = some i → made.disposition = .deadLetterPending ∧
    ∀ reply, (s.answer op reply).disposition? i = some (Settlement.ofReply reply).disposition
  /-- On a closed service that knows where its dead letters go, a call on a received envelope
  returns it at once. -/
  refused : made.disposition = .received → ∀ v, s.service? made.service = some v →
    v.closed = true → v.registry.deadLetter? ≠ none →
    ∀ c cause, (s.step (.fail i c cause)).disposition? i = some .nacked

/-- **An envelope is settled once**, in every order of calls on it. -/
theorem settledOnce (reachable : s.Reachable) (found : s.envelopes[i]? = some made) :
    s.SettledOnce i made where
  once := by
    rw [reachable.settled.settlements i made found, Envelope.settlements]
    cases made.disposition.settlement? with
    | none => exact Or.inl rfl
    | some v => exact Or.inr ⟨v, rfl⟩
  acked := mem_settlements reachable.settled found .ack
  nacked := mem_settlements reachable.settled found .nack
  terminal := fun terminal es => by
    rw [disposition?, terminal_after reachable found terminal es]
    rfl
  pending := fun e before after => by
    obtain ⟨d, found', turn⟩ := turn_step reachable found e
    rw [disposition?_of_getElem? found'] at after
    cases turn with
    | stayed => exact absurd (Option.some.inj after) before
    | settled v => cases v <;> cases after
    | left v => cases v <;> cases after
    | entered received c text cause waits =>
      subst cause
      exact ⟨received, ⟨c, text, rfl⟩, waits, fun es e' =>
        answers_of_left (reachable.step _) waits es e'⟩
  succeeds := fun op waits => by
    obtain ⟨made', found', pending⟩ := reachable.settled.pending op i waits
    obtain rfl : made = made' := Option.some.inj (found.symm.trans found')
    exact ⟨pending, fun reply => disposition_answer reachable.settled waits reply⟩
  refused := fun received v alive closed configured c cause =>
    disposition_fail_closed reachable found alive closed configured received c cause

/-- An event is received, its envelope waits for a dead letter, and is acknowledged meanwhile; the
dead letter is refused. -/
def refusedRoute : List Event :=
  [.begin 0 (.publish "orders" "made" (.ok .null)), .serve 0, .begin 0 (.receive "orders" 0),
    .serve 1, .turn 1, .turn 1, .fail 0 .deadLetter "bad", .ack 0,
    .reply 2 (.error (.notFound "topic"))]

theorem settledOnce_refusedRoute :
    ((start .epoch).after (ordersSetting ++ refusedRoute)).SettledOnce 0
      ⟨⟨"1", Text.toBytes "null", Dictionary.empty.insert "event" "made", .epoch⟩, "orders", 0,
        .held 0, .nacked⟩ :=
  settledOnce ⟨.epoch, _, rfl⟩ (by decide +kernel)

end System

end MessageChannels
