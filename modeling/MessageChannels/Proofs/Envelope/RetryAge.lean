import MessageChannels.Proofs.Envelope.Route

/-!
# Returned while young, dead-lettered when old

A call that retries a received envelope looks once at the clock. If the message is not older than
its channel allows, it is returned and nothing is published; if it is older, the call is a
dead-letter route with one attempt, whose reply settles the envelope. The age is exact: it is
counted in nanoseconds between two points of time, and never wraps or rounds.
-/

set_option autoImplicit false

namespace MessageChannels

/-- The age of a message in nanoseconds; one that is published in the future has age zero. -/
def ageNanos (published now : Timestamp) : Nat := (now.toNanos - published.toNanos).toNat

theorem toNanos_messageAge (published now : Timestamp) :
    (messageAge published now).toNanos = ageNanos published now := by
  unfold messageAge ageNanos
  cases elapsed : Timestamp.elapsed? published now with
  | none =>
    have future := (Timestamp.elapsed?_eq_none_iff published now).1 elapsed
    have zero : Span.zero.toNanos = 0 := rfl
    rw [Option.getD_none, zero]
    omega
  | some d =>
    have exact_ := (Timestamp.elapsed?_eq_some_iff published now d).1 elapsed
    rw [Option.getD_some]
    omega

/-- A message is dead-lettered exactly when it is older than its channel allows. -/
theorem RetryDecision.of_eq (published now : Timestamp) (limit : Span) :
    RetryDecision.of published now limit
      = if ageNanos published now ≤ limit.toNanos then .redeliver else .deadLetter := by
  unfold RetryDecision.of
  have order : limit < messageAge published now ↔ limit.toNanos < ageNanos published now := by
    rw [Span.lt_iff_toNanos_lt, toNanos_messageAge]
  by_cases old : limit.toNanos < ageNanos published now
  · rw [if_pos (order.2 old), if_neg (by omega)]
  · rw [if_neg (fun h => old (order.1 h)), if_pos (by omega)]

namespace System

variable {op i k : Nat} {s s' : System} {made : Envelope} {v : Service} {source target : Channel}
  {cause : String}

theorem decide_retry (known : v.registry.lookup? made.channel = some source) :
    s.decide op i made v cause .retry
      = if ageNanos made.message.publishTime s.clock ≤ source.maxRetryAge.toNanos
        then (s.nack i).finish op (.ok .done) else s.route op i made v cause := by
  simp only [decide, known, RetryDecision.of_eq]
  by_cases young : ageNanos made.message.publishTime s.clock ≤ source.maxRetryAge.toNanos
  · simp only [if_pos young]
  · simp only [if_neg young]

/-- How a call that retries a received envelope begins. -/
inductive RetryBegun (s s₁ : System) (i : Nat) (made : Envelope) (v : Service)
    (source target : Channel) (cause : String) : Prop where
  | returned (young : ageNanos made.message.publishTime s.clock ≤ source.maxRetryAge.toNanos)
      (standing : s₁.operations[s.operations.length]?
        = some ⟨made.service, .finished (.ok .done)⟩)
      (unasked : s₁.requests s.operations.length = []) (nacked : s₁.disposition? i = some .nacked)
  | refused (old : source.maxRetryAge.toNanos < ageNanos made.message.publishTime s.clock)
      (closed : v.closed = true)
      (standing : s₁.operations[s.operations.length]?
        = some ⟨made.service, .finished (.error .closed)⟩)
      (unasked : s₁.requests s.operations.length = []) (nacked : s₁.disposition? i = some .nacked)
  | asked (old : source.maxRetryAge.toNanos < ageNanos made.message.publishTime s.clock)
      (opened : v.closed = false)
      (standing : s₁.operations[s.operations.length]?
        = some ⟨made.service, .publishing (routePublishing i made target source cause true)⟩)
      (once : s₁.requests s.operations.length = [.publish target.topic
        (DeadLetter.copy made.message source cause)])

theorem retryBegun (reachable : s.Reachable) (found : s.envelopes[i]? = some made)
    (alive : s.service? made.service = some v)
    (known : v.registry.lookup? made.channel = some source)
    (configured : v.registry.deadLetter? = some target) (received : made.disposition = .received)
    (cause : String) :
    s.RetryBegun (s.step (.fail i .retry cause)) i made v source target cause := by
  generalize ha : s.addOperation made.service = a
  have standing : a.operations[s.operations.length]? = some ⟨made.service, .abandoned⟩ :=
    ha ▸ s.getElem?_addOperation made.service
  have unasked : a.requests s.operations.length = [] :=
    ha ▸ reachable.requests_eq_nil (Nat.le_refl _)
  have found' : a.envelopes[i]? = some made := ha ▸ found
  have closed : a.isClosed made.service = v.closed := ha ▸ isClosed_addOperation alive
  have decided : s.step (.fail i .retry cause)
      = if ageNanos made.message.publishTime s.clock ≤ source.maxRetryAge.toNanos
        then (a.nack i).finish s.operations.length (.ok .done)
        else a.route s.operations.length i made v cause := by
    have clock : a.clock = s.clock := ha ▸ rfl
    rw [step_fail found alive, ha, decide_retry known, clock]
  rw [decided]
  split
  · rename_i young
    refine .returned young ?_ ?_ ?_
    · refine getElem?_setState_self (o := ⟨made.service, .abandoned⟩) ?_ _
      rw [nack, operations_settleFrom, standing]
    · exact (requests_settleFrom a i .received .nack _).trans unasked
    · show ((a.settleFrom i .received .nack).envelopes[i]?).map Envelope.disposition = _
      rw [← received, (settleFrom_settledAs found' .nack).envelopes, getElem?_set_iff found',
        if_pos rfl]
      rfl
  · rename_i old
    have old : source.maxRetryAge.toNanos < ageNanos made.message.publishTime s.clock := by omega
    cases routeBegun standing unasked found' known closed cause with
    | unconfigured none => exact absurd (configured.symm.trans none) (Option.some_ne_none _)
    | idle _ _ settled => rcases settled with h | h <;> cases received.symm.trans h
    | refused _ _ _ closed standing unasked settled =>
      rw [if_pos received] at settled
      exact .refused old closed standing unasked settled
    | asked target' waits configured' free opened standing once =>
      obtain rfl : target' = target := Option.some.inj (configured'.symm.trans configured)
      cases waits with
      | true => exact .asked old opened standing once
      | false => cases received.symm.trans free

/-! ## What comes of a call -/

/-- Where an envelope stands, and what its handle was told. -/
structure StandsAs (s : System) (i : Nat) (acker : Acker) (d : Disposition) : Prop where
  disposition : s.disposition? i = some d
  settlements : s.settlements i = (d.settlement?.map fun v => (acker, v)).toList

theorem standsAs (reachable : s.Reachable) (found : s.envelopes[i]? = some made) {es : List Event}
    {d : Disposition} (standing : (s.after es).disposition? i = some d) :
    (s.after es).StandsAs i made.acker d := by
  obtain ⟨d', found'⟩ := envelope_after reachable found es
  obtain rfl : d' = d := by
    rw [disposition?, found'] at standing
    exact Option.some.inj standing
  exact ⟨standing, (reachable.after es).settled.settlements i _ found'⟩

/-- What comes of a call that retries a received envelope: the call leads to the system `s₁`, which
goes on with `es`. -/
structure RetryCall (s s₁ : System) (i : Nat) (made : Envelope) (v : Service)
    (source target : Channel) (cause : String) (es : List Event) : Prop where
  /-- A message that is young enough is returned, and nothing is published. -/
  young : ageNanos made.message.publishTime s.clock ≤ source.maxRetryAge.toNanos →
    (s₁.after es).result? s.operations.length = some (.ok .done) ∧
      (s₁.after es).requests s.operations.length = [] ∧
      s₁.acceptedFrom s.operations.length es = [] ∧ (s₁.after es).StandsAs i made.acker .nacked
  /-- A closed service refuses the attempt. -/
  refused : source.maxRetryAge.toNanos < ageNanos made.message.publishTime s.clock →
    v.closed = true →
    (s₁.after es).result? s.operations.length = some (.error .closed) ∧
      (s₁.after es).requests s.operations.length = [] ∧
      s₁.acceptedFrom s.operations.length es = [] ∧ (s₁.after es).StandsAs i made.acker .nacked
  /-- An older message is dead-lettered by one attempt, whose reply settles the envelope. -/
  old : source.maxRetryAge.toNanos < ageNanos made.message.publishTime s.clock →
    v.closed = false →
    s₁.Attempt s.operations.length (routePublishing i made target source cause true) es ∧
      (s₁.replyTo? s.operations.length es = none →
        (s₁.after es).StandsAs i made.acker .deadLetterPending) ∧
      ∀ reply, s₁.replyTo? s.operations.length es = some reply →
        (s₁.after es).StandsAs i made.acker (Settlement.ofReply reply).disposition
  /-- An older message is returned only when its dead letter could not be published. -/
  returned : source.maxRetryAge.toNanos < ageNanos made.message.publishTime s.clock →
    (s₁.after es).disposition? i = some .nacked →
    v.closed = true ∨ ∃ err, s₁.replyTo? s.operations.length es = some (.error err)

/-- **What comes of a call that retries a received envelope**, whatever happens after it. -/
theorem retryCall (reachable : s.Reachable) (found : s.envelopes[i]? = some made)
    (alive : s.service? made.service = some v)
    (known : v.registry.lookup? made.channel = some source)
    (configured : v.registry.deadLetter? = some target) (received : made.disposition = .received)
    (cause : String) {es : List Event} (completes : .abandon s.operations.length ∉ es) :
    s.RetryCall (s.step (.fail i .retry cause)) i made v source target cause es := by
  have begun := retryBegun reachable found alive known configured received cause
  have reachable₁ := reachable.step (.fail i .retry cause)
  obtain ⟨d, found₁, _⟩ := turn_step reachable found (.fail i .retry cause)
  generalize s.step (.fail i .retry cause) = s₁ at begun reachable₁ found₁
  have ends {result : Except ChannelError Outcome}
      (standing : s₁.operations[s.operations.length]? = some ⟨made.service, .finished result⟩)
      (unasked : s₁.requests s.operations.length = []) (nacked : s₁.disposition? i = some .nacked) :
      (s₁.after es).result? s.operations.length = some result ∧
        (s₁.after es).requests s.operations.length = [] ∧
        s₁.acceptedFrom s.operations.length es = [] ∧ (s₁.after es).StandsAs i made.acker .nacked := by
    obtain ⟨hlast, hrequests, _, hnothing⟩ := finished_after standing es
    exact ⟨result?_of_finished hlast, hrequests.trans unasked, hnothing,
      standsAs reachable₁ found₁ (disposition_after reachable₁ nacked rfl es)⟩
  cases begun with
  | returned young standing unasked nacked =>
    exact ⟨fun _ => ends standing unasked nacked, fun old => by omega, fun old => by omega,
      fun old => by omega⟩
  | refused old closed standing unasked nacked =>
    refine ⟨fun young => by omega, fun _ _ => ends standing unasked nacked, fun _ opened => ?_,
      fun _ _ => Or.inl closed⟩
    exact absurd (closed.symm.trans opened) Bool.noConfusion
  | asked old opened standing once =>
    obtain ⟨hpending, hsettled⟩ := route_settles reachable₁ standing rfl completes
    refine ⟨fun young => by omega, fun _ closed => ?_, fun _ _ => ⟨attempt standing rfl once
      completes, fun h => standsAs reachable₁ found₁ (hpending h), fun reply h =>
        standsAs reachable₁ found₁ (hsettled reply h)⟩, fun _ nacked => Or.inr ?_⟩
    · exact absurd (closed.symm.trans opened) Bool.noConfusion
    · cases hreply : s₁.replyTo? s.operations.length es with
      | none => cases (hpending hreply).symm.trans nacked
      | some reply =>
        cases reply with
        | ok r => cases (hsettled _ hreply).symm.trans nacked
        | error err => exact ⟨err, rfl⟩

end System

end MessageChannels
