import MessageChannels.Proofs.Delivery.AtLeastOnce
import MessageChannels.Proofs.Delivery.RetriedOnce

/-!
# Retries end with one dead letter

Where handlers retry each delivery once, a message is delivered again until it is older than its
channel allows or until it is taken, and then it gets one dead letter: the delivery whose copy was
accepted is acknowledged, so the message neither waits nor is held on that subscription any more,
and no other delivery of it ever was in a handler's hands at the same time.
-/

set_option autoImplicit false

namespace MessageChannels

namespace System

/-- Whether an envelope has in hand a delivery of a message from a subscription. -/
def delivers (s : System) (i : Nat) (name id : String) : Bool :=
  s.broker.held.any fun h => h.subscription = name ∧ h.message.id = id ∧
    s.delivery? (.envelope i) = some (h.number, h.message)

/-- The copies that the call of an event, on a delivery of a message from a subscription, brings
into the broker in a run that goes on with the events after it. -/
def copiesFrom (s : System) (name id : String) (e : Event) (es : List Event) :
    List (String × Message) :=
  match e with
  | .fail i _ _ =>
    if s.delivers i name id then (s.step e).acceptedFrom s.operations.length es else []
  | _ => []

/-- The copies that calls on deliveries of a message from a subscription bring into the broker. -/
def copies (s : System) (name id : String) : List Event → List (String × Message)
  | [] => []
  | e :: es => s.copiesFrom name id e es ++ (s.step e).copies name id es

/-- A message has left a subscription for good: it neither waits nor is held, and was acknowledged
once. -/
def Gone (s : System) (name id : String) : Prop :=
  s.broker.waitingFor name id = [] ∧ s.broker.heldFor name id = [] ∧
    ∃ n m, s.broker.ackedFor name id = [⟨n, name, m⟩]

variable {e : Event} {op i j k : Nat} {s : System} {calls : List (Nat × Nat)} {es : List Event}
  {h : Held} {cause name id : String}

theorem delivers_iff : s.delivers i name id = true ↔
    ∃ h ∈ s.broker.held, h.subscription = name ∧ h.message.id = id ∧
      s.delivery? (.envelope i) = some (h.number, h.message) := by
  simp [delivers]

/-! ## A delivery in hand -/

/-- An envelope keeps the delivery that it was made of. -/
theorem delivery?_after (reachable : s.Reachable) {d : Nat × Message}
    (given : s.delivery? (.envelope i) = some d) (es : List Event) :
    (s.after es).delivery? (.envelope i) = some d := by
  obtain ⟨made, found, held⟩ := Option.bind_eq_some_iff.1 given
  obtain ⟨d', found'⟩ := envelope_after reachable found es
  rw [delivery?, found']
  exact held

/-- A delivery in the hands of an envelope is still held while the envelope is pending. -/
theorem Standing.held (standing : s.Standing calls) (run : s.RetriesOnce calls es)
    (held : h ∈ s.broker.held) (given : s.delivery? (.envelope i) = some (h.number, h.message))
    (pending : (s.after es).disposition? i = some .deadLetterPending) :
    h ∈ (s.after es).broker.held := by
  have sound := standing.reachable.sound
  have holds : (s.after es).Holds (.envelope i) h.number := by
    refine ⟨⟨h.message, delivery?_after standing.reachable given es⟩, fun made found => ?_⟩
    rw [disposition?, found] at pending
    rw [show made.disposition = .deadLetterPending from Option.some.inj pending]
    rfl
  obtain ⟨h', held', number⟩ := (standing.after run).backed _ _ holds
  have old : h.number < s.broker.taken := sound.handles_lt h (List.mem_append_left _ held)
  obtain ⟨cs, hcs⟩ := broker_after s es
  have before : h' ∈ s.broker.held := by
    apply Broker.held_before cs (hcs ▸ held')
    omega
  obtain rfl : h' = h :=
    sound.eq_of_number (List.mem_append_left _ held) (List.mem_append_left _ before) number
  exact held'

/-! ## A copy that was accepted -/

/-- The reply that a copy was accepted acknowledges the delivery. -/
theorem acked_answer {p : Publishing} {channel : String} (settled : s.Settled)
    (sound : s.broker.ledger.Sound) (opened : s.broker.closed = false)
    (standing : s.operations[op]? = some ⟨k, .publishing p⟩)
    (purpose : p.purpose = .deadLetter i true channel) (held : h ∈ s.broker.held)
    (given : s.delivery? (.envelope i) = some (h.number, h.message)) (reply : Reply) :
    h ∈ (s.answer op (.ok reply)).broker.acked := by
  obtain ⟨made, found, pending⟩ := settled.pending op i (routing?_of_standing standing purpose)
  have acker : made.acker = .held h.number := by
    have taken : made.taken.held? = some (h.number, h.message) := by
      simpa [delivery?, found] using given
    exact (Taken.acker_of_held? taken).1
  obtain ⟨notes, counter, heq⟩ := answer_route standing purpose (.ok reply)
  rw [heq]
  show h ∈ ((s.noted notes).settleFrom i .deadLetterPending .ack).broker.acked
  have foundNoted : (s.noted notes).envelopes[i]? = some made := by
    rw [envelopes_noted]
    exact found
  simp only [settleFrom, foundNoted, pending, if_true]
  show h ∈ (((s.noted notes).setDisposition i _).useAcker i made.acker .ack).broker.acked
  rw [acker]
  show h ∈ ((s.noted notes).broker.ack h.number).acked
  rw [broker_noted]
  exact Broker.acked_ack sound opened held

/-- **A copy that was accepted acknowledges its delivery**, and is the only one of its call. -/
theorem Standing.acked (standing : s.Standing calls)
    (run : s.RetriesOnce calls (.fail i .retry cause :: es)) (held : h ∈ s.broker.held)
    (given : s.delivery? (.envelope i) = some (h.number, h.message))
    (accepted : (s.step (.fail i .retry cause)).acceptedFrom s.operations.length es ≠ []) :
    h ∈ ((s.step (.fail i .retry cause)).after es).broker.acked ∧
      ((s.step (.fail i .retry cause)).acceptedFrom s.operations.length es).length = 1 := by
  have next := standing.step run.1
  have given₁ := delivery?_after standing.reachable given [.fail i .retry cause]
  have completes := run.2.completes (List.mem_append_right _ List.mem_cons_self)
  have begun : ∃ k p channel, (s.step (.fail i .retry cause)).operations[s.operations.length]?
      = some ⟨k, .publishing p⟩ ∧ p.purpose = .deadLetter i true channel := by
    cases standing.called_fail run.1 with
    | waits k p channel publishing purpose => exact ⟨k, p, channel, publishing, purpose⟩
    | returned k result d finished => exact absurd (finished_after finished es).2.2.2 accepted
  obtain ⟨k, p, channel, publishing, purpose⟩ := begun
  obtain ⟨before, after, reply, rfl, waits, ok, served, one⟩ :=
    served_of_accepted publishing purpose completes accepted
  refine ⟨?_, one⟩
  -- The delivery is still held where the broker takes the copy.
  have prior := (retriesOnce_append.1 run.2).1
  have there := next.after prior
  have pending := there.reachable.settled.disposition?_of_routing
    (routing?_of_standing waits purpose)
  have whole : s.RetriesOnce calls (.fail i .retry cause :: before) := ⟨run.1, prior⟩
  have still := standing.held whole held given pending
  rw [after_append, after_cons]
  obtain ⟨cs, hcs⟩ := broker_after
    ((((s.step (.fail i .retry cause)).after before)).step (.serve s.operations.length)) after
  rw [hcs]
  refine Broker.acked_after ?_ cs
  rw [served]
  refine acked_answer (there.reachable.settled.with_broker _) ?_ (Broker.opened_of_accepted ok)
    waits purpose ?_ (delivery?_after next.reachable given₁ before) reply
  · exact (Broker.ledger_perform _ _ _).sound there.reachable.sound
  · show h ∈ (Broker.perform _ _ _).1.held
    rw [(Broker.deliveries_perform _ _ _).2]
    exact still

/-! ## No second copy -/

/-- After a copy was accepted, or while it may be, no other envelope has a delivery of the message in
hand. -/
theorem Standing.no_second (standing : s.Standing calls) {mid after : List Event}
    {c : FailureCommand} {text : String}
    (run : s.RetriesOnce calls (.fail i .retry cause :: (mid ++ .fail j c text :: after)))
    (delivers : s.delivers i name id = true)
    (accepted : (s.step (.fail i .retry cause)).acceptedFrom s.operations.length
      (mid ++ .fail j c text :: after) ≠ []) :
    ((s.step (.fail i .retry cause)).after mid).delivers j name id = false := by
  obtain ⟨h, held, rfl, rfl, given⟩ := delivers_iff.1 delivers
  have next := standing.step run.1
  have prior := (retriesOnce_append.1 run.2).1
  have there := next.after prior
  have whole : s.RetriesOnce calls (.fail i .retry cause :: mid) := ⟨run.1, prior⟩
  have called := there.called (i, s.operations.length)
    (List.mem_append_left _ (List.mem_append_right _ List.mem_cons_self))
  have other : i ≠ j := run.2.once (List.mem_append_right _ List.mem_cons_self)
  have given' := delivery?_after standing.reachable given (.fail i .retry cause :: mid)
  have sound := there.reachable.sound
  obtain ⟨outside, owned⟩ := there.owned
  rw [← Bool.not_eq_true]
  intro second
  obtain ⟨h', held', subscription, message, theirs⟩ := delivers_iff.1 second
  cases called with
  | waits k p channel publishing purpose =>
    have pending := there.reachable.settled.disposition?_of_routing
      (routing?_of_standing publishing purpose)
    have still := standing.held whole held given pending
    obtain rfl : h' = h := sound.eq_of_message (List.mem_append_left _ still)
      (List.mem_append_left _ held') subscription message
    have same := owned.number_once _ _ _ _ _ given' theirs
    exact other (Owner.envelope.inj same)
  | returned k result d finished =>
    have nothing := (finished_after finished (.fail j c text :: after)).2.2.2
    have early : (s.step (.fail i .retry cause)).acceptedFrom s.operations.length mid ≠ [] := by
      intro none
      rw [acceptedFrom_append, none] at accepted
      exact accepted nothing
    obtain ⟨acked, _⟩ := standing.acked whole held given early
    obtain rfl : h' = h := sound.eq_of_message (List.mem_append_right _ acked)
      (List.mem_append_left _ held') subscription message
    exact sound.not_held_of_acked acked held'

/-! ## All copies of a run -/

theorem call_of_copiesFrom (copied : s.copiesFrom name id e es ≠ []) :
    ∃ i c text, e = .fail i c text ∧ s.delivers i name id = true ∧
      s.copiesFrom name id e es = (s.step e).acceptedFrom s.operations.length es := by
  unfold copiesFrom at copied ⊢
  cases e with
  | fail i c text =>
    by_cases delivers : s.delivers i name id = true
    · exact ⟨i, c, text, rfl, delivers, if_pos delivers⟩
    · exact absurd (if_neg delivers) copied
  | _ => exact absurd rfl copied

/-- A copy comes from a call. -/
theorem call_of_copies (copied : s.copies name id es ≠ []) :
    ∃ before i c text after, es = before ++ .fail i c text :: after ∧
      (s.after before).delivers i name id = true ∧
      ((s.after before).step (.fail i c text)).acceptedFrom (s.after before).operations.length after
        ≠ [] := by
  induction es generalizing s with
  | nil => exact absurd rfl copied
  | cons e es ih =>
    by_cases now : s.copiesFrom name id e es = []
    · rw [copies, now, List.nil_append] at copied
      obtain ⟨before, i, c, text, after, rfl, rest⟩ := ih copied
      exact ⟨e :: before, i, c, text, after, rfl, rest⟩
    · obtain ⟨i, c, text, rfl, delivers, heq⟩ := call_of_copiesFrom now
      exact ⟨[], i, c, text, es, rfl, delivers, heq ▸ now⟩

/-- A message gets at most one dead letter on a subscription. -/
theorem Standing.length_copies_le (standing : s.Standing calls) (run : s.RetriesOnce calls es)
    (name id : String) : (s.copies name id es).length ≤ 1 := by
  induction es generalizing s calls with
  | nil => exact Nat.zero_le 1
  | cons e es ih =>
    have rest := ih (standing.step run.1) run.2
    rw [copies]
    by_cases now : s.copiesFrom name id e es = []
    · rw [now, List.nil_append]
      exact rest
    · obtain ⟨i, c, cause, rfl, delivers, heq⟩ := call_of_copiesFrom now
      obtain rfl : c = .retry := run.1.1
      rw [heq] at now ⊢
      obtain ⟨h, held, _, _, given⟩ := delivers_iff.1 delivers
      have one := (standing.acked run held given now).2
      have none : (s.step (.fail i .retry cause)).copies name id es = [] := by
        by_contra later
        obtain ⟨mid, j, c', text, after, rfl, second, _⟩ := call_of_copies later
        have first := standing.no_second run delivers now
        exact Bool.false_ne_true (first.symm.trans second)
      rw [none, List.append_nil]
      omega

/-- A message that got its dead letter is gone from the subscription. -/
theorem Standing.gone (standing : s.Standing calls) {before after : List Event}
    (run : s.RetriesOnce calls (before ++ after)) (copied : s.copies name id before ≠ []) :
    (s.after (before ++ after)).Gone name id := by
  obtain ⟨earlier, i, c, cause, later, rfl, delivers, accepted⟩ := call_of_copies copied
  have there := standing.after run
  rw [List.append_assoc] at run
  obtain ⟨first, rest⟩ := retriesOnce_append.1 run
  rw [List.cons_append] at rest
  obtain rfl : c = .retry := rest.1.1
  obtain ⟨h, held, rfl, rfl, given⟩ := delivers_iff.1 delivers
  have call : (s.after earlier).RetriesOnce (calls ++ s.callsOf earlier)
      (.fail i .retry cause :: later) := ⟨rest.1, (retriesOnce_append.1 rest.2).1⟩
  obtain ⟨acked, _⟩ := (standing.after first).acked call held given accepted
  obtain ⟨cs, hcs⟩ := broker_after (s.after (earlier ++ .fail i .retry cause :: later)) after
  have last : h ∈ (s.after ((earlier ++ .fail i .retry cause :: later) ++ after)).broker.acked := by
    rw [after_append, hcs]
    refine Broker.acked_after ?_ cs
    rw [after_append, after_cons]
    exact acked
  have listed : h ∈ (s.after ((earlier ++ .fail i .retry cause :: later) ++ after)).broker.ackedFor
      h.subscription h.message.id :=
    List.mem_filter.2 ⟨last, by simp⟩
  have member : h.message ∈ (s.after ((earlier ++ .fail i .retry cause :: later) ++
      after)).broker.ledger.whereabouts h.subscription := by
    refine List.mem_append_right _ (List.mem_map_of_mem (List.mem_filter.2 ⟨last, ?_⟩))
    simp
  obtain ⟨outside, owned⟩ := there.owned
  cases inOnePlace there.reachable.sound owned member with
  | waiting here none nothing =>
    rw [nothing] at listed
    cases listed
  | inHand n waiting here nothing =>
    rw [nothing] at listed
    cases listed
  | acked n waiting none here => exact ⟨waiting, none, n, h.message, here⟩

/-- What comes of a run in which handlers retry each delivery once. -/
structure RetryRun (s : System) (es : List Event) : Prop where
  /-- Every call returns a young message and makes one attempt to dead-letter an old one. -/
  calls : ∀ before i cause after, es = before ++ .fail i .retry cause :: after →
    ∃ made v source target, (s.after before).envelopes[i]? = some made ∧
      (s.after before).service? made.service = some v ∧
      v.registry.lookup? made.channel = some source ∧ v.registry.deadLetter? = some target ∧
      (s.after before).RetryCall ((s.after before).step (.fail i .retry cause)) i made v source
        target cause after
  /-- A call on a delivery of the broker finds it held, with the message as it was published. -/
  deliveries : ∀ before i cause after made n, es = before ++ .fail i .retry cause :: after →
    (s.after before).envelopes[i]? = some made → made.acker = .held n →
    ∃ name topic, (⟨n, name, made.message⟩ : Held) ∈ (s.after before).broker.held ∧
      (topic, made.message) ∈ (s.after before).broker.published ∧
      (s.after before).delivers i name made.message.id = true
  /-- A message gets at most one dead letter on a subscription. -/
  once : ∀ name id, (s.copies name id es).length ≤ 1
  /-- From its dead letter on, a message is delivered no more on the subscription. -/
  last : ∀ before after name id, es = before ++ after → s.copies name id before ≠ [] →
    (s.after es).Gone name id

/-- **Retries end with one dead letter**, in every run in which handlers retry each delivery once.
-/
theorem retryRun (now : Timestamp) {es : List Event} (run : (start now).RetriesOnce [] es) :
    (start now).RetryRun es where
  calls := by
    rintro before i cause after rfl
    obtain ⟨first, rest⟩ := retriesOnce_append.1 run
    have standing := (standing_start now).after first
    obtain ⟨made, v, source, target, found, alive, known, configured, received⟩ :=
      standing.ready rest.1
    exact ⟨made, v, source, target, found, alive, known, configured,
      retryCall standing.reachable found alive known configured received cause
        (rest.2.completes (List.mem_append_right _ List.mem_cons_self))⟩
  deliveries := by
    rintro before i cause after made n rfl found acker
    obtain ⟨first, rest⟩ := retriesOnce_append.1 run
    have standing := (standing_start now).after first
    obtain ⟨made', _, _, _, found', _, _, _, received⟩ := standing.ready rest.1
    obtain rfl : made = made' := Option.some.inj (found.symm.trans found')
    have given : ((start now).after before).delivery? (.envelope i) = some (n, made.message) := by
      simp [delivery?, found, Envelope.taken, Taken.held?, acker]
    have unsettled : ((start now).after before).Unsettled (.envelope i) := by
      intro made' found'
      obtain rfl : made = made' := Option.some.inj (found.symm.trans found')
      rw [received]
      rfl
    obtain ⟨⟨number, name, m⟩, held, rfl⟩ := standing.backed _ n ⟨⟨_, given⟩, unsettled⟩
    obtain ⟨outside, owned⟩ := standing.owned
    obtain rfl : m = made.message :=
      owned.same_message _ ⟨number, name, m⟩ _ given (List.mem_append_left _ held)
    obtain ⟨topic, published⟩ := owned.published _ _ _ given
    exact ⟨name, topic, held, published, delivers_iff.2 ⟨_, held, rfl, rfl, given⟩⟩
  once := fun name id => (standing_start now).length_copies_le run name id
  last := by
    rintro before after name id rfl copied
    exact (standing_start now).gone run copied

/-- A delivery is retried while it is young, when the publish of its dead letter fails, and when it
succeeds. -/
def retriedThrice : List Event :=
  [.fail 0 .retry "busy", .release 0, .handlerEnded 1 0 false, .turn 1, .turn 1, .turn 1,
    .setClock ((Timestamp.epoch.plus? (.ofSecs 121)).getD .epoch),
    .direct (.failNext "dead-topic" (.unavailable "no route")), .fail 1 .retry "busy", .serve 3,
    .release 1, .handlerEnded 1 1 false, .turn 1, .turn 1, .turn 1, .fail 2 .retry "busy",
    .serve 4]

theorem retryRun_retriedThrice :
    (start .epoch).RetryRun (oneReceived ++ retriedThrice) ∧
      ((start .epoch).copies "orders-sub" "1" (oneReceived ++ retriedThrice)).length = 1 := by
  refine ⟨retryRun .epoch ?_, by decide +kernel⟩
  refine ⟨trivial, trivial, rfl, rfl, rfl, trivial, trivial, trivial, trivial, trivial, trivial,
    ⟨rfl, by decide +kernel, by decide +kernel, by decide +kernel⟩,
    ⟨(0, 2), by decide +kernel, rfl, by decide +kernel⟩, trivial, trivial, trivial, trivial, trivial,
    rfl, ⟨rfl, by decide +kernel, by decide +kernel, by decide +kernel⟩, trivial,
    ⟨(1, 3), by decide +kernel, rfl, by decide +kernel⟩, trivial, trivial, trivial, trivial,
    ⟨rfl, by decide +kernel, by decide +kernel, by decide +kernel⟩, trivial, trivial⟩

end System

end MessageChannels
