import Mathlib.Data.List.Induction
import MessageChannels.Proofs.Broker.Delivery

/-!
# Where the messages of a backlog come from

A subscription is made with an empty backlog. A message comes to wait there because it is published
to the topic, or because a delivery is put back. A delivery goes back to the subscription that bears
the name it was taken from, and that may be a later one: then the message was published before the
subscription was made, perhaps to another topic. `origins` says that nothing else gets in, so that a
subscription queues only its own messages while no delivery of an earlier one is put back.
-/

set_option autoImplicit false

namespace MessageChannels

/-- A step that makes a subscription gives it no messages, and settles no delivery. -/
theorem Ledger.Step.born {l l' : Ledger} (step : Step l l') {name : String} {sub : Subscription}
    (absent : l.subscriptions.get? name = none) (found : l'.subscriptions.get? name = some sub) :
    sub.backlog = [] ∧ l'.held = l.held := by
  cases step with
  | create created topic deadline opened fresh =>
    rw [Dictionary.get?_insert] at found
    split at found
    · cases found
      exact ⟨rfl, rfl⟩
    · cases absent.symm.trans found
  | delete gone opened =>
    rw [Dictionary.get?_erase] at found
    split at found
    · cases found
    · cases absent.symm.trans found
  | accept topic m opened numbered => simp [absent] at found
  | deliver taken sub₀ m rest opened before backlog =>
    rw [Dictionary.get?_insert] at found
    split at found
    · rename_i same
      cases absent.symm.trans (same ▸ before)
    · cases absent.symm.trans found
  | requeue h nacked opened member =>
    rw [get?_queued] at found
    split at found
    · rename_i same
      rw [← same, absent] at found
      cases found
    · cases absent.symm.trans found
  | _ => cases absent.symm.trans found

namespace Broker

variable {b : Broker} {c : Change} {name : String} {sub : Subscription} {m : Message}

/-! ## What one change lets wait -/

/-- Whether a change puts a delivery back. -/
def Change.PutsBack (c : Change) (n : Nat) : Prop := c = .nack n ∨ c = .release n

/-- A change that puts a delivery back queues its message under the name it was taken from, or
queues nothing. -/
theorem putsBack_cases {n : Nat} (puts : c.PutsBack n) :
    (b.change c).subscriptions = b.subscriptions ∨
      ∃ h ∈ b.held, h.number = n ∧ (b.change c).subscriptions
        = queued b.subscriptions h.subscription h.message := by
  have queues (b' : Broker) (same : b'.subscriptions = b.subscriptions) (h : Held) :
      (b'.enqueue h.subscription h.message).subscriptions
        = queued b.subscriptions h.subscription h.message :=
    same ▸ congrArg Ledger.subscriptions (b'.ledger_enqueue h.subscription h.message)
  rcases puts with rfl | rfl
  · dsimp only [change, nack]
    split
    · exact Or.inl rfl
    · rename_i h found
      obtain ⟨member, number⟩ := held?_eq_some found
      split
      · exact Or.inl rfl
      · exact Or.inr ⟨h, member, number, queues { b.unhold n with nacked := b.nacked ++ [h] } rfl h⟩
  · dsimp only [change, release]
    split
    · exact Or.inl rfl
    · rename_i h found
      obtain ⟨member, number⟩ := held?_eq_some found
      split
      · exact Or.inl rfl
      · exact Or.inr ⟨h, member, number, queues (b.unhold n) rfl h⟩

/-- A message that waits after a request waited before it, or is published by it. -/
theorem waiting_perform (now : Timestamp) (r : Request)
    (found : (b.perform now r).1.subscriptions.get? name = some sub) (waits : m ∈ sub.backlog) :
    m ∈ b.backlog name ∨
      (sub.topic, m) ∈ (b.perform now r).1.published.drop b.published.length := by
  have held := (b.deliveries_perform now r).2
  have step := b.ledger_perform now r
  generalize hl : (b.perform now r).1.ledger = l at step
  have found : l.subscriptions.get? name = some sub := hl ▸ found
  have published : (b.perform now r).1.published = l.published := hl ▸ rfl
  have held : l.held = b.held := hl ▸ held
  have old {sub₀ : Subscription} (before : b.subscriptions.get? name = some sub₀)
      (waits : m ∈ sub₀.backlog) : m ∈ b.backlog name := by
    simpa [backlog, before] using waits
  -- A delivery that is put back was held until then, and a request changes nothing about those.
  have settles_none {h : Held} (member : h ∈ b.held)
      (without : Ledger.without b.held h.number = b.held) : False := by
    rw [← without] at member
    simp [Ledger.without] at member
  rw [published]
  cases step with
  | create created topic deadline opened fresh =>
    rw [Dictionary.get?_insert] at found
    split at found
    · cases found
      cases waits
    · exact Or.inl (old found waits)
  | delete gone opened =>
    rw [Dictionary.get?_erase] at found
    split at found
    · cases found
    · exact Or.inl (old found waits)
  | accept topic new opened numbered =>
    rw [Dictionary.get?_map] at found
    obtain ⟨sub₀, before, rfl⟩ := Option.map_eq_some_iff.1 found
    unfold Subscription.deposit at waits ⊢
    split at waits
    · rename_i same
      rw [if_pos same]
      rcases List.mem_append.1 waits with earlier | now
      · exact Or.inl (old before earlier)
      · obtain rfl := List.mem_singleton.1 now
        right
        show (sub₀.topic, m) ∈ (b.published ++ [(topic, m)]).drop b.published.length
        rw [List.drop_left, same]
        exact List.mem_singleton.2 rfl
    · exact Or.inl (old before waits)
  | deliver taken sub₀ first rest opened before backlog =>
    rw [Dictionary.get?_insert] at found
    split at found
    · rename_i same
      cases found
      exact Or.inl (old (same ▸ before) (backlog ▸ List.mem_cons_of_mem _ waits))
    · exact Or.inl (old found waits)
  | requeue h nacked opened member => exact (settles_none member held).elim
  | _ => exact Or.inl (old found waits)

/-- A message that waits after a change waited before it, or is published by it, or is that of a
delivery which the change puts back. -/
theorem waiting_change (found : (b.change c).subscriptions.get? name = some sub)
    (waits : m ∈ sub.backlog) :
    m ∈ b.backlog name ∨ (sub.topic, m) ∈ (b.change c).published.drop b.published.length ∨
      ∃ h ∈ b.held, h.subscription = name ∧ h.message = m ∧ c.PutsBack h.number := by
  have old (same : (b.change c).subscriptions = b.subscriptions) : m ∈ b.backlog name := by
    rw [same] at found
    simpa [backlog, found] using waits
  have back {n : Nat} (puts : c.PutsBack n) : m ∈ b.backlog name ∨
      (sub.topic, m) ∈ (b.change c).published.drop b.published.length ∨
        ∃ h ∈ b.held, h.subscription = name ∧ h.message = m ∧ c.PutsBack h.number := by
    rcases putsBack_cases puts with same | ⟨h, member, rfl, queues⟩
    · exact Or.inl (old same)
    · rw [queues, get?_queued] at found
      split at found
      · rename_i same
        obtain ⟨sub₀, before, rfl⟩ := Option.map_eq_some_iff.1 found
        rcases List.mem_append.1 waits with earlier | now
        · left
          simpa [backlog, same, before] using earlier
        · exact Or.inr (Or.inr ⟨h, member, same.symm, (List.mem_singleton.1 now).symm, puts⟩)
      · left
        simpa [backlog, found] using waits
  cases c with
  | perform now r =>
    rcases waiting_perform now r found waits with earlier | published
    · exact Or.inl earlier
    · exact Or.inr (Or.inl published)
  | failNext t e => exact Or.inl (old rfl)
  | poll n =>
    left
    rcases b.pollStream_cases n with ⟨_, same⟩ | ⟨taken, sub₀, first, rest, _, before, hb, heq⟩
    · exact old (congrArg Ledger.subscriptions same)
    · change (b.pollStream n).1.subscriptions.get? name = some sub at found
      rw [heq, Dictionary.get?_insert] at found
      split at found
      · rename_i same
        subst same
        cases found
        have waits : m ∈ first :: rest := List.mem_cons_of_mem _ waits
        simpa [backlog, before, hb] using waits
      · simpa [backlog, found] using waits
  | dropStream n => exact Or.inl (old rfl)
  | ack n =>
    refine Or.inl (old ?_)
    dsimp only [change, ack]
    split
    · rfl
    · split <;> rfl
  | nack n => exact back (Or.inl rfl)
  | release n => exact back (Or.inr rfl)

/-- What is held after a change was held before it, or waited on the subscription that it was taken
from. -/
theorem held_change {h : Held} (held : h ∈ (b.change c).held) :
    h ∈ b.held ∨ h.message ∈ b.backlog h.subscription := by
  have step := b.ledger_change c
  generalize hl : (b.change c).ledger = l at step
  have held : h ∈ l.held := hl ▸ held
  cases step with
  | deliver taken sub first rest opened found backlog =>
    rcases List.mem_append.1 held with old | new
    · exact Or.inl old
    · obtain rfl := List.mem_singleton.1 new
      right
      have found : b.subscriptions.get? taken = some sub := found
      simp [Broker.backlog, found, backlog]
  | ack x opened member => exact Or.inl ((Ledger.without_sublist _ _).subset held)
  | requeue x nacked opened member => exact Or.inl ((Ledger.without_sublist _ _).subset held)
  | forget x shut member => exact Or.inl ((Ledger.without_sublist _ _).subset held)
  | _ => exact Or.inl held

/-- What a change publishes stands after what was published before. -/
theorem published_change (b : Broker) (c : Change) :
    ∃ new, (b.change c).published = b.published ++ new := by
  have step := b.ledger_change c
  generalize hl : (b.change c).ledger = l at step
  have published : (b.change c).published = l.published := hl ▸ rfl
  rw [published]
  cases step with
  | accept t m opened numbered => exact ⟨[(t, m)], rfl⟩
  | _ => exact ⟨[], (List.append_nil _).symm⟩

/-! ## Runs -/

/-- A change makes a subscription, which has no messages yet. -/
structure Born (b : Broker) (c : Change) (name : String) (sub : Subscription) : Prop where
  absent : b.subscriptions.get? name = none
  made : ∃ sub₀, (b.change c).subscriptions.get? name = some sub₀ ∧ sub₀.topic = sub.topic ∧
    sub₀.creation = sub.creation ∧ sub₀.backlog = []

/-- How a message of a subscription got there in the changes `rest` since the subscription was made
by `c`: it was published to the topic, or it is that of a delivery which someone had from an earlier
subscription of the name, and put back. -/
inductive Origin (b : Broker) (c : Change) (rest : List Change) (name topic : String) (m : Message) :
    Prop where
  | published (new : (topic, m) ∈
      ((b.change c).after rest).published.drop (b.change c).published.length)
  | putBack (h : Held) (held : h ∈ b.held) (subscription : h.subscription = name)
      (message : h.message = m) (back : ∃ c' ∈ rest, c'.PutsBack h.number)

/-- Where the messages of a subscription come from, and those that are held from it. -/
structure Origins (b : Broker) (c : Change) (rest : List Change) (name : String)
    (sub : Subscription) : Prop where
  born : b.Born c name sub
  waiting : ∀ m ∈ sub.backlog, b.Origin c rest name sub.topic m
  held : ∀ h ∈ ((b.change c).after rest).held, h.subscription = name →
    h ∈ b.held ∨ b.Origin c rest name sub.topic h.message

/-- One more change leaves the origin of a message what it is. -/
theorem Origin.snoc {rest : List Change} {topic : String}
    (origin : b.Origin c rest name topic m) (c' : Change) :
    b.Origin c (rest ++ [c']) name topic m := by
  cases origin with
  | published new =>
    obtain ⟨more, grown⟩ := ((b.change c).after rest).published_change c'
    apply Origin.published
    rw [after_snoc, grown]
    have bound : (b.change c).published.length ≤ ((b.change c).after rest).published.length := by
      have some_ := List.length_pos_of_mem new
      rw [List.length_drop] at some_
      omega
    rw [List.drop_append_of_le_length bound]
    exact List.mem_append_left _ new
  | putBack h held subscription message back =>
    obtain ⟨c₀, member, puts⟩ := back
    exact .putBack h held subscription message ⟨c₀, List.mem_append_left _ member, puts⟩

theorem length_published_le (b : Broker) (cs : List Change) :
    b.published.length ≤ (b.after cs).published.length := by
  induction cs using List.reverseRecOn with
  | nil => apply Nat.le_refl
  | append_singleton cs c ih =>
    obtain ⟨new, more⟩ := (b.after cs).published_change c
    rw [after_snoc, more, List.length_append]
    omega

/-- The origins of a subscription's messages are known after one more change if they were before. -/
theorem Origins.snoc {rest : List Change} {sub' : Subscription}
    (origins : b.Origins c rest name sub) (c' : Change)
    (before : ((b.change c).after rest).subscriptions.get? name = some sub)
    (after : ((b.change c).after (rest ++ [c'])).subscriptions.get? name = some sub')
    (topic : sub.topic = sub'.topic) (creation : sub.creation = sub'.creation) :
    b.Origins c (rest ++ [c']) name sub' := by
  have waited {m : Message} (h : m ∈ ((b.change c).after rest).backlog name) :
      b.Origin c (rest ++ [c']) name sub'.topic m := by
    have h : m ∈ sub.backlog := by simpa [backlog, before] using h
    exact topic ▸ (origins.waiting m h).snoc c'
  have held {h : Held} (member : h ∈ ((b.change c).after rest).held)
      (subscription : h.subscription = name) :
      h ∈ b.held ∨ b.Origin c (rest ++ [c']) name sub'.topic h.message := by
    rcases origins.held h member subscription with early | known
    · exact Or.inl early
    · exact Or.inr (topic ▸ known.snoc c')
  obtain ⟨absent, sub₀, made, topic₀, creation₀, empty₀⟩ := origins.born
  refine ⟨⟨absent, sub₀, made, topic₀.trans topic, creation₀.trans creation, empty₀⟩,
    fun m waits => ?_, fun h member subscription => ?_⟩
  · rw [after_snoc] at after
    rcases waiting_change after waits with old | new | ⟨h, member, subscription, rfl, puts⟩
    · exact waited old
    · apply Origin.published
      rw [after_snoc]
      have bound := length_published_le (b.change c) rest
      exact (List.drop_sublist_drop_left _ bound).subset new
    · rcases held member subscription with early | known
      · exact .putBack h early subscription rfl
          ⟨c', List.mem_append_right _ (List.mem_singleton.2 rfl), puts⟩
      · exact known
  · rw [after_snoc] at member
    rcases held_change member with old | taken
    · exact held old subscription
    · exact Or.inr (waited (subscription ▸ taken))

/-- A subscription was made in the run, and the origins of its messages are known since. -/
theorem origins_of_found {cs : List Change}
    (found : (empty.after cs).subscriptions.get? name = some sub) :
    ∃ before c rest, cs = before ++ c :: rest ∧
      (empty.after before).Origins c rest name sub := by
  induction cs using List.reverseRecOn generalizing sub with
  | nil => cases found
  | append_singleton cs c ih =>
    have step := (empty.after cs).ledger_change c
    have after := found
    rw [after_snoc] at found
    rcases step.survives found with ⟨sub₀, before, topic, creation⟩ | ⟨absent, creation, _⟩
    · obtain ⟨first, c₀, rest, rfl, origins⟩ := ih before
      have whole (more : List Change) : empty.after (first ++ c₀ :: more)
          = ((empty.after first).change c₀).after more := by
        rw [after_append, after_cons]
      rw [List.append_assoc, List.cons_append, whole] at after
      rw [ledger, whole] at before
      exact ⟨first, c₀, rest ++ [c], by simp,
        origins.snoc c before after topic creation⟩
    · obtain ⟨nothing, held⟩ := step.born absent found
      refine ⟨cs, c, [], rfl, ⟨absent, sub, found, rfl, rfl, nothing⟩, by simp [nothing], ?_⟩
      intro h member _
      have same : ((empty.after cs).change c).held = (empty.after cs).held := held
      exact Or.inl (same ▸ member)

/-- What waits on a subscription that `c` made, after the changes `rest`. -/
structure BacklogOrigins (b : Broker) (c : Change) (rest : List Change) (name : String)
    (sub : Subscription) : Prop where
  born : b.Born c name sub
  origin : ∀ m ∈ sub.backlog, b.Origin c rest name sub.topic m
  /-- While no delivery of an earlier subscription of the name is put back, all messages are own. -/
  own : (∀ h ∈ b.held, h.subscription = name → ∀ c' ∈ rest, ¬ c'.PutsBack h.number) →
    ∀ m ∈ sub.backlog, (sub.topic, m) ∈
      ((b.change c).after rest).published.drop (b.change c).published.length

/-- **Where the messages of a backlog come from**: wherever a run leads, every message that waits
on a subscription was published to the subscription's topic since the subscription was made, or is
that of a delivery which was taken from an earlier subscription of the name and put back since. -/
theorem backlog_origins {cs : List Change}
    (found : (empty.after cs).subscriptions.get? name = some sub) :
    ∃ before c rest, cs = before ++ c :: rest ∧
      (empty.after before).BacklogOrigins c rest name sub := by
  obtain ⟨before, c, rest, split, born, waiting, _⟩ := origins_of_found found
  refine ⟨before, c, rest, split, born, waiting, fun quiet m waits => ?_⟩
  cases waiting m waits with
  | published new => exact new
  | putBack h held subscription message back =>
    obtain ⟨c', member, puts⟩ := back
    exact absurd puts (quiet h held subscription c' member)

/-- A letter is taken from a subscription, which is deleted and made again on another topic; then
the letter is put back, and a number is published. -/
def recreated : List Change :=
  [.perform .epoch (.createTopic "letters"), .perform .epoch (.createTopic "numbers"),
    .perform .epoch (.createSubscription "letters" "reader" (.ofSecs 10)),
    .perform .epoch (.publish "letters" ⟨Text.toBytes "a", Dictionary.empty⟩),
    .perform .epoch (.receive "letters" "reader"), .poll 0,
    .perform .epoch (.deleteSubscription "reader"),
    .perform .epoch (.createSubscription "numbers" "reader" (.ofSecs 10)), .nack 0,
    .perform .epoch (.publish "numbers" ⟨Text.toBytes "1", Dictionary.empty⟩)]

/-- The subscription made again, with the letter and the number. -/
def readerOfNumbers : Subscription :=
  ⟨"numbers", .ofSecs 10, [⟨"1", Text.toBytes "a", Dictionary.empty, .epoch⟩,
    ⟨"2", Text.toBytes "1", Dictionary.empty, .epoch⟩], 1⟩

theorem backlog_origins_recreated :
    (empty.after recreated).subscriptions.get? "reader" = some readerOfNumbers ∧
      ∃ before c rest, recreated = before ++ c :: rest ∧
        (empty.after before).BacklogOrigins c rest "reader" readerOfNumbers :=
  ⟨by decide +kernel, backlog_origins (by decide +kernel)⟩

/-- A message may wait on a subscription to whose topic it was never published. -/
theorem foreign_message_waits :
    ¬ ∀ (cs : List Change) (name : String) (sub : Subscription) (m : Message),
      (empty.after cs).subscriptions.get? name = some sub → m ∈ sub.backlog →
        ∃ before c rest, cs = before ++ c :: rest ∧ (empty.after before).Born c name sub ∧
          (sub.topic, m) ∈ (((empty.after before).change c).after rest).published.drop
            ((empty.after before).change c).published.length := by
  intro all
  obtain ⟨before, c, rest, split, _, own⟩ := all recreated "reader" readerOfNumbers
    ⟨"1", Text.toBytes "a", Dictionary.empty, .epoch⟩ (by decide +kernel) (by decide +kernel)
  have published := List.mem_of_mem_drop own
  rw [← after_cons, ← after_append, ← split] at published
  revert published
  decide +kernel

end Broker

end MessageChannels
