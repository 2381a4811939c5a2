import MessageChannels.Broker

/-!
# The ledger of a broker

The ledger is the part of a broker that says where its messages are: queued on a subscription, held
by a delivery, or acknowledged. A `Broker.Change` is whatever can happen to a broker at one moment;
`ledger_change` says that each of them is one of nine steps of the ledger, and `Ledger.Step` says
all that such a step does. Facts about where messages go are proved of these steps.
-/

set_option autoImplicit false

namespace MessageChannels

/-- The subscription with a message at the end of its backlog. -/
def Subscription.append (s : Subscription) (m : Message) : Subscription :=
  { s with backlog := s.backlog ++ [m] }

/-- The subscription after a message was accepted on a topic. -/
def Subscription.deposit (t : String) (m : Message) (s : Subscription) : Subscription :=
  if s.topic = t then s.append m else s

/-- Subscriptions with a message queued on the one of a name, if there is one. -/
def queued (subs : Dictionary Subscription) (name : String) (m : Message) : Dictionary Subscription :=
  match subs.get? name with
  | none => subs
  | some s => subs.insert name (s.append m)

theorem get?_queued (subs : Dictionary Subscription) (name : String) (m : Message) (other : String) :
    (queued subs name m).get? other
      = if other = name then (subs.get? name).map (·.append m) else subs.get? other := by
  unfold queued
  cases hs : subs.get? name with
  | none =>
    by_cases h : other = name
    · simp [h, hs]
    · simp [h]
  | some s => simp [Dictionary.get?_insert]

/-- Where the messages of a broker are. -/
structure Ledger where
  closed : Bool
  subscriptions : Dictionary Subscription
  published : List (String × Message)
  acked : List Held
  nacked : List Held
  held : List Held
  taken : Nat
  creations : Nat

namespace Ledger

/-- The held deliveries without the one of a number. -/
def without (held : List Held) (number : Nat) : List Held :=
  held.filter fun h => h.number ≠ number

/-- What one change of a broker does to its ledger. -/
inductive Step (l : Ledger) : Ledger → Prop where
  | stay : Step l l
  | close : Step l { l with closed := true }
  | create (name t : String) (deadline : Span) (opened : l.closed = false)
      (fresh : l.subscriptions.get? name = none) :
      Step l { l with
        subscriptions := l.subscriptions.insert name ⟨t, deadline, [], l.creations⟩
        creations := l.creations + 1 }
  | delete (name : String) (opened : l.closed = false) :
      Step l { l with subscriptions := l.subscriptions.erase name }
  | accept (t : String) (m : Message) (opened : l.closed = false)
      (numbered : m.id = toString (l.published.length + 1)) :
      Step l { l with
        subscriptions := l.subscriptions.map (·.deposit t m)
        published := l.published ++ [(t, m)] }
  | deliver (name : String) (s : Subscription) (m : Message) (rest : List Message)
      (opened : l.closed = false) (found : l.subscriptions.get? name = some s)
      (first : s.backlog = m :: rest) :
      Step l { l with
        subscriptions := l.subscriptions.insert name { s with backlog := rest }
        held := l.held ++ [⟨l.taken, name, m⟩]
        taken := l.taken + 1 }
  | ack (h : Held) (opened : l.closed = false) (member : h ∈ l.held) :
      Step l { l with held := without l.held h.number, acked := l.acked ++ [h] }
  | requeue (h : Held) (nacked : List Held) (opened : l.closed = false)
      (member : h ∈ l.held) :
      Step l { l with
        held := without l.held h.number
        nacked := l.nacked ++ nacked
        subscriptions := queued l.subscriptions h.subscription h.message }
  | forget (h : Held) (shut : l.closed = true) (member : h ∈ l.held) :
      Step l { l with held := without l.held h.number }

end Ledger

namespace Broker

/-- Where the messages of a broker are. -/
def ledger (b : Broker) : Ledger :=
  ⟨b.closed, b.subscriptions, b.published, b.acked, b.nacked, b.held, b.taken, b.creations⟩

/-- What can happen to a broker at one moment. -/
inductive Change where
  | perform (now : Timestamp) (request : Request)
  | failNext (topic : String) (e : TransportError)
  | poll (stream : Nat)
  | dropStream (stream : Nat)
  | ack (delivery : Nat)
  | nack (delivery : Nat)
  | release (delivery : Nat)

/-- The broker after a change. -/
def change (b : Broker) : Change → Broker
  | .perform now r => (b.perform now r).1
  | .failNext t e => b.failNextPublish t e
  | .poll n => (b.pollStream n).1
  | .dropStream n => b.dropStream n
  | .ack n => b.ack n
  | .nack n => b.nack n
  | .release n => b.release n

/-- The broker after changes, one after the other. -/
def after (b : Broker) (cs : List Change) : Broker := cs.foldl change b

/-! ## Queueing and accepting -/

theorem ledger_announce (b : Broker) (n : Nat) : (b.announce n).ledger = b.ledger := rfl

theorem ledger_enqueue (b : Broker) (name : String) (m : Message) :
    (b.enqueue name m).ledger
      = { b.ledger with subscriptions := queued b.subscriptions name m } := by
  unfold enqueue queued
  cases hs : b.subscriptions.get? name with
  | none => simp [ledger]
  | some s => rfl

/-- Queueing a message on several subscriptions, each once. -/
theorem foldl_enqueue (m : Message) (names : List String) (b : Broker) (once : names.Nodup) :
    let b' := names.foldl (fun b name => b.enqueue name m) b
    b'.ledger = { b.ledger with subscriptions := b'.subscriptions } ∧
      ∀ name, b'.subscriptions.get? name
        = if name ∈ names then (b.subscriptions.get? name).map (·.append m)
          else b.subscriptions.get? name := by
  induction names generalizing b with
  | nil => exact ⟨rfl, fun name => by simp⟩
  | cons first names ih =>
    obtain ⟨hnew, hnodup⟩ := List.nodup_cons.1 once
    obtain ⟨hledger, hget⟩ := ih (b.enqueue first m) hnodup
    have hq : (b.enqueue first m).subscriptions = queued b.subscriptions first m :=
      congrArg Ledger.subscriptions (ledger_enqueue b first m)
    constructor
    · rw [List.foldl_cons, hledger, ledger_enqueue]
    · intro name
      rw [List.foldl_cons, hget name, hq, get?_queued]
      by_cases hn : name = first
      · subst hn
        simp [hnew]
      · simp [hn]

theorem mem_subscribers (b : Broker) (t name : String) :
    name ∈ b.subscribers t ↔ ∃ s, b.subscriptions.get? name = some s ∧ s.topic = t := by
  simp only [subscribers, List.mem_map, List.mem_filter, Prod.exists, decide_eq_true_eq,
    Dictionary.mem_entries_iff]
  exact ⟨fun ⟨_, s, h, e⟩ => ⟨s, e ▸ h⟩, fun ⟨s, h⟩ => ⟨name, s, h, rfl⟩⟩

theorem nodup_subscribers (b : Broker) (t : String) : (b.subscribers t).Nodup := by
  refine List.pairwise_map.2 ((b.subscriptions.sorted.filter _).imp ?_)
  intro x y hlt heq
  exact String.lt_irrefl x.1 (heq ▸ hlt)

theorem ledger_accept (b : Broker) (t : String) (m : Message) :
    (b.accept t m).ledger
      = { b.ledger with
          subscriptions := b.subscriptions.map (·.deposit t m)
          published := b.published ++ [(t, m)] } := by
  obtain ⟨hledger, hget⟩ := foldl_enqueue m (b.subscribers t) b (b.nodup_subscribers t)
  have hsubs : ((b.subscribers t).foldl (fun b name => b.enqueue name m) b).subscriptions
      = b.subscriptions.map (·.deposit t m) := by
    apply Dictionary.ext_get?
    intro name
    rw [hget name, Dictionary.get?_map]
    by_cases hn : name ∈ b.subscribers t
    · obtain ⟨s, hs, ht⟩ := (b.mem_subscribers t name).1 hn
      simp [hn, hs, Subscription.deposit, ht]
    · cases hs : b.subscriptions.get? name with
      | none => simp
      | some s =>
        have ht : s.topic ≠ t := fun e => hn ((b.mem_subscribers t name).2 ⟨s, hs, e⟩)
        simp [hn, Subscription.deposit, ht]
  have hpub := congrArg Ledger.published hledger
  show ({ (((b.subscribers t).foldl (fun b name => b.enqueue name m) b).ledger) with
    published := _ } : Ledger) = _
  simp only [accept] at hpub ⊢
  rw [hledger, hsubs]
  simp only [ledger] at hpub ⊢
  rw [hpub]

/-! ## Every change is a step of the ledger -/

theorem held?_eq_some {b : Broker} {n : Nat} {h : Held} (found : b.held? n = some h) :
    h ∈ b.held ∧ h.number = n :=
  ⟨List.mem_of_find?_eq_some found, by simpa using List.find?_some found⟩

/-- Looking at a stream shows no delivery and changes nothing in the ledger, or takes the first
message of a backlog. -/
theorem pollStream_cases (b : Broker) (n : Nat) :
    ((∀ d, (b.pollStream n).2 ≠ .delivered d) ∧ (b.pollStream n).1.ledger = b.ledger) ∨
      ∃ name s m rest, b.closed = false ∧ b.subscriptions.get? name = some s ∧
        s.backlog = m :: rest ∧
        b.pollStream n =
          ({ b with
              subscriptions := b.subscriptions.insert name { s with backlog := rest }
              held := b.held ++ [⟨b.taken, name, m⟩]
              taken := b.taken + 1 }, .delivered ⟨m, .held b.taken⟩) := by
  unfold pollStream
  split
  · exact Or.inl ⟨by simp, rfl⟩
  · rename_i stream _
    split
    · exact Or.inl ⟨by simp, rfl⟩
    · split
      · exact Or.inl ⟨by simp, rfl⟩
      · unfold look
        split
        · exact Or.inl ⟨by simp, rfl⟩
        · rename_i opened
          split
          · exact Or.inl ⟨by simp, rfl⟩
          · rename_i s found
            split
            · rename_i m rest first
              exact Or.inr ⟨stream.subscription, s, m, rest, by simpa using opened, found, first,
                rfl⟩
            · exact Or.inl ⟨by simp, rfl⟩

theorem ledger_pollStream (b : Broker) (n : Nat) :
    Ledger.Step b.ledger (b.pollStream n).1.ledger := by
  rcases b.pollStream_cases n with ⟨_, same⟩ | ⟨name, s, m, rest, opened, found, first, heq⟩
  · rw [same]
    exact .stay
  · rw [heq]
    exact .deliver name s m rest opened found first

theorem ledger_ack (b : Broker) (n : Nat) : Ledger.Step b.ledger (b.ack n).ledger := by
  unfold ack
  split
  · exact .stay
  · rename_i h found
    obtain ⟨member, rfl⟩ := held?_eq_some found
    dsimp only
    split
    · rename_i shut
      exact .forget h shut member
    · rename_i opened
      exact .ack h (by simpa [ledger, unhold] using opened) member

theorem ledger_nack (b : Broker) (n : Nat) : Ledger.Step b.ledger (b.nack n).ledger := by
  unfold nack
  split
  · exact .stay
  · rename_i h found
    obtain ⟨member, rfl⟩ := held?_eq_some found
    dsimp only
    split
    · rename_i shut
      exact .forget h shut member
    · rename_i opened
      rw [ledger_enqueue]
      exact .requeue h [h] (by simpa [ledger, unhold] using opened) member

theorem ledger_release (b : Broker) (n : Nat) : Ledger.Step b.ledger (b.release n).ledger := by
  unfold release
  split
  · exact .stay
  · rename_i h found
    obtain ⟨member, rfl⟩ := held?_eq_some found
    dsimp only
    split
    · rename_i shut
      exact .forget h shut member
    · rename_i opened
      rw [ledger_enqueue]
      have step := Ledger.Step.requeue (l := b.ledger) h [] (by simpa [ledger, unhold] using opened) member
      simpa [ledger, unhold, Ledger.without] using step

/-- Closing is announced to every subscription, which moves no message. -/
theorem ledger_close (b : Broker) : b.close.ledger = { b.ledger with closed := true } := by
  have announced (cs : List Nat) (b : Broker) : (cs.foldl announce b).ledger = b.ledger := by
    induction cs generalizing b with
    | nil => rfl
    | cons c cs ih => rw [List.foldl_cons, ih, ledger_announce]
  exact announced _ _

theorem ledger_perform (b : Broker) (now : Timestamp) (r : Request) :
    Ledger.Step b.ledger (b.perform now r).1.ledger := by
  unfold perform
  split
  · exact .stay
  · rename_i shut
    have opened : b.ledger.closed = false := by simpa [ledger] using shut
    cases r with
    | topicExists t => exact .stay
    | createTopic t => dsimp only; split <;> exact .stay
    | deleteTopic t => dsimp only; split <;> exact .stay
    | subscriptionExists name => exact .stay
    | createSubscription t name deadline =>
      dsimp only
      split
      · exact .stay
      · split
        · exact .stay
        · rename_i absent
          have fresh : b.subscriptions.get? name = none := by
            simpa [hasSubscription, Dictionary.contains] using absent
          exact .create name t deadline opened fresh
    | deleteSubscription name =>
      dsimp only
      split
      · exact .delete name opened
      · exact .stay
    | publish t m =>
      dsimp only [publish]
      split
      · exact .stay
      · split
        · rw [ledger_accept]
          exact .accept t (b.stamped now m) opened rfl
        · exact .stay
    | receive t name =>
      dsimp only [openStream]
      split
      · split <;> exact .stay
      · exact .stay
    | close =>
      show Ledger.Step b.ledger b.close.ledger
      rw [ledger_close]
      exact .close

/-- A request that neither publishes nor closes changes topics, subscriptions and streams only. -/
theorem perform_elsewhere (b : Broker) (now : Timestamp) {request : Request}
    (silent : ∀ t m, request ≠ .publish t m) (goesOn : request ≠ .close) :
    ∃ topics subscriptions streams opened parked creations,
      (b.perform now request).1 = { b with
        topics := topics, subscriptions := subscriptions, streams := streams, opened := opened,
        parked := parked, creations := creations } := by
  unfold perform
  split
  · exact ⟨_, _, _, _, _, _, rfl⟩
  · cases request with
    | topicExists t => exact ⟨_, _, _, _, _, _, rfl⟩
    | createTopic t =>
      dsimp only
      split
      · exact ⟨_, _, _, _, _, _, rfl⟩
      · exact ⟨_, _, _, _, _, _, rfl⟩
    | deleteTopic t =>
      dsimp only
      split
      · exact ⟨_, _, _, _, _, _, rfl⟩
      · exact ⟨_, _, _, _, _, _, rfl⟩
    | subscriptionExists name => exact ⟨_, _, _, _, _, _, rfl⟩
    | createSubscription t name deadline =>
      dsimp only
      split
      · exact ⟨_, _, _, _, _, _, rfl⟩
      · split
        · exact ⟨_, _, _, _, _, _, rfl⟩
        · exact ⟨_, _, _, _, _, _, rfl⟩
    | deleteSubscription name =>
      dsimp only
      split
      · exact ⟨_, _, _, _, _, _, rfl⟩
      · exact ⟨_, _, _, _, _, _, rfl⟩
    | publish t m => exact absurd rfl (silent t m)
    | receive t name =>
      dsimp only [openStream]
      split
      · split
        · exact ⟨_, _, _, _, _, _, rfl⟩
        · exact ⟨_, _, _, _, _, _, rfl⟩
      · exact ⟨_, _, _, _, _, _, rfl⟩
    | close => exact absurd rfl goesOn

/-- Every change of a broker is one step of its ledger. -/
theorem ledger_change (b : Broker) (c : Change) : Ledger.Step b.ledger (b.change c).ledger := by
  cases c with
  | perform now r => exact b.ledger_perform now r
  | failNext t e => exact .stay
  | poll n => exact b.ledger_pollStream n
  | dropStream n => exact .stay
  | ack n => exact b.ledger_ack n
  | nack n => exact b.ledger_nack n
  | release n => exact b.ledger_release n

end Broker

end MessageChannels
