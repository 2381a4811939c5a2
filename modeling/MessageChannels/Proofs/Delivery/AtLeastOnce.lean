import Mathlib.Logic.ExistsUnique
import MessageChannels.Proofs.Delivery.Owner

/-!
# Deliveries are conserved

A message that was published to the topic of a subscription waits there, is in someone's hands, or
was acknowledged, and it is in one place only, the message that was published. The subscription has
to last and the broker to be open; the run may do anything else.
-/

set_option autoImplicit false

namespace MessageChannels

namespace Broker

/-- The messages of an identifier that wait on a subscription. -/
def waitingFor (b : Broker) (name id : String) : List Message :=
  (b.backlog name).filter fun m => m.id = id

/-- The deliveries of a message that were taken from a subscription and are not settled. -/
def heldFor (b : Broker) (name id : String) : List Held :=
  b.held.filter fun h => h.subscription = name ∧ h.message.id = id

/-- The deliveries of a message that were acknowledged through a subscription. -/
def ackedFor (b : Broker) (name id : String) : List Held :=
  b.acked.filter fun h => h.subscription = name ∧ h.message.id = id

end Broker

namespace System

variable {s : System} {name : String} {sub : Subscription} {m : Message} {es : List Event}

/-- A message is in one place of a subscription, unaltered: it waits, or is held by one delivery
that is in the hands of one owner, or was acknowledged once. -/
inductive InOnePlace (s : System) (outside : List Nat) (name : String) (m : Message) : Prop where
  | waiting (here : s.broker.waitingFor name m.id = [m]) (held : s.broker.heldFor name m.id = [])
      (acked : s.broker.ackedFor name m.id = [])
  | inHand (n : Nat) (waiting : s.broker.waitingFor name m.id = [])
      (here : s.broker.heldFor name m.id = [⟨n, name, m⟩])
      (acked : s.broker.ackedFor name m.id = []) (owner : n ∈ outside ∨ ∃! a, s.Holds a n)
  | acked (n : Nat) (waiting : s.broker.waitingFor name m.id = [])
      (held : s.broker.heldFor name m.id = [])
      (here : s.broker.ackedFor name m.id = [⟨n, name, m⟩])

/-- A subscription that is there at every point of a run is the same one at its end. -/
theorem survives_run (reachable : s.Reachable)
    (found : s.broker.subscriptions.get? name = some sub)
    (lasting : ∀ k, (s.after (es.take k)).broker.hasSubscription name = true) :
    ∃ sub', (s.after es).broker.subscriptions.get? name = some sub' ∧ sub'.topic = sub.topic ∧
      sub'.creation = sub.creation := by
  induction es generalizing s sub with
  | nil => exact ⟨sub, found, rfl, rfl⟩
  | cons e es ih =>
    have before := lasting 0
    have next := lasting 1
    obtain ⟨sub₁, h₁⟩ : ∃ sub₁, (s.step e).broker.subscriptions.get? name = some sub₁ := by
      have : ((s.step e).broker.subscriptions.get? name).isSome = true := next
      exact Option.isSome_iff_exists.1 this
    obtain ⟨sub₀, h₀, ht, hc⟩ := survives_step reachable before h₁
    obtain rfl : sub = sub₀ := Option.some.inj (found.symm.trans h₀)
    obtain ⟨sub', h', ht', hc'⟩ := ih (reachable.step e) h₁ fun k => lasting (k + 1)
    exact ⟨sub', h', ht'.trans ht.symm, hc'.trans hc.symm⟩

theorem filter_eq_singleton {ms : List Message} (once : (ms.map Message.id).Nodup) (member : m ∈ ms) :
    (ms.filter fun x => x.id = m.id) = [m] := by
  induction ms with
  | nil => cases member
  | cons first rest ih =>
    obtain ⟨hnew, hrest⟩ := List.nodup_cons.1 once
    rcases List.mem_cons.1 member with rfl | later
    · have hnone : (rest.filter fun x => x.id = m.id) = [] := by
        apply List.filter_eq_nil_iff.2
        intro x hx
        have hne : x.id ≠ m.id := fun heq => hnew (heq ▸ List.mem_map_of_mem hx)
        simpa using hne
      simp [hnone]
    · have hne : first.id ≠ m.id := fun heq => hnew (heq ▸ List.mem_map_of_mem later)
      simp [hne, ih hrest later]

/-- A message that a subscription has anywhere is in one place. -/
theorem inOnePlace {outside : List Nat} (sound : s.broker.ledger.Sound) (owned : s.Owned outside)
    (member : m ∈ s.broker.ledger.whereabouts name) : s.InOnePlace outside name m := by
  have deliveries (held : List Held) :
      (Ledger.messagesOn held name).filter (fun x => x.id = m.id)
        = (held.filter fun h => h.subscription = name ∧ h.message.id = m.id).map Held.message := by
    simp only [Ledger.messagesOn, List.filter_map, List.filter_filter]
    congr 1
    apply List.filter_congr
    intro h _
    simp [Bool.and_comm]
  have all : s.broker.waitingFor name m.id ++ (s.broker.heldFor name m.id).map Held.message
      ++ (s.broker.ackedFor name m.id).map Held.message = [m] := by
    rw [← filter_eq_singleton (sound.once name) member, Ledger.whereabouts, List.filter_append,
      List.filter_append, deliveries, deliveries]
    rfl
  -- One delivery of the message, taken from the subscription.
  have single (held : List Held)
      (h : (held.filter fun h => h.subscription = name ∧ h.message.id = m.id).map Held.message
        = [m]) : ∃ n, (⟨n, name, m⟩ : Held) ∈ held ∧
      (held.filter fun h => h.subscription = name ∧ h.message.id = m.id) = [⟨n, name, m⟩] := by
    obtain ⟨x, hx, rfl⟩ := List.map_eq_singleton_iff.1 h
    have hmem : x ∈ held.filter _ := hx ▸ List.mem_singleton.2 rfl
    obtain ⟨hin, hname⟩ := List.mem_filter.1 hmem
    simp only [decide_eq_true_eq] at hname
    obtain ⟨rfl, _⟩ := hname
    exact ⟨x.number, hin, hx⟩
  rcases List.append_eq_singleton_iff.1 all with ⟨hfirst, hacked⟩ | ⟨hfirst, hacked⟩
  · rw [List.append_eq_nil_iff, List.map_eq_nil_iff] at hfirst
    obtain ⟨n, _, hn⟩ := single _ hacked
    exact .acked n hfirst.1 hfirst.2 hn
  · rw [List.map_eq_nil_iff] at hacked
    rcases List.append_eq_singleton_iff.1 hfirst with ⟨hwaiting, hheld⟩ | ⟨hwaiting, hheld⟩
    · obtain ⟨n, hin, hn⟩ := single _ hheld
      refine .inHand n hwaiting hn hacked ?_
      rcases owned.in_hand _ hin with out | ⟨a, ha⟩
      · exact Or.inl out
      · refine Or.inr ⟨a, ha, fun b hb => ?_⟩
        obtain ⟨m₀, hm₀⟩ := ha.1
        obtain ⟨m₁, hm₁⟩ := hb.1
        exact owned.number_once b a _ _ _ hm₁ hm₀
    · rw [List.map_eq_nil_iff] at hheld
      exact .waiting hwaiting hheld hacked

/-- **Deliveries are conserved**: while a subscription lasts and the broker is open, every message
that was published to its topic since the subscription was there is in one place of it, whatever
was done with its deliveries. -/
theorem inOnePlace_of_published (now : Timestamp) (fs es : List Event) (name : String)
    (sub : Subscription) (m : Message)
    (found : ((start now).after fs).broker.subscriptions.get? name = some sub)
    (lasting : ∀ k, ((start now).after (fs ++ es.take k)).broker.hasSubscription name = true)
    (opened : ((start now).after (fs ++ es)).broker.closed = false)
    (published : (sub.topic, m) ∈ ((start now).after (fs ++ es)).broker.published.drop
      ((start now).after fs).broker.published.length) :
    ((start now).after (fs ++ es)).InOnePlace ((start now).outsiders (fs ++ es)) name m := by
  simp only [after_append] at lasting opened published
  have reachable : ((start now).after fs).Reachable := ⟨now, fs, rfl⟩
  obtain ⟨sub', found', htopic, hcreation⟩ := survives_run reachable found lasting
  have old := reachable.sound.creation_lt name sub found
  obtain ⟨cs, hcs⟩ := broker_after ((start now).after fs) es
  rw [hcs] at opened published found'
  obtain ⟨new, hnew, hperm⟩ := Broker.whereabouts_after reachable.sound opened found'
    (hcreation ▸ old)
  rw [hnew, List.drop_left] at published
  have sound : ((start now).after (fs ++ es)).broker.ledger.Sound := Reachable.sound ⟨now, _, rfl⟩
  apply inOnePlace sound (owned_after now _)
  rw [after_append, hcs]
  refine hperm.mem_iff.2 (List.mem_append_right _ ?_)
  refine List.mem_map.2 ⟨(sub.topic, m), List.mem_filter.2 ⟨published, ?_⟩, rfl⟩
  simp [htopic]

/-- An event is published and received; its handler panics, the message is delivered again, and the
loop is given up while it waits for a permit. -/
def redelivery : List Event :=
  [.begin 0 (.publish "orders" "made" (.ok .null)), .serve 0, .begin 0 (.receive "orders" 0),
    .serve 1, .turn 1, .turn 1, .release 0, .handlerEnded 1 0 true, .turn 1, .turn 1, .abandon 1]

theorem inOnePlace_redelivery :
    ((start .epoch).after (ordersSetting ++ redelivery)).InOnePlace [] "orders-sub"
      ⟨"1", Text.toBytes "null", Dictionary.empty.insert "event" "made", .epoch⟩ := by
  have lasting (k : Nat) : ((start .epoch).after
      (ordersSetting ++ redelivery.take k)).broker.hasSubscription "orders-sub" = true := by
    rcases Nat.lt_or_ge k redelivery.length with short | long
    · revert k
      decide +kernel
    · rw [List.take_of_length_le long]
      decide +kernel
  exact inOnePlace_of_published .epoch ordersSetting redelivery "orders-sub"
    ⟨"orders-topic", .ofSecs 10, [], 0⟩ _ (by decide +kernel) lasting (by decide +kernel)
    (by decide +kernel)

end System

end MessageChannels
