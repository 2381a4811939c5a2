import Mathlib.Data.List.Induction
import MessageChannels.Proofs.Broker.Delivery

/-!
# What wakes a stream

A stream that finds nothing is parked on the creation of the subscription that it was opened on, and
news of that creation wakes it. `audience_change` says once what a change does to those who listen:
a parked stream that a change does not wake finds its subscription as it was. So a stream sleeps
only while its subscription has nothing for it (`wakeful`), with one exception: the name of the
subscription may be given to another one while the stream is open. A stream that then looks finds
the later subscription but is parked on the earlier one, and sleeps through the news of the later one
and through the closing of the broker (`stream_sleeps_on`).
-/

set_option autoImplicit false

namespace MessageChannels

/-- Who listens to a broker, and to what. -/
structure Audience where
  closed : Bool
  subscriptions : Dictionary Subscription
  streams : List Stream
  opened : Nat
  parked : List Parked

namespace Audience

/-- What one change of a broker does to its audience. -/
inductive Step (a : Audience) : Audience → Prop where
  /-- There is news, or there is none. Whoever sleeps on is parked on a creation that is none of the
  broker's, or finds that nothing has changed. -/
  | news (closed : Bool) (subscriptions : Dictionary Subscription) (parked : List Parked)
      (asleep : ∀ p ∈ parked, p ∈ a.parked)
      (unheard : ∀ p ∈ parked, ∀ name sub, a.subscriptions.get? name = some sub →
        sub.creation = p.creation → closed = a.closed ∧ subscriptions.get? name = some sub) :
      Step a { a with closed, subscriptions, parked }
  | opened (name : String) (sub : Subscription) (found : a.subscriptions.get? name = some sub) :
      Step a { a with
        streams := a.streams ++ [⟨a.opened, name, sub.creation, false⟩]
        opened := a.opened + 1 }
  /-- A stream that is awake takes the first message of a backlog. -/
  | took (name : String) (sub : Subscription) (m : Message) (rest : List Message)
      (found : a.subscriptions.get? name = some sub) (first : sub.backlog = m :: rest) :
      Step a { a with
        subscriptions := a.subscriptions.insert name { sub with backlog := rest } }
  /-- A stream that is awake finds nothing. -/
  | slept (s : Stream) (sub : Subscription) (member : s ∈ a.streams) (going : s.ended = false)
      (opened : a.closed = false) (found : a.subscriptions.get? s.subscription = some sub)
      (nothing : sub.backlog = []) :
      Step a { a with parked := a.parked ++ [⟨s.number, s.creation⟩] }
  | ended (number : Nat) (awake : ∀ p ∈ a.parked, p.stream ≠ number) :
      Step a { a with
        streams := a.streams.map fun s => if s.number = number then { s with ended := true } else s }
  | dropped (number : Nat) :
      Step a { a with
        streams := a.streams.filter fun s => s.number ≠ number
        parked := a.parked.filter fun p => p.stream ≠ number }

theorem Step.stay (a : Audience) : Step a a :=
  .news a.closed a.subscriptions a.parked (fun _ h => h) (fun _ _ _ _ found _ => ⟨rfl, found⟩)

/-- A stream that sleeps on while there is nothing for it has nothing after a change either. -/
theorem Step.still {a a' : Audience} (step : a.Step a') {p : Parked}
    (parked : p ∈ a'.parked) {name : String} {sub : Subscription}
    (opened : a.closed = false) (found : a.subscriptions.get? name = some sub)
    (creation : sub.creation = p.creation) (nothing : sub.backlog = []) :
    a'.closed = false ∧ a'.subscriptions.get? name = some sub := by
  cases step with
  | news closed subscriptions sleepers _ unheard =>
    obtain ⟨same, found'⟩ := unheard p parked name sub found creation
    exact ⟨same.trans opened, found'⟩
  | took other sub₀ m rest found₀ first =>
    refine ⟨opened, ?_⟩
    show (a.subscriptions.insert other _).get? name = some sub
    rw [Dictionary.get?_insert]
    split
    · rename_i named
      subst named
      cases found₀.symm.trans found
      cases nothing.symm.trans first
    · exact found
  | _ => exact ⟨opened, found⟩

end Audience

namespace Broker

/-- Who listens to a broker, and to what. -/
def audience (b : Broker) : Audience := ⟨b.closed, b.subscriptions, b.streams, b.opened, b.parked⟩

variable {b : Broker} {c : Change} {cs : List Change} {s : Stream}

/-! ## News -/

theorem mem_parked_announce {b : Broker} {creation : Nat} {p : Parked} :
    p ∈ (b.announce creation).parked ↔ p ∈ b.parked ∧ p.creation ≠ creation := by
  simp [announce]

/-- Queueing a message is news of the subscription that it is queued on, and of no other. -/
theorem audience_enqueue (b : Broker) (name : String) (m : Message) :
    ∃ subs parked, (b.enqueue name m).audience = { b.audience with subscriptions := subs, parked } ∧
      (∀ p ∈ parked, p ∈ b.parked) ∧
      ∀ p ∈ parked, ∀ other sub, b.subscriptions.get? other = some sub →
        sub.creation = p.creation → subs.get? other = some sub := by
  unfold enqueue
  split
  · exact ⟨_, _, rfl, fun _ h => h, fun _ _ _ _ h _ => h⟩
  · rename_i s found
    refine ⟨_, _, rfl, ?_, ?_⟩
    · intro p h
      exact (mem_parked_announce.1 h).1
    · intro p h other sub before same
      show (b.subscriptions.insert name { s with backlog := s.backlog ++ [m] }).get? other = some sub
      rw [Dictionary.get?_insert]
      split
      · rename_i named
        subst named
        cases found.symm.trans before
        exact absurd same.symm (mem_parked_announce.1 h).2
      · exact before

/-- So is queueing a message on several subscriptions. -/
theorem audience_foldl_enqueue (m : Message) (names : List String) (b : Broker) :
    ∃ subs parked, (names.foldl (fun b name => b.enqueue name m) b).audience
        = { b.audience with subscriptions := subs, parked } ∧
      (∀ p ∈ parked, p ∈ b.parked) ∧
      ∀ p ∈ parked, ∀ other sub, b.subscriptions.get? other = some sub →
        sub.creation = p.creation → subs.get? other = some sub := by
  induction names generalizing b with
  | nil => exact ⟨_, _, rfl, fun _ h => h, fun _ _ _ _ h _ => h⟩
  | cons first names ih =>
    obtain ⟨subs₁, parked₁, heq₁, asleep₁, unheard₁⟩ := b.audience_enqueue first m
    obtain ⟨subs₂, parked₂, heq₂, asleep₂, unheard₂⟩ := ih (b.enqueue first m)
    have hsubs : (b.enqueue first m).subscriptions = subs₁ := congrArg Audience.subscriptions heq₁
    have hparked : (b.enqueue first m).parked = parked₁ := congrArg Audience.parked heq₁
    rw [hparked] at asleep₂
    rw [hsubs] at unheard₂
    refine ⟨subs₂, parked₂, ?_, ?_, ?_⟩
    · rw [List.foldl_cons, heq₂, heq₁]
    · intro p h
      exact asleep₁ p (asleep₂ p h)
    · intro p h other sub before same
      exact unheard₂ p h other sub (unheard₁ p (asleep₂ p h) other sub before same) same

theorem audience_foldl_announce (creations : List Nat) (b : Broker) :
    ∃ parked, (creations.foldl announce b).audience = { b.audience with parked } ∧
      ∀ p ∈ parked, p ∈ b.parked ∧ p.creation ∉ creations := by
  induction creations generalizing b with
  | nil => exact ⟨_, rfl, fun p h => ⟨h, List.not_mem_nil⟩⟩
  | cons first creations ih =>
    obtain ⟨parked, heq, asleep⟩ := ih (b.announce first)
    refine ⟨parked, heq, ?_⟩
    intro p h
    obtain ⟨before, others⟩ := asleep p h
    obtain ⟨before, other⟩ := mem_parked_announce.1 before
    refine ⟨before, ?_⟩
    intro mem
    rcases List.mem_cons.1 mem with same | mem
    · exact other same
    · exact others mem

/-- Closing a broker is news of every subscription that it has. -/
theorem audience_close (b : Broker) : Audience.Step b.audience b.close.audience := by
  obtain ⟨parked, heq, asleep⟩ := audience_foldl_announce
    (b.subscriptions.values.map Subscription.creation) { b with closed := true }
  rw [close, heq]
  refine .news true b.subscriptions parked (fun p h => (asleep p h).1) ?_
  intro p h name sub found same
  refine absurd ?_ (asleep p h).2
  exact List.mem_map.2 ⟨sub, (Dictionary.mem_values_iff _ _).2 ⟨name, found⟩, same⟩

theorem audience_accept (b : Broker) (t : String) (m : Message) :
    Audience.Step b.audience (b.accept t m).audience := by
  obtain ⟨subs, parked, heq, asleep, unheard⟩ := audience_foldl_enqueue m (b.subscribers t) b
  have same : (b.accept t m).audience
      = ((b.subscribers t).foldl (fun b name => b.enqueue name m) b).audience := rfl
  rw [same, heq]
  exact .news b.closed subs parked asleep
    fun p h name sub found creation => ⟨rfl, unheard p h name sub found creation⟩

/-! ## Every change is a step of the audience -/

theorem audience_perform (b : Broker) (now : Timestamp) (r : Request) :
    Audience.Step b.audience (b.perform now r).1.audience := by
  unfold perform
  split
  · exact .stay _
  · cases r with
    | topicExists t => exact .stay _
    | createTopic t => dsimp only; split <;> exact .stay _
    | deleteTopic t => dsimp only; split <;> exact .stay _
    | subscriptionExists name => exact .stay _
    | createSubscription t name deadline =>
      dsimp only
      split
      · exact .stay _
      · split
        · exact .stay _
        · rename_i present
          have absent : b.subscriptions.get? name = none := by
            simpa [hasSubscription, Dictionary.contains] using present
          refine .news b.closed _ b.parked (fun _ h => h) ?_
          intro p h other sub found same
          refine ⟨rfl, ?_⟩
          rw [Dictionary.get?_insert]
          split
          · rename_i named
            subst named
            cases absent.symm.trans found
          · exact found
    | deleteSubscription name =>
      dsimp only
      split
      · rename_i gone found
        refine .news b.closed _ _ (fun p h => (mem_parked_announce.1 h).1) ?_
        intro p h other sub before same
        refine ⟨rfl, ?_⟩
        show (b.subscriptions.erase name).get? other = some sub
        rw [Dictionary.get?_erase]
        split
        · rename_i named
          subst named
          cases found.symm.trans before
          exact absurd same.symm (mem_parked_announce.1 h).2
        · exact before
      · exact .stay _
    | publish t m =>
      dsimp only [publish]
      split
      · exact .stay _
      · split
        · exact audience_accept b t _
        · exact .stay _
    | receive t name =>
      dsimp only [openStream]
      split
      · rename_i sub found
        split
        · exact .opened name sub found
        · exact .stay _
      · exact .stay _
    | close => exact audience_close b

theorem audience_pollStream (b : Broker) (n : Nat) :
    Audience.Step b.audience (b.pollStream n).1.audience := by
  unfold pollStream
  split
  · exact .stay _
  · rename_i s found
    have member : s ∈ b.streams := List.mem_of_find?_eq_some found
    have number : s.number = n := by simpa using List.find?_some found
    split
    · exact .stay _
    · rename_i going
      split
      · exact .stay _
      · rename_i unparked
        have awake : ∀ p ∈ b.parked, p.stream ≠ s.number := by
          intro p h same
          apply unparked
          exact List.any_eq_true.2 ⟨p, h, by simp [same, number]⟩
        unfold look
        split
        · exact .ended s.number awake
        · rename_i shut
          split
          · exact .ended s.number awake
          · rename_i sub named
            split
            · rename_i m rest first
              exact .took s.subscription sub m rest named first
            · rename_i nothing
              exact .slept s sub member (by simpa using going) (by simpa [audience] using shut) named
                nothing

/-- Putting a message back is news of the subscription that it is queued on. -/
theorem audience_putBack {a b : Broker} (same : b.audience = a.audience) (name : String)
    (m : Message) : Audience.Step a.audience (b.enqueue name m).audience := by
  obtain ⟨subs, parked, heq, asleep, unheard⟩ := b.audience_enqueue name m
  have hsubs : b.subscriptions = a.subscriptions := congrArg Audience.subscriptions same
  have hparked : b.parked = a.parked := congrArg Audience.parked same
  rw [hparked] at asleep
  rw [hsubs] at unheard
  rw [heq, same]
  exact .news a.closed subs parked asleep
    fun p h other sub found creation => ⟨rfl, unheard p h other sub found creation⟩

/-- Every change of a broker is one step of its audience. -/
theorem audience_change (b : Broker) (c : Change) :
    Audience.Step b.audience (b.change c).audience := by
  cases c with
  | perform now r => exact b.audience_perform now r
  | failNext t e => exact .stay _
  | poll n => exact b.audience_pollStream n
  | dropStream n => exact .dropped n
  | ack n =>
    dsimp only [change, ack]
    split
    · exact .stay _
    · split <;> exact .stay _
  | nack n =>
    dsimp only [change, nack]
    split
    · exact .stay _
    · rename_i h _
      split
      · exact .stay _
      · exact audience_putBack (a := b) (b := { b.unhold n with nacked := b.nacked ++ [h] }) rfl _ _
  | release n =>
    dsimp only [change, release]
    split
    · exact .stay _
    · split
      · exact .stay _
      · exact audience_putBack (a := b) (b := b.unhold n) rfl _ _

/-! ## Who sleeps -/

/-- There is nothing for a stream: the broker is open, and the subscription that the stream was
opened on is there and has no messages. -/
structure Still (b : Broker) (s : Stream) : Prop where
  opened : b.closed = false
  empty : ∃ sub, b.subscriptions.get? s.subscription = some sub ∧ sub.creation = s.creation ∧
    sub.backlog = []

/-- In a run, a subscription was made under the name of a stream's subscription when the stream had
been opened. -/
def Remade (cs : List Change) (s : Stream) : Prop :=
  ∃ before c rest, cs = before ++ c :: rest ∧ s.number < (empty.after before).opened ∧
    (empty.after before).hasSubscription s.subscription = false ∧
      ((empty.after before).change c).hasSubscription s.subscription = true

/-- Who sleeps after a run, and who sees nothing when it is looked at. -/
structure Wakeful (cs : List Change) : Prop where
  sleeps : ∀ p ∈ (empty.after cs).parked, ∃ s ∈ (empty.after cs).streams, s.number = p.stream ∧
    s.ended = false ∧ ((empty.after cs).Still s ∨ Remade cs s)
  pending : ∀ n, ((empty.after cs).pollStream n).2 = .pending →
    ∃ s ∈ (empty.after cs).streams, s.number = n ∧ s.ended = false ∧
      ((empty.after cs).Still s ∨ Remade cs s)

/-- What holds of the open streams after a run. -/
structure Attended (cs : List Change) : Prop where
  numbered : ∀ s ∈ (empty.after cs).streams, s.number < (empty.after cs).opened
  /-- A stream that finds a subscription finds the one that it was opened on, or a later one. -/
  own : ∀ s ∈ (empty.after cs).streams, ∀ sub,
    (empty.after cs).subscriptions.get? s.subscription = some sub →
      sub.creation = s.creation ∨ Remade cs s
  sleeps : ∀ p ∈ (empty.after cs).parked, ∃ s ∈ (empty.after cs).streams,
    p = ⟨s.number, s.creation⟩ ∧ s.ended = false ∧ ((empty.after cs).Still s ∨ Remade cs s)

theorem Remade.snoc (made : Remade cs s) (c : Change) : Remade (cs ++ [c]) s := by
  obtain ⟨before, c₀, rest, rfl, opened, absent, present⟩ := made
  exact ⟨before, c₀, rest ++ [c], by simp, opened, absent, present⟩

/-- A subscription that is there after a change was there before, or its name has been given to it
now. -/
theorem own_change {sub : Subscription} {name : String}
    (found : (b.change c).subscriptions.get? name = some sub) :
    (∃ sub₀, b.subscriptions.get? name = some sub₀ ∧ sub₀.creation = sub.creation) ∨
      b.hasSubscription name = false ∧ (b.change c).hasSubscription name = true := by
  rcases (b.ledger_change c).survives found with ⟨sub₀, before, _, creation⟩ | ⟨absent, _⟩
  · exact Or.inl ⟨sub₀, before, creation⟩
  · have absent : b.subscriptions.get? name = none := absent
    exact Or.inr ⟨by simp [hasSubscription, Dictionary.contains, absent],
      by simp [hasSubscription, Dictionary.contains, found]⟩

/-- A stream keeps its number and what it was opened on. -/
theorem streams_change {s : Stream} (member : s ∈ (b.change c).streams) :
    (∃ s₀ ∈ b.streams, s₀.number = s.number ∧ s₀.subscription = s.subscription ∧
        s₀.creation = s.creation) ∨
      s.number = b.opened ∧ (b.change c).opened = b.opened + 1 ∧
        ∃ sub, (b.change c).subscriptions.get? s.subscription = some sub ∧
          sub.creation = s.creation := by
  have step := b.audience_change c
  generalize heq : (b.change c).audience = a at step
  have subs : (b.change c).subscriptions = a.subscriptions := congrArg Audience.subscriptions heq
  have opened : (b.change c).opened = a.opened := congrArg Audience.opened heq
  have member : s ∈ a.streams := congrArg Audience.streams heq ▸ member
  rw [subs, opened]
  cases step with
  | opened name sub found =>
    rcases List.mem_append.1 member with old | new
    · exact Or.inl ⟨s, old, rfl, rfl, rfl⟩
    · obtain rfl := List.mem_singleton.1 new
      exact Or.inr ⟨rfl, rfl, sub, found, rfl⟩
  | ended number awake =>
    obtain ⟨s₀, old, rfl⟩ := List.mem_map.1 member
    refine Or.inl ⟨s₀, old, ?_⟩
    split <;> exact ⟨rfl, rfl, rfl⟩
  | dropped number => exact Or.inl ⟨s, (List.mem_filter.1 member).1, rfl, rfl, rfl⟩
  | _ => exact Or.inl ⟨s, member, rfl, rfl, rfl⟩

theorem Remade.of_same {s₀ : Stream} (made : Remade cs s₀) (number : s₀.number = s.number)
    (subscription : s₀.subscription = s.subscription) : Remade cs s := by
  unfold Remade at made ⊢
  rwa [number, subscription] at made

theorem opened_change (b : Broker) (c : Change) : b.opened ≤ (b.change c).opened := by
  have step := b.audience_change c
  generalize heq : (b.change c).audience = a at step
  have opened : (b.change c).opened = a.opened := congrArg Audience.opened heq
  rw [opened]
  cases step with
  | opened name sub found => exact Nat.le_succ _
  | _ => exact Nat.le_refl _

/-! ## Runs -/

theorem attended_nil : Attended [] where
  numbered := by
    intro s member
    cases member
  own := by
    intro s member
    cases member
  sleeps := by
    intro p member
    cases member

theorem Attended.own_snoc (attended : Attended cs) {s : Stream}
    (member : s ∈ (empty.after (cs ++ [c])).streams) {sub : Subscription}
    (found : (empty.after (cs ++ [c])).subscriptions.get? s.subscription = some sub) :
    sub.creation = s.creation ∨ Remade (cs ++ [c]) s := by
  rw [after_snoc] at member found
  rcases streams_change member with ⟨s₀, old, number, name, creation⟩ | ⟨_, _, sub', found', creation⟩
  · rcases own_change found with ⟨sub₀, before, same⟩ | ⟨absent, present⟩
    · rcases attended.own s₀ old sub₀ (name ▸ before) with own | made
      · left
        rw [← same, own, creation]
      · exact Or.inr ((made.snoc c).of_same number name)
    · right
      refine ⟨cs, c, [], rfl, ?_, absent, present⟩
      rw [← number]
      exact attended.numbered s₀ old
  · cases found.symm.trans found'
    exact Or.inl creation

/-- Who sleeps after one more change slept before it, or falls asleep by it. -/
theorem Attended.sleeps_snoc (attended : Attended cs) {p : Parked}
    (parked : p ∈ (empty.after (cs ++ [c])).parked) :
    ∃ s ∈ (empty.after (cs ++ [c])).streams, p = ⟨s.number, s.creation⟩ ∧ s.ended = false ∧
      ((empty.after (cs ++ [c])).Still s ∨ Remade (cs ++ [c]) s) := by
  rw [after_snoc] at parked ⊢
  have step := (empty.after cs).audience_change c
  -- Whoever slept before is still there, and has nothing to see if that was so before.
  have slept (asleep : p ∈ (empty.after cs).parked)
      (there : ∀ s ∈ (empty.after cs).streams, s.number = p.stream →
        s ∈ ((empty.after cs).change c).streams) :
      ∃ s ∈ ((empty.after cs).change c).streams, p = ⟨s.number, s.creation⟩ ∧ s.ended = false ∧
        (((empty.after cs).change c).Still s ∨ Remade (cs ++ [c]) s) := by
    obtain ⟨s, member, rfl, going, still | made⟩ := attended.sleeps p asleep
    · refine ⟨s, there s member rfl, rfl, going, Or.inl ?_⟩
      obtain ⟨opened, sub, found, creation, nothing⟩ := still
      obtain ⟨opened', found'⟩ := step.still parked opened found creation nothing
      exact ⟨opened', sub, found', creation, nothing⟩
    · exact ⟨s, there s member rfl, rfl, going, Or.inr (made.snoc c)⟩
  generalize heq : ((empty.after cs).change c).audience = a at step
  have streams : ((empty.after cs).change c).streams = a.streams := congrArg Audience.streams heq
  have parked' : p ∈ a.parked := congrArg Audience.parked heq ▸ parked
  rw [streams] at slept
  rw [streams]
  cases step with
  | news closed subscriptions sleepers asleep unheard =>
    exact slept (asleep p parked') fun s member _ => member
  | opened name sub found =>
    exact slept parked' fun s member _ => List.mem_append_left _ member
  | took name sub m rest found first => exact slept parked' fun s member _ => member
  | slept s sub member going opened found nothing =>
    rcases List.mem_append.1 parked' with asleep | fallen
    · exact slept asleep fun s member _ => member
    · obtain rfl := List.mem_singleton.1 fallen
      refine ⟨s, member, rfl, going, ?_⟩
      rcases attended.own s member sub found with own | made
      · refine Or.inl ⟨?_, sub, ?_, own, nothing⟩
        · exact (congrArg Audience.closed heq).trans opened
        · rw [show ((empty.after cs).change c).subscriptions = _ from
            congrArg Audience.subscriptions heq]
          exact found
      · exact Or.inr (made.snoc c)
  | ended number awake =>
    refine slept parked' fun s member same => List.mem_map.2 ⟨s, member, ?_⟩
    rw [if_neg]
    rw [same]
    exact awake p parked'
  | dropped number =>
    obtain ⟨asleep, other⟩ := List.mem_filter.1 parked'
    refine slept asleep fun s member same => List.mem_filter.2 ⟨member, ?_⟩
    rw [same]
    exact other

theorem Attended.snoc (attended : Attended cs) (c : Change) : Attended (cs ++ [c]) where
  numbered := by
    intro s member
    rw [after_snoc] at member ⊢
    have bound := (empty.after cs).opened_change c
    rcases streams_change member with ⟨s₀, old, number, _⟩ | ⟨number, opened, _⟩
    · have earlier := attended.numbered s₀ old
      omega
    · omega
  own := fun s member sub found => attended.own_snoc member found
  sleeps := fun p parked => attended.sleeps_snoc parked

theorem attended (cs : List Change) : Attended cs := by
  induction cs using List.reverseRecOn with
  | nil => exact attended_nil
  | append_singleton cs c ih => exact ih.snoc c

/-- **A stream sleeps only while there is nothing for it**, or when the name of its subscription was
given to another one while the stream was open: that is so wherever a run leads, of every stream that
is parked and of every stream that shows nothing when it is looked at. -/
theorem wakeful (cs : List Change) : Wakeful cs where
  sleeps := by
    intro p parked
    obtain ⟨s, member, rfl, going, cause⟩ := (attended cs).sleeps p parked
    exact ⟨s, member, rfl, going, cause⟩
  pending := by
    intro n shown
    unfold pollStream at shown
    split at shown
    · cases shown
    · rename_i s found
      have member : s ∈ (empty.after cs).streams := List.mem_of_find?_eq_some found
      have number : s.number = n := by simpa using List.find?_some found
      split at shown
      · cases shown
      · rename_i going
        split at shown
        · rename_i parked
          obtain ⟨p, asleep, same⟩ := List.any_eq_true.1 parked
          obtain ⟨s', member', rfl, going', cause⟩ := (attended cs).sleeps p asleep
          exact ⟨s', member', by simpa using same, going', cause⟩
        · refine ⟨s, member, number, by simpa using going, ?_⟩
          unfold look at shown
          split at shown
          · cases shown
          · rename_i opened
            split at shown
            · cases shown
            · rename_i sub named
              split at shown
              · cases shown
              · rename_i nothing
                rcases (attended cs).own s member sub named with own | made
                · exact Or.inl ⟨by simpa using opened, sub, named, own, nothing⟩
                · exact Or.inr made

/-- A stream is opened, its subscription is deleted and made again, and the stream is looked at; then
a letter is published, and the broker is closed. -/
def sleptThrough : List Change :=
  [.perform .epoch (.createTopic "letters"),
    .perform .epoch (.createSubscription "letters" "reader" (.ofSecs 10)),
    .perform .epoch (.receive "letters" "reader"),
    .perform .epoch (.deleteSubscription "reader"),
    .perform .epoch (.createSubscription "letters" "reader" (.ofSecs 10)), .poll 0,
    .perform .epoch (.publish "letters" ⟨Text.toBytes "a", Dictionary.empty⟩),
    .perform .epoch .close]

/-- A stream may sleep while its subscription has a message and the broker is closed. -/
theorem stream_sleeps_on :
    ¬ ∀ (cs : List Change) (p : Parked), p ∈ (empty.after cs).parked →
      ∃ s ∈ (empty.after cs).streams, s.number = p.stream ∧ (empty.after cs).closed = false ∧
        (empty.after cs).hasSubscription s.subscription = true ∧
        (empty.after cs).backlog s.subscription = [] := by
  intro all
  obtain ⟨_, _, _, opened, _⟩ := all sleptThrough ⟨0, 0⟩ (by decide +kernel)
  revert opened
  decide +kernel

end Broker

end MessageChannels
