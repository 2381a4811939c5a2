import MessageChannels.Broker
import MessageChannels.Service.Topology

/-!
# What the chores of topology work do to a broker

A chore is to bring something about: that a topic or subscription is there, or that it is not. Its
question asks whether that holds already, and its change makes it hold. Between the two anyone may be
faster, and then the change is refused with the very failure that the chore takes for success.
`answered` says all that the broker's answer to one call can do, to the broker and to the work;
`Done` says what a change leaves of a broker. Nothing that follows opens the broker again.
-/

set_option autoImplicit false

namespace MessageChannels

/-- What topology work makes and removes. -/
inductive Resource where
  | topic (name : String)
  | subscription (name : String)
  deriving DecidableEq

/-- Whether a topic or subscription exists. -/
def Broker.has (b : Broker) : Resource → Bool
  | .topic t => b.hasTopic t
  | .subscription n => b.hasSubscription n

theorem Broker.has_topic (b : Broker) (t : String) : b.has (.topic t) = b.topics.contains t := rfl

theorem Broker.has_subscription (b : Broker) (n : String) :
    b.has (.subscription n) = b.subscriptions.contains n := rfl

/-- A topic or subscription is that of a channel. -/
def Channel.Names (c : Channel) : Resource → Prop
  | .topic t => c.topic = t
  | .subscription n => c.subscription = some n

namespace Request

/-- Whether a request only asks whether something exists. -/
def isExistenceCheck : Request → Bool
  | topicExists _ => true
  | subscriptionExists _ => true
  | _ => false

/-- What a request asks to be created. -/
def created? : Request → Option Resource
  | createTopic t => some (.topic t)
  | createSubscription _ n _ => some (.subscription n)
  | _ => none

/-- The change, if any, that a reply to a request grants. -/
def granted (r : Request) : Except TransportError Reply → List Request
  | .ok _ => if r.isExistenceCheck then [] else [r]
  | .error _ => []

end Request

namespace Topology

namespace Chore

/-- The topic or subscription that a chore is about. -/
def subject? : Chore → Option Resource
  | verifyOpen => none
  | ensureTopic t => some (.topic t)
  | ensureSubscription _ n => some (.subscription n)
  | removeSubscription n => some (.subscription n)
  | removeTopic t => some (.topic t)

/-- What a chore is to bring about. -/
def Holds (b : Broker) (c : Chore) : Prop := ∀ x, c.subject? = some x → b.has x = c.isMaking

/-- A chore of work that makes things, or of work that removes them. -/
def OfKind (making : Bool) (c : Chore) : Prop := c = verifyOpen ∨ c.isMaking = making

/-- The subscription that a service makes. -/
def made (b : Broker) (t : String) : Subscription := ⟨t, ackDeadline, [], b.creations⟩

/-- What the change of a chore makes of a broker. -/
inductive Done (b : Broker) : Chore → Broker → Prop where
  | ensureTopic (t : String) : Done b (ensureTopic t) { b with topics := b.topics.insert t () }
  | ensureSubscription (t n : String) (topic : b.hasTopic t = true) :
      Done b (ensureSubscription t n) { b with
        subscriptions := b.subscriptions.insert n (made b t)
        creations := b.creations + 1 }
  | removeSubscription (n : String) (creation : Nat) :
      Done b (removeSubscription n)
        ({ b with subscriptions := b.subscriptions.erase n }.announce creation)
  | removeTopic (t : String) : Done b (removeTopic t) { b with topics := b.topics.erase t }

variable {b b' : Broker} {c d : Chore} {making : Bool} {x : Resource}

theorem OfKind.isMaking (kind : c.OfKind making) (about : c.subject? = some x) :
    c.isMaking = making := by
  rcases kind with rfl | kind
  · cases about
  · exact kind

theorem Done.closed (done : c.Done b b') : b'.closed = b.closed := by
  cases done <;> rfl

/-- What there is after a change: its chore's topic or subscription is there or not, as it is to be,
and the rest is as it was. -/
theorem Done.has (done : c.Done b b') (x : Resource) :
    b'.has x = if c.subject? = some x then c.isMaking else b.has x := by
  cases done with
  | ensureTopic t =>
    cases x with
    | topic t' =>
      simpa [Broker.has_topic, subject?, Chore.isMaking, eq_comm] using
        b.topics.contains_insert t () t'
    | subscription n => rfl
  | ensureSubscription t n topic =>
    cases x with
    | topic t' => rfl
    | subscription n' =>
      simpa [Broker.has_subscription, subject?, Chore.isMaking, eq_comm] using
        b.subscriptions.contains_insert n (made b t) n'
  | removeSubscription n creation =>
    cases x with
    | topic t' => rfl
    | subscription n' =>
      simpa [Broker.has_subscription, Broker.announce, subject?, Chore.isMaking, eq_comm] using
        b.subscriptions.contains_erase n n'
  | removeTopic t =>
    cases x with
    | topic t' =>
      simpa [Broker.has_topic, subject?, Chore.isMaking, eq_comm] using
        b.topics.contains_erase t t'
    | subscription n => rfl

/-- A change makes its chore hold. -/
theorem Done.holds (done : c.Done b b') : c.Holds b' := by
  intro x about
  rw [done.has, if_pos about]

/-- A change leaves every chore of its kind as it is, if that holds. -/
theorem Done.keeps (done : c.Done b b') (kind : c.OfKind making) (alike : d.OfKind making)
    (holds : d.Holds b) : d.Holds b' := by
  intro x about
  rw [done.has]
  split
  · rename_i same
    rw [kind.isMaking same, alike.isMaking about]
  · exact holds x about

end Chore

/-! ## What an answer does -/

/-- What the broker's answer to a call of some work does to the broker and to the work, in a service
that is open, and the change that it grants. -/
inductive Answered (b : Broker) (w : Work) : Broker → Next → List Request → Prop where
  /-- The chore holds: because it did when its question was asked, or because someone was faster. -/
  | settled (holds : w.chore.Holds b) : Answered b w b (begin false w.later) []
  | wanting (asking : w.changing = false) (missing : ¬ w.chore.Holds b) :
      Answered b w b (.ok (some { w with changing := true })) []
  | changed (b' : Broker) (r : Request) (missing : ¬ w.chore.Holds b)
      (change : w.chore.change? = some r) (done : w.chore.Done b b') :
      Answered b w b' (begin false w.later) [r]
  /-- A subscription is to be made on a topic that is not there. -/
  | orphaned (t n : String) (chore : w.chore = .ensureSubscription t n)
      (absent : b.hasTopic t = false) :
      Answered b w b (.error (.transport "create subscription" n (.notFound ("topic " ++ t)))) []

variable {b : Broker}

theorem holds_of_has {c : Chore} {x : Resource} (about : c.subject? = some x)
    (has : b.has x = c.isMaking) : c.Holds b := by
  intro y about'
  cases about.symm.trans about'
  exact has

theorem missing_of_has {c : Chore} {x : Resource} (about : c.subject? = some x)
    (has : b.has x ≠ c.isMaking) : ¬ c.Holds b :=
  fun holds => has (holds x about)

/-- The question of a chore changes nothing, and tells whether the chore holds. -/
theorem answered_question (opened : b.closed = false) (now : Timestamp) {w : Work} {r : Request}
    (asking : w.changing = false) (asks : w.chore.question? = some r) :
    Answered b w (b.perform now r).1 (w.answer false (b.perform now r).2)
      (r.granted (b.perform now r).2) := by
  have tells {x : Resource} (about : w.chore.subject? = some x) :
      Answered b w b (w.answer false (.ok (.present (b.has x)))) [] := by
    simp only [Work.answer, asking, Bool.false_or, Reply.isPresent, beq_iff_eq]
    split
    · rename_i same
      exact .settled (holds_of_has about same)
    · rename_i other
      simpa [asking] using Answered.wanting asking (missing_of_has about other)
  obtain ⟨chore, changing, later⟩ := w
  cases chore with
  | verifyOpen => cases asks
  | ensureTopic t =>
    cases asks
    simp only [Broker.perform, opened]
    exact tells (x := .topic t) rfl
  | ensureSubscription t n =>
    cases asks
    simp only [Broker.perform, opened]
    exact tells (x := .subscription n) rfl
  | removeSubscription n =>
    cases asks
    simp only [Broker.perform, opened]
    exact tells (x := .subscription n) rfl
  | removeTopic t =>
    cases asks
    simp only [Broker.perform, opened]
    exact tells (x := .topic t) rfl

/-- The change of a chore makes it hold, unless it does already or cannot. -/
theorem answered_change (opened : b.closed = false) (now : Timestamp) {w : Work} {r : Request}
    (changing : w.changing = true) (asks : w.chore.change? = some r) :
    Answered b w (b.perform now r).1 (w.answer false (b.perform now r).2)
      (r.granted (b.perform now r).2) := by
  obtain ⟨chore, changing', later⟩ := w
  have changing : changing' = true := changing
  subst changing
  cases chore with
  | verifyOpen => cases asks
  | ensureTopic t =>
    cases asks
    cases there : b.hasTopic t with
    | true =>
      simp only [Broker.perform, opened, there, if_true]
      exact .settled (holds_of_has (x := .topic t) rfl there)
    | false =>
      have makes : b.perform now (.createTopic t)
          = ({ b with topics := b.topics.insert t () }, .ok .done) := by
        simp [Broker.perform, opened, there]
      rw [makes]
      refine .changed _ _ (missing_of_has (x := .topic t) rfl ?_) rfl (.ensureTopic t)
      simp [Broker.has, there, Chore.isMaking]
  | ensureSubscription t n =>
    cases asks
    cases topic : b.hasTopic t with
    | false =>
      simp only [Broker.perform, opened, topic]
      exact .orphaned t n rfl topic
    | true =>
      cases there : b.hasSubscription n with
      | true =>
        simp only [Broker.perform, opened, topic, there]
        exact .settled (holds_of_has (x := .subscription n) rfl there)
      | false =>
        have makes : b.perform now (.createSubscription t n ackDeadline)
            = ({ b with
                  subscriptions := b.subscriptions.insert n (Chore.made b t)
                  creations := b.creations + 1 }, .ok .done) := by
          simp [Broker.perform, opened, topic, there, Chore.made]
        rw [makes]
        refine .changed _ _ (missing_of_has (x := .subscription n) rfl ?_) rfl
          (.ensureSubscription t n topic)
        simp [Broker.has, there, Chore.isMaking]
  | removeSubscription n =>
    cases asks
    cases found : b.subscriptions.get? n with
    | none =>
      have absent : b.has (.subscription n) = false := by
        simp [Broker.has, Broker.hasSubscription, Dictionary.contains, found]
      simp only [Broker.perform, opened, found]
      exact .settled (holds_of_has (x := .subscription n) rfl absent)
    | some sub =>
      have present : b.has (.subscription n) = true := by
        simp [Broker.has, Broker.hasSubscription, Dictionary.contains, found]
      have removes : b.perform now (.deleteSubscription n)
          = ({ b with subscriptions := b.subscriptions.erase n }.announce sub.creation,
              .ok .done) := by
        simp [Broker.perform, opened, found]
      rw [removes]
      refine .changed _ _ (missing_of_has (x := .subscription n) rfl ?_) rfl
        (.removeSubscription n sub.creation)
      simp [present, Chore.isMaking]
  | removeTopic t =>
    cases asks
    cases there : b.hasTopic t with
    | true =>
      have removes : b.perform now (.deleteTopic t)
          = ({ b with topics := b.topics.erase t }, .ok .done) := by
        simp [Broker.perform, opened, there]
      rw [removes]
      refine .changed _ _ (missing_of_has (x := .topic t) rfl ?_) rfl (.removeTopic t)
      simp [Broker.has, there, Chore.isMaking]
    | false =>
      simp only [Broker.perform, opened, there]
      exact .settled (holds_of_has (x := .topic t) rfl there)

/-- **What the broker's answer does** to an open broker and to the work that called. -/
theorem answered (opened : b.closed = false) (now : Timestamp) {w : Work} {r : Request}
    (asks : w.request? = some r) :
    Answered b w (b.perform now r).1 (w.answer false (b.perform now r).2)
      (r.granted (b.perform now r).2) := by
  unfold Work.request? at asks
  split at asks
  · rename_i changing
    exact answered_change opened now changing asks
  · rename_i asking
    exact answered_question opened now (by simpa using asking) asks

end Topology

end MessageChannels
