import MessageChannels.Time.Span

/-!
# Channels

A channel is a name of the application's choosing for a topic and, if messages are to be received, a
subscription on that topic. A channel without a subscription is publish-only.
-/

set_option autoImplicit false

namespace MessageChannels

/-- A named topic, its subscription if it has one, and how old a message may grow while its handling
keeps failing. An age of zero stands for the default one. -/
structure Channel where
  id : String
  topic : String
  subscription : Option String
  maxRetryAge : Span
  deriving DecidableEq

namespace Channel

/-- A publish-only channel. -/
def publishOnly (id topic : String) : Channel := ⟨id, topic, none, Span.zero⟩

/-- The channel with a subscription; an empty name takes it away. -/
def withSubscription (c : Channel) (subscription : String) : Channel :=
  { c with subscription := if subscription = "" then none else some subscription }

/-- The channel with a retry age. -/
def withMaxRetryAge (c : Channel) (age : Span) : Channel := { c with maxRetryAge := age }

/-- The name of the subscription, empty for a publish-only channel. -/
def subscriptionOrEmpty (c : Channel) : String := c.subscription.getD ""

/-- The retry age of channels registered without one. -/
def defaultMaxRetryAge : Span := Span.ofSecs 120

/-- The name of a dead-letter channel given without one. -/
def defaultDeadLetterId : String := "dead-letter"

/-- The channel as a registry keeps it, with the default retry age in the place of zero. -/
def completed (c : Channel) : Channel :=
  if c.maxRetryAge = Span.zero then { c with maxRetryAge := defaultMaxRetryAge } else c

@[simp] theorem completed_id (c : Channel) : c.completed.id = c.id := by
  unfold completed; split <;> rfl

theorem completed_maxRetryAge_ne_zero (c : Channel) : c.completed.maxRetryAge ≠ Span.zero := by
  unfold completed
  split
  · show defaultMaxRetryAge ≠ Span.zero
    decide
  · assumption

end Channel

end MessageChannels
