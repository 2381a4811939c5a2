import MessageChannels.Channel
import MessageChannels.Message
import MessageChannels.Text.Decimal

/-!
# Dead letters

A dead letter is a copy of a message that keeps its data and attributes and adds where the message
came from, why it failed and how often it has been dead-lettered. The names of the added attributes
are part of the agreement with whoever reads dead letters.
-/

set_option autoImplicit false

namespace MessageChannels.DeadLetter

/-- The attribute for the identifier of the failed message. -/
def originalMessageId : String := "originalMessageID"

/-- The attribute for the topic the failed message came from. -/
def originalTopicId : String := "originalTopicID"

/-- The attribute for the subscription the failed message came from. -/
def originalSubscriptionId : String := "originalSubscriptionID"

/-- The attribute for the reason of the failure. -/
def errorAttribute : String := "error"

/-- The attribute for the number of times the message was dead-lettered. -/
def countAttribute : String := "deadLetterCount"

/-- How many bytes of a reason an attribute holds. -/
def maxErrorBytes : Nat := 1024

/-- Counts are integers of 64 bits. -/
def countRange : Decimal.Range := Decimal.Range.signed 64

/-- The count after a count: one more, or the same at the upper limit; one after a text that is no
count and after none. -/
def nextCount (current : Option String) : String :=
  match current.bind (Decimal.read? countRange) with
  | some n => toString (min (n + 1) countRange.greatest)
  | none => "1"

/-- The attributes of the dead letter of a message from a channel. -/
def attributes (m : Message) (source : Channel) (cause : String) : Attributes :=
  let described := m.attributes
    |>.insert originalMessageId m.id
    |>.insert originalTopicId source.topic
    |>.insert originalSubscriptionId source.subscriptionOrEmpty
    |>.insert errorAttribute (Text.take cause maxErrorBytes)
  described.insert countAttribute (nextCount (described.get? countAttribute))

/-- The dead letter of a message from a channel. -/
def copy (m : Message) (source : Channel) (cause : String) : Outbound :=
  ⟨m.data, attributes m source cause⟩

end MessageChannels.DeadLetter
