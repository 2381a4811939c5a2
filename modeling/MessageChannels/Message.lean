import MessageChannels.Dictionary
import MessageChannels.Json.Value
import MessageChannels.Text.Quoted
import MessageChannels.Text.Utf8
import MessageChannels.Time.Calendar

/-!
# Messages

What is published (data and attributes) and what is delivered (the same with an identifier and the
time of publishing). An event is a message whose data is the JSON text of its payload and whose
attribute `event` names it.
-/

set_option autoImplicit false

namespace MessageChannels

/-- Named texts that go along with a message. -/
abbrev Attributes := Dictionary String

/-- A message to be published. -/
structure Outbound where
  data : List UInt8
  attributes : Attributes
  deriving DecidableEq

/-- A message as it is delivered. -/
structure Message where
  id : String
  data : List UInt8
  attributes : Attributes
  publishTime : Timestamp
  deriving DecidableEq

namespace Outbound

/-- The attribute that names an event. -/
def eventAttribute : String := "event"

/-- An event with a payload. -/
def event (name : String) (payload : Json) : Outbound :=
  ⟨Text.toBytes payload.compact, Dictionary.empty.insert eventAttribute name⟩

end Outbound

namespace Message

/-- The value of an attribute. -/
def attribute? (m : Message) (key : String) : Option String := m.attributes.get? key

/-- A message in short. -/
def summary (m : Message) : String :=
  Text.record "RawMessage"
    [("id", m.id), ("size", toString m.data.length ++ " bytes"),
      ("attributes", toString m.attributes.size)] false

/-- Attributes in a diagnostic text. -/
def attributesText (attributes : Attributes) : String :=
  Text.braced (attributes.entries.map fun a => Text.quoted a.1 ++ ": " ++ Text.quoted a.2)

/-- A message in a diagnostic text. -/
def diagnostic (m : Message) : String :=
  Text.record "RawMessage"
    [("id", Text.quoted m.id),
      ("data", Text.bracketed (m.data.map fun b => toString b.toNat)),
      ("attributes", attributesText m.attributes),
      ("publish_time", m.publishTime.text)] false

/-- A delivery of a message in a diagnostic text. -/
def deliveryDiagnostic (m : Message) : String :=
  Text.record "Delivery" [("message", m.diagnostic), ("acker", Text.quoted "<acker>")] false

end Message

end MessageChannels
