import MessageChannels.Json.Shape
import MessageChannels.Transport

/-!
# Envelopes

An envelope is a message that a service received on a channel, together with the handle that settles
it. Its disposition says where it stands: it is settled once, directly or at the end of a
dead-letter route.
-/

set_option autoImplicit false

namespace MessageChannels

/-- Where an envelope stands with the transport. -/
inductive Disposition where
  | received
  | acked
  | nacked
  | deadLetterPending
  deriving DecidableEq

namespace Disposition

/-- Whether an envelope is settled for good. -/
def isTerminal : Disposition → Bool
  | acked => true
  | nacked => true
  | _ => false

/-- The name of a disposition. -/
def name : Disposition → String
  | received => "Received"
  | acked => "Acked"
  | nacked => "Nacked"
  | deadLetterPending => "DeadLetterPending"

end Disposition

/-- The disposition of an envelope that was settled so. -/
def Settlement.disposition : Settlement → Disposition
  | ack => .acked
  | nack => .nacked

/-- A received message with its channel, the number of the service that received it, and the handle
that settles it. -/
structure Envelope where
  message : Message
  channel : String
  service : Nat
  acker : Acker
  disposition : Disposition
  deriving DecidableEq

namespace Envelope

/-- The value of the wanted shape in the message's data. -/
def payload (e : Envelope) (shape : Json.Shape) : Except ChannelError Json :=
  match shape.ofBytes e.message.data with
  | .ok v => .ok v
  | .error fault => .error (.unmarshal e.message.id (.ofFault fault))

/-- An envelope in a diagnostic text. -/
def diagnostic (e : Envelope) : String :=
  Text.record "Envelope"
    [("message", e.message.diagnostic), ("channel_id", Text.quoted e.channel),
      ("disposition", e.disposition.name)] true

end Envelope

/-! ## Redeliver or dead-letter -/

/-- What becomes of a message whose handling failed. -/
inductive RetryDecision where
  | redeliver
  | deadLetter
  deriving DecidableEq

/-- The age of a message. -/
def messageAge (published now : Timestamp) : Span :=
  (Timestamp.elapsed? published now).getD Span.zero

/-- The decision on a message published at one time and judged at another. -/
def RetryDecision.of (published now : Timestamp) (maxRetryAge : Span) : RetryDecision :=
  if maxRetryAge < messageAge published now then deadLetter else redeliver

end MessageChannels
