import MessageChannels.Json.Reader
import MessageChannels.Text.Failure

/-!
# Errors of transports and of channel operations

A transport reports one of five kinds of failure. An operation on channels either names what is
wrong with its arguments, or says that the service is closed, or passes on a transport's failure
together with what was attempted on what. `ChannelError.ofTransport` is the way from the first to the
second: a cancelled connection is a closed service, whatever was attempted. Only closing a service
passes the failure on as it is.
-/

set_option autoImplicit false

namespace MessageChannels

/-- A failure that a transport reports. -/
inductive TransportError where
  | cancelled (detail : String)
  | notFound (detail : String)
  | alreadyExists (detail : String)
  | unavailable (detail : String)
  | backend (detail : String)
  deriving DecidableEq

namespace TransportError

/-- The wording of a transport's failure. -/
def message : TransportError → String
  | cancelled d => "connection cancelled: " ++ d
  | notFound d => "resource not found: " ++ d
  | alreadyExists d => "resource already exists: " ++ d
  | unavailable d => "transport unavailable: " ++ d
  | backend d => d

/-- Whether the connection is cancelled. -/
def isCancelled : TransportError → Bool
  | cancelled _ => true
  | _ => false

/-- Whether a topic or subscription does not exist. -/
def isNotFound : TransportError → Bool
  | notFound _ => true
  | _ => false

/-- Whether a topic or subscription exists already. -/
def isAlreadyExists : TransportError → Bool
  | alreadyExists _ => true
  | _ => false

end TransportError

/-- Why a payload could not be decoded: the kind of fault and its wording. -/
structure DecodeError where
  fault : Json.Fault
  detail : String
  deriving DecidableEq

/-- The decoding error of a fault. The words are general ones: a reader of JSON texts would also say
what it met, and where in the text, and that wording is left out. Nothing is decided by the words; they
show only in texts that pass them on, such as the `error` attribute of a dead letter. -/
def DecodeError.ofFault : Json.Fault → DecodeError
  | .malformed => ⟨.malformed, "not a JSON text"⟩
  | .truncated => ⟨.truncated, "the text ends too early"⟩
  | .mismatched => ⟨.mismatched, "the value does not have the wanted shape"⟩

/-- The decoding error of a value that is refused with a text of its own. -/
def DecodeError.refusal (text : String) : DecodeError := ⟨.mismatched, Text.failure text⟩

/-- Why an operation on channels failed. -/
inductive ChannelError where
  /-- No channel has this name. -/
  | channelNotFound (id : String)
  /-- The channel is publish-only. -/
  | noSubscription (id : String)
  /-- There is no channel for dead letters. -/
  | noDeadLetterChannel
  /-- The service or its connection is closed. -/
  | closed
  /-- The transport failed in an operation on a topic or subscription. -/
  | transport (operation resource : String) (source : TransportError)
  /-- A payload could not be encoded. -/
  | marshal (event topic detail : String)
  /-- A payload could not be decoded. -/
  | unmarshal (messageId : String) (source : DecodeError)
  deriving DecidableEq

namespace ChannelError

/-- The wording of what caused an error, if something else did. -/
def sourceText? : ChannelError → Option String
  | transport _ _ source => some source.message
  | marshal _ _ detail => some detail
  | unmarshal _ source => some source.detail
  | _ => none

/-- The wording of an error. -/
def message : ChannelError → String
  | channelNotFound id => "channel \"" ++ id ++ "\" not found"
  | noSubscription id => "channel \"" ++ id ++ "\" does not have a subscription"
  | noDeadLetterChannel => "no dead-letter channel configured"
  | closed => "channel service has been closed"
  | transport operation resource source =>
    operation ++ " \"" ++ resource ++ "\" failed: " ++ source.message
  | marshal event topic detail =>
    "failed to marshal payload for event \"" ++ event ++ "\" on topic \"" ++ topic ++ "\": "
      ++ detail
  | unmarshal messageId source =>
    "failed to unmarshal payload of message \"" ++ messageId ++ "\": " ++ source.detail

/-- Whether the service is closed. -/
def isClosed : ChannelError → Bool
  | closed => true
  | _ => false

/-- Whether the channels are not configured for what was asked. -/
def isConfiguration : ChannelError → Bool
  | channelNotFound _ => true
  | noSubscription _ => true
  | noDeadLetterChannel => true
  | _ => false

/-- A transport's failure in an operation on a resource, as an error of the operation. -/
def ofTransport (operation resource : String) (e : TransportError) : ChannelError :=
  if e.isCancelled then closed else transport operation resource e

end ChannelError

end MessageChannels
