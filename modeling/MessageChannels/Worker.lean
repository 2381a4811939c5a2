import MessageChannels.Envelope

/-!
# A worker

A worker is configured by variables of its environment. A variable that is not set, or whose text is
not a number of the wanted type, leaves its setting at the default.

A message that is no JSON text can never be handled and becomes a dead letter at once. An event
whose member `transient` is true stands for an outage further on and is tried again. Every other
event is handled, and its message acknowledged.
-/

set_option autoImplicit false

namespace MessageChannels.Worker

/-! ## Configuration -/

/-- A topic and the subscription on it. -/
structure ChannelConfig where
  topic : String
  subscription : String
  deriving DecidableEq

/-- The settings of a worker. -/
structure Config where
  brokers : String
  partitions : Int
  channel : ChannelConfig
  deadLetter : ChannelConfig
  maxRetryAge : Span
  maxOutstanding : Nat
  shutdownTimeout : Span
  deriving DecidableEq

/-- The variables of an environment that are set to a text. -/
abbrev Environment := String → Option String

/-- The number of a variable, or a default. -/
def Environment.number (env : Environment) (key : String) (range : Decimal.Range)
    (otherwise : Int) : Int :=
  ((env key).bind (Decimal.read? range)).getD otherwise

/-- The settings that an environment gives. -/
def Config.ofEnvironment (env : Environment) : Config where
  brokers := (env "COURIER_BROKERS").getD "localhost:9092"
  partitions := env.number "COURIER_PARTITIONS" (.signed 32) 3
  channel :=
    ⟨(env "COURIER_TOPIC").getD "order-events",
      (env "COURIER_SUBSCRIPTION").getD "order-worker"⟩
  deadLetter :=
    ⟨(env "COURIER_DEAD_LETTER_TOPIC").getD "dead-letter-events",
      (env "COURIER_DEAD_LETTER_SUBSCRIPTION").getD "dead-letter-audit"⟩
  maxRetryAge := .ofSecs (env.number "COURIER_MAX_RETRY_AGE_SECS" (.unsigned 64) 120).toNat
  maxOutstanding := (env.number "COURIER_MAX_OUTSTANDING" (.unsigned 64) 100).toNat
  shutdownTimeout := .ofSecs (env.number "COURIER_SHUTDOWN_TIMEOUT_SECS" (.unsigned 64) 30).toNat

/-! ## What becomes of a message -/

/-- What becomes of a message. -/
inductive Judgement where
  | ack
  | retry (cause : String)
  | deadLetter (cause : String)
  deriving DecidableEq

/-- Whether an event asks to be tried again. -/
def isTransient (event : Json) : Bool := ((event.get? "transient").bind Json.bool?).getD false

/-- The name of an envelope's event. -/
def eventName (e : Envelope) : String :=
  (e.message.attribute? Outbound.eventAttribute).getD "unknown"

/-- What becomes of the message of an envelope. -/
def judge (e : Envelope) : Judgement :=
  match e.payload .any with
  | .error error => .deadLetter error.message
  | .ok event =>
    if isTransient event then .retry ("downstream unavailable while handling " ++ eventName e)
    else .ack

end MessageChannels.Worker
