import MessageChannels.DeadLetter
import MessageChannels.System.Settle

/-!
# Operations on services

`begin` starts an operation and `beginFailure` one that decides on a failed envelope; both run until
the operation has to wait. `answer` gives an operation the reply it waits for, `serve` lets the
broker give it. `turn` lets receiving look once at what it waits for, and says whether that changed
anything.
-/

set_option autoImplicit false

namespace MessageChannels

/-- What a service can be asked to do. -/
inductive Command where
  /-- Publish an event on a channel; the payload may refuse to be encoded. -/
  | publish (channel event : String) (payload : Except String Json)
  | ensureTopic (topic : String)
  | ensureSubscription (topic subscription : String)
  | reconcileAll
  | deleteChannel (channel : String)
  | deleteAll
  | close
  /-- Hand the deliveries of a channel to handlers until a token is cancelled. -/
  | receive (channel : String) (ctx : Nat)
  /-- Take and acknowledge a number of deliveries of a channel. -/
  | receiveN (channel : String) (count : Nat) (ctx : Nat)

/-- What is decided on an envelope whose handling failed. -/
inductive FailureCommand where
  /-- Return it, or route it to the dead letters if it has grown too old. -/
  | retry
  /-- Route it to the dead letters. -/
  | deadLetter
  deriving DecidableEq

namespace System

/-- An operation comes to its end. -/
def finish (s : System) (op : Nat) (result : Except ChannelError Outcome) : System :=
  s.setState op (.finished result)

/-- An operation comes to a point where it waits; if that is for a reply, it asks. -/
def await (s : System) (op : Nat) (state : OperationState) : System :=
  let s := s.setState op state
  match state.request? with
  | some request => s.record (.asked op request)
  | none => s

/-! ## Publishing -/

/-- The end of a publish. A dead letter settles the envelope that waits for it: acknowledged if the
copy was accepted, returned if not. -/
def endPublish (s : System) (op : Nat) (p : Publishing) (result : Except ChannelError String) :
    System :=
  match p.purpose, result with
  | .event, .ok id => s.finish op (.ok (.published id))
  | .event, .error e => s.finish op (.error e)
  | .deadLetter envelope waits channel, .ok _ =>
    let s := if waits then s.settleFrom envelope .deadLetterPending .ack else s
    (s.count .deadLettered channel).finish op (.ok .done)
  | .deadLetter envelope waits channel, .error e =>
    let s := if waits then s.settleFrom envelope .deadLetterPending .nack else s
    (s.count .deadLetterErrors channel).finish op (.error e)

/-- Ask for a message to be published, unless the service is closed. -/
def beginPublish (s : System) (op service : Nat) (p : Publishing) : System :=
  if s.isClosed service then s.endPublish op p (.error .closed) else s.await op (.publishing p)

/-- A publish gets its reply. -/
def answerPublish (s : System) (op : Nat) (p : Publishing) :
    Except TransportError Reply → System
  | .ok reply =>
    ((s.count .published p.label).count .publishDurations p.label).endPublish op p (.ok reply.id)
  | .error e =>
    (s.count .publishErrors p.label).endPublish op p (.error (.ofTransport p.operation p.topic e))

/-! ## Beginning -/

/-- Work on the topology goes on, ends or fails. -/
def tend (s : System) (op : Nat) : Topology.Next → System
  | .ok (some work) => s.await op (.tending work)
  | .ok none => s.finish op (.ok .done)
  | .error e => s.finish op (.error e)

/-- Ask for a source of a channel's deliveries. -/
def beginReceive (s : System) (op : Nat) (v : Service) (channel : String) (ctx : Nat)
    (intent : Intent) : System :=
  match v.subscribed channel with
  | .error e => s.finish op (.error e)
  | .ok (c, subscription) =>
    if intent = .collect 0 then s.finish op (.ok (.collected []))
    else s.await op (.opening ⟨channel, c.topic, subscription, ctx, intent⟩)

/-- The system with one more operation on a service, which is at its end until it is told otherwise;
its number is that of those before it. -/
def addOperation (s : System) (service : Nat) : System :=
  { s with operations := s.operations ++ [⟨service, .abandoned⟩] }

/-- Begin what a command asks, as an operation of the given number. -/
def run (s : System) (op service : Nat) (v : Service) : Command → System
  | .publish channel event payload =>
    match v.registry.lookup? channel, payload with
    | none, _ => s.finish op (.error (.channelNotFound channel))
    | some c, .error detail => s.finish op (.error (.marshal event c.topic detail))
    | some c, .ok payload =>
      s.beginPublish op service ⟨channel, c.topic, .event event payload, .event⟩
  | .ensureTopic t => s.tend op (Topology.begin v.closed [.ensureTopic t])
  | .ensureSubscription t sub => s.tend op (Topology.begin v.closed [.ensureSubscription t sub])
  | .reconcileAll => s.tend op (Topology.begin v.closed (Topology.reconcile v.registry))
  | .deleteChannel channel =>
    match v.registry.lookup? channel with
    | none => s.finish op (.error (.channelNotFound channel))
    | some c => s.tend op (Topology.begin v.closed (Topology.removeChores c))
  | .deleteAll => s.tend op (Topology.begin v.closed (Topology.remove v.registry))
  | .close =>
    ({ s with services := s.services.modify service fun v => { v with closed := true } }).await op
      .closing
  | .receive channel ctx => s.beginReceive op v channel ctx .dispatch
  | .receiveN channel count ctx => s.beginReceive op v channel ctx (.collect count)

/-- Begin an operation on a service; returns its number. -/
def begin (s : System) (service : Nat) (c : Command) : System × Nat :=
  let op := s.operations.length
  match s.service? service with
  | some v => ((s.addOperation service).run op service v c, op)
  | none => ((s.addOperation service).finish op (.error .closed), op)

/-! ## Deciding on failed envelopes -/

/-- Route an envelope to the dead letters. An envelope that is only received waits for its copy; one
that is returned, or already waits for a copy, is left alone; of one that is acknowledged a copy is
still published. -/
def route (s : System) (op envelope : Nat) (e : Envelope) (v : Service) (cause : String) : System :=
  match v.registry.deadLetter?, v.registry.lookup? e.channel with
  | none, _ => s.finish op (.error .noDeadLetterChannel)
  | some _, none => s.finish op (.error (.channelNotFound e.channel))
  | some target, some source =>
    let publishing (waits : Bool) : Publishing :=
      ⟨target.id, target.topic, DeadLetter.copy e.message source cause,
        .deadLetter envelope waits e.channel⟩
    match e.disposition with
    | .received =>
      (s.setDisposition envelope .deadLetterPending).beginPublish op e.service (publishing true)
    | .acked => s.beginPublish op e.service (publishing false)
    | .nacked => s.finish op (.ok .done)
    | .deadLetterPending => s.finish op (.ok .done)

/-- Decide on a failed envelope of a service that someone holds. -/
def decide (s : System) (op envelope : Nat) (e : Envelope) (v : Service) (cause : String) :
    FailureCommand → System
  | .deadLetter => s.route op envelope e v cause
  | .retry =>
    match v.registry.lookup? e.channel with
    | none => s.finish op (.error (.channelNotFound e.channel))
    | some c =>
      match RetryDecision.of e.message.publishTime s.clock c.maxRetryAge with
      | .redeliver => (s.nack envelope).finish op (.ok .done)
      | .deadLetter => s.route op envelope e v cause

/-- Begin to decide on a failed envelope; returns the number of the operation. -/
def beginFailure (s : System) (envelope : Nat) (c : FailureCommand) (cause : String) :
    System × Nat :=
  let op := s.operations.length
  match s.envelopes[envelope]? with
  | none => ((s.addOperation 0).finish op (.error .closed), op)
  | some e =>
    match s.service? e.service with
    | some v => ((s.addOperation e.service).decide op envelope e v cause c, op)
    | none => ((s.addOperation e.service).finish op (.error .closed), op)

/-! ## Replies -/

/-- Receiving begins on the source that was opened for it. -/
def listen (s : System) (op service : Nat) (o : Opening) (source : Source) : System :=
  match o.intent with
  | .dispatch =>
    let permits := ((s.services[service]?).map Service.maxOutstanding).getD 0
    s.setState op
      (.receiving ⟨o.channel, o.subscription, o.ctx, source, .listening, permits, [], []⟩)
  | .collect count =>
    s.setState op (.collecting ⟨o.channel, o.subscription, o.ctx, source, count, []⟩)

/-- Receiving gets the reply to its request for a source. -/
def answerOpening (s : System) (op service : Nat) (o : Opening) :
    Except TransportError Reply → System
  | .ok (.opened source) => s.listen op service o source
  | .ok _ => s.finish op (.error (streamEnded (s.isClosed service) o.subscription))
  | .error e => s.finish op (.error (.ofTransport receiveOperation o.subscription e))

/-- An operation gets the reply it waits for. -/
def answer (s : System) (op : Nat) (reply : Except TransportError Reply) : System :=
  match s.operations[op]? with
  | none => s
  | some o =>
    match o.state with
    | .publishing p => s.answerPublish op p reply
    | .tending w => s.tend op (w.answer (s.isClosed o.service) reply)
    | .closing =>
      match reply with
      | .ok _ => s.finish op (.ok .done)
      | .error e => s.finish op (.error (.transport "close" "transport" e))
    | .opening w => s.answerOpening op o.service w reply
    | _ => s

/-- The request whose reply an operation waits for. -/
def request? (s : System) (op : Nat) : Option Request :=
  (s.operations[op]?).bind fun o => o.state.request?

/-- The broker does what an operation asks for and replies. -/
def serve (s : System) (op : Nat) : System :=
  match s.request? op with
  | none => s
  | some request =>
    let (broker, reply) := s.broker.perform s.clock request
    ({ s with broker := broker }).answer op reply

/-! ## Receiving -/

/-- A receive loop stops: a delivery that it holds is given up, then its source. -/
def stopLoop (s : System) (op : Nat) (l : Loop) (outcome : Except ChannelError Unit) : System :=
  let s := match l.phase with
    | .holding d => s.dropAcker d.acker
    | _ => s
  (s.dropSource l.source).setState op (.receiving (l.stopped outcome))

/-- A receive loop makes its next move; whether that changed anything. -/
def turnLoop (s : System) (op service : Nat) (l : Loop) : System × Bool :=
  let closed := s.isClosed service
  match l.move (s.isCancelled l.ctx) closed with
  | .join panicked =>
    let s := if panicked then s.note (.reported "Message handler panicked" none) else s
    (s.setState op (.receiving l.joined), true)
  | .look =>
    let (s, shown) := s.poll l.source
    match l.seen closed shown with
    | none => (s, false)
    | some (.inl d) => (s.setState op (.receiving { l with phase := .holding d }), true)
    | some (.inr outcome) => (s.stopLoop op l outcome, true)
  | .hand d =>
    let (s, envelope) := s.addEnvelope service l.channel d
    (s.setState op (.receiving (l.handed envelope)), true)
  | .stop outcome => (s.stopLoop op l outcome, true)
  | .finish outcome => (s.finish op (outcome.map fun _ => .done), true)
  | .wait => (s, false)

/-- A collection makes its next move; whether that changed anything. -/
def turnCollection (s : System) (op service : Nat) (c : Collection) : System × Bool :=
  let closed := s.isClosed service
  match c.move (s.isCancelled c.ctx) closed with
  | .finish result => ((s.dropSource c.source).finish op (result.map .collected), true)
  | .look =>
    let (s, shown) := s.poll c.source
    match c.seen closed shown with
    | none => (s, false)
    | some (.inl d) =>
      let (s, envelope) := s.addEnvelope service c.channel d
      ((s.ack envelope).setState op
        (.collecting { c with envelopes := c.envelopes ++ [envelope] }), true)
    | some (.inr e) => ((s.dropSource c.source).finish op (.error e), true)

/-- Receiving looks once at what it waits for; whether that changed anything. -/
def turn (s : System) (op : Nat) : System × Bool :=
  match s.operations[op]? with
  | none => (s, false)
  | some o =>
    match o.state with
    | .receiving l => s.turnLoop op o.service l
    | .collecting c => s.turnCollection op o.service c
    | _ => (s, false)

/-- The handler of an envelope of a receive loop has ended. -/
def handlerEnded (s : System) (op envelope : Nat) (panicked : Bool) : System :=
  match (s.operations[op]?).map Operation.state with
  | some (.receiving l) => s.setState op (.receiving (l.handlerEnded envelope panicked))
  | _ => s

/-- An operation is given up before its end. -/
def abandon (s : System) (op : Nat) : System :=
  match (s.operations[op]?).map Operation.state with
  | some (.receiving l) => (s.stopLoop op l (.error .closed)).setState op .abandoned
  | some (.collecting c) => (s.dropSource c.source).setState op .abandoned
  | some (.finished _) => s
  | _ => s.setState op .abandoned

end System

end MessageChannels
