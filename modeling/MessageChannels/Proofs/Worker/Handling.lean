import MessageChannels.Proofs.Envelope.DeadLetter
import MessageChannels.Proofs.Envelope.RetryAge
import MessageChannels.Proofs.Json.Members
import MessageChannels.Rehearsal.Perform

/-!
# A worker settles every message

A worker looks at the bytes of a message once, and its judgement is its only step: to acknowledge the
envelope, or to begin an operation that decides on it (`performWorker_poll`). What comes of such an
operation is known from routes and retries, whatever happens while it waits. `handles` puts this
together for every received message: it is acknowledged only when it was handled, or when its copy
was accepted as a dead letter, and returned otherwise.
-/

set_option autoImplicit false

namespace MessageChannels

namespace Worker

open Rehearsal (Course)

variable {e : Envelope} {event : Json} {bytes : List UInt8}

/-! ## What a worker sees in a message -/

/-- Bytes are the text of an object whose member `transient`, the last of this name, is true. -/
def AsksRetry (bytes : List UInt8) : Prop :=
  ∃ ms, Json.writtenMembers? bytes = some ms ∧
    (Json.object ms).get? "transient" = some (.bool true)

theorem isTransient_iff (event : Json) :
    isTransient event = true ↔ event.get? "transient" = some (.bool true) := by
  unfold isTransient
  cases event.get? "transient" with
  | none => simp
  | some v => cases v <;> simp [Json.bool?]

theorem isTransient_iff_asksRetry (read : Json.ofBytes bytes = .ok event) :
    isTransient event = true ↔ AsksRetry bytes := by
  rw [isTransient_iff]
  constructor
  · intro transient
    cases event with
    | object d =>
      obtain ⟨ms, written, same⟩ := Json.writtenMembers_of_object read
      refine ⟨ms, written, ?_⟩
      rw [← Json.get?_objectOfLast, ← same]
      exact transient
    | _ => cases transient
  · rintro ⟨ms, written, transient⟩
    have event_ := Json.ofBytes_of_writtenMembers written
    obtain rfl := Except.ok.inj (read.symm.trans event_)
    rw [Json.get?_objectOfLast]
    exact transient

theorem AsksRetry.decodes (asks : AsksRetry bytes) : ∃ event, Json.ofBytes bytes = .ok event := by
  obtain ⟨ms, written, _⟩ := asks
  exact ⟨_, Json.ofBytes_of_writtenMembers written⟩

/-- The error of a message whose bytes have a fault. -/
def undecodable (m : Message) (fault : Json.Fault) : ChannelError :=
  .unmarshal m.id (.ofFault fault)

/-- The cause of a retry. -/
def unavailable (e : Envelope) : String :=
  "downstream unavailable while handling " ++ eventName e

theorem judge_undecodable {fault : Json.Fault} (read : Json.ofBytes e.message.data = .error fault) :
    judge e = .deadLetter (undecodable e.message fault).message := by
  have any : Json.Shape.any.ofBytes e.message.data = .error fault := read
  rw [judge, Envelope.payload, any]
  rfl

theorem judge_of_decoded (read : Json.ofBytes e.message.data = .ok event) :
    judge e = if isTransient event then .retry (unavailable e) else .ack := by
  have any : Json.Shape.any.ofBytes e.message.data = .ok event := read
  rw [judge, Envelope.payload, any]
  rfl

theorem judge_transient (asks : AsksRetry e.message.data) : judge e = .retry (unavailable e) := by
  obtain ⟨event, read⟩ := asks.decodes
  rw [judge_of_decoded read, if_pos ((isTransient_iff_asksRetry read).2 asks)]

theorem judge_other (read : Json.ofBytes e.message.data = .ok event)
    (plain : ¬ AsksRetry e.message.data) : judge e = .ack := by
  rw [judge_of_decoded read, if_neg]
  intro transient
  exact plain ((isTransient_iff_asksRetry read).1 transient)

/-! ## What a worker does -/

/-- The first step of a worker, by its judgement. -/
def Judgement.firstStep (i : Nat) : Judgement → Event
  | .ack => .ack i
  | .retry cause => .fail i .retry cause
  | .deadLetter cause => .fail i .deadLetter cause

/-- What is left for a worker to do after its first step: to wait for the operation that it began,
and to report a failure. -/
def rest (op : Nat) : Judgement → Course Unit
  | .ack => pure ()
  | .retry _ => do
    Rehearsal.reportFailure (Rehearsal.failureReport .retry) (← Course.finishOperation op)
  | .deadLetter _ => do
    Rehearsal.reportFailure (Rehearsal.failureReport .deadLetter) (← Course.finishOperation op)

theorem beginFailure_number (s : System) (i : Nat) (c : FailureCommand) (cause : String) :
    (s.beginFailure i c cause).2 = s.operations.length := by
  unfold System.beginFailure
  dsimp only
  split
  · rfl
  · split
    · rfl
    · rfl

/-- Left an envelope, a worker takes the step of its judgement and goes on from there. -/
theorem performWorker_poll {st : Rehearsal.Stage} {i : Nat}
    (found : st.system.envelopes[i]? = some e) (k : Unit → Rehearsal.Routine) :
    (Rehearsal.performWorker i k).poll st
      = (rest st.system.operations.length (judge e) k).poll
          (st.change (·.onSystem fun _ => st.system.step ((judge e).firstStep i))) := by
  dsimp only [Rehearsal.performWorker, bind, Course.stage, Rehearsal.Routine.poll]
  rw [found]
  dsimp only
  cases judge e with
  | ack => rfl
  | retry cause =>
    rw [← beginFailure_number st.system i .retry cause]
    rfl
  | deadLetter cause =>
    rw [← beginFailure_number st.system i .deadLetter cause]
    rfl

/-- Whether a worker has returned: at once, or when the operation that it began has a result. -/
def Returned (s : System) (op : Nat) : Judgement → Prop
  | .ack => True
  | _ => ∃ result, s.result? op = some result

theorem Returned.result {s : System} {op : Nat} {j : Judgement} (returned : Returned s op j)
    (begins : j ≠ .ack) : ∃ result, s.result? op = some result := by
  cases j with
  | ack => exact absurd rfl begins
  | retry cause => exact returned
  | deadLetter cause => exact returned

end Worker

namespace System

variable {i : Nat} {s s₁ : System} {made : Envelope} {v : Service} {source target : Channel}
  {cause : String} {es : List Event}

/-! ## What comes of an attempt to copy -/

/-- What comes of the attempt to copy a received envelope to the dead letters, by the next operation
of `s`: the call leads to the system `s₁`, which goes on with `es`. -/
structure CopyCall (s s₁ : System) (i : Nat) (made : Envelope) (v : Service)
    (source target : Channel) (cause : String) (es : List Event) : Prop where
  /-- A closed service refuses the attempt. -/
  refused : v.closed = true →
    (s₁.after es).result? s.operations.length = some (.error .closed) ∧
      (s₁.after es).requests s.operations.length = [] ∧ (s₁.after es).StandsAs i made.acker .nacked
  /-- An open one makes one attempt, whose reply settles the envelope. -/
  attempt : v.closed = false →
    s₁.Attempt s.operations.length (routePublishing i made target source cause true) es ∧
      (s₁.replyTo? s.operations.length es = none →
        (s₁.after es).StandsAs i made.acker .deadLetterPending) ∧
      ∀ reply, s₁.replyTo? s.operations.length es = some reply →
        (s₁.after es).StandsAs i made.acker (Settlement.ofReply reply).disposition

theorem copyCall_of_retryCall (call : s.RetryCall s₁ i made v source target cause es)
    (old : source.maxRetryAge.toNanos < ageNanos made.message.publishTime s.clock) :
    s.CopyCall s₁ i made v source target cause es where
  refused := by
    intro closed
    obtain ⟨result, unasked, _, stands⟩ := call.refused old closed
    exact ⟨result, unasked, stands⟩
  attempt := call.old old

theorem copyCall_of_routeCall (reachable₁ : s₁.Reachable) (found₁ : ∃ d, s₁.envelopes[i]?
      = some { made with disposition := d })
    (call : s.RouteCall s₁ i made v cause es) (known : v.registry.lookup? made.channel = some source)
    (configured : v.registry.deadLetter? = some target) (received : made.disposition = .received) :
    s.CopyCall s₁ i made v source target cause es := by
  obtain ⟨d₁, found₁⟩ := found₁
  have stands {d : Disposition} (standing : (s₁.after es).disposition? i = some d) :
      (s₁.after es).StandsAs i made.acker d := standsAs reachable₁ found₁ standing
  constructor
  · intro closed
    obtain ⟨result, unasked, standing⟩ := call.refused target configured (Or.inl received) closed
    rw [if_pos received] at standing
    exact ⟨result, unasked, stands standing⟩
  · intro opened
    obtain ⟨source', known', attempt, pending, settled⟩ :=
      call.received target configured received opened
    obtain rfl : source' = source := Option.some.inj (known'.symm.trans known)
    refine ⟨attempt, ?_, ?_⟩
    · intro unanswered
      exact stands (pending unanswered)
    · intro reply answered
      exact stands (settled reply answered)

/-- A copy of a message of a source is among the dead letters, and names a cause. -/
def IsCopied (s : System) (m : Message) (source target : Channel) (cause : String) : Prop :=
  ∃ copy, (target.topic, copy) ∈ s.broker.published ∧
    DeadLetter.copy m source cause = ⟨copy.data, copy.attributes⟩

/-- An envelope is acknowledged by an attempt exactly if the copy was accepted. -/
theorem CopyCall.acked_iff (call : s.CopyCall s₁ i made v source target cause es) :
    (s₁.after es).disposition? i = some .acked ↔
      v.closed = false ∧ ∃ r, s₁.replyTo? s.operations.length es = some (.ok r) := by
  cases shut : v.closed with
  | true =>
    obtain ⟨_, _, stands⟩ := call.refused shut
    constructor
    · intro acked
      cases stands.disposition.symm.trans acked
    · rintro ⟨opened, _⟩
      cases opened
  | false =>
    obtain ⟨_, pending, settled⟩ := call.attempt shut
    constructor
    · intro acked
      cases answered : s₁.replyTo? s.operations.length es with
      | none => cases (pending answered).disposition.symm.trans acked
      | some reply =>
        cases reply with
        | ok r => exact ⟨rfl, r, rfl⟩
        | error e => cases (settled _ answered).disposition.symm.trans acked
    · rintro ⟨_, r, answered⟩
      exact (settled _ answered).disposition

/-- An attempt that has returned has settled its envelope. -/
theorem CopyCall.settled (call : s.CopyCall s₁ i made v source target cause es)
    {result : Except ChannelError Outcome}
    (returned : (s₁.after es).result? s.operations.length = some result) :
    (s₁.after es).StandsAs i made.acker .acked ∨ (s₁.after es).StandsAs i made.acker .nacked := by
  cases shut : v.closed with
  | true => exact Or.inr (call.refused shut).2.2
  | false =>
    obtain ⟨attempt, _, settled⟩ := call.attempt shut
    cases answered : s₁.replyTo? s.operations.length es with
    | none => cases (attempt.waiting answered).1.symm.trans returned
    | some reply =>
      have stands := settled _ answered
      cases reply with
      | ok r => exact Or.inl stands
      | error e => exact Or.inr stands

/-- An envelope is acknowledged by an attempt only when its copy was accepted. If acceptance is the
broker's, the copy is among the dead letters. -/
theorem CopyCall.left (call : s.CopyCall s₁ i made v source target cause es)
    (acked : (s₁.after es).disposition? i = some .acked) :
    (∃ r, s₁.replyTo? s.operations.length es = some (.ok r)) ∧
      ((∀ r, .reply s.operations.length (.ok r) ∉ es) →
        ∃ cause, (s₁.after es).IsCopied made.message source target cause) := by
  obtain ⟨opened, r, answered⟩ := call.acked_iff.1 acked
  refine ⟨⟨r, answered⟩, ?_⟩
  intro genuine
  obtain ⟨attempt, _⟩ := call.attempt opened
  obtain ⟨copy, accepted, same⟩ := attempt.copied genuine _ answered
  refine ⟨cause, copy, ?_, same⟩
  apply attempt.published
  rw [accepted]
  exact List.mem_singleton.2 rfl

/-! ## What comes of a worker's work -/

/-- What becomes of a received envelope that a worker handles in the system `s`: its first step leads
to the system `s₁`, which goes on with `es`. -/
structure WorkerHandles (s s₁ : System) (i : Nat) (made : Envelope) (v : Service)
    (source target : Channel) (es : List Event) : Prop where
  /-- That step is what the worker does on any stage of the system. -/
  performs : ∀ (st : Rehearsal.Stage) (k : Unit → Rehearsal.Routine), st.system = s →
    (Rehearsal.performWorker i k).poll st
      = (Worker.rest s.operations.length (Worker.judge made) k).poll
          (st.change (·.onSystem fun _ => s₁))
  /-- A message that cannot be decoded is copied to the dead letters, with the error as the cause. -/
  undecodable : ∀ fault, Json.ofBytes made.message.data = .error fault →
    s.CopyCall s₁ i made v source target (Worker.undecodable made.message fault).message es
  /-- A transient event is returned while it is young, and nothing is published. -/
  young : Worker.AsksRetry made.message.data →
    ageNanos made.message.publishTime s.clock ≤ source.maxRetryAge.toNanos →
    (s₁.after es).result? s.operations.length = some (.ok .done) ∧
      (s₁.after es).requests s.operations.length = [] ∧
      s₁.acceptedFrom s.operations.length es = [] ∧ (s₁.after es).StandsAs i made.acker .nacked
  /-- A transient event that is older is copied to the dead letters. -/
  old : Worker.AsksRetry made.message.data →
    source.maxRetryAge.toNanos < ageNanos made.message.publishTime s.clock →
    s.CopyCall s₁ i made v source target (Worker.unavailable made) es
  /-- Every other event is acknowledged; no operation is begun, and nothing is asked or published. -/
  other : ∀ event, Json.ofBytes made.message.data = .ok event →
    ¬ Worker.AsksRetry made.message.data →
    s₁.operations = s.operations ∧ (∀ op, s₁.requests op = s.requests op) ∧
      s₁.broker.published = s.broker.published ∧ (s₁.after es).StandsAs i made.acker .acked
  /-- A worker that has returned has settled the envelope. -/
  settled : Worker.Returned (s₁.after es) s.operations.length (Worker.judge made) →
    (s₁.after es).StandsAs i made.acker .acked ∨ (s₁.after es).StandsAs i made.acker .nacked
  /-- A message leaves the queue only when it was handled or copied to the dead letters. -/
  left : (s₁.after es).disposition? i = some .acked →
    (∃ event, Json.ofBytes made.message.data = .ok event ∧
        ¬ Worker.AsksRetry made.message.data) ∨
      (∃ r, s₁.replyTo? s.operations.length es = some (.ok r)) ∧
        ((∀ r, .reply s.operations.length (.ok r) ∉ es) →
          ∃ cause, (s₁.after es).IsCopied made.message source target cause)

theorem undecodable_call (reachable : s.Reachable) (found : s.envelopes[i]? = some made)
    (received : made.disposition = .received) (alive : s.service? made.service = some v)
    (known : v.registry.lookup? made.channel = some source)
    (configured : v.registry.deadLetter? = some target)
    (completes : .abandon s.operations.length ∉ es) {fault : Json.Fault}
    (read : Json.ofBytes made.message.data = .error fault) :
    s.CopyCall (s.step ((Worker.judge made).firstStep i)) i made v source target
      (Worker.undecodable made.message fault).message es := by
  rw [Worker.judge_undecodable read]
  have reachable₁ := reachable.step
    (.fail i .deadLetter (Worker.undecodable made.message fault).message)
  obtain ⟨d₁, found₁, _⟩ := turn_step reachable found
    (.fail i .deadLetter (Worker.undecodable made.message fault).message)
  have call := routeCall reachable found alive reachable₁ (step_fail found alive .deadLetter _)
    completes
  exact copyCall_of_routeCall reachable₁ ⟨d₁, found₁⟩ call known configured received

/-- An event that is neither transient nor undecodable is acknowledged at once. -/
theorem other_call (reachable : s.Reachable) (found : s.envelopes[i]? = some made)
    (received : made.disposition = .received) {event : Json}
    (read : Json.ofBytes made.message.data = .ok event)
    (plain : ¬ Worker.AsksRetry made.message.data) (es : List Event) :
    let s₁ := s.step ((Worker.judge made).firstStep i)
    s₁.operations = s.operations ∧ (∀ op, s₁.requests op = s.requests op) ∧
      s₁.broker.published = s.broker.published ∧ (s₁.after es).StandsAs i made.acker .acked := by
  rw [Worker.judge_other read plain]
  have reachable₁ := reachable.step (.ack i)
  obtain ⟨d₁, found₁, _⟩ := turn_step reachable found (.ack i)
  have settled : (s.step (.ack i)).disposition? i = some .acked := by
    show ((s.settleFrom i .received .ack).envelopes[i]?).map Envelope.disposition = _
    rw [← received, (settleFrom_settledAs found .ack).envelopes, getElem?_set_iff found, if_pos rfl]
    rfl
  refine ⟨s.operations_settleFrom i _ _, s.requests_settleFrom i _ _, s.published_settleFrom i _ _,
    ?_⟩
  exact standsAs reachable₁ found₁ (disposition_after reachable₁ settled rfl es)

/-- **A worker settles every message rightly**: every received message, whatever its bytes, on every
live service with a dead-letter channel, whatever happens while the worker waits. -/
theorem workerHandles (reachable : s.Reachable) (found : s.envelopes[i]? = some made)
    (received : made.disposition = .received) (alive : s.service? made.service = some v)
    (configured : v.registry.deadLetter? = some target)
    (completes : .abandon s.operations.length ∉ es) :
    ∃ source, v.registry.lookup? made.channel = some source ∧
      s.WorkerHandles (s.step ((Worker.judge made).firstStep i)) i made v source target es := by
  obtain ⟨source, known⟩ := reachable.source found alive
  have undecodable {fault : Json.Fault} (read : Json.ofBytes made.message.data = .error fault) :=
    undecodable_call reachable found received alive known configured completes read
  have transient (asks : Worker.AsksRetry made.message.data) :
      s.RetryCall (s.step ((Worker.judge made).firstStep i)) i made v source target
        (Worker.unavailable made) es := by
    rw [Worker.judge_transient asks]
    exact retryCall reachable found alive known configured received _ completes
  have other {event : Json} (read : Json.ofBytes made.message.data = .ok event)
      (plain : ¬ Worker.AsksRetry made.message.data) :=
    other_call reachable found received read plain es
  have age := Nat.lt_or_ge source.maxRetryAge.toNanos (ageNanos made.message.publishTime s.clock)
  refine ⟨source, known, ?_, ?_, ?_, ?_, ?_, ?_, ?_⟩
  · intro st k same
    subst same
    exact Worker.performWorker_poll found k
  · intro fault read
    exact undecodable read
  · intro asks young
    exact (transient asks).young young
  · intro asks old
    exact copyCall_of_retryCall (transient asks) old
  · intro event read plain
    exact other read plain
  · intro returned
    cases read : Json.ofBytes made.message.data with
    | error fault =>
      have begins : Worker.judge made ≠ .ack := by
        rw [Worker.judge_undecodable read]
        exact Worker.Judgement.noConfusion
      obtain ⟨result, returned⟩ := returned.result begins
      exact (undecodable read).settled returned
    | ok event =>
      by_cases asks : Worker.AsksRetry made.message.data
      · have begins : Worker.judge made ≠ .ack := by
          rw [Worker.judge_transient asks]
          exact Worker.Judgement.noConfusion
        obtain ⟨result, returned⟩ := returned.result begins
        rcases age with old | young
        · exact (copyCall_of_retryCall (transient asks) old).settled returned
        · exact Or.inr ((transient asks).young young).2.2.2
      · exact Or.inl (other read asks).2.2.2
  · intro acked
    cases read : Json.ofBytes made.message.data with
    | error fault => exact Or.inr ((undecodable read).left acked)
    | ok event =>
      by_cases asks : Worker.AsksRetry made.message.data
      · rcases age with old | young
        · exact Or.inr ((copyCall_of_retryCall (transient asks) old).left acked)
        · cases ((transient asks).young young).2.2.2.disposition.symm.trans acked
      · exact Or.inl ⟨event, rfl, asks⟩

/-- A message that is not the text of a value, since a brace is missing. -/
def poison : Outbound := ⟨Text.toBytes "\x7b\"transient\": true", Dictionary.empty⟩

/-- The message is published, and received as the only envelope. -/
def poisoned : List Event :=
  ordersSetting ++ [.direct (.perform .epoch (.publish "orders-topic" poison)),
    .begin 0 (.receive "orders" 0), .serve 0, .turn 0, .turn 0]

def poisonedEnvelope : Envelope :=
  ⟨⟨"1", poison.data, poison.attributes, .epoch⟩, "orders", 0, .held 0, .received⟩

/-- What a worker makes of the envelope once the broker took the copy. -/
def poisonHandled : System :=
  (((start .epoch).after poisoned).step ((Worker.judge poisonedEnvelope).firstStep 0)).after
    [.serve 1]

/-- The message is copied to the dead letters, and leaves its queue. -/
theorem workerHandles_poisoned :
    (∃ source, ordersService.registry.lookup? "orders" = some source ∧
        ((start .epoch).after poisoned).WorkerHandles
          (((start .epoch).after poisoned).step ((Worker.judge poisonedEnvelope).firstStep 0)) 0
          poisonedEnvelope ordersService source (Channel.publishOnly "dead" "dead-topic").completed
          [.serve 1]) ∧
      poisonHandled.disposition? 0 = some .acked ∧
      (poisonHandled.broker.publishedTo "dead-topic").length = 1 ∧
      poisonHandled.broker.backlog "orders-sub" = [] := by
  have found : ((start .epoch).after poisoned).envelopes[0]? = some poisonedEnvelope := by
    decide +kernel
  have completes : .abandon ((start .epoch).after poisoned).operations.length
      ∉ [Event.serve 1] := by
    intro member
    cases List.mem_singleton.1 member
  constructor
  · exact workerHandles ⟨.epoch, poisoned, rfl⟩ found rfl rfl rfl completes
  · decide +kernel

end System

end MessageChannels
