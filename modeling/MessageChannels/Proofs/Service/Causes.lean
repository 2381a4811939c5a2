import Mathlib.Data.List.Induction
import MessageChannels.Proofs.Dispatch.Stopping
import MessageChannels.Proofs.Service.Hearing

/-!
# Why operations fail

Whatever the transport does, an operation that fails keeps the cause. An error of the transport that
it returns is the last thing that it heard, under the name of the topic or subscription that this
concerned; and it returns that its service is closed where it is, or is gone, or where the last thing
heard was that the connection is cancelled. The other way round, no failure that an operation hears is
lost. `Accounted` is what holds of an operation from its beginning on, step by step after
`hears_step`; `keepsCauses` says what follows for every run.
-/

set_option autoImplicit false

namespace MessageChannels

open MessageChannels.Topology (stateOf)

/-- An event begins to receive. -/
def Event.Receives (e : Event) : Prop :=
  ∃ k channel ctx, e = .begin k (.receive channel ctx) ∨
    ∃ count, e = .begin k (.receiveN channel count ctx)

theorem Heard.failure?_of_isEnd {h : Heard} (isEnd : h.isEnd = true) : h.failure? = none := by
  cases h with
  | replied r reply =>
    cases reply with
    | ok reply => rfl
    | error e => cases r <;> cases isEnd
  | shown n poll =>
    cases poll with
    | ended => rfl
    | _ => cases isEnd

theorem Heard.isExcused_of_cancelled {h : Heard} {detail : String}
    (failure : h.failure? = some (.cancelled detail)) : h.isExcused = false := by
  cases h with
  | shown n poll => rfl
  | replied r reply =>
    cases reply with
    | ok reply => cases failure
    | error e =>
      cases failure
      cases r <;> rfl

namespace System

/-- An event begins an operation on a service, other than closing it. -/
inductive Starts (s : System) : Event → Nat → Prop where
  | command (k : Nat) (c : Command) (other : c ≠ .close) : Starts s (.begin k c) k
  | decision (i : Nat) (made : Envelope) (c : FailureCommand) (cause : String)
      (found : s.envelopes[i]? = some made) : Starts s (.fail i c cause) made.service

/-- Why an operation on a service comes to an error, by what it has heard. -/
def Explained (s : System) (k : Nat) (dropped receives : Prop) (hs : List Heard) :
    ChannelError → Prop
  | .transport _ resource source =>
    source.isCancelled = false ∧ ∃ h, hs.getLast? = some h ∧ h.resource = resource ∧
      (h.failure? = some source ∨
        receives ∧ h.isEnd = true ∧ source = .unavailable "delivery stream ended")
  | .closed =>
    s.isClosed k = true ∨ dropped ∨
      ∃ h detail, hs.getLast? = some h ∧ h.failure? = some (.cancelled detail)
  | _ => True

/-- An operation has come to an error: it has returned it, or it is a receive loop that returns it
when its handlers have ended. -/
def Fails (s : System) (op k : Nat) (err : ChannelError) : Prop :=
  s.result? op = some (.error err) ∨
    ∃ l, s.operations[op]? = some ⟨k, .receiving l⟩ ∧ l.phase = .draining (.error err) ∧
      (l.running = [] →
        (s.after (List.replicate (l.ended.length + 1) (.turn op))).result? op = some (.error err))

/-- How an operation fails that an event begins on a service, in a run after that. -/
structure KeepsCauses (s : System) (e : Event) (k : Nat) (es : List Event) : Prop where
  /-- An error that it returns has its cause in the last thing heard, or in the service. -/
  explained : ∀ err, ((s.step e).after es).result? s.operations.length = some (.error err) →
    ((s.step e).after es).Explained k (s.service? k = none) e.Receives
      ((s.step e).heard s.operations.length es) err
  /-- A failure that it hears is the last thing it hears, and its error, if it is not given up. -/
  fails : ∀ before h after failure,
    (s.step e).heard s.operations.length es = before ++ h :: after →
    h.failure? = some failure → h.isExcused = false → .abandon s.operations.length ∉ es →
    after = [] ∧ ∃ name, ((s.step e).after es).Fails s.operations.length k
      (.ofTransport name h.resource failure)
  /-- What counts as success takes it where success does. -/
  excuses : ∀ e' r failure, ((s.step e).after es).request? s.operations.length = some r →
    ((s.step e).after es).replyIn s.operations.length e' = some (.error failure) →
    r.excuses failure = true →
    (((s.step e).after es).step e').operations[s.operations.length]?
      = (((s.step e).after es).step (.reply s.operations.length (.ok .done))).operations[
          s.operations.length]?
  /-- That the connection is cancelled means that the service is closed. -/
  cancelled : ∀ h detail, h ∈ (s.step e).heard s.operations.length es →
    h.failure? = some (.cancelled detail) → .abandon s.operations.length ∉ es →
    ((s.step e).after es).Fails s.operations.length k .closed

/-- What is known of an operation and what it has heard. -/
structure Accounted (s : System) (k : Nat) (dropped receives : Prop) (hs : List Heard)
    (state : OperationState) : Prop where
  plainly : state.Plainly
  kind : state.receives = true → receives
  explained : ∀ err, state.error? = some err → s.Explained k dropped receives hs err
  heeded : ∀ before h after failure, hs = before ++ h :: after → h.failure? = some failure →
    h.isExcused = false →
    after = [] ∧ ∃ name, state.error? = some (.ofTransport name h.resource failure)

variable {s a : System} {e : Event} {op k : Nat} {v : Service} {state : OperationState}
  {dropped receives : Prop} {hs : List Heard} {es : List Event}

/-! ## Beginning -/

/-- An operation stands where it could come to without hearing anything. -/
def Afresh (s a : System) (op k : Nat) (dropped receives : Prop) : Prop :=
  ∃ state, a.operations[op]? = some ⟨k, state⟩ ∧ s.Accounted k dropped receives [] state

theorem accounted_nil (plainly : state.Plainly) (kind : state.receives = true → receives)
    (explained : ∀ err, state.error? = some err → s.Explained k dropped receives [] err) :
    s.Accounted k dropped receives [] state := by
  refine ⟨plainly, kind, explained, fun before h after failure split => ?_⟩
  cases before <;> cases split

theorem afresh_finish (found : a.operations[op]? = some ⟨k, state⟩)
    {result : Except ChannelError Outcome}
    (explained : ∀ err, result = .error err → s.Explained k dropped receives [] err) :
    Afresh s (a.finish op result) op k dropped receives := by
  refine ⟨_, getElem?_setState_self found _, accounted_nil trivial nofun fun err error => ?_⟩
  cases result with
  | ok outcome => cases error
  | error err' =>
    cases error
    exact explained err rfl

theorem afresh_tend (found : a.operations[op]? = some ⟨k, state⟩) {closed : Bool}
    (shut : s.isClosed k = closed) (chores : List Topology.Chore) :
    Afresh s (a.tend op (Topology.begin closed chores)) op k dropped receives := by
  obtain ⟨plainly, deaf, next⟩ := error?_of_begin closed chores
  refine ⟨_, getElem?_tend_self found _, accounted_nil plainly ?_ fun err error => ?_⟩
  · exact fun h => absurd (deaf.symm.trans h) Bool.false_ne_true
  · rcases next with none | ⟨some, closed⟩
    · cases none.symm.trans error
    · cases some.symm.trans error
      exact Or.inl (shut.trans closed)

theorem afresh_beginPublish (found : a.operations[op]? = some ⟨k, state⟩)
    (same : a.isClosed k = s.isClosed k) (p : Publishing) :
    Afresh s (a.beginPublish op k p) op k dropped receives := by
  unfold beginPublish
  split
  · rename_i closed
    refine ⟨_, standing_endPublish_error found p _, accounted_nil trivial nofun fun err error => ?_⟩
    cases error
    exact Or.inl (same ▸ closed)
  · refine ⟨.publishing p, ?_, accounted_nil trivial nofun nofun⟩
    rw [operations_await, getElem?_setState_self found]

/-- A service refuses to receive on a channel for what the channel is, or because it is closed. -/
theorem subscribed_error {channel : String} {err : ChannelError}
    (refused : v.subscribed channel = .error err) :
    err = .channelNotFound channel ∨ err = .noSubscription channel ∨
      err = .closed ∧ v.closed = true := by
  unfold Service.subscribed at refused
  split at refused
  · cases refused
    exact Or.inl rfl
  · split at refused
    · cases refused
      exact Or.inr (Or.inl rfl)
    · split at refused
      · rename_i closed
        cases refused
        exact Or.inr (Or.inr ⟨rfl, closed⟩)
      · cases refused

theorem afresh_beginReceive (found : a.operations[op]? = some ⟨k, state⟩)
    (shut : s.isClosed k = v.closed) (receiving : receives) (channel : String) (ctx : Nat)
    (intent : Intent) : Afresh s (a.beginReceive op v channel ctx intent) op k dropped receives := by
  unfold beginReceive
  split
  · rename_i err refused
    refine afresh_finish found fun err' same => ?_
    cases same
    rcases subscribed_error refused with rfl | rfl | ⟨rfl, closed⟩
    · trivial
    · trivial
    · exact Or.inl (shut.trans closed)
  · rename_i c subscription _
    split
    · exact afresh_finish found nofun
    · refine ⟨.opening ⟨channel, c.topic, subscription, ctx, intent⟩, ?_,
        accounted_nil trivial (fun _ => receiving) nofun⟩
      rw [operations_await, getElem?_setState_self found]

/-- Where an operation begins that carries out a command. -/
theorem afresh_run {c : Command} (found : a.operations[op]? = some ⟨k, state⟩)
    (shut : s.isClosed k = v.closed) (same : a.isClosed k = s.isClosed k) (other : c ≠ .close) :
    Afresh s (a.run op k v c) op k dropped (Event.begin k c).Receives := by
  cases c with
  | publish channel event payload =>
    dsimp only [run]
    split
    · exact afresh_finish found fun err h => by cases h; trivial
    · exact afresh_finish found fun err h => by cases h; trivial
    · exact afresh_beginPublish found same _
  | ensureTopic t => exact afresh_tend found shut _
  | ensureSubscription t n => exact afresh_tend found shut _
  | reconcileAll => exact afresh_tend found shut _
  | deleteChannel channel =>
    dsimp only [run]
    split
    · exact afresh_finish found fun err h => by cases h; trivial
    · exact afresh_tend found shut _
  | deleteAll => exact afresh_tend found shut _
  | close => exact absurd rfl other
  | receive channel ctx =>
    exact afresh_beginReceive found shut ⟨k, channel, ctx, Or.inl rfl⟩ channel ctx _
  | receiveN channel count ctx =>
    exact afresh_beginReceive found shut ⟨k, channel, ctx, Or.inr ⟨count, rfl⟩⟩ channel ctx _

theorem afresh_route {i : Nat} {made : Envelope} {cause : String}
    (found : a.operations[op]? = some ⟨made.service, state⟩)
    (same : a.isClosed made.service = s.isClosed made.service) :
    Afresh s (a.route op i made v cause) op made.service dropped receives := by
  unfold route
  split
  · exact afresh_finish found fun err h => by cases h; trivial
  · exact afresh_finish found fun err h => by cases h; trivial
  · dsimp only
    split
    · exact afresh_beginPublish (a := a.setDisposition i .deadLetterPending) found same _
    · exact afresh_beginPublish found same _
    · exact afresh_finish found nofun
    · exact afresh_finish found nofun

theorem afresh_decide {i : Nat} {made : Envelope} {cause : String} {c : FailureCommand}
    (found : a.operations[op]? = some ⟨made.service, state⟩)
    (same : a.isClosed made.service = s.isClosed made.service) :
    Afresh s (a.decide op i made v cause c) op made.service dropped receives := by
  cases c with
  | deadLetter => exact afresh_route found same
  | retry =>
    dsimp only [decide]
    split
    · exact afresh_finish found fun err h => by cases h; trivial
    · split
      · have nacked : (a.nack i).operations[op]? = some ⟨made.service, state⟩ := by
          rw [nack, operations_settleFrom]
          exact found
        exact afresh_finish nacked fun err h => by cases h
      · exact afresh_route found same

/-- **Where an operation begins**: it has heard nothing yet. -/
theorem afresh_step (starts : s.Starts e k) :
    Afresh s (s.step e) s.operations.length k (s.service? k = none) e.Receives := by
  have found (j : Nat) := s.getElem?_addOperation j
  have gone (unheld : s.service? k = none) : Afresh s ((s.addOperation k).finish s.operations.length
      (.error .closed)) s.operations.length k (s.service? k = none) e.Receives := by
    refine afresh_finish (found k) fun err h => ?_
    cases h
    exact Or.inr (Or.inl unheld)
  cases starts with
  | command _ c other =>
    rcases Option.eq_none_or_eq_some (s.service? k) with unheld | ⟨v, alive⟩
    · have ends : s.step (.begin k c)
          = (s.addOperation k).finish s.operations.length (.error .closed) := by
        simp only [step, begin, unheld]
      rw [ends]
      exact gone unheld
    · rw [step_begin alive]
      exact afresh_run (found k) (isClosed_of_getElem? (service?_eq_some alive)) rfl other
  | decision i made c cause envelope =>
    rcases Option.eq_none_or_eq_some (s.service? made.service) with unheld | ⟨v, alive⟩
    · have ends : s.step (.fail i c cause)
          = (s.addOperation made.service).finish s.operations.length (.error .closed) := by
        simp only [step, beginFailure, envelope, unheld]
      rw [ends]
      exact gone unheld
    · rw [step_fail envelope alive]
      exact afresh_decide (found made.service) rfl

/-! ## Going on -/

theorem Explained.mono {t : System} {err : ChannelError}
    (explained : s.Explained k dropped receives hs err)
    (lasting : s.isClosed k = true → t.isClosed k = true ∨ dropped) :
    t.Explained k dropped receives hs err := by
  cases err with
  | closed =>
    rcases explained with closed | gone | cancelled
    · rcases lasting closed with closed | gone
      · exact Or.inl closed
      · exact Or.inr (Or.inl gone)
    · exact Or.inr (Or.inl gone)
    · exact Or.inr (Or.inr cancelled)
  | _ => exact explained

/-- A failure explains the error that it is passed on as. -/
theorem explained_of_failure {h : Heard} {err : TransportError} (name : String)
    (failure : h.failure? = some err) :
    s.Explained k dropped receives (hs ++ [h]) (.ofTransport name h.resource err) := by
  have last : (hs ++ [h]).getLast? = some h := List.getLast?_concat
  cases err with
  | cancelled detail => exact Or.inr (Or.inr ⟨h, detail, last, failure⟩)
  | _ => exact ⟨rfl, h, last, rfl, Or.inl failure⟩

/-- So does the end of a source, unless the service is closed. -/
theorem explained_of_end {h : Heard} (isEnd : h.isEnd = true) (receiving : receives)
    {closed : Bool} (shut : closed = true → s.isClosed k = true ∨ dropped) :
    s.Explained k dropped receives (hs ++ [h]) (streamEnded closed h.resource) := by
  cases closed with
  | true =>
    rcases shut rfl with closed | gone
    · exact Or.inl closed
    · exact Or.inr (Or.inl gone)
  | false => exact ⟨rfl, h, List.getLast?_concat, rfl, Or.inr ⟨receiving, isEnd, rfl⟩⟩

/-- What an operation takes from what it hears accounts for its error. -/
theorem Takes.explained {h : Heard} {after : OperationState} {closed : Bool} {t : System}
    (takes : Takes closed state h after) (kind : state.receives = true → receives)
    (shut : closed = true → t.isClosed k = true ∨ dropped) {err : ChannelError}
    (error : after.error? = some err) : t.Explained k dropped receives (hs ++ [h]) err := by
  cases takes with
  | heeded spared next =>
    rcases next with none | ⟨some, closed⟩
    · cases none.symm.trans error
    · cases some.symm.trans error
      rcases shut closed with closed | gone
      · exact Or.inl closed
      · exact Or.inr (Or.inl gone)
  | failed failure name heard blamed comes =>
    cases comes.symm.trans error
    exact explained_of_failure name heard
  | ended receiving isEnd comes =>
    cases comes.symm.trans error
    exact explained_of_end isEnd (kind receiving) shut

/-- What an operation has heard by an event explains the error that it comes to. -/
theorem HearsNext.explained {after : OperationState} (next : s.HearsNext e op k state after)
    (accounted : s.Accounted k dropped receives hs state)
    (lasting : s.isClosed k = true → (s.step e).isClosed k = true ∨ dropped) {err : ChannelError}
    (error : after.error? = some err) :
    (s.step e).Explained k dropped receives (hs ++ s.heardIn op e) err := by
  cases next with
  | silent nothing same deaf =>
    rw [nothing, List.append_nil]
    exact (accounted.explained err (same ▸ error)).mono lasting
  | shut nothing listening closed comes =>
    cases comes.symm.trans error
    rcases lasting closed with closed | gone
    · exact Or.inl closed
    · exact Or.inr (Or.inl gone)
  | took h hears listening takes =>
    rw [hears]
    exact takes.explained accounted.kind lasting error

/-- An operation that still listens has heard no failure. -/
theorem Accounted.unfailed (accounted : s.Accounted k dropped receives hs state)
    (listening : state.listens = true) {before rest : List Heard} {h : Heard}
    {failure : TransportError} (split : hs = before ++ h :: rest)
    (heard : h.failure? = some failure) (blamed : h.isExcused = false) : False := by
  obtain ⟨_, name, error⟩ := accounted.heeded before h rest failure split heard blamed
  cases (OperationState.listens_eq_false_of_error? error).symm.trans listening

/-- A failure that an operation has heard by an event is its error, and the last thing heard. -/
theorem HearsNext.heeded {after : OperationState} (next : s.HearsNext e op k state after)
    (accounted : s.Accounted k dropped receives hs state) {before rest : List Heard} {h : Heard}
    {failure : TransportError} (split : hs ++ s.heardIn op e = before ++ h :: rest)
    (heard : h.failure? = some failure) (blamed : h.isExcused = false) :
    rest = [] ∧ ∃ name, after.error? = some (.ofTransport name h.resource failure) := by
  cases next with
  | silent nothing same deaf =>
    rw [nothing, List.append_nil] at split
    obtain ⟨last, name, error⟩ := accounted.heeded before h rest failure split heard blamed
    exact ⟨last, name, same.trans error⟩
  | shut nothing listening closed comes =>
    rw [nothing, List.append_nil] at split
    exact (accounted.unfailed listening split heard blamed).elim
  | took h' hears listening takes =>
    rw [hears] at split
    rcases List.eq_nil_or_concat rest with rfl | ⟨rest', last, rfl⟩
    · obtain ⟨_, same⟩ := List.append_inj' split rfl
      obtain rfl : h' = h := List.head_eq_of_cons_eq same
      cases takes with
      | heeded spared next =>
        rcases spared with none | excused
        · cases none.symm.trans heard
        · cases blamed.symm.trans excused
      | failed err name failure' _ error =>
        cases failure'.symm.trans heard
        exact ⟨rfl, name, error⟩
      | ended receiving isEnd error => cases (Heard.failure?_of_isEnd isEnd).symm.trans heard
    · have regroup : before ++ h :: (rest' ++ [last]) = (before ++ h :: rest') ++ [last] := by
        simp
      rw [List.concat_eq_append, regroup] at split
      obtain ⟨earlier, _⟩ := List.append_inj' split rfl
      exact (accounted.unfailed listening earlier heard blamed).elim

/-- An event after which an operation accounts for what it has heard, if it is not given up. -/
theorem Accounted.step (accounted : s.Accounted k dropped receives hs state)
    (found : s.operations[op]? = some ⟨k, state⟩) (e : Event)
    (lasting : s.isClosed k = true → (s.step e).isClosed k = true ∨ dropped) :
    (∃ after, (s.step e).operations[op]? = some ⟨k, after⟩ ∧
        (s.step e).Accounted k dropped receives (hs ++ s.heardIn op e) after) ∨
      e = .abandon op ∧ (s.step e).operations[op]? = some ⟨k, .abandoned⟩ := by
  refine (hears_step found accounted.plainly e).imp_left ?_
  rintro ⟨after, standing, proper, next⟩
  refine ⟨after, standing, proper.plainly, ?_, ?_, ?_⟩
  · intro receiving
    exact accounted.kind (proper.receives receiving)
  · intro err error
    exact next.explained accounted lasting error
  · intro before h rest failure split heard blamed
    exact next.heeded accounted split heard blamed

/-- **An operation accounts for what it has heard** at every point of a run, if it is not given up. -/
theorem accounted_after (starts : s.Starts e k) (es : List Event) :
    (∃ state, ((s.step e).after es).operations[s.operations.length]? = some ⟨k, state⟩ ∧
        ((s.step e).after es).Accounted k (s.service? k = none) e.Receives
          ((s.step e).heard s.operations.length es) state) ∨
      .abandon s.operations.length ∈ es ∧
        ((s.step e).after es).operations[s.operations.length]? = some ⟨k, .abandoned⟩ := by
  -- A service that someone held when the operation began stays closed.
  have lasting (es : List Event) (e' : Event) : ((s.step e).after es).isClosed k = true →
      (((s.step e).after es).step e').isClosed k = true ∨ s.service? k = none := by
    intro closed
    rcases Option.eq_none_or_eq_some (s.service? k) with unheld | ⟨v, alive⟩
    · exact Or.inr unheld
    · obtain ⟨v', found, _⟩ := (lasts_after s (e :: es)).services k v (service?_eq_some alive)
      exact Or.inl (isClosed_after found closed [e'])
  induction es using List.reverseRecOn with
  | nil =>
    left
    obtain ⟨state, found, accounted⟩ := afresh_step starts
    refine ⟨state, found, accounted.plainly, accounted.kind, fun err error => ?_, ?_⟩
    · refine (accounted.explained err error).mono fun closed => ?_
      rcases Option.eq_none_or_eq_some (s.service? k) with unheld | ⟨v, alive⟩
      · exact Or.inr unheld
      · exact Or.inl (isClosed_after (service?_eq_some alive) closed [e])
    · exact accounted.heeded
  | append_singleton es e' ih =>
    rw [after_snoc, heard_snoc]
    rcases ih with ⟨state, found, accounted⟩ | ⟨given, found⟩
    · refine (accounted.step found e' (lasting es e')).imp_right fun ⟨gives, given⟩ => ?_
      exact ⟨by simp [gives], given⟩
    · obtain ⟨rests, _⟩ := ended_step found rfl e'
      exact Or.inr ⟨List.mem_append_left _ given, rests⟩

/-! ## What follows for a run -/

/-- A request that excuses a failure is a change for topology work, which goes on after the failure
as after the change. -/
theorem answer_excused {r : Request} {failure : TransportError} (asks : state.request? = some r)
    (excused : r.excuses failure = true) :
    ∃ w, state = .tending w ∧
      ∀ closed, w.answer closed (.error failure) = w.answer closed (.ok .done) := by
  cases state with
  | tending w =>
    refine ⟨w, rfl, fun closed => ?_⟩
    obtain ⟨_, settles⟩ := request_of_work asks failure
    obtain ⟨changing, settled⟩ := (Bool.and_eq_true _ _).mp (settles.symm.trans excused)
    simp only [Topology.Work.answer, changing, settled, Bool.not_true, Bool.false_eq_true,
      if_false, if_true, Bool.true_or]
  | publishing p => cases asks; cases excused
  | closing => cases asks; cases excused
  | opening o => cases asks; cases excused
  | _ => cases asks

theorem excuses_step {r : Request} {failure : TransportError}
    (found : s.operations[op]? = some ⟨k, state⟩) (asks : s.request? op = some r)
    (replies : s.replyIn op e = some (.error failure)) (excused : r.excuses failure = true) :
    (s.step e).operations[op]? = (s.step (.reply op (.ok .done))).operations[op]? := by
  have waits : state.request? = some r := by
    rw [request?, found] at asks
    exact asks
  obtain ⟨w, rfl, alike⟩ := answer_excused waits excused
  have stands {t : System} (same : t.operations = s.operations) (services : t.services = s.services)
      (reply : Except TransportError Reply) : (t.answer op reply).operations[op]?
        = some ⟨k, stateOf (w.answer (s.isClosed k) reply)⟩ := by
    have found' : t.operations[op]? = some ⟨k, .tending w⟩ := same ▸ found
    have shut : t.isClosed k = s.isClosed k := by rw [isClosed, isClosed, services]
    simp only [answer, found', shut]
    exact getElem?_tend_self found' _
  obtain ⟨_, _, t, step, same, services⟩ := step_of_replyIn replies
  rw [step, stands same services, alike]
  exact (stands rfl rfl _).symm

/-- An operation that has come to an error fails with it. -/
theorem fails_of_error? {err : ChannelError} (found : s.operations[op]? = some ⟨k, state⟩)
    (error : state.error? = some err) : s.Fails op k err := by
  cases state with
  | finished result =>
    cases result with
    | ok outcome => cases error
    | error err' =>
      cases error
      exact Or.inl (result?_of_finished found)
  | receiving l =>
    cases phase : l.phase with
    | draining outcome =>
      cases outcome with
      | ok _ => simp [OperationState.error?, phase] at error
      | error err' =>
        obtain rfl : err' = err := by simpa [OperationState.error?, phase] using error
        exact Or.inr ⟨l, found, phase, result_of_draining found phase⟩
    | listening => simp [OperationState.error?, phase] at error
    | holding d => simp [OperationState.error?, phase] at error
  | _ => cases error

theorem error?_of_result? {err : ChannelError} (found : s.operations[op]? = some ⟨k, state⟩)
    (fails : s.result? op = some (.error err)) : state.error? = some err := by
  rw [result?, found, Option.bind_some] at fails
  cases state with
  | finished result =>
    cases fails
    rfl
  | _ => cases fails

/-- **Operations keep the causes of their failures**, whatever the transport does. -/
theorem keepsCauses (starts : s.Starts e k) (es : List Event) : s.KeepsCauses e k es := by
  have account := accounted_after starts es
  have stands : ∃ state,
      ((s.step e).after es).operations[s.operations.length]? = some ⟨k, state⟩ := by
    rcases account with ⟨state, found, _⟩ | ⟨_, found⟩
    · exact ⟨state, found⟩
    · exact ⟨.abandoned, found⟩
  have fails : ∀ before h after failure,
      (s.step e).heard s.operations.length es = before ++ h :: after →
      h.failure? = some failure → h.isExcused = false → .abandon s.operations.length ∉ es →
      after = [] ∧ ∃ name, ((s.step e).after es).Fails s.operations.length k
        (.ofTransport name h.resource failure) := by
    intro before h after failure split heard blamed kept
    obtain ⟨state, found, accounted⟩ := account.resolve_right fun given => kept given.1
    obtain ⟨last, name, error⟩ := accounted.heeded before h after failure split heard blamed
    exact ⟨last, name, fails_of_error? found error⟩
  refine ⟨?_, fails, ?_, ?_⟩
  · intro err result
    rcases account with ⟨state, found, accounted⟩ | ⟨_, found⟩
    · exact accounted.explained err (error?_of_result? found result)
    · cases error?_of_result? found result
  · intro e' r failure asks replies excused
    obtain ⟨state, found⟩ := stands
    exact excuses_step found asks replies excused
  · intro h detail hears failure kept
    obtain ⟨before, after, split⟩ := List.append_of_mem hears
    obtain ⟨_, name, ends⟩ :=
      fails before h after _ split failure (Heard.isExcused_of_cancelled failure) kept
    exact ends

/-- While everything is deleted, the subscription is there, but is gone when it is to be deleted; then
the connection is cancelled. -/
def cutOff : List Event :=
  [.serve 0, .reply 0 (.error (.notFound "orders-sub")), .reply 0 (.error (.cancelled "lost"))]

/-- That it is gone counts as success, and the deletion returns that the service is closed. -/
theorem keepsCauses_cutOff :
    ((start .epoch).after ordersSetting).Starts (.begin 0 .deleteAll) 0 ∧
      ((start .epoch).after ordersSetting).KeepsCauses (.begin 0 .deleteAll) 0 cutOff ∧
      ((((start .epoch).after ordersSetting).step (.begin 0 .deleteAll)).heard 0 cutOff).map
        Heard.failure? = [none, some (.notFound "orders-sub"), some (.cancelled "lost")] ∧
      ((((start .epoch).after ordersSetting).step (.begin 0 .deleteAll)).after cutOff).result? 0
        = some (.error .closed) ∧
      ((((start .epoch).after ordersSetting).step (.begin 0 .deleteAll)).after cutOff).isClosed 0
        = false := by
  have starts : ((start .epoch).after ordersSetting).Starts (.begin 0 .deleteAll) 0 :=
    .command 0 .deleteAll nofun
  refine ⟨starts, keepsCauses starts cutOff, ?_, ?_, ?_⟩
  · decide +kernel
  · decide +kernel
  · decide +kernel

end System

end MessageChannels
