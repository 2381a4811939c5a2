import MessageChannels.Proofs.Envelope.Route
import MessageChannels.Proofs.System.Lasting

/-!
# Closing is final

A service that was closed stays closed, whatever the transport replies and however often it is
closed again. An operation that is begun on it from then on ends where it begins: it asks the
transport for nothing, and its error is the one that its arguments earn in any service or else that
the service is closed. A call on an envelope of the service publishes nothing; where it would, it is
refused, and an envelope that was only received is returned.
-/

set_option autoImplicit false

namespace MessageChannels

namespace Registry

/-- Why a closed service cannot receive on a channel. -/
def receiveRefusal (r : Registry) (channel : String) : ChannelError :=
  match r.lookup? channel with
  | none => .channelNotFound channel
  | some c => if c.subscription = none then .noSubscription channel else .closed

/-- The error with which a closed service of a registry refuses a command. Closing is not refused. -/
def refusal? (r : Registry) : Command → Option ChannelError
  | .publish channel event payload =>
    match r.lookup? channel, payload with
    | none, _ => some (.channelNotFound channel)
    | some c, .error detail => some (.marshal event c.topic detail)
    | some _, .ok _ => some .closed
  | .ensureTopic _ => some .closed
  | .ensureSubscription _ _ => some .closed
  | .reconcileAll => some .closed
  | .deleteChannel channel =>
    match r.lookup? channel with
    | none => some (.channelNotFound channel)
    | some _ => some .closed
  | .deleteAll => some .closed
  | .close => none
  | .receive channel _ => some (r.receiveRefusal channel)
  | .receiveN channel _ _ => some (r.receiveRefusal channel)

end Registry

namespace System

/-- A command that is begun on a service ends with an error and asks the transport for nothing. -/
def Refuses (s : System) (k : Nat) (c : Command) (err : ChannelError) : Prop :=
  ∀ es, ((s.step (.begin k c)).after es).result? s.operations.length = some (.error err) ∧
    ((s.step (.begin k c)).after es).requests s.operations.length = []

/-- The system as it would be if a service were open. -/
def reopened (s : System) (k : Nat) : System :=
  { s with services := s.services.modify k fun v => { v with closed := false } }

/-- What comes of a call on an envelope of a closed service that someone holds. -/
structure FailsClosed (s : System) (i : Nat) (made : Envelope) (c : FailureCommand)
    (cause : String) : Prop where
  silent : ∀ es, ((s.step (.fail i c cause)).after es).requests s.operations.length = []
  /-- Where it would publish if the service were open, it is refused, and an envelope that was only
  received is returned. -/
  refused : ((s.reopened made.service).step (.fail i c cause)).requests s.operations.length ≠ [] →
    ∀ es, ((s.step (.fail i c cause)).after es).result? s.operations.length
        = some (.error .closed) ∧
      ((s.step (.fail i c cause)).after es).disposition? i
        = some (if made.disposition = .received then .nacked else made.disposition)
  /-- Elsewhere it does what it does in an open service. -/
  otherwise : ((s.reopened made.service).step (.fail i c cause)).requests s.operations.length = [] →
    (s.step (.fail i c cause)).disposition? i
        = ((s.reopened made.service).step (.fail i c cause)).disposition? i ∧
      ∀ es, ((s.step (.fail i c cause)).after es).result? s.operations.length
        = ((s.reopened made.service).step (.fail i c cause)).result? s.operations.length

/-- What holds of a service from its closing on. -/
structure ClosedForGood (s : System) (k : Nat) : Prop where
  closed : s.isClosed k = true
  refuses : ∀ v, s.service? k = some v → ∀ c err, v.registry.refusal? c = some err →
    s.Refuses k c err
  /-- Only closing it again asks for something, and for nothing else. -/
  closes : ∀ v, s.service? k = some v → ∀ es,
    ((s.step (.begin k .close)).after es).requests s.operations.length = [.close]
  fails : ∀ i made c cause v, s.envelopes[i]? = some made → made.service = k →
    s.service? k = some v → s.FailsClosed i made c cause
  /-- When no one holds the service any more, calls leave its envelopes alone. -/
  dropped : ∀ i made c cause, s.envelopes[i]? = some made → made.service = k →
    s.service? k = none → (s.step (.fail i c cause)).envelopes = s.envelopes ∧
      ∀ es, ((s.step (.fail i c cause)).after es).result? s.operations.length
          = some (.error .closed) ∧
        ((s.step (.fail i c cause)).after es).requests s.operations.length = []

variable {op i k : Nat} {s : System} {made : Envelope} {v : Service} {c : Command}
  {err : ChannelError} {cause : String}

/-! ## Commands -/

theorem subscribed_closed (channel : String) (closed : v.closed = true) :
    v.subscribed channel = .error (v.registry.receiveRefusal channel) := by
  unfold Service.subscribed Registry.receiveRefusal
  cases v.registry.lookup? channel with
  | none => rfl
  | some found =>
    dsimp only
    cases found.subscription with
    | none => rfl
    | some name => simp [closed]

/-- A closed service refuses a command where it begins. -/
theorem run_refused {a : System} (closed : v.closed = true) (shut : a.isClosed k = true)
    (refused : v.registry.refusal? c = some err) : a.run op k v c = a.finish op (.error err) := by
  cases c with
  | publish channel event payload =>
    cases known : v.registry.lookup? channel with
    | none =>
      simp only [Registry.refusal?, known, Option.some.injEq] at refused
      simp only [run, known, refused]
    | some found =>
      cases payload with
      | error detail =>
        simp only [Registry.refusal?, known, Option.some.injEq] at refused
        simp only [run, known, refused]
      | ok json =>
        simp only [Registry.refusal?, known, Option.some.injEq] at refused
        simp only [run, known, beginPublish, shut, if_true, endPublish, refused]
  | deleteChannel channel =>
    cases known : v.registry.lookup? channel with
    | none =>
      simp only [Registry.refusal?, known, Option.some.injEq] at refused
      simp only [run, known, refused]
    | some found =>
      simp only [Registry.refusal?, known, Option.some.injEq] at refused
      simp [run, known, closed, Topology.removeChores, Topology.begin, Topology.Chore.needsOpen,
        tend, refused]
  | close => cases refused
  | receive channel ctx =>
    cases refused
    simp only [run, beginReceive, subscribed_closed channel closed]
  | receiveN channel count ctx =>
    cases refused
    simp only [run, beginReceive, subscribed_closed channel closed]
  | _ =>
    cases refused
    simp [run, closed, Topology.reconcile, Topology.remove, Topology.begin,
      Topology.Chore.needsOpen, tend]

theorem step_begin (alive : s.service? k = some v) (c : Command) :
    s.step (.begin k c) = (s.addOperation k).run s.operations.length k v c := by
  simp only [step, begin, alive]

/-- An operation that ended where it began has the same result ever after, and never asks. -/
theorem result_after {result : Except ChannelError Outcome}
    (standing : s.operations[op]? = some ⟨k, .finished result⟩) (unasked : s.requests op = [])
    (es : List Event) :
    (s.after es).result? op = some result ∧ (s.after es).requests op = [] := by
  obtain ⟨last, requests⟩ := ended_after standing rfl es
  exact ⟨result?_of_finished last, requests.trans unasked⟩

theorem refuses_of_closed (reachable : s.Reachable) (alive : s.service? k = some v)
    (closed : v.closed = true) (refused : v.registry.refusal? c = some err) :
    s.Refuses k c err := by
  have shut : (s.addOperation k).isClosed k = true := (isClosed_addOperation alive).trans closed
  have ends : s.step (.begin k c)
      = (s.addOperation k).finish s.operations.length (.error err) := by
    rw [step_begin alive, run_refused closed shut refused]
  intro es
  rw [ends]
  refine result_after (k := k) ?_ ?_ es
  · exact getElem?_setState_self (s.getElem?_addOperation k) _
  · exact reachable.requests_eq_nil (Nat.le_refl _)

/-- An operation that closes asks for nothing more. -/
theorem closing_after (standing : s.operations[op]? = some ⟨k, .closing⟩) (es : List Event) :
    (s.after es).requests op = s.requests op := by
  induction es generalizing s with
  | nil => rfl
  | cons e es ih =>
    -- What is replied to the operation ends it.
    have ended {a : System} (same : a.operations = s.operations) (journal : a.journal = s.journal)
        (reply : Except TransportError Reply) :
        ((a.answer op reply).after es).requests op = s.requests op := by
      have found : a.operations[op]? = some ⟨k, .closing⟩ := same ▸ standing
      have heq : ∃ result, a.answer op reply = a.finish op result := by
        simp only [answer, found]
        cases reply <;> exact ⟨_, rfl⟩
      obtain ⟨result, heq⟩ := heq
      rw [heq]
      refine (ended_after (getElem?_setState_self found _) rfl es).2.trans ?_
      exact requests_congr journal op
    have begun := (List.getElem?_eq_some_iff.1 standing).1
    have stands := map_state_of_getElem? standing
    by_cases about : e.operation s = op
    · rw [after_cons]
      cases concerns_of_about begun about with
      | serve =>
        have waits : s.request? op = some .close := by
          simp [request?, standing, OperationState.request?]
        simp only [step, serve, waits]
        exact ended (a := { s with broker := (s.broker.perform s.clock .close).1 }) rfl rfl _
      | reply r => exact ended rfl rfl r
      | turn =>
        simp only [step, turn, standing]
        exact ih standing
      | handlerEnded i panicked =>
        simp only [step, handlerEnded, stands]
        exact ih standing
      | abandon =>
        simp only [step, abandon, stands]
        exact (ended_after (getElem?_setState_self standing _) rfl es).2
    · obtain ⟨same, requests⟩ := s.frame_step e (Ne.symm about) begun
      exact (ih (same.trans standing)).trans requests

theorem closes_again (reachable : s.Reachable) (alive : s.service? k = some v) (es : List Event) :
    ((s.step (.begin k .close)).after es).requests s.operations.length = [.close] := by
  have unasked := reachable.requests_eq_nil (Nat.le_refl _)
  rw [step_begin alive]
  refine (closing_after (k := k) ?_ es).trans ?_
  · exact getElem?_setState_self (s.getElem?_addOperation k) _
  · refine (requests_asked _ _ _ _).trans ?_
    rw [if_pos rfl]
    exact congrArg (· ++ [Request.close]) unasked

/-! ## Calls on envelopes -/

theorem service?_reopened (alive : s.service? k = some v) :
    (s.reopened k).service? k = some { v with closed := false } := by
  have found := service?_eq_some alive
  have living : s.isAlive k = true := by
    unfold service? at alive
    split at alive
    · assumption
    · cases alive
  have modified : (s.reopened k).services[k]? = some { v with closed := false } := by
    simp [reopened, found]
  have same : (s.reopened k).isAlive k = s.isAlive k := by
    simp only [isAlive, modified, found, Option.map_some]
    rfl
  rw [service?, if_pos (same.trans living), modified]

/-- A call that ends alike in an open service, where it asks for nothing either. -/
theorem FailsClosed.of_alike {c : FailureCommand} {result : Except ChannelError Outcome}
    (stands : (s.step (.fail i c cause)).operations[s.operations.length]?
      = some ⟨k, .finished result⟩)
    (silent : (s.step (.fail i c cause)).requests s.operations.length = [])
    (stands' : ((s.reopened made.service).step (.fail i c cause)).operations[s.operations.length]?
      = some ⟨k, .finished result⟩)
    (silent' : ((s.reopened made.service).step (.fail i c cause)).requests s.operations.length = [])
    (alike : (s.step (.fail i c cause)).disposition? i
      = ((s.reopened made.service).step (.fail i c cause)).disposition? i) :
    s.FailsClosed i made c cause where
  silent := fun es => (result_after stands silent es).2
  refused := fun asks => absurd silent' asks
  otherwise := fun _ => ⟨alike, fun es =>
    (result_after stands silent es).1.trans (result?_of_finished stands').symm⟩

/-- A route of a closed service ends as it does in an open one, or is refused where that one asks for
a copy to be published. -/
theorem FailsClosed.of_routes {c : FailureCommand} {source : Channel} {text : String}
    (reachable : s.Reachable) (closed : v.closed = true)
    (here : (s.step (.fail i c cause)).RouteBegun s.operations.length k i made v source text)
    (there : ((s.reopened made.service).step (.fail i c cause)).RouteBegun s.operations.length k i
      made { v with closed := false } source text) : s.FailsClosed i made c cause := by
  have untouched {a b : System} (h : a.envelopes[i]? = some made)
      (h' : b.envelopes[i]? = some made) : a.disposition? i = b.disposition? i := by
    rw [disposition?, disposition?, h, h']
  cases there with
  | unconfigured none stands' silent' same' =>
    cases here with
    | unconfigured _ stands silent same =>
      exact .of_alike stands silent stands' silent' (untouched same same')
    | idle target configured => cases none.symm.trans configured
    | refused target configured => cases none.symm.trans configured
    | asked target waits configured => cases none.symm.trans configured
  | idle target configured settled stands' silent' same' =>
    cases here with
    | unconfigured none => cases none.symm.trans configured
    | idle _ _ _ stands silent same =>
      exact .of_alike stands silent stands' silent' (untouched same same')
    | refused _ _ free =>
      rcases settled with h | h <;> rcases free with h' | h' <;> cases h.symm.trans h'
    | asked _ _ _ _ opened => cases closed.symm.trans opened
  | refused _ _ _ shut => cases shut
  | asked target waits configured free _ _ once _ =>
    cases here with
    | unconfigured none => cases none.symm.trans configured
    | idle _ _ settled =>
      cases waits <;> rcases settled with h | h <;> cases h.symm.trans free
    | refused _ _ free' _ stands silent settled =>
      have last := disposition_after (reachable.step _) settled (by split <;> rfl)
      have named : (if made.disposition = .received then Disposition.nacked else .acked)
          = if made.disposition = .received then .nacked else made.disposition := by
        rcases free' with h | h <;> simp [h]
      refine ⟨fun es => (result_after stands silent es).2, fun _ es => ?_, fun nothing => ?_⟩
      · exact ⟨(result_after stands silent es).1, named ▸ last es⟩
      · cases nothing.symm.trans once
    | asked _ _ _ _ opened => cases closed.symm.trans opened

/-- A call on an envelope of a closed service publishes nothing. -/
theorem fails_of_closed (reachable : s.Reachable) (found : s.envelopes[i]? = some made)
    (alive : s.service? made.service = some v) (closed : v.closed = true) (c : FailureCommand)
    (cause : String) : s.FailsClosed i made c cause := by
  obtain ⟨source, known⟩ := reachable.source found alive
  have reopens := service?_reopened alive
  have now := step_fail found alive c cause
  have would : (s.reopened made.service).step (.fail i c cause)
      = ((s.reopened made.service).addOperation made.service).decide s.operations.length i made
        { v with closed := false } cause c := step_fail (s := s.reopened _) found reopens c cause
  have unasked : s.requests s.operations.length = [] := reachable.requests_eq_nil (Nat.le_refl _)
  have standing := s.getElem?_addOperation made.service
  rcases decide_cases known c s.clock s.operations.length i cause with routes | returns
  · rw [routes (s.addOperation _) v rfl rfl] at now
    rw [routes ((s.reopened _).addOperation _) { v with closed := false } rfl rfl] at would
    have here := routeBegun (i := i) standing unasked found known (isClosed_addOperation alive) cause
    have there := routeBegun (a := (s.reopened made.service).addOperation made.service) (i := i)
      (v := { v with closed := false }) standing unasked found known
      (isClosed_addOperation reopens) cause
    exact .of_routes reachable closed (now ▸ here) (would ▸ there)
  · rw [returns (s.addOperation _) v rfl rfl] at now
    rw [returns ((s.reopened _).addOperation _) { v with closed := false } rfl rfl] at would
    have ends (a : System) (same : a.operations = (s.addOperation made.service).operations)
        (journal : a.journal = s.journal) (envelopes : a.envelopes = s.envelopes) :
        ((a.nack i).finish s.operations.length (.ok .done)).operations[s.operations.length]?
            = some ⟨made.service, .finished (.ok .done)⟩ ∧
          ((a.nack i).finish s.operations.length (.ok .done)).requests s.operations.length = [] ∧
          ((a.nack i).finish s.operations.length (.ok .done)).disposition? i
            = some (if made.disposition = .received then .nacked else made.disposition) := by
      refine ⟨?_, ?_, disposition_nack (envelopes ▸ found)⟩
      · refine getElem?_setState_self (o := ⟨made.service, .abandoned⟩) ?_ _
        rw [nack, operations_settleFrom, same]
        exact standing
      · refine (requests_settleFrom a i _ _ _).trans ?_
        rw [requests_congr journal]
        exact unasked
    obtain ⟨stands, silent, settled⟩ := ends (s.addOperation made.service) rfl rfl rfl
    obtain ⟨stands', silent', settled'⟩ :=
      ends ((s.reopened made.service).addOperation made.service) rfl rfl rfl
    rw [← now] at stands silent settled
    rw [← would] at stands' silent' settled'
    exact .of_alike stands silent stands' silent' (settled.trans settled'.symm)

/-- A call on an envelope whose service no one holds is refused and leaves all envelopes alone. -/
theorem dropped_fail (reachable : s.Reachable) (found : s.envelopes[i]? = some made)
    (gone : s.service? made.service = none) (c : FailureCommand) (cause : String) :
    (s.step (.fail i c cause)).envelopes = s.envelopes ∧
      ∀ es, ((s.step (.fail i c cause)).after es).result? s.operations.length
          = some (.error .closed) ∧
        ((s.step (.fail i c cause)).after es).requests s.operations.length = [] := by
  have ends : s.step (.fail i c cause)
      = (s.addOperation made.service).finish s.operations.length (.error .closed) := by
    simp only [step, beginFailure, found, gone]
  rw [ends]
  refine ⟨rfl, result_after (k := made.service) ?_ ?_⟩
  · exact getElem?_setState_self (s.getElem?_addOperation _) _
  · exact reachable.requests_eq_nil (Nat.le_refl _)

/-! ## From its closing on -/

theorem services_step_close (alive : s.service? k = some v) :
    (s.step (.begin k .close)).services[k]? = some { v with closed := true } := by
  have found := service?_eq_some alive
  rw [step_begin alive]
  show (s.services.modify k fun v => { v with closed := true })[k]? = _
  rw [List.getElem?_modify_eq, found]
  rfl

/-- **Closing is final**: from the moment in which a service is closed, whatever happens then. -/
theorem closedForGood (reachable : s.Reachable) (alive : s.service? k = some v)
    (es : List Event) : ((s.step (.begin k .close)).after es).ClosedForGood k := by
  have later := (reachable.step (.begin k .close)).after es
  obtain ⟨v', found', _, closed'⟩ := closed_after (services_step_close alive) rfl es
  have shut (w : Service)
      (alive' : ((s.step (.begin k .close)).after es).service? k = some w) : w.closed = true := by
    obtain rfl : v' = w := Option.some.inj (found'.symm.trans (service?_eq_some alive'))
    exact closed'
  refine ⟨(isClosed_of_getElem? found').trans closed', ?_, ?_, ?_, ?_⟩
  · exact fun w alive' c err refused => refuses_of_closed later alive' (shut w alive') refused
  · exact fun w alive' => closes_again later alive'
  · rintro i made c cause w found rfl alive'
    exact fails_of_closed later found alive' (shut w alive') c cause
  · rintro i made c cause found rfl gone
    exact dropped_fail later found gone c cause

/-- A service is closed twice while a handler has an envelope; the transport fails the first time. -/
def closedTwice : List Event :=
  [.begin 0 .close, .reply 2 (.error (.unavailable "no connection")), .serve 3]

theorem closedForGood_closedTwice :
    ((((start .epoch).after oneReceived).step (.begin 0 .close)).after closedTwice).ClosedForGood 0 ∧
      (((((start .epoch).after oneReceived).step (.begin 0 .close)).after closedTwice).step
        (.fail 0 .deadLetter "bad")).disposition? 0 = some .nacked := by
  have held : (((start .epoch).after oneReceived).service? 0).isSome = true := by decide +kernel
  obtain ⟨v, alive⟩ := Option.isSome_iff_exists.1 held
  exact ⟨closedForGood ⟨.epoch, _, rfl⟩ alive closedTwice, by decide +kernel⟩

end System

end MessageChannels
