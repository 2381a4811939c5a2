import MessageChannels.Proofs.Envelope.Tally
import MessageChannels.Proofs.Service.Hearing

/-!
# Calls that publish

Two kinds of calls publish: that of an event, and a decision on a failed envelope, which publishes a
dead letter. An operation waits for a publish only from the call that begins it
(`publishing_before`, `begins`), and what it counts is determined by the call and by the reply that
ends the wait. The only other thing that counts publishes is a decision that a closed service
refuses.
-/

set_option autoImplicit false

namespace MessageChannels

/-- A call that publishes on a channel, or dead letters of envelopes of a channel. -/
inductive Publication where
  | event (channel : String)
  | deadLetter (channel : String)
  deriving DecidableEq

namespace Publication

/-- The channel under which the publish of a call is counted. -/
def label? (r : Registry) : Publication → Option String
  | event channel => some channel
  | deadLetter _ => r.deadLetter?.map Channel.id

/-- How much a call adds to a counter of publishes when its publish is accepted or fails. -/
def adds (r : Registry) (call : Publication) (accepted : Bool) (counter : Counter)
    (label : String) : Nat :=
  match counter with
  | .published => if accepted ∧ call.label? r = some label then 1 else 0
  | .publishDurations => if accepted ∧ call.label? r = some label then 1 else 0
  | .publishErrors => if !accepted ∧ call.label? r = some label then 1 else 0
  | .deadLettered => if accepted ∧ call = deadLetter label then 1 else 0
  | .deadLetterErrors => if !accepted ∧ call = deadLetter label then 1 else 0
  | _ => 0

/-- How much a call adds to a counter of publishes by a reply, if it gets one. -/
def gains (r : Registry) (call : Publication) (counter : Counter) (label : String) :
    Option (Except TransportError Reply) → Nat
  | some reply => call.adds r reply.isOk counter label
  | none => 0

end Publication

/-- Whether a publish is that of a call. -/
def Publishing.IsOf (r : Registry) (p : Publishing) : Publication → Prop
  | .event channel => p.purpose = .event ∧ p.label = channel
  | .deadLetter channel =>
    (∃ i waits, p.purpose = .deadLetter i waits channel) ∧
      r.deadLetter?.map Channel.id = some p.label

/-- What the end of a publish counts beside the publish. -/
def Publishing.ending (p : Publishing) (accepted : Bool) : List Note :=
  match p.purpose with
  | .event => []
  | .deadLetter _ _ channel =>
    [.counted (if accepted then .deadLettered else .deadLetterErrors) channel]

/-- What the reply to a publish counts. -/
def Publishing.news (p : Publishing) : Except TransportError Reply → List Note
  | .ok _ => .counted .published p.label :: .counted .publishDurations p.label :: p.ending true
  | .error _ => .counted .publishErrors p.label :: p.ending false

/-- What the reply to the publish of a call counts is what the call adds. -/
theorem Publishing.count_news {r : Registry} {p : Publishing} {call : Publication}
    (of : p.IsOf r call) (reply : Except TransportError Reply) {counter : Counter}
    (about : counter.countsPublishes = true) (label : String) :
    Note.count (p.news reply) counter label = call.adds r reply.isOk counter label := by
  have each : Note.count (p.news reply) counter label
      = (p.news reply).countP (· = .counted counter label) := List.countP_eq_length_filter.symm
  rw [each]
  cases call with
  | event channel =>
    obtain ⟨purpose, rfl⟩ := of
    cases reply <;> cases counter <;>
      first
        | exact absurd about Bool.false_ne_true
        | simp [news, ending, purpose, List.countP_cons, Publication.adds, Publication.label?,
            Except.isOk, Except.toBool]
  | deadLetter channel =>
    obtain ⟨⟨i, waits, purpose⟩, target⟩ := of
    cases reply <;> cases counter <;>
      first
        | exact absurd about Bool.false_ne_true
        | simp [news, ending, purpose, List.countP_cons, Publication.adds, Publication.label?,
            target, Except.isOk, Except.toBool]

namespace System

/-- An operation does not wait for a publish. -/
def NoPublish (s : System) (op : Nat) : Prop :=
  ∀ (k : Nat) (p : Publishing), s.operations[op]? ≠ some ⟨k, .publishing p⟩

/-- The counters of publishes count some notes more. -/
def Counts (s s' : System) (notes : List Note) : Prop :=
  ∀ (counter : Counter) (label : String), counter.countsPublishes = true →
    s'.tally counter label = s.tally counter label + Note.count notes counter label

/-- How a decision on an envelope of a channel begins, where its service is held. -/
inductive Decision (a s₁ : System) (op k : Nat) (r : Registry) (channel : String) : Prop where
  | waits (p : Publishing) (standing : s₁.operations[op]? = some ⟨k, .publishing p⟩)
      (of : p.IsOf r (.deadLetter channel)) (counts : a.Counts s₁ [])
  /-- The closed service refuses the dead letter. -/
  | refused (standing : s₁.operations[op]? = some ⟨k, .finished (.error .closed)⟩)
      (counts : a.Counts s₁ [.counted .deadLetterErrors channel])
  | ended (result : Except ChannelError Outcome) (other : result ≠ .error .closed)
      (standing : s₁.operations[op]? = some ⟨k, .finished result⟩) (counts : a.Counts s₁ [])

variable {e : Event} {op k i : Nat} {s s' a : System} {p : Publishing} {made : Envelope}
  {r : Registry} {v : Service} {channel : String} {notes : List Note}

/-! ## What counts publishes -/

theorem Counts.of_journal (journal : s'.journal = s.journal) : s.Counts s' [] :=
  fun _ _ _ => tally_congr journal _ _

theorem Counts.trans {t : System} {more : List Note} (first : s.Counts s' notes)
    (second : s'.Counts t more) : s.Counts t (notes ++ more) := by
  intro counter label about
  rw [second counter label about, first counter label about, Note.count_append, Nat.add_assoc]

theorem counts_note (s : System) (n : Note) : s.Counts (s.note n) [n] :=
  fun _ _ _ => tally_note _ _ _ _

theorem counts_settleFrom (s : System) (i : Nat) (d : Disposition) (v : Settlement) :
    s.Counts (s.settleFrom i d v) [] := by
  intro counter label about
  rcases s.settleFrom_cases i d v with same | ⟨made, _, _, settles⟩
  · rw [same]
    rfl
  · have apart : ¬ settlementCounter v = counter := by
      rintro rfl
      cases v <;> cases about
    rw [settles]
    refine (tally_note _ _ _ _).trans ?_
    rw [count_counted, if_neg fun h => apart h.1]
    exact tally_useAcker _ _ _ _ _ _

theorem counts_await (s : System) (op : Nat) (state : OperationState) :
    s.Counts (s.await op state) [] := by
  unfold await
  split
  · exact fun _ _ _ => tally_asked _ _ _ _ _
  · exact .of_journal rfl

theorem counts_tend (s : System) (op : Nat) (next : Topology.Next) :
    s.Counts (s.tend op next) [] := by
  unfold tend
  split
  · exact counts_await s op _
  · exact .of_journal rfl
  · exact .of_journal rfl

theorem counts_endPublish (s : System) (op : Nat) (p : Publishing)
    (result : Except ChannelError String) :
    s.Counts (s.endPublish op p result) (p.ending result.isOk) := by
  have settled (waits : Bool) (i : Nat) (v : Settlement) :
      s.Counts (if waits then s.settleFrom i .deadLetterPending v else s) [] := by
    cases waits with
    | true => exact counts_settleFrom s i _ v
    | false => exact .of_journal rfl
  unfold endPublish Publishing.ending
  cases p.purpose with
  | event => cases result <;> exact .of_journal rfl
  | deadLetter i waits channel =>
    cases result with
    | ok id => exact ((settled waits i .ack).trans (counts_note _ _)).trans (.of_journal rfl)
    | error err => exact ((settled waits i .nack).trans (counts_note _ _)).trans (.of_journal rfl)

theorem counts_answerPublish (s : System) (op : Nat) (p : Publishing)
    (reply : Except TransportError Reply) :
    s.Counts (s.answerPublish op p reply) (p.news reply) := by
  cases reply with
  | ok r =>
    exact ((counts_note s _).trans (counts_note _ _)).trans (counts_endPublish _ op p (.ok r.id))
  | error err => exact (counts_note s _).trans (counts_endPublish _ op p (.error _))

theorem counts_addEnvelope (s : System) (k : Nat) (channel : String) (d : Taken) :
    s.Counts (s.addEnvelope k channel d).1 [] := by
  intro counter label about
  refine (tally_note _ _ _ _).trans ?_
  rw [count_counted, if_neg]
  · rfl
  · rintro ⟨rfl, _⟩
    cases about

/-- An act counts publishes only where an operation gets a reply, or an envelope is decided on. -/
theorem Act.counts (act : Act e op s s')
    (quiet : ¬ (e.Answers op ∨ ∃ i c cause, e = .fail i c cause)) : s.Counts s' [] := by
  cases act with
  | wrote n told =>
    intro counter label about
    rw [tally_note]
    cases n with
    | reported event cause => rfl
    | counted counter' label' => exact absurd told.2 quiet
  | asked r waits => exact fun _ _ _ => tally_asked _ _ _ _ _
  | looked source nothing => exact .of_journal (journal_poll s source)
  | leftSource source => exact .of_journal (journal_dropSource s source)
  | gaveUp i made cause found => exact .of_journal (journal_dropAcker s _)
  | pulled k l d found phase shown => exact .of_journal (journal_poll s l.source)
  | handed k l d cause found phase =>
    exact (counts_addEnvelope s k l.channel d).trans (.of_journal rfl)
  | letGo k l d outcome found phase => exact .of_journal (journal_dropAcker s d.acker)
  | collected k c d found shown =>
    exact (Counts.of_journal (journal_poll s c.source)).trans (counts_addEnvelope _ k c.channel d)
  | settled i made v found received cause => exact counts_settleFrom s i _ v
  | left i k p v channel result cause standing purpose => exact absurd (Or.inl cause) quiet
  | _ => exact .of_journal rfl

theorem counts_quiet (s : System)
    (quiet : ¬ (e.Answers (e.operation s) ∨ ∃ i c cause, e = .fail i c cause)) :
    s.Counts (s.step e) [] := by
  have acts := s.acts_step e
  generalize s.step e = s' at acts
  induction acts with
  | refl => exact .of_journal rfl
  | tail _ act ih => exact ih.trans (act.counts quiet)

/-! ## Operations that wait for no publish -/

theorem noPublish_setState {state : OperationState} (other : ∀ p, state ≠ .publishing p) :
    (s.setState op state).NoPublish op := by
  intro k p found
  rw [getElem?_setState, if_pos rfl] at found
  obtain ⟨o, _, heq⟩ := Option.map_eq_some_iff.1 found
  exact other p (congrArg Operation.state heq)

theorem noPublish_finish (result : Except ChannelError Outcome) :
    (s.finish op result).NoPublish op :=
  noPublish_setState nofun

theorem noPublish_await {state : OperationState} (other : ∀ p, state ≠ .publishing p) :
    (s.await op state).NoPublish op := by
  unfold await
  split
  · exact noPublish_setState other
  · exact noPublish_setState other

theorem noPublish_tend (next : Topology.Next) : (s.tend op next).NoPublish op := by
  unfold tend
  split
  · exact noPublish_await nofun
  · exact noPublish_finish _
  · exact noPublish_finish _

theorem noPublish_beginReceive (v : Service) (channel : String) (ctx : Nat) (intent : Intent) :
    (s.beginReceive op v channel ctx intent).NoPublish op := by
  unfold beginReceive
  split
  · exact noPublish_finish _
  · split
    · exact noPublish_finish _
    · exact noPublish_await nofun

theorem noPublish_endPublish (p : Publishing) (result : Except ChannelError String) :
    (s.endPublish op p result).NoPublish op := by
  unfold endPublish
  split <;> exact noPublish_finish _

theorem NoPublish.of_operations (none : s.NoPublish op) (same : s'.operations = s.operations) :
    s'.NoPublish op :=
  fun k p found => none k p (same ▸ found)

/-- A reply ends the wait for a publish, and begins none. -/
theorem noPublish_answer (s : System) (op : Nat) (reply : Except TransportError Reply) :
    (s.answer op reply).NoPublish op := by
  unfold answer
  split
  · rename_i nothing
    exact fun k p found => by cases nothing.symm.trans found
  · rename_i o found
    split
    · rename_i p _
      cases reply <;> exact noPublish_endPublish p _
    · exact noPublish_tend _
    · split <;> exact noPublish_finish _
    · unfold answerOpening
      split
      · unfold listen
        split <;> exact noPublish_setState nofun
      · exact noPublish_finish _
      · exact noPublish_finish _
    · rename_i other _ _ _
      exact fun k p found' => by
        cases found.symm.trans found'
        exact other p rfl

theorem noPublish_turn (none : s.NoPublish op) : (s.turn op).1.NoPublish op := by
  unfold turn
  split
  · exact none
  · split
    · rename_i l _
      unfold turnLoop
      dsimp only
      split
      · exact noPublish_setState nofun
      · split
        · exact none.of_operations (operations_poll s l.source)
        · exact noPublish_setState nofun
        · exact noPublish_setState nofun
      · exact noPublish_setState nofun
      · exact noPublish_setState nofun
      · exact noPublish_finish _
      · exact none
    · rename_i c _
      unfold turnCollection
      dsimp only
      split
      · exact noPublish_finish _
      · split
        · exact none.of_operations (operations_poll s c.source)
        · exact noPublish_setState nofun
        · exact noPublish_finish _
    · exact none

theorem noPublish_handlerEnded (none : s.NoPublish op) (i : Nat) (panicked : Bool) :
    (s.handlerEnded op i panicked).NoPublish op := by
  unfold handlerEnded
  split
  · exact noPublish_setState nofun
  · exact none

theorem noPublish_abandon (s : System) (op : Nat) : (s.abandon op).NoPublish op := by
  unfold abandon
  split
  · exact noPublish_setState nofun
  · exact noPublish_setState nofun
  · rename_i result finished
    intro k p found
    cases finished.symm.trans (map_state_of_getElem? found)
  · exact noPublish_setState nofun

/-- An operation that waits for a publish after an event waited for it before. -/
theorem publishing_before (begun : op < s.operations.length)
    (standing : (s.step e).operations[op]? = some ⟨k, .publishing p⟩) :
    s.operations[op]? = some ⟨k, .publishing p⟩ := by
  by_cases about : e.operation s = op
  · have stays (same : s.step e = s) : s.operations[op]? = some ⟨k, .publishing p⟩ :=
      same ▸ standing
    have waited (begins : s.NoPublish op → (s.step e).NoPublish op) :
        ∃ j q, s.operations[op]? = some ⟨j, .publishing q⟩ := by
      by_contra none
      exact begins (fun j q found => none ⟨j, q, found⟩) k p standing
    cases concerns_of_about begun about with
    | serve =>
      refine stays ?_
      cases asks : s.request? op with
      | none => simp only [step, serve, asks]
      | some r =>
        simp only [step, serve, asks] at standing
        exact absurd standing (noPublish_answer _ op _ k p)
    | reply r => exact absurd standing (noPublish_answer s op r k p)
    | turn =>
      obtain ⟨j, q, found⟩ := waited noPublish_turn
      refine stays ?_
      simp only [step, turn, found]
    | handlerEnded i panicked =>
      obtain ⟨j, q, found⟩ := waited fun none => noPublish_handlerEnded none i panicked
      refine stays ?_
      simp only [step, handlerEnded, map_state_of_getElem? found]
    | abandon => exact absurd standing (noPublish_abandon s op k p)
  · exact (s.frame_step e (Ne.symm about) begun).1 ▸ standing

/-! ## How calls that publish begin -/

/-- A call that publishes an event waits for its publish, or has ended. -/
theorem event_begun (s : System) (r : Registry) (k : Nat) (channel event : String)
    (payload : Except String Json) :
    (∃ p, (s.step (.begin k (.publish channel event payload))).operations[s.operations.length]?
        = some ⟨k, .publishing p⟩ ∧ p.IsOf r (.event channel)) ∨
      ∃ result, (s.step (.begin k (.publish channel event payload))).operations[
        s.operations.length]? = some ⟨k, .finished result⟩ := by
  have found := s.getElem?_addOperation k
  have ends (result : Except ChannelError Outcome) :
      ((s.addOperation k).finish s.operations.length result).operations[s.operations.length]?
        = some ⟨k, .finished result⟩ := getElem?_setState_self found _
  cases alive : s.service? k with
  | none =>
    simp only [step, begin, alive]
    exact Or.inr ⟨_, ends _⟩
  | some v =>
    rw [step_begin alive]
    dsimp only [run]
    split
    · exact Or.inr ⟨_, ends _⟩
    · exact Or.inr ⟨_, ends _⟩
    · rename_i c payload _
      unfold beginPublish
      split
      · exact Or.inr ⟨_, standing_endPublish_error found _ _⟩
      · refine Or.inl ⟨⟨channel, c.topic, .event event payload, .event⟩, ?_, rfl, rfl⟩
        rw [operations_await, getElem?_setState_self found]

/-- Another command does not publish. -/
theorem noPublish_begin (s : System) (k : Nat) {c : Command}
    (other : ∀ channel event payload, c ≠ .publish channel event payload) :
    (s.step (.begin k c)).NoPublish s.operations.length := by
  cases alive : s.service? k with
  | none =>
    simp only [step, begin, alive]
    exact noPublish_finish _
  | some v =>
    rw [step_begin alive]
    cases c with
    | publish channel event payload => exact absurd rfl (other channel event payload)
    | deleteChannel channel =>
      dsimp only [run]
      split
      · exact noPublish_finish _
      · exact noPublish_tend _
    | close => exact noPublish_await (by simp)
    | receive channel ctx => exact noPublish_beginReceive v channel ctx _
    | receiveN channel count ctx => exact noPublish_beginReceive v channel ctx _
    | _ => exact noPublish_tend _

theorem Decision.from {t : System} (counts : t.Counts a [])
    (decision : Decision a s' op k r channel) : Decision t s' op k r channel := by
  cases decision with
  | waits p standing of same => exact .waits p standing of (counts.trans same)
  | refused standing refusal => exact .refused standing (counts.trans refusal)
  | ended result other standing same => exact .ended result other standing (counts.trans same)

theorem decision_finish {state : OperationState} (found : a.operations[op]? = some ⟨k, state⟩)
    {result : Except ChannelError Outcome} (other : result ≠ .error .closed) :
    Decision a (a.finish op result) op k r channel :=
  .ended result other (getElem?_setState_self found _) (.of_journal rfl)

theorem decision_beginPublish {state : OperationState}
    (found : a.operations[op]? = some ⟨k, state⟩) (of : p.IsOf r (.deadLetter channel))
    (service : Nat) : Decision a (a.beginPublish op service p) op k r channel := by
  obtain ⟨⟨i, waits, purpose⟩, _⟩ := id of
  unfold beginPublish
  split
  · refine .refused (standing_endPublish_error found p _) ?_
    have counts := counts_endPublish a op p (.error .closed)
    rwa [Publishing.ending, purpose] at counts
  · refine .waits p ?_ of (counts_await a op _)
    rw [operations_await, getElem?_setState_self found]

theorem decision_route {state : OperationState} (found : a.operations[op]? = some ⟨k, state⟩)
    (registry : v.registry = r) (cause : String) :
    Decision a (a.route op i made v cause) op k r made.channel := by
  unfold route
  split
  · exact decision_finish found nofun
  · exact decision_finish found nofun
  · rename_i target source configured known
    have of (waits : Bool) : Publishing.IsOf r ⟨target.id, target.topic,
        DeadLetter.copy made.message source cause, .deadLetter i waits made.channel⟩
        (.deadLetter made.channel) := by
      refine ⟨⟨i, waits, rfl⟩, ?_⟩
      rw [← registry, configured]
      rfl
    dsimp only
    split
    · refine Decision.from (a := a.setDisposition i .deadLetterPending) (.of_journal rfl) ?_
      exact decision_beginPublish (a := a.setDisposition i _) found (of true) _
    · exact decision_beginPublish found (of false) _
    · exact decision_finish found nofun
    · exact decision_finish found nofun

theorem decision_decide {state : OperationState} (found : a.operations[op]? = some ⟨k, state⟩)
    (registry : v.registry = r) (cause : String) (c : FailureCommand) :
    Decision a (a.decide op i made v cause c) op k r made.channel := by
  cases c with
  | deadLetter => exact decision_route found registry cause
  | retry =>
    dsimp only [decide]
    split
    · exact decision_finish found (by simp)
    · split
      · have nacked : (a.nack i).operations[op]? = some ⟨k, state⟩ := by
          rw [nack, operations_settleFrom]
          exact found
        exact .from (counts_settleFrom a i _ _) (decision_finish nacked (by simp))
      · exact decision_route found registry cause

/-- **How a decision on an envelope begins**: it waits for the publish of a dead letter, or is
refused, or has ended; and what is counted of publishes is the refusal. -/
theorem decision_step (found : s.envelopes[i]? = some made)
    (alive : s.service? made.service = some v) (c : FailureCommand) (cause : String) :
    Decision s (s.step (.fail i c cause)) s.operations.length made.service v.registry
      made.channel := by
  rw [step_fail found alive]
  refine Decision.from (a := s.addOperation made.service) (.of_journal rfl) ?_
  exact decision_decide (s.getElem?_addOperation _) rfl cause c

/-- A decision where there is nothing to decide ends at once. -/
theorem decision_gone (s : System) (i : Nat) (c : FailureCommand) (cause : String)
    (gone : ∀ made, s.envelopes[i]? = some made → s.service? made.service = none) :
    (∃ k, (s.step (.fail i c cause)).operations[s.operations.length]?
        = some ⟨k, .finished (.error .closed)⟩) ∧ s.Counts (s.step (.fail i c cause)) [] := by
  have ends (k : Nat) : ((s.addOperation k).finish s.operations.length
      (.error .closed)).operations[s.operations.length]? = some ⟨k, .finished (.error .closed)⟩ :=
    getElem?_setState_self (s.getElem?_addOperation k) _
  cases found : s.envelopes[i]? with
  | none =>
    simp only [step, beginFailure, found]
    exact ⟨⟨0, ends 0⟩, .of_journal rfl⟩
  | some made =>
    simp only [step, beginFailure, found, gone made found]
    exact ⟨⟨made.service, ends made.service⟩, .of_journal rfl⟩

/-! ## How a publish ends -/

theorem standing_answerPublish (found : s.operations[op]? = some ⟨k, .publishing p⟩)
    (reply : Except TransportError Reply) :
    ∃ result, (s.answerPublish op p reply).operations[op]? = some ⟨k, .finished result⟩ := by
  cases reply with
  | ok reply =>
    obtain ⟨outcome, ends⟩ := standing_endPublish_ok
      (s := (s.count .published p.label).count .publishDurations p.label) found p reply.id
    exact ⟨_, ends⟩
  | error err =>
    exact ⟨_, standing_endPublish_error (s := s.count .publishErrors p.label) found p _⟩

/-- **The reply to a publish ends it and is counted**; without one it waits on, or is given up. -/
theorem publishing_step (found : s.operations[op]? = some ⟨k, .publishing p⟩) (e : Event) :
    (∃ reply result, s.replyIn op e = some reply ∧
        (s.step e).operations[op]? = some ⟨k, .finished result⟩ ∧
        s.Counts (s.step e) (p.news reply)) ∨
      s.replyIn op e = none ∧ ((s.step e).operations[op]? = some ⟨k, .publishing p⟩ ∨
        (s.step e).operations[op]? = some ⟨k, .abandoned⟩) := by
  have begun := (List.getElem?_eq_some_iff.1 found).1
  by_cases about : e.operation s = op
  · by_cases given : e = .abandon op
    · subst given
      refine Or.inr ⟨rfl, Or.inr ?_⟩
      simp only [step, abandon, map_state_of_getElem? found]
      exact getElem?_setState_self found _
    · rcases step_of_publishing found about given with ⟨reply, replied, replies⟩ | ⟨same, none, _⟩
      · left
        -- The broker may have worked before the operation is answered.
        obtain ⟨t, answers, journal, operations⟩ : ∃ t : System, s.step e = t.answer op reply ∧
            t.journal = s.journal ∧ t.operations = s.operations := by
          rcases replies with ⟨_, answers⟩ | ⟨_, _, answers⟩
          · exact ⟨s, answers, rfl, rfl⟩
          · exact ⟨_, answers, rfl, rfl⟩
        have found' : t.operations[op]? = some ⟨k, .publishing p⟩ := operations ▸ found
        obtain ⟨result, standing⟩ := standing_answerPublish found' reply
        have ends : s.step e = t.answerPublish op p reply := by
          rw [answers]
          simp only [answer, found']
        refine ⟨reply, result, replied, ends ▸ standing, ?_⟩
        rw [ends]
        exact (Counts.of_journal journal).trans (counts_answerPublish t op p reply)
      · rw [same]
        exact Or.inr ⟨none, Or.inl found⟩
  · obtain ⟨same, _⟩ := s.frame_step e (Ne.symm about) begun
    exact Or.inr ⟨replyIn_of_not_about about, Or.inl (same.trans found)⟩

/-- A reply that does not end a publish counts none. -/
theorem counts_answer (none : s.NoPublish op) (reply : Except TransportError Reply) :
    s.Counts (s.answer op reply) [] := by
  unfold answer
  split
  · exact .of_journal rfl
  · rename_i o found
    obtain ⟨k, state⟩ := o
    cases state with
    | publishing p => exact absurd found (none k p)
    | tending w => exact counts_tend s op _
    | closing => cases reply <;> exact .of_journal rfl
    | opening w =>
      dsimp only [answerOpening]
      split
      · unfold listen
        split <;> exact .of_journal rfl
      · exact .of_journal rfl
      · exact .of_journal rfl
    | _ => exact .of_journal rfl

theorem counts_answered (none : s.NoPublish op) (answers : e.Answers op) :
    s.Counts (s.step e) [] := by
  rcases answers with rfl | ⟨reply, rfl⟩
  · cases asks : s.request? op with
    | none =>
      simp only [step, serve, asks]
      exact .of_journal rfl
    | some r =>
      simp only [step, serve, asks]
      have worked : s.Counts { s with broker := (s.broker.perform s.clock r).1 } [] :=
        .of_journal rfl
      refine worked.trans (counts_answer ?_ _)
      exact none.of_operations rfl
  · exact counts_answer none reply

end System

end MessageChannels
