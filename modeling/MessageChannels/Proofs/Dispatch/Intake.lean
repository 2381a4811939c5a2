import Mathlib.Data.List.Forall2
import MessageChannels.Proofs.Envelope.Settlement
import MessageChannels.Proofs.Service.Hearing

/-!
# What an operation takes and writes

An operation that receives is followed by two lists: the deliveries that its source shows it
(`pulled`), and the entries that the journal gets by the operation's own steps (`written`), among them
every settlement that the operation itself passes to a handle. Both grow by what `Does` says of one
event. Receiving begins with neither, and has neither until it has its source (`receive_begun`,
`opening_step`).
-/

set_option autoImplicit false

namespace MessageChannels

/-- The delivery that is heard of. -/
def Heard.delivery? : Heard → Option Taken
  | shown _ (.delivered d) => some d
  | _ => none

/-- The settlement that an entry tells of, with the envelope and its handle. -/
def Entry.settlement? : Entry → Option (Nat × Acker × Settlement)
  | settled i a v => some (i, a, v)
  | _ => none

/-- The command that has deliveries received on a channel. -/
def Intent.command (intent : Intent) (channel : String) (ctx : Nat) : Command :=
  match intent with
  | dispatch => .receive channel ctx
  | collect count => .receiveN channel count ctx

namespace System

/-- The deliveries that an operation takes from its source in an event. -/
def pulledIn (s : System) (op : Nat) (e : Event) : List Taken :=
  (s.heardIn op e).filterMap Heard.delivery?

/-- The deliveries that an operation takes from its source in a run. -/
def pulled (s : System) (op : Nat) (es : List Event) : List Taken :=
  (s.heard op es).filterMap Heard.delivery?

/-- What an operation, which was begun before, itself adds to the journal in an event. -/
def writtenIn (s : System) (op : Nat) (e : Event) : List Entry :=
  if e.operation s = op then (s.step e).journal.drop s.journal.length else []

/-- What an operation itself adds to the journal in a run. -/
def written (s : System) (op : Nat) : List Event → List Entry
  | [] => []
  | e :: es => s.writtenIn op e ++ (s.step e).written op es

/-- Envelopes of a channel of a service are those of deliveries, in order, whatever has become of them
since. -/
def Carries (s : System) (k : Nat) (channel : String) : List Nat → List Taken → Prop :=
  List.Forall₂ fun i d => ∃ disposition,
    s.envelopes[i]? = some ⟨d.message, channel, k, d.acker, disposition⟩

/-- What an operation takes and writes in an event. -/
structure Does (s : System) (op : Nat) (e : Event) (ds : List Taken) (ws : List Entry) :
    Prop where
  pulled : s.pulledIn op e = ds
  written : s.writtenIn op e = ws

/-- What an event makes of an operation that waits for its source. -/
inductive OpeningNext (s : System) (k : Nat) (o : Opening) : OperationState → Prop where
  | waits : OpeningNext s k o (.opening o)
  | dispatches (source : Source) (intent : o.intent = .dispatch) :
      OpeningNext s k o (.receiving (s.freshLoop k o source))
  | collects (count : Nat) (source : Source) (intent : o.intent = .collect count) :
      OpeningNext s k o (.collecting ⟨o.channel, o.subscription, o.ctx, source, count, []⟩)
  | failed (err : ChannelError) : OpeningNext s k o (.finished (.error err))
  | abandoned : OpeningNext s k o .abandoned

variable {e : Event} {op k : Nat} {s : System} {o : Opening} {ws : List Entry} {channel : String}
  {is : List Nat} {ds : List Taken}

/-! ## Runs -/

theorem pulled_snoc (s : System) (op : Nat) (es : List Event) (e : Event) :
    s.pulled op (es ++ [e]) = s.pulled op es ++ (s.after es).pulledIn op e := by
  rw [pulled, heard_snoc, List.filterMap_append]
  rfl

theorem written_snoc (s : System) (op : Nat) (es : List Event) (e : Event) :
    s.written op (es ++ [e]) = s.written op es ++ (s.after es).writtenIn op e := by
  induction es generalizing s with
  | nil => exact List.append_nil _
  | cons e' es ih =>
    rw [List.cons_append, written, ih, written, List.append_assoc]
    rfl

/-! ## Envelopes of deliveries -/

theorem Carries.step (carries : s.Carries k channel is ds) (reachable : s.Reachable) (e : Event) :
    (s.step e).Carries k channel is ds := by
  refine carries.imp fun i d found => ?_
  obtain ⟨disposition, found⟩ := found
  exact envelope_after reachable found [e]

theorem Carries.lt_length (carries : s.Carries k channel is ds) :
    ∀ i ∈ is, i < s.envelopes.length := by
  have bounded : List.Forall₂ (fun i d => i < s.envelopes.length ∧ ∃ disposition,
      s.envelopes[i]? = some ⟨d.message, channel, k, d.acker, disposition⟩) is ds := by
    refine carries.imp fun i d found => ⟨?_, found⟩
    obtain ⟨disposition, found⟩ := found
    exact (List.getElem?_eq_some_iff.1 found).1
  exact ((List.forall₂_and_left _ _).1 bounded).1

/-! ## One event -/

theorem writtenIn_of_journal (about : e.operation s = op)
    (journal : (s.step e).journal = s.journal ++ ws) : s.writtenIn op e = ws := by
  rw [writtenIn, if_pos about, journal, List.drop_left]

/-- An operation takes and writes nothing where it hears nothing and the journal stays as it is. -/
theorem does_nothing (about : e.operation s = op) (silent : s.heardIn op e = [])
    (journal : (s.step e).journal = s.journal) : s.Does op e [] [] where
  pulled := by rw [pulledIn, silent, List.filterMap_nil]
  written := writtenIn_of_journal about (journal.trans (List.append_nil _).symm)

theorem does_nothing_elsewhere (other : e.operation s ≠ op) : s.Does op e [] [] where
  pulled := by
    have silent : s.heardIn op e = [] :=
      heardIn_eq_nil (fun turns => other (turns ▸ rfl)) (replyIn_of_not_about other)
    rw [pulledIn, silent, List.filterMap_nil]
  written := if_neg other

/-- A reply is no delivery. -/
theorem pulledIn_of_not_turn (turns : e ≠ .turn op) : s.pulledIn op e = [] := by
  unfold pulledIn heardIn
  split
  · rename_i j
    rw [if_neg fun same => turns (congrArg Event.turn same)]
    rfl
  · split <;> rfl

/-- An operation takes and writes nothing where it gets no turn and the journal stays as it is. -/
theorem does_nothing_unturned (about : e.operation s = op) (turns : e ≠ .turn op)
    (journal : (s.step e).journal = s.journal) : s.Does op e [] [] where
  pulled := pulledIn_of_not_turn turns
  written := writtenIn_of_journal about (journal.trans (List.append_nil _).symm)

/-- Whatever happens to an operation that has come to an end, it does nothing. -/
theorem does_nothing_ended {state : OperationState}
    (standing : s.operations[op]? = some ⟨k, state⟩) (ended : state.inProgress = false)
    (e : Event) : s.Does op e [] [] := by
  by_cases about : e.operation s = op
  · have same : (s.step e).journal = s.journal := by rw [step_of_ended standing ended about]
    by_cases turns : e = .turn op
    · subst turns
      refine does_nothing about ?_ same
      simp only [heardIn, if_true, seenBy, standing]
      cases state <;> first | rfl | cases ended
    · exact does_nothing_unturned about turns same
  · exact does_nothing_elsewhere about

/-! ## Opening -/

/-- Receiving begins by waiting for its source, or ends where it begins. -/
theorem receive_begun (s : System) (k : Nat) (intent : Intent) (channel : String) (ctx : Nat) :
    ∃ state, (s.step (.begin k (intent.command channel ctx))).operations[s.operations.length]?
        = some ⟨k, state⟩ ∧
      ((∃ err, state = .finished (.error err)) ∨
        intent = .collect 0 ∧ state = .finished (.ok (.collected [])) ∨
        ∃ topic subscription, state = .opening ⟨channel, topic, subscription, ctx, intent⟩) := by
  have found := s.getElem?_addOperation k
  cases alive : s.service? k with
  | none =>
    refine ⟨.finished (.error .closed), ?_, Or.inl ⟨_, rfl⟩⟩
    simp only [step, begin, alive]
    exact getElem?_setState_self found _
  | some v =>
    have begins : s.step (.begin k (intent.command channel ctx))
        = (s.addOperation k).beginReceive s.operations.length v channel ctx intent := by
      rw [step_begin alive]
      cases intent <;> rfl
    rw [begins]
    unfold beginReceive
    split
    · exact ⟨_, getElem?_setState_self found _, Or.inl ⟨_, rfl⟩⟩
    · rename_i c subscription _
      split
      · rename_i none
        exact ⟨_, getElem?_setState_self found _, Or.inr (Or.inl ⟨none, rfl⟩)⟩
      · refine ⟨.opening ⟨channel, c.topic, subscription, ctx, intent⟩, ?_,
          Or.inr (Or.inr ⟨_, _, rfl⟩)⟩
        rw [operations_await, getElem?_setState_self found]

theorem opening_answer {t : System} (found : t.operations[op]? = some ⟨k, .opening o⟩)
    (services : t.services = s.services) (reply : Except TransportError Reply) :
    (∃ state, (t.answer op reply).operations[op]? = some ⟨k, state⟩ ∧ s.OpeningNext k o state) ∧
      (t.answer op reply).journal = t.journal := by
  have ends (err : ChannelError) : (t.finish op (.error err)).operations[op]?
      = some ⟨k, .finished (.error err)⟩ := getElem?_setState_self found _
  simp only [answer, found, answerOpening]
  split
  · rename_i source
    unfold listen
    split
    · rename_i intent
      rw [services]
      exact ⟨⟨_, getElem?_setState_self found _, .dispatches source intent⟩, rfl⟩
    · rename_i count intent
      exact ⟨⟨_, getElem?_setState_self found _, .collects count source intent⟩, rfl⟩
  · exact ⟨⟨_, ends _, .failed _⟩, rfl⟩
  · exact ⟨⟨_, ends _, .failed _⟩, rfl⟩

/-- **What an event makes of receiving that waits for its source**: it takes and writes nothing. -/
theorem opening_step (found : s.operations[op]? = some ⟨k, .opening o⟩) (e : Event) :
    (∃ state, (s.step e).operations[op]? = some ⟨k, state⟩ ∧ s.OpeningNext k o state) ∧
      s.Does op e [] [] := by
  have begun := (List.getElem?_eq_some_iff.1 found).1
  have stands := map_state_of_getElem? found
  have asks : s.request? op = some (.receive o.topic o.subscription) := by
    simp [request?, found, OperationState.request?]
  by_cases about : e.operation s = op
  · cases concerns_of_about begun about with
    | serve =>
      let performed := s.broker.perform s.clock (.receive o.topic o.subscription)
      have answers : s.step (.serve op)
          = ({ s with broker := performed.1 } : System).answer op performed.2 := by
        simp only [step, serve, asks, performed]
      obtain ⟨next, journal⟩ := opening_answer (s := s)
        (t := { s with broker := performed.1 }) found rfl performed.2
      rw [← answers] at next journal
      exact ⟨next, does_nothing_unturned about (by simp) journal⟩
    | reply r =>
      obtain ⟨next, journal⟩ := opening_answer (s := s) found rfl r
      exact ⟨next, does_nothing_unturned about (by simp) journal⟩
    | turn =>
      have same : s.step (.turn op) = s := by simp only [step, turn, found]
      have nothing : s.heardIn op (.turn op) = [] := by
        simp only [heardIn, if_true, seenBy, found]
      refine ⟨⟨_, ?_, .waits⟩, does_nothing about nothing ?_⟩
      · rw [same, found]
      · rw [same]
    | handlerEnded i panicked =>
      have same : s.step (.handlerEnded op i panicked) = s := by
        simp only [step, handlerEnded, stands]
      refine ⟨⟨_, ?_, .waits⟩, does_nothing_unturned about (by simp) ?_⟩
      · rw [same, found]
      · rw [same]
    | abandon =>
      have given : s.step (.abandon op) = s.setState op .abandoned := by
        simp only [step, abandon, stands]
      refine ⟨⟨_, ?_, .abandoned⟩, does_nothing_unturned about (by simp) ?_⟩
      · rw [given, getElem?_setState_self found]
      · rw [given]
        rfl
  · obtain ⟨same, _⟩ := s.frame_step e (Ne.symm about) begun
    exact ⟨⟨_, same.trans found, .waits⟩, does_nothing_elsewhere about⟩

end System

end MessageChannels
