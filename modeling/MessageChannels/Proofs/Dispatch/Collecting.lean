import Mathlib.Data.List.Induction
import MessageChannels.Proofs.Dispatch.Intake

/-!
# What a collection takes, and how it ends

A turn of a collection ends it in one of the ways of `Ends`, or takes a delivery, or sees nothing
(`collection_step`). A delivery that is taken becomes an envelope, which is acknowledged at once and
joins the batch. Over a run the batch is therefore what was taken and also what was acknowledged
(`Gathered`), wherever the run leaves the collection (`collecting_after`).
-/

set_option autoImplicit false

namespace MessageChannels

/-- The envelope whose acknowledgement an entry tells of. -/
def Entry.acknowledged? : Entry → Option Nat
  | settled i _ .ack => some i
  | _ => none

namespace System

/-- The envelopes that an operation itself acknowledges in a run, one for each acknowledgement. -/
def acknowledged (s : System) (op : Nat) (es : List Event) : List Nat :=
  (s.written op es).filterMap Entry.acknowledged?

/-- What ends a collection in its turn, and the result: of causes that coincide, the first in this
order counts. -/
inductive Ends (s : System) (k : Nat) (c : Collection) : Except ChannelError (List Nat) → Prop where
  | full (full : c.count ≤ c.envelopes.length) : Ends s k c (.ok c.envelopes)
  | cancelled (wanting : c.envelopes.length < c.count) (cancelled : s.isCancelled c.ctx = true) :
      Ends s k c (.ok c.envelopes)
  | closed (wanting : c.envelopes.length < c.count) (going : s.isCancelled c.ctx = false)
      (closed : s.isClosed k = true) : Ends s k c (.error .closed)
  | failed (err : TransportError) (wanting : c.envelopes.length < c.count)
      (going : s.isCancelled c.ctx = false) (opened : s.isClosed k = false)
      (shown : (s.poll c.source).2 = .failed err) :
      Ends s k c (.error (.ofTransport receiveOperation c.subscription err))
  | ended (wanting : c.envelopes.length < c.count) (going : s.isCancelled c.ctx = false)
      (opened : s.isClosed k = false) (shown : (s.poll c.source).2 = .ended) :
      Ends s k c (.error (.transport receiveOperation c.subscription
        (.unavailable "delivery stream ended")))

/-- What an event makes of an operation that is a collection of a service, what the operation takes
in it and what it writes. -/
inductive CollectionNext (s : System) (e : Event) (op k : Nat) (c : Collection) :
    OperationState → List Taken → List Entry → Prop where
  | stayed : CollectionNext s e op k c (.collecting c) [] []
  /-- The collection takes a delivery and acknowledges the envelope. -/
  | took (d : Taken) (wanting : c.envelopes.length < c.count)
      (made : (s.step e).envelopes
        = s.envelopes ++ [⟨d.message, c.channel, k, d.acker, .acked⟩]) :
      CollectionNext s e op k c
        (.collecting { c with envelopes := c.envelopes ++ [s.envelopes.length] }) [d]
        [.note (.counted .received c.channel), .settled s.envelopes.length d.acker .ack,
          .note (.counted .acked c.channel)]
  | returned (result : Except ChannelError (List Nat)) (cause : e = .turn op)
      (ends : s.Ends k c result) :
      CollectionNext s e op k c (.finished (result.map .collected)) [] []
  | abandoned : CollectionNext s e op k c .abandoned [] []

/-- An event leaves a collection somewhere that accounts for what the collection does in it. -/
def Proceeds (s : System) (e : Event) (op k : Nat) (c : Collection) : Prop :=
  ∃ state ds ws, (s.step e).operations[op]? = some ⟨k, state⟩ ∧ s.Does op e ds ws ∧
    s.CollectionNext e op k c state ds ws

/-- A collection ends in a run, in which it takes nothing afterwards. -/
def EndedIn (s : System) (op k : Nat) (c : Collection) (es : List Event)
    (result : Except ChannelError (List Nat)) : Prop :=
  ∃ before after, es = before ++ .turn op :: after ∧
    (s.after before).operations[op]? = some ⟨k, .collecting c⟩ ∧ (s.after before).Ends k c result ∧
    s.pulled op before = s.pulled op es

/-- The envelopes of a batch are those of the deliveries that were taken in a run, in order, and each
was acknowledged by the operation that took it. -/
structure Gathered (s : System) (op k : Nat) (channel : String) (es : List Event)
    (batch : List Nat) : Prop where
  taken : List.Forall₂ (fun i d => (s.after es).envelopes[i]?
    = some ⟨d.message, channel, k, d.acker, .acked⟩) batch (s.pulled op es)
  distinct : batch.Nodup
  acked : s.acknowledged op es = batch

/-- Where an operation that collects can be after a run, and with what batch. -/
inductive CollectionAfter (s : System) (op k : Nat) (channel : String) (count ctx : Nat)
    (es : List Event) : OperationState → List Nat → Prop where
  | opens (topic subscription : String) : CollectionAfter s op k channel count ctx es
      (.opening ⟨channel, topic, subscription, ctx, .collect count⟩) []
  | collects (subscription : String) (source : Source) (batch : List Nat)
      (within : batch.length ≤ count) : CollectionAfter s op k channel count ctx es
        (.collecting ⟨channel, subscription, ctx, source, count, batch⟩) batch
  | returned (subscription : String) (source : Source) (batch : List Nat)
      (result : Except ChannelError (List Nat)) (within : batch.length ≤ count)
      (ended : s.EndedIn op k ⟨channel, subscription, ctx, source, count, batch⟩ es result) :
      CollectionAfter s op k channel count ctx es (.finished (result.map .collected)) batch
  /-- The operation ends before it has a source. -/
  | refused (err : ChannelError) :
      CollectionAfter s op k channel count ctx es (.finished (.error err)) []
  /-- Nothing is wanted. -/
  | empty (nothing : count = 0) :
      CollectionAfter s op k channel count ctx es (.finished (.ok (.collected []))) []
  | abandoned (batch : List Nat) (within : batch.length ≤ count) :
      CollectionAfter s op k channel count ctx es .abandoned batch

/-- An operation that collects stands somewhere after a run, with the batch that it has gathered. -/
def BatchAfter (s : System) (op k : Nat) (channel : String) (count ctx : Nat) (es : List Event) :
    Prop :=
  ∃ state batch, (s.after es).operations[op]? = some ⟨k, state⟩ ∧
    s.Gathered op k channel es batch ∧ s.CollectionAfter op k channel count ctx es state batch

variable {e : Event} {op k count ctx : Nat} {s : System} {c : Collection} {es : List Event}
  {channel : String} {batch : List Nat} {result : Except ChannelError (List Nat)}

/-! ## Turns -/

/-- An envelope that is made and acknowledged at once. -/
theorem addEnvelope_ack (s : System) (k : Nat) (channel : String) (d : Taken) :
    ((s.addEnvelope k channel d).1.ack s.envelopes.length).envelopes
        = s.envelopes ++ [⟨d.message, channel, k, d.acker, .acked⟩] ∧
      ((s.addEnvelope k channel d).1.ack s.envelopes.length).journal
        = s.journal ++ [.note (.counted .received channel),
            .settled s.envelopes.length d.acker .ack, .note (.counted .acked channel)] := by
  have made := s.getElem?_addEnvelope k channel d s.envelopes.length
  rw [if_pos rfl] at made
  simp only [ack, settleFrom, made, if_true]
  constructor
  · show ((s.addEnvelope k channel d).1.setDisposition _ _ |>.useAcker _ _ _).envelopes = _
    rw [envelopes_useAcker, envelopes_setDisposition made]
    show (s.envelopes ++ [_]).set _ _ = _
    rw [List.set_append_right _ _ (Nat.le_refl _), Nat.sub_self]
    rfl
  · show ((s.addEnvelope k channel d).1.setDisposition _ _ |>.useAcker _ _ _).journal ++ _ = _
    rw [journal_useAcker]
    show s.journal ++ [_] ++ [_] ++ [_] = _
    rw [List.append_assoc, List.append_assoc]
    rfl

/-- A collection that wants more goes on to look at its source unless it is cancelled or closed. -/
theorem collection_move_look (wanting : c.envelopes.length < c.count)
    (going : s.isCancelled c.ctx = false) (opened : s.isClosed k = false) :
    c.move (s.isCancelled c.ctx) (s.isClosed k) = .look := by
  simp [Collection.move, Nat.not_le.2 wanting, going, opened]

/-- A turn in which a collection returns without a look at its source. -/
theorem collection_returns (found : s.operations[op]? = some ⟨k, .collecting c⟩)
    (move : c.move (s.isCancelled c.ctx) (s.isClosed k) = .finish result) :
    (s.step (.turn op)).operations[op]? = some ⟨k, .finished (result.map .collected)⟩ ∧
      s.Does op (.turn op) [] [] := by
  have hears := heardIn_turn_collection found
  rw [move] at hears
  have turned : s.step (.turn op)
      = (s.dropSource c.source).finish op (result.map .collected) := by
    rw [turn_collection found]
    simp only [turnCollection, move]
  refine ⟨turned ▸ standing_collected found rfl _, does_nothing rfl hears ?_⟩
  rw [turned]
  exact journal_dropSource s c.source

/-- A turn in which a collection returns an error that its source shows. -/
theorem collection_fails {err : ChannelError}
    (found : s.operations[op]? = some ⟨k, .collecting c⟩)
    (move : c.move (s.isCancelled c.ctx) (s.isClosed k) = .look)
    (seen : c.seen (s.isClosed k) (s.poll c.source).2 = some (.inr err)) :
    (s.step (.turn op)).operations[op]? = some ⟨k, .finished (.error err)⟩ ∧
      s.Does op (.turn op) [] [] := by
  have hears := heardIn_turn_collection found
  rw [move] at hears
  have turned : s.step (.turn op)
      = ((s.poll c.source).1.dropSource c.source).finish op (.error err) := by
    rw [turn_collection found]
    simp only [turnCollection, move, seen]
  have silent : s.pulledIn op (.turn op) = [] := by
    rw [pulledIn, hears]
    cases shown : (s.poll c.source).2 with
    | delivered d => cases (shown ▸ seen :)
    | _ => rfl
  refine ⟨turned ▸ standing_collected found (operations_poll s c.source) _, silent,
    writtenIn_of_journal rfl ?_⟩
  rw [turned, List.append_nil]
  exact (journal_dropSource _ _).trans (journal_poll s c.source)

/-- Whatever ends a collection ends it in its next turn, in which nothing is taken or written. -/
theorem turn_of_ends (found : s.operations[op]? = some ⟨k, .collecting c⟩)
    (ends : s.Ends k c result) :
    (s.step (.turn op)).operations[op]? = some ⟨k, .finished (result.map .collected)⟩ ∧
      s.Does op (.turn op) [] [] := by
  cases ends with
  | full full =>
    apply collection_returns found
    simp [Collection.move, full]
  | cancelled wanting cancelled =>
    apply collection_returns found
    simp [Collection.move, cancelled]
  | closed wanting going closed =>
    apply collection_returns found
    simp [Collection.move, Nat.not_le.2 wanting, going, closed]
  | failed err wanting going opened shown =>
    apply collection_fails found (collection_move_look wanting going opened)
    rw [shown]
    rfl
  | ended wanting going opened shown =>
    apply collection_fails found (collection_move_look wanting going opened)
    rw [shown, opened]
    rfl

theorem proceeds_of_ends (found : s.operations[op]? = some ⟨k, .collecting c⟩)
    (ends : s.Ends k c result) : s.Proceeds (.turn op) op k c := by
  obtain ⟨standing, does⟩ := turn_of_ends found ends
  exact ⟨_, _, _, standing, does, .returned result rfl ends⟩

/-- A look at the source of a collection that is neither full nor cancelled nor closed. -/
theorem turn_collection_look (found : s.operations[op]? = some ⟨k, .collecting c⟩)
    (wanting : c.envelopes.length < c.count) (going : s.isCancelled c.ctx = false)
    (opened : s.isClosed k = false) : s.Proceeds (.turn op) op k c := by
  have move := collection_move_look wanting going opened
  have polled : (s.poll c.source).1.operations[op]? = some ⟨k, .collecting c⟩ := by
    rw [operations_poll, found]
  have hears := heardIn_turn_collection found
  rw [move] at hears
  cases shown : (s.poll c.source).2 with
  | pending =>
    rw [shown] at hears
    have turned : s.step (.turn op) = (s.poll c.source).1 := by
      rw [turn_collection found]
      simp only [turnCollection, move, shown, Collection.seen]
    refine ⟨_, _, _, turned ▸ polled, does_nothing rfl hears ?_, .stayed⟩
    rw [turned, journal_poll]
  | delivered d =>
    rw [shown] at hears
    have fresh : (s.poll c.source).1.envelopes.length = s.envelopes.length :=
      congrArg List.length (envelopes_poll s c.source)
    have turned : s.step (.turn op)
        = (((s.poll c.source).1.addEnvelope k c.channel d).1.ack
            (s.poll c.source).1.envelopes.length).setState op
          (.collecting { c with envelopes := c.envelopes ++ [s.envelopes.length] }) := by
      rw [turn_collection found]
      simp only [turnCollection, move, shown, Collection.seen, ← fresh]
      rfl
    obtain ⟨envelopes, journal⟩ := (s.poll c.source).1.addEnvelope_ack k c.channel d
    refine ⟨_, [d], _, ?_, ⟨?_, writtenIn_of_journal rfl ?_⟩, .took d wanting ?_⟩
    · rw [turned]
      refine getElem?_setState_self (o := ⟨k, .collecting c⟩) ?_ _
      rw [ack, operations_settleFrom]
      exact polled
    · rw [pulledIn, hears]
      rfl
    · rw [turned]
      exact journal.trans (by rw [journal_poll, fresh])
    · rw [turned]
      exact envelopes.trans (by rw [envelopes_poll])
  | failed err => exact proceeds_of_ends found (.failed err wanting going opened shown)
  | ended => exact proceeds_of_ends found (.ended wanting going opened shown)

/-- **What an event does to a collection.** -/
theorem collection_step (found : s.operations[op]? = some ⟨k, .collecting c⟩) (e : Event) :
    s.Proceeds e op k c := by
  have begun := (List.getElem?_eq_some_iff.1 found).1
  have stands := map_state_of_getElem? found
  have stayed {e : Event} (about : e.operation s = op) (turns : e ≠ .turn op)
      (same : s.step e = s) : s.Proceeds e op k c := by
    refine ⟨_, _, _, ?_, does_nothing_unturned about turns ?_, .stayed⟩
    · rw [same, found]
    · rw [same]
  by_cases about : e.operation s = op
  · cases concerns_of_about begun about with
    | serve =>
      have waits : s.request? op = none := by simp [request?, found, OperationState.request?]
      exact stayed about (by simp) (by simp only [step, serve, waits])
    | reply r => exact stayed about (by simp) (by simp only [step, answer, found])
    | turn =>
      by_cases full : c.count ≤ c.envelopes.length
      · exact proceeds_of_ends found (.full full)
      · have wanting := Nat.not_le.1 full
        cases cancelled : s.isCancelled c.ctx with
        | true => exact proceeds_of_ends found (.cancelled wanting cancelled)
        | false =>
          cases closed : s.isClosed k with
          | true => exact proceeds_of_ends found (.closed wanting cancelled closed)
          | false => exact turn_collection_look found wanting cancelled closed
    | handlerEnded i panicked =>
      exact stayed about (by simp) (by simp only [step, handlerEnded, stands])
    | abandon =>
      have given : s.step (.abandon op) = (s.dropSource c.source).setState op .abandoned := by
        simp only [step, abandon, stands]
      refine ⟨_, _, _, ?_, does_nothing_unturned about (by simp) ?_, .abandoned⟩
      · rw [given]
        refine getElem?_setState_self (o := ⟨k, .collecting c⟩) ?_ _
        rw [operations_dropSource, found]
      · rw [given]
        exact journal_dropSource s c.source
  · obtain ⟨same, _⟩ := s.frame_step e (Ne.symm about) begun
    exact ⟨_, _, _, same.trans found, does_nothing_elsewhere about, .stayed⟩

/-! ## Runs -/

theorem acknowledged_snoc (s : System) (op : Nat) (es : List Event) (e : Event) :
    s.acknowledged op (es ++ [e])
      = s.acknowledged op es ++ ((s.after es).writtenIn op e).filterMap Entry.acknowledged? := by
  rw [acknowledged, written_snoc, List.filterMap_append]
  rfl

theorem gathered_nil (s : System) (op k : Nat) (channel : String) : s.Gathered op k channel [] [] :=
  ⟨.nil, List.nodup_nil, rfl⟩

/-- The envelopes of a batch stay as they are. -/
theorem Gathered.lasts (gathered : s.Gathered op k channel es batch)
    (reachable : (s.after es).Reachable) (e : Event) :
    List.Forall₂ (fun i d => ((s.after es).step e).envelopes[i]?
      = some ⟨d.message, channel, k, d.acker, .acked⟩) batch (s.pulled op es) :=
  gathered.taken.imp fun _ _ found => terminal_after reachable found rfl [e]

theorem Gathered.carries (gathered : s.Gathered op k channel es batch) :
    (s.after es).Carries k channel batch (s.pulled op es) :=
  gathered.taken.imp fun _ _ found => ⟨.acked, found⟩

/-- A batch stays as it is in an event in which nothing is taken. -/
theorem Gathered.rests (gathered : s.Gathered op k channel es batch)
    (reachable : (s.after es).Reachable) (does : (s.after es).Does op e [] []) :
    s.Gathered op k channel (es ++ [e]) batch where
  taken := by
    rw [pulled_snoc, does.pulled, List.append_nil, after_snoc]
    exact gathered.lasts reachable e
  distinct := gathered.distinct
  acked := by
    rw [acknowledged_snoc, does.written, gathered.acked]
    exact List.append_nil _

/-- The envelope of a delivery that is taken joins the batch. -/
theorem Gathered.joins (gathered : s.Gathered op k channel es batch)
    (reachable : (s.after es).Reachable) {d : Taken}
    (made : ((s.after es).step e).envelopes
      = (s.after es).envelopes ++ [⟨d.message, channel, k, d.acker, .acked⟩])
    (does : (s.after es).Does op e [d] [.note (.counted .received channel),
      .settled (s.after es).envelopes.length d.acker .ack, .note (.counted .acked channel)]) :
    s.Gathered op k channel (es ++ [e]) (batch ++ [(s.after es).envelopes.length]) where
  taken := by
    rw [pulled_snoc, does.pulled, after_snoc]
    refine List.rel_append (gathered.lasts reachable e) (.cons ?_ .nil)
    rw [made, List.getElem?_concat_length]
  distinct := by
    have fresh : (s.after es).envelopes.length ∉ batch := fun mem =>
      absurd (gathered.carries.lt_length _ mem) (Nat.lt_irrefl _)
    rw [← List.concat_eq_append, List.nodup_concat]
    exact ⟨fresh, gathered.distinct⟩
  acked := by
    rw [acknowledged_snoc, does.written, gathered.acked]
    rfl

theorem EndedIn.snoc (ended : s.EndedIn op k c es result)
    (does : (s.after es).Does op e [] []) : s.EndedIn op k c (es ++ [e]) result := by
  obtain ⟨before, after, rfl, standing, ends, last⟩ := ended
  refine ⟨before, after ++ [e], by simp, standing, ends, ?_⟩
  rw [pulled_snoc, does.pulled, List.append_nil]
  exact last

/-- An operation that has ended stays with its batch. -/
theorem CollectionAfter.rests {state : OperationState} (reachable : (s.after es).Reachable)
    (after : s.CollectionAfter op k channel count ctx es state batch)
    (standing : (s.after es).operations[op]? = some ⟨k, state⟩)
    (gathered : s.Gathered op k channel es batch) (ended : state.inProgress = false) (e : Event) :
    s.BatchAfter op k channel count ctx (es ++ [e]) := by
  have does := does_nothing_ended standing ended e
  refine ⟨state, batch, ?_, gathered.rests reachable does, ?_⟩
  · rw [after_snoc]
    exact (ended_step standing ended e).1
  · cases after with
    | opens => cases ended
    | collects => cases ended
    | returned subscription source batch result within ended =>
      exact .returned subscription source batch result within (ended.snoc does)
    | refused err => exact .refused err
    | empty nothing => exact .empty nothing
    | abandoned batch within => exact .abandoned batch within

/-- One more event after a run. -/
theorem CollectionAfter.snoc {state : OperationState} (reachable : (s.after es).Reachable)
    (after : s.CollectionAfter op k channel count ctx es state batch)
    (standing : (s.after es).operations[op]? = some ⟨k, state⟩)
    (gathered : s.Gathered op k channel es batch) (e : Event) :
    s.BatchAfter op k channel count ctx (es ++ [e]) := by
  cases progress : state.inProgress with
  | false => exact after.rests reachable standing gathered progress e
  | true =>
    unfold BatchAfter
    rw [after_snoc]
    cases after with
    | opens topic subscription =>
      obtain ⟨⟨state', standing', next⟩, does⟩ := opening_step standing e
      refine ⟨state', [], standing', gathered.rests reachable does, ?_⟩
      cases next with
      | waits => exact .opens topic subscription
      | dispatches source intent => cases intent
      | collects wanted source intent =>
        cases intent
        exact .collects subscription source [] (Nat.zero_le _)
      | failed err => exact .refused err
      | abandoned => exact .abandoned [] (Nat.zero_le _)
    | collects subscription source batch within =>
      obtain ⟨state', ds, ws, standing', does, next⟩ := collection_step standing e
      cases next with
      | stayed => exact ⟨_, _, standing', gathered.rests reachable does, .collects _ _ _ within⟩
      | took d wanting made =>
        refine ⟨_, _, standing', gathered.joins reachable made does, .collects _ _ _ ?_⟩
        rw [List.length_append]
        exact wanting
      | returned result cause ends =>
        subst cause
        have gathered' := gathered.rests reachable does
        refine ⟨_, _, standing', gathered', .returned subscription source batch result within ?_⟩
        refine ⟨es, [], rfl, standing, ends, ?_⟩
        rw [pulled_snoc, does.pulled, List.append_nil]
      | abandoned => exact ⟨_, _, standing', gathered.rests reachable does, .abandoned _ within⟩
    | _ => cases progress

/-- **Where an operation that collects can be after a run** from the point at which it was begun. -/
theorem collecting_after (reachable : s.Reachable) (k : Nat) (channel : String) (count ctx : Nat)
    (es : List Event) : (s.step (.begin k (.receiveN channel count ctx))).BatchAfter
      s.operations.length k channel count ctx es := by
  induction es using List.reverseRecOn with
  | nil =>
    obtain ⟨state, standing, begins⟩ := receive_begun s k (.collect count) channel ctx
    refine ⟨state, [], standing, gathered_nil _ _ _ _, ?_⟩
    rcases begins with ⟨err, rfl⟩ | ⟨nothing, rfl⟩ | ⟨topic, subscription, rfl⟩
    · exact .refused err
    · cases nothing
      exact .empty rfl
    · exact .opens topic subscription
  | append_singleton es e ih =>
    obtain ⟨state, batch, standing, gathered, after⟩ := ih
    exact after.snoc ((reachable.step _).after es) standing gathered e

end System

end MessageChannels
