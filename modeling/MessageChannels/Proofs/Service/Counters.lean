import Mathlib.Algebra.BigOperators.Group.List.Basic
import Mathlib.Algebra.GroupWithZero.Nat
import MessageChannels.Proofs.Envelope.DeadLetter
import MessageChannels.Proofs.Service.Calls

/-!
# Counters agree with what happened

Whatever is begun on a service, and in whatever order its operations are answered, its counters are
numbers of things that happened: of the envelopes that it made and what has become of them, of the
calls that publish by the replies that they got, and of dead letters that the closed service
refused. One event adds to the counters what its reply adds to the call that it answers
(`tally_step`), so that after a run they hold what all calls have gained (`tally_run`);
`countersAgree` reads each counter off that sum.
-/

set_option autoImplicit false

namespace MessageChannels

/-- Whether a call publishes dead letters of envelopes of one of some channels. -/
def Publication.isDeadLetterOf (channels : List String) : Publication → Bool
  | event _ => false
  | deadLetter channel => channels.contains channel

/-- Dead letters of one channel are apart from those of others. -/
theorem Publication.isDeadLetterOf_cons {channel : String} {channels : List String}
    (new : channel ∉ channels) (call : Publication) :
    (isDeadLetterOf (channel :: channels) call && call == .deadLetter channel)
        = (call == .deadLetter channel) ∧
      (isDeadLetterOf (channel :: channels) call && !(call == .deadLetter channel))
        = isDeadLetterOf channels call := by
  cases call with
  | event other => exact ⟨rfl, rfl⟩
  | deadLetter other =>
    by_cases same : other = channel
    · simp [isDeadLetterOf, same, new]
    · simp [isDeadLetterOf, same, beq_eq_decide]

namespace System

/-! ## What happened -/

/-- The channel of an envelope whose dead letter an event makes its service refuse: the service is
held, but closed. -/
def refusedIn (s : System) : Event → List String
  | .fail i c cause =>
    match s.envelopes[i]? with
    | some made =>
      if (s.service? made.service).isSome ∧
          (s.step (.fail i c cause)).result? s.operations.length = some (.error .closed) then
        [made.channel]
      else []
    | none => []
  | _ => []

/-- The channels of the envelopes whose dead letters were refused in a run. -/
def refused (s : System) : List Event → List String
  | [] => []
  | e :: es => s.refusedIn e ++ (s.step e).refused es

/-- Whether a run replies to an operation that what it asked has failed. -/
def isFailed (s : System) (es : List Event) (op : Nat) : Bool :=
  match s.replyTo? op es with
  | some (.error _) => true
  | _ => false

/-- How many calls of a run, of those of a kind, have their publish accepted. -/
def accepted (s : System) (es : List Event) (kind : Publication → Bool) : Nat :=
  (s.publications es).countP fun x => kind x.2 && s.isAccepted es x.1

/-- How many calls of a run, of those of a kind, have their publish fail. -/
def failed (s : System) (es : List Event) (kind : Publication → Bool) : Nat :=
  (s.publications es).countP fun x => kind x.2 && s.isFailed es x.1

/-- The counters under a label are what happened in a run of a service with these channels. -/
structure CountersAgree (s : System) (r : Registry) (es : List Event) (label : String) : Prop where
  received : (s.after es).tally .received label = (s.after es).envelopesOf label fun _ => true
  acked : (s.after es).tally .acked label
    = (s.after es).envelopesOf label fun made => made.disposition == .acked
  nacked : (s.after es).tally .nacked label
    = (s.after es).envelopesOf label fun made => made.disposition == .nacked
  /-- No more are settled than are received. -/
  settled : (s.after es).tally .acked label + (s.after es).tally .nacked label
    ≤ (s.after es).tally .received label
  deadLettered : (s.after es).tally .deadLettered label
    = s.accepted es fun call => call == .deadLetter label
  deadLetterErrors : (s.after es).tally .deadLetterErrors label
    = s.failed es (fun call => call == .deadLetter label) + (s.refused es).count label
  /-- Dead letters are published under the dead-letter channel. -/
  published : (s.after es).tally .published label
    = s.accepted es (fun call => call == .event label) +
      if r.deadLetter?.map Channel.id = some label then
        (r.toList.map fun at_ => (s.after es).tally .deadLettered at_.id).sum
      else 0
  durations : (s.after es).tally .publishDurations label = (s.after es).tally .published label
  publishErrors : (s.after es).tally .publishErrors label
    = s.failed es fun call => call.label? r == some label

variable {s : System} {r : Registry} {es : List Event} {e : Event} {op : Nat} {counter : Counter}
  {label : String}

/-! ## What one event adds -/

/-- A call gains by the first reply to it. -/
theorem Ascribed.gains_snoc (ascribed : s.Ascribed r es) {x : Nat × Publication}
    (mem : x ∈ s.publications es) (e : Event) (counter : Counter) (label : String) :
    x.2.gains r counter label (s.replyTo? x.1 (es ++ [e]))
      = x.2.gains r counter label (s.replyTo? x.1 es)
        + x.2.gains r counter label ((s.after es).replyIn x.1 e) := by
  rw [replyTo?_snoc]
  rcases ascribed.stands x mem with ⟨k, p, _, _, unreplied⟩ | ⟨k, state, standing, ended⟩
  · rw [unreplied]
    exact (Nat.zero_add _).symm
  · rw [replyIn_of_ended standing ended e, Option.or_none]
    rfl

/-- All that calls gain by an event. -/
def gainedIn (s : System) (r : Registry) (es : List Event) (e : Event) (counter : Counter)
    (label : String) : Nat :=
  ((s.publications es).map fun x =>
    x.2.gains r counter label ((s.after es).replyIn x.1 e)).sum

theorem gainedIn_eq_zero (unreplied : ∀ x ∈ s.publications es, (s.after es).replyIn x.1 e = none) :
    s.gainedIn r es e counter label = 0 := by
  refine List.sum_eq_zero fun n gain => ?_
  obtain ⟨x, mem, rfl⟩ := List.mem_map.1 gain
  rw [unreplied x mem]
  rfl

/-- Only one call gains by an event. -/
theorem Ascribed.gainedIn_eq (ascribed : s.Ascribed r es) {call : Publication}
    (mem : (op, call) ∈ s.publications es) (about : e.operation (s.after es) = op) :
    s.gainedIn r es e counter label
      = call.gains r counter label ((s.after es).replyIn op e) := by
  obtain ⟨before, after, parts⟩ := List.append_of_mem mem
  have ordered : (s.publications es).Perm ((op, call) :: (before ++ after)) :=
    parts ▸ List.perm_middle
  have distinct := (ordered.map Prod.fst).nodup_iff.1 ascribed.once
  have others : ∀ n ∈ (before ++ after).map fun x =>
      x.2.gains r counter label ((s.after es).replyIn x.1 e), n = 0 := by
    intro n gain
    obtain ⟨x, other, rfl⟩ := List.mem_map.1 gain
    have apart : e.operation (s.after es) ≠ x.1 := by
      rw [about]
      intro same
      exact (List.nodup_cons.1 distinct).1 (List.mem_map.2 ⟨x, other, same.symm⟩)
    rw [replyIn_of_not_about apart]
    rfl
  rw [gainedIn, (ordered.map _).sum_eq, List.map_cons, List.sum_cons, List.sum_eq_zero others,
    Nat.add_zero]

theorem refusedIn_fail {i : Nat} {made : Envelope} {v : Service} {c : FailureCommand}
    {cause : String} (found : s.envelopes[i]? = some made)
    (alive : s.service? made.service = some v) :
    s.refusedIn (.fail i c cause)
      = if (s.step (.fail i c cause)).result? s.operations.length = some (.error .closed) then
          [made.channel]
        else [] := by
  simp only [refusedIn, found, alive, Option.isSome_some, true_and]

/-- A decision counts a dead letter that is refused, and nothing else. -/
theorem counts_fail (s : System) (i : Nat) (c : FailureCommand) (cause : String) :
    s.Counts (s.step (.fail i c cause))
      ((s.refusedIn (.fail i c cause)).map (.counted .deadLetterErrors)) := by
  have gone (none : s.refusedIn (.fail i c cause) = [])
      (nothing : ∀ made, s.envelopes[i]? = some made → s.service? made.service = .none) :
      s.Counts (s.step (.fail i c cause))
        ((s.refusedIn (.fail i c cause)).map (.counted .deadLetterErrors)) := by
    rw [none]
    exact (decision_gone s i c cause nothing).2
  cases found : s.envelopes[i]? with
  | none =>
    refine gone ?_ fun made found' => by cases found.symm.trans found'
    simp only [refusedIn, found]
  | some made =>
    cases alive : s.service? made.service with
    | none =>
      refine gone ?_ fun made' found' => ?_
      · simp [refusedIn, found, alive]
      · cases found.symm.trans found'
        exact alive
    | some v =>
      rw [refusedIn_fail found alive]
      cases decision_step found alive c cause with
      | waits p standing of counts =>
        rw [if_neg]
        · exact counts
        · rw [result?, standing]
          exact (Option.some_ne_none _).symm
      | refused standing counts =>
        rw [if_pos (result?_of_finished standing)]
        exact counts
      | ended result other standing counts =>
        rw [if_neg]
        · exact counts
        · rw [result?_of_finished standing]
          exact fun h => other (Option.some.inj h)

/-- A reply adds to the counters of publishes what it adds to the call that waits for it. -/
theorem Ascribed.tally_answered (ascribed : s.Ascribed r es)
    (answers : e.Answers (e.operation (s.after es))) (about : counter.countsPublishes = true)
    (label : String) :
    ((s.after es).step e).tally counter label
      = (s.after es).tally counter label + s.gainedIn r es e counter label := by
  by_cases none : (s.after es).NoPublish (e.operation (s.after es))
  · have unreplied : ∀ x ∈ s.publications es, (s.after es).replyIn x.1 e = .none := by
      intro x mem
      by_cases same : e.operation (s.after es) = x.1
      · rcases ascribed.stands x mem with ⟨k, p, standing, _⟩ | ⟨k, state, standing, ended⟩
        · exact absurd standing (same ▸ none k p)
        · exact replyIn_of_ended standing ended e
      · exact replyIn_of_not_about same
    rw [gainedIn_eq_zero unreplied]
    exact counts_answered none answers counter label about
  · obtain ⟨k, p, standing⟩ : ∃ k p,
        (s.after es).operations[e.operation (s.after es)]? = some ⟨k, .publishing p⟩ := by
      by_contra waits
      exact none fun k p standing => waits ⟨k, p, standing⟩
    obtain ⟨call, mem⟩ := ascribed.called _ k p standing
    have of : p.IsOf r call := by
      rcases ascribed.stands _ mem with ⟨k', p', standing', of, _⟩ | ⟨k', state, standing', ended⟩
      · cases standing.symm.trans standing'
        exact of
      · cases standing.symm.trans standing'
        cases ended
    rcases publishing_step standing e with ⟨reply, result, replied, _, counts⟩ | ⟨none, _⟩
    · rw [ascribed.gainedIn_eq mem rfl, replied, counts counter label about,
        Publishing.count_news of reply about]
      rfl
    · have asks : (s.after es).request? (e.operation (s.after es))
          = some (.publish p.topic p.message) := by
        simp [request?, standing, OperationState.request?]
      exact absurd none (replyIn_of_answers asks answers)

/-- **An event adds to the counters of publishes** what its reply adds to a call, or a refusal. -/
theorem Ascribed.tally_step (ascribed : s.Ascribed r es) (e : Event)
    (about : counter.countsPublishes = true) (label : String) :
    ((s.after es).step e).tally counter label
      = (s.after es).tally counter label + s.gainedIn r es e counter label
        + Note.count (((s.after es).refusedIn e).map (.counted .deadLetterErrors)) counter
            label := by
  by_cases decides : ∃ i c cause, e = .fail i c cause
  · obtain ⟨i, c, cause, rfl⟩ := decides
    rw [gainedIn_eq_zero fun _ _ => rfl, Nat.add_zero]
    exact counts_fail _ i c cause counter label about
  · have unrefused : (s.after es).refusedIn e = [] := by
      cases e with
      | fail i c cause => exact absurd ⟨i, c, cause, rfl⟩ decides
      | _ => rfl
    rw [unrefused]
    by_cases answers : e.Answers (e.operation (s.after es))
    · exact ascribed.tally_answered answers about label
    · have unreplied : ∀ x ∈ s.publications es, (s.after es).replyIn x.1 e = none := by
        intro x _
        cases e with
        | serve k => exact absurd (Or.inl rfl) answers
        | reply k reply => exact absurd (Or.inr ⟨reply, rfl⟩) answers
        | _ => rfl
      rw [gainedIn_eq_zero unreplied]
      exact counts_quiet _ (not_or_intro answers decides) counter label about

/-! ## Runs -/

theorem refused_snoc (s : System) (es : List Event) (e : Event) :
    s.refused (es ++ [e]) = s.refused es ++ (s.after es).refusedIn e := by
  induction es generalizing s with
  | nil => exact List.append_nil _
  | cons e' es ih =>
    rw [List.cons_append, refused, ih, refused, List.append_assoc]
    rfl

/-- All that the calls of a run have gained by its replies. -/
def gained (s : System) (r : Registry) (es : List Event) (counter : Counter)
    (label : String) : Nat :=
  ((s.publications es).map fun x => x.2.gains r counter label (s.replyTo? x.1 es)).sum

/-- A call gains nothing by the event that makes it. -/
theorem Ascribed.gained_snoc (ascribed : s.Ascribed r es) (e : Event) (counter : Counter)
    (label : String) :
    s.gained r (es ++ [e]) counter label
      = s.gained r es counter label + s.gainedIn r es e counter label := by
  have new : (((s.after es).publicationIn e).map fun x =>
      x.2.gains r counter label (s.replyTo? x.1 (es ++ [e]))).sum = 0 := by
    refine List.sum_eq_zero fun n gain => ?_
    obtain ⟨x, mem, rfl⟩ := List.mem_map.1 gain
    have unbegun := unbegun_publicationIn mem
    rw [replyTo?_snoc, replyTo?_unbegun unbegun, (unbegun_step unbegun e).1]
    rfl
  have old := List.map_congr_left fun x mem => ascribed.gains_snoc (x := x) mem e counter label
  rw [gained, publications_snoc, List.map_append, List.sum_append, new, Nat.add_zero, old,
    List.sum_map_add]
  rfl

/-- **The counters of publishes** are what the calls have gained by their replies, and refusals. -/
theorem tally_run (reachable : s.Reachable) (governed : s.Governed r) (fresh : s.operations = [])
    (silent : s.journal = []) (others : ∀ v, .addService v ∉ es)
    (about : counter.countsPublishes = true) (label : String) :
    (s.after es).tally counter label
      = s.gained r es counter label
        + Note.count ((s.refused es).map (.counted .deadLetterErrors)) counter label := by
  induction es using List.reverseRecOn with
  | nil =>
    rw [after, List.foldl_nil, tally, notes, silent]
    rfl
  | append_singleton es e ih =>
    have before : ∀ v, .addService v ∉ es := fun v mem => others v (List.mem_append_left _ mem)
    have ascribed := ascribed_run reachable governed fresh before
    rw [after_snoc, ascribed.tally_step e about, ih before, ascribed.gained_snoc, refused_snoc,
      List.map_append, Note.count_append]
    omega

/-! ## Calls whose publish is accepted or fails -/

theorem sum_map_eq_countP {α : Type} {l : List α} {f : α → Nat} {p : α → Bool}
    (ones : ∀ x, f x = if p x then 1 else 0) : (l.map f).sum = l.countP p := by
  induction l with
  | nil => rfl
  | cons x l ih => rw [List.map_cons, List.sum_cons, ih, ones, List.countP_cons, Nat.add_comm]

theorem gained_eq_accepted {kind : Publication → Bool}
    (adds : ∀ call (ok : Bool),
      call.adds r ok counter label = if ok ∧ kind call then 1 else 0) :
    s.gained r es counter label = s.accepted es kind := by
  refine sum_map_eq_countP fun x => ?_
  rw [isAccepted]
  cases s.replyTo? x.1 es with
  | none => simp [Publication.gains]
  | some reply => cases reply <;> simp [Publication.gains, adds, Except.isOk, Except.toBool]

theorem gained_eq_failed {kind : Publication → Bool}
    (adds : ∀ call (ok : Bool),
      call.adds r ok counter label = if !ok ∧ kind call then 1 else 0) :
    s.gained r es counter label = s.failed es kind := by
  refine sum_map_eq_countP fun x => ?_
  rw [isFailed]
  cases s.replyTo? x.1 es with
  | none => simp [Publication.gains]
  | some reply => cases reply <;> simp [Publication.gains, adds, Except.isOk, Except.toBool]

theorem accepted_congr {kind other : Publication → Bool}
    (same : ∀ x ∈ s.publications es, kind x.2 = other x.2) :
    s.accepted es kind = s.accepted es other :=
  List.countP_congr fun x mem => by rw [same x mem]

theorem accepted_split (kind other : Publication → Bool) :
    s.accepted es kind = s.accepted es (fun call => kind call && other call)
      + s.accepted es fun call => kind call && !other call := by
  unfold accepted
  rw [List.countP_eq_countP_filter_add _ _ fun x => other x.2, List.countP_filter,
    List.countP_filter]
  simp only [Bool.and_right_comm]

/-- The calls that publish dead letters of several channels are those of each. -/
theorem sum_accepted {channels : List String} (distinct : channels.Nodup) :
    (channels.map fun channel => s.accepted es fun call => call == .deadLetter channel).sum
      = s.accepted es (Publication.isDeadLetterOf channels) := by
  induction channels with
  | nil =>
    refine (List.countP_eq_zero.2 fun x _ => ?_).symm
    cases x.2 <;> simp [Publication.isDeadLetterOf]
  | cons channel channels ih =>
    obtain ⟨new, distinct⟩ := List.nodup_cons.1 distinct
    rw [List.map_cons, List.sum_cons, ih distinct,
      accepted_split (Publication.isDeadLetterOf (channel :: channels)) (· == .deadLetter channel)]
    have parts := Publication.isDeadLetterOf_cons new
    congr 1
    · exact (accepted_congr fun x _ => (parts x.2).1).symm
    · exact (accepted_congr fun x _ => (parts x.2).2).symm

/-- A call is counted under a label as a publish of its event, or of a dead letter. -/
theorem accepted_label (ascribed : s.Ascribed r es) (label : String) :
    (s.accepted es fun call => call.label? r == some label)
      = (s.accepted es fun call => call == .event label) +
        if r.deadLetter?.map Channel.id = some label then
          s.accepted es (Publication.isDeadLetterOf (r.toList.map Channel.id))
        else 0 := by
  rw [accepted_split _ (· == .event label)]
  congr 1
  · refine accepted_congr fun x _ => ?_
    cases x.2 with
    | event channel => simp [Publication.label?, beq_eq_decide]
    | deadLetter channel => simp [beq_eq_decide]
  · by_cases target : r.deadLetter?.map Channel.id = some label
    · rw [if_pos target]
      refine accepted_congr fun x mem => ?_
      cases call : x.2 with
      | event channel => simp [Publication.label?, Publication.isDeadLetterOf, beq_eq_decide]
      | deadLetter channel =>
        have known := ascribed.known x mem channel call
        simpa [Publication.label?, target, Publication.isDeadLetterOf, beq_eq_decide] using known
    · rw [if_neg target]
      refine List.countP_eq_zero.2 fun x _ => ?_
      cases x.2 with
      | event channel => simp [Publication.label?, beq_eq_decide]
      | deadLetter channel => simp [Publication.label?, target]

/-- What is refused counts as dead letters that were not published, under their channels. -/
theorem count_refusals (channels : List String) (counter : Counter) (label : String) :
    Note.count (channels.map (.counted .deadLetterErrors)) counter label
      = if counter = .deadLetterErrors then channels.count label else 0 := by
  unfold Note.count
  rw [← List.countP_eq_length_filter, List.countP_map]
  by_cases same : counter = .deadLetterErrors
  · subst same
    rw [if_pos rfl, List.count_eq_countP]
    exact List.countP_congr fun name _ => by simp
  · rw [if_neg same]
    exact List.countP_eq_zero.2 fun name _ => by simp [Ne.symm same]

/-! ## All counters -/

theorem countersAgree_of_fresh (reachable : s.Reachable) (governed : s.Governed r)
    (fresh : s.operations = []) (silent : s.journal = []) (others : ∀ v, .addService v ∉ es)
    (label : String) : s.CountersAgree r es label := by
  have booked := (reachable.after es).booked
  have ascribed := ascribed_run reachable governed fresh others
  have tallied (counter : Counter) (about : counter.countsPublishes = true) (label : String) :
      (s.after es).tally counter label = s.gained r es counter label
        + if counter = .deadLetterErrors then (s.refused es).count label else 0 := by
    rw [tally_run reachable governed fresh silent others about, count_refusals]
  have deadLettered (label : String) : (s.after es).tally .deadLettered label
      = s.accepted es fun call => call == .deadLetter label :=
    (tallied _ rfl label).trans (gained_eq_accepted fun call ok => by simp [Publication.adds])
  have published : (s.after es).tally .published label
      = (s.accepted es fun call => call == .event label) +
        if r.deadLetter?.map Channel.id = some label then
          (r.toList.map fun at_ => (s.after es).tally .deadLettered at_.id).sum
        else 0 := by
    have distinct : (r.toList.map Channel.id).Nodup :=
      List.pairwise_map.2 (r.sorted_toList.imp fun before => String.ne_of_lt before)
    have each : (r.toList.map fun at_ => (s.after es).tally .deadLettered at_.id)
        = (r.toList.map Channel.id).map fun channel =>
            s.accepted es fun call => call == .deadLetter channel := by
      rw [List.map_map]
      exact List.map_congr_left fun at_ _ => deadLettered at_.id
    rw [each, sum_accepted distinct, ← accepted_label ascribed]
    exact (tallied _ rfl label).trans (gained_eq_accepted fun call ok => by simp [Publication.adds])
  constructor
  · exact booked.received label
  · exact booked.settled .ack label
  · exact booked.settled .nack label
  · have fewer := (s.after es).settled_le label
    rwa [← booked.received, ← booked.settled, ← booked.settled] at fewer
  · exact deadLettered label
  · refine (tallied _ rfl label).trans (congrArg (· + _) ?_)
    exact gained_eq_failed fun call ok => by simp [Publication.adds]
  · exact published
  · exact (tallied _ rfl label).trans (tallied .published rfl label).symm
  · exact (tallied _ rfl label).trans (gained_eq_failed fun call ok => by simp [Publication.adds])

/-- **Counters agree with what happened**, under every label, after every run of one service: any
calls, replies, deliveries, decisions and closing, in any order. -/
theorem countersAgree (now : Timestamp) (v : Service) (es : List Event)
    (others : ∀ w, .addService w ∉ es) (label : String) :
    ((start now).addService v).CountersAgree v.registry es label := by
  refine countersAgree_of_fresh ⟨now, [.addService v], rfl⟩ ?_ rfl rfl others label
  intro k w found
  rw [List.mem_singleton.1 (List.mem_of_getElem? found)]

/-- The message of an event is received and routed to the dead letters, the publish of another event
fails, and once the service is closed a second route is refused. -/
def routedAndRefused : List Event :=
  oneReceived.tail ++ [.fail 0 .deadLetter "bad", .serve 2,
    .begin 0 (.publish "orders" "made" (.ok .null)), .reply 3 (.error (.notFound "gone")),
    .begin 0 .close, .fail 0 .deadLetter "late"]

theorem countersAgree_routedAndRefused :
    (((start .epoch).addService ordersService).CountersAgree ordersService.registry routedAndRefused
        "orders" ∧
      ((start .epoch).addService ordersService).CountersAgree ordersService.registry
        routedAndRefused "dead") ∧
      let s := ((start .epoch).addService ordersService).after routedAndRefused
      s.tally .published "orders" = 1 ∧ s.tally .published "dead" = 1 ∧
        s.tally .publishErrors "orders" = 1 ∧ s.tally .deadLettered "orders" = 1 ∧
        s.tally .deadLetterErrors "orders" = 1 ∧ s.tally .received "orders" = 1 ∧
        s.tally .acked "orders" = 1 := by
  have others : ∀ w, .addService w ∉ routedAndRefused := by
    simp [routedAndRefused, oneReceived, ordersSetting]
  refine ⟨⟨?_, ?_⟩, by decide +kernel⟩
  · exact countersAgree .epoch ordersService _ others "orders"
  · exact countersAgree .epoch ordersService _ others "dead"

end System

end MessageChannels
