import MessageChannels.Proofs.Broker.Frozen

/-!
# Requests that fail

A request that fails leaves a broker as it was (`perform_error`): no message is accepted in part, no
identifier is used up, no queue is touched. The one exception is a publish that meets a failure which
was set up for its topic; it uses that failure up, and nothing else.

While a broker is open, the failures set up for a topic form a queue of which the publishes to the
topic take the first each. `failsCleanly` puts the two together: what was set up is what the publishes
met, in this order and each once, and what still waits; no other change touches the queue; and a
publish that finds the queue empty succeeds exactly if the topic exists.
-/

set_option autoImplicit false

namespace MessageChannels

namespace Broker

/-- The failures that a change sets up for a topic. -/
def Change.setsUp (topic : String) : Change → List TransportError
  | .failNext t e => if t = topic then [e] else []
  | _ => []

/-- Whether a change is a publish to a topic. -/
def Change.PublishesTo (topic : String) (c : Change) : Prop :=
  ∃ now m, c = .perform now (.publish topic m)

/-- The error with which a request is answered, if it is. -/
def errorOf : Except TransportError Reply → List TransportError
  | .error e => [e]
  | .ok _ => []

/-- The error that a publish to a topic returns where a failure is queued for the topic. -/
def metIn (b : Broker) (topic : String) : Change → List TransportError
  | .perform now (.publish t m) =>
    if t = topic ∧ b.queuedFailures topic ≠ [] then errorOf (b.perform now (.publish t m)).2 else []
  | _ => []

/-- The errors that the publishes to a topic return in a run where failures are queued for it. -/
def met (b : Broker) (topic : String) : List Change → List TransportError
  | [] => []
  | c :: cs => b.metIn topic c ++ (b.change c).met topic cs

variable {b b' : Broker} {c : Change} {cs : List Change} {now : Timestamp} {topic : String}

/-! ## A request that fails -/

/-- What a request that fails with an error makes of a broker. -/
structure FailedRequest (b b' : Broker) (request : Request) (e : TransportError) : Prop where
  /-- Nothing changes unless an open broker has a failure queued for a publish. -/
  unchanged : (∀ t m, request = .publish t m → b.closed = false → b.queuedFailures t = []) → b' = b
  /-- Where it has one, the first is the error and is removed, and nothing else changes. -/
  removed : ∀ t m, request = .publish t m → b.closed = false → b.queuedFailures t ≠ [] →
    ∃ later, b.queuedFailures t = e :: later ∧
      b' = { b with failures := b.failures.insert t later } ∧ b'.queuedFailures t = later ∧
      ∀ other, other ≠ t → b'.queuedFailures other = b.queuedFailures other

theorem FailedRequest.of_same (request : Request) (e : TransportError)
    (free : ∀ t m, request = .publish t m → b.closed = false → b.queuedFailures t = []) :
    FailedRequest b b request e where
  unchanged := fun _ => rfl
  removed := by
    intro t m asks opened queued
    exact absurd (free t m asks opened) queued

theorem queuedFailures_insert (b : Broker) (t : String) (later : List TransportError)
    (other : String) :
    ({ b with failures := b.failures.insert t later } : Broker).queuedFailures other
      = if other = t then later else b.queuedFailures other := by
  unfold queuedFailures
  rw [Dictionary.get?_insert]
  split
  · rfl
  · rfl

/-- The failure that a publish meets is the first that is queued. -/
theorem nextFailure?_eq_some_iff {e : TransportError} {later : List TransportError} :
    b.nextFailure? topic = some (e, later) ↔ b.queuedFailures topic = e :: later := by
  unfold nextFailure? queuedFailures
  cases b.failures.get? topic with
  | none => simp
  | some queue =>
    cases queue with
    | nil => simp
    | cons first rest => simp

theorem nextFailure?_eq_none_iff :
    b.nextFailure? topic = none ↔ b.queuedFailures topic = [] := by
  unfold nextFailure? queuedFailures
  cases b.failures.get? topic with
  | none => simp
  | some queue =>
    cases queue with
    | nil => simp
    | cons first rest => simp

/-- A publish that meets a failure. -/
theorem publish_of_queued {e : TransportError} {later : List TransportError}
    (queued : b.queuedFailures topic = e :: later) (now : Timestamp) (m : Outbound) :
    b.publish now topic m = ({ b with failures := b.failures.insert topic later }, .error e) := by
  unfold publish
  rw [nextFailure?_eq_some_iff.2 queued]

/-- A publish that meets none. -/
theorem publish_of_unqueued (free : b.queuedFailures topic = []) (now : Timestamp) (m : Outbound) :
    b.publish now topic m
      = if b.hasTopic topic then
          (b.accept topic (b.stamped now m), .ok (.accepted (b.stamped now m).id))
        else (b, .error (.notFound ("topic " ++ topic))) := by
  unfold publish
  rw [nextFailure?_eq_none_iff.2 free]

theorem perform_opened (opened : b.closed = false) (now : Timestamp) (t : String) (m : Outbound) :
    b.perform now (.publish t m) = b.publish now t m := by
  unfold perform
  rw [opened, if_neg Bool.false_ne_true]

/-- A publish that fails meets a failure, which it removes, or changes nothing. -/
theorem failedRequest_publish {e : TransportError} {t : String} {m : Outbound}
    (opened : b.closed = false) (failed : (b.publish now t m).2 = .error e) :
    FailedRequest b (b.publish now t m).1 (.publish t m) e := by
  cases queued : b.queuedFailures t with
  | nil =>
    rw [publish_of_unqueued queued] at failed ⊢
    split at failed
    · cases failed
    · rename_i absent
      rw [if_neg absent]
      apply FailedRequest.of_same
      intro t' m' asks _
      cases asks
      exact queued
  | cons first later =>
    rw [publish_of_queued queued] at failed ⊢
    cases failed
    constructor
    · intro free
      cases (free t m rfl opened).symm.trans queued
    · intro t' m' asks _ _
      cases asks
      refine ⟨later, queued, rfl, ?_, ?_⟩
      · rw [queuedFailures_insert, if_pos rfl]
      · intro other apart
        rw [queuedFailures_insert, if_neg apart]

/-- Every other request decides before it changes anything. -/
theorem perform_error_of_ne_publish {request : Request} {e : TransportError}
    (opened : b.closed = false) (other : ∀ t m, request ≠ .publish t m)
    (failed : (b.perform now request).2 = .error e) : (b.perform now request).1 = b := by
  unfold perform at failed ⊢
  rw [opened, if_neg Bool.false_ne_true] at failed ⊢
  cases request with
  | topicExists t => cases failed
  | createTopic t =>
    dsimp only at failed ⊢
    split
    · rfl
    · rename_i fresh
      rw [if_neg fresh] at failed
      cases failed
  | deleteTopic t =>
    dsimp only at failed ⊢
    split
    · rename_i there
      rw [if_pos there] at failed
      cases failed
    · rfl
  | subscriptionExists name => cases failed
  | createSubscription t name deadline =>
    dsimp only at failed ⊢
    split
    · rfl
    · rename_i there
      rw [if_neg there] at failed
      split
      · rfl
      · rename_i fresh
        rw [if_neg fresh] at failed
        cases failed
  | deleteSubscription name =>
    dsimp only at failed ⊢
    split at failed
    · cases failed
    · rfl
  | publish t m => exact absurd rfl (other t m)
  | receive t name =>
    dsimp only [openStream] at failed ⊢
    split at failed
    · split at failed
      · cases failed
      · rename_i elsewhere
        rw [if_neg elsewhere]
    · rfl
  | close => cases failed

/-- **A request that fails changes nothing**, but for the failure that a publish meets. -/
theorem perform_error {request : Request} {e : TransportError}
    (failed : (b.perform now request).2 = .error e) :
    FailedRequest b (b.perform now request).1 request e := by
  cases shut : b.closed with
  | true =>
    rw [perform_closed shut]
    apply FailedRequest.of_same
    intro t m _ opened
    cases shut.symm.trans opened
  | false =>
    by_cases publishes : ∃ t m, request = .publish t m
    · obtain ⟨t, m, rfl⟩ := publishes
      rw [perform_opened shut] at failed ⊢
      exact failedRequest_publish shut failed
    · have other : ∀ t m, request ≠ .publish t m := by
        intro t m asks
        exact publishes ⟨t, m, asks⟩
      rw [perform_error_of_ne_publish shut other failed]
      apply FailedRequest.of_same
      intro t m asks
      exact absurd asks (other t m)

/-! ## What decides on a publish before its topic is looked for -/

/-- Whether a broker is closed, and what failures wait for publishes. -/
structure Gate where
  closed : Bool
  failures : Dictionary (List TransportError)

/-- Whether a broker is closed, and what failures wait for publishes. -/
def gate (b : Broker) : Gate := ⟨b.closed, b.failures⟩

theorem queuedFailures_of_gate (same : b'.gate = b.gate) (topic : String) :
    b'.queuedFailures topic = b.queuedFailures topic := by
  have failures : b'.failures = b.failures := congrArg Gate.failures same
  unfold queuedFailures
  rw [failures]

theorem closed_of_gate (same : b'.gate = b.gate) : b'.closed = b.closed :=
  congrArg Gate.closed same

theorem gate_enqueue (b : Broker) (name : String) (m : Message) :
    (b.enqueue name m).gate = b.gate := by
  unfold enqueue
  split
  · rfl
  · rfl

theorem gate_accept (b : Broker) (t : String) (m : Message) : (b.accept t m).gate = b.gate := by
  have each (names : List String) (b : Broker) :
      (names.foldl (fun b name => b.enqueue name m) b).gate = b.gate := by
    induction names generalizing b with
    | nil => rfl
    | cons first names ih => exact (ih (b.enqueue first m)).trans (b.gate_enqueue first m)
  exact each (b.subscribers t) b

theorem gate_ack (b : Broker) (n : Nat) : (b.ack n).gate = b.gate := by
  unfold ack
  split
  · rfl
  · dsimp only
    split
    · rfl
    · rfl

theorem gate_nack (b : Broker) (n : Nat) : (b.nack n).gate = b.gate := by
  unfold nack
  split
  · rfl
  · dsimp only
    split
    · rfl
    · exact gate_enqueue _ _ _

theorem gate_release (b : Broker) (n : Nat) : (b.release n).gate = b.gate := by
  unfold release
  split
  · rfl
  · dsimp only
    split
    · rfl
    · exact gate_enqueue _ _ _

theorem gate_pollStream (b : Broker) (stream : Nat) : (b.pollStream stream).1.gate = b.gate := by
  unfold pollStream
  split
  · rfl
  · split
    · rfl
    · split
      · rfl
      · unfold look
        split
        · rfl
        · split
          · rfl
          · split
            · rfl
            · rfl

/-- A request leaves the gate alone unless it publishes or closes. -/
theorem gate_perform {request : Request} (now : Timestamp) (other : ∀ t m, request ≠ .publish t m)
    (goesOn : request ≠ .close) : (b.perform now request).1.gate = b.gate := by
  obtain ⟨_, _, _, _, _, _, same⟩ := b.perform_elsewhere now other goesOn
  rw [same]
  rfl

/-- A publish to an open broker takes the first failure off the queue of its topic, if there is one.
-/
theorem gate_publish (opened : b.closed = false) (now : Timestamp) (t : String) (m : Outbound) :
    (b.perform now (.publish t m)).1.closed = false ∧
      ∀ other, (b.perform now (.publish t m)).1.queuedFailures other
        = if other = t then (b.queuedFailures t).tail else b.queuedFailures other := by
  rw [perform_opened opened]
  cases queued : b.queuedFailures t with
  | nil =>
    have same (b' : Broker) (gate : b'.gate = b.gate) : b'.closed = false ∧
        ∀ other, b'.queuedFailures other = if other = t then [].tail else b.queuedFailures other := by
      constructor
      · exact (closed_of_gate gate).trans opened
      · intro other
        rw [queuedFailures_of_gate gate]
        split
        · rename_i named
          rw [named, queued]
          rfl
        · rfl
    rw [publish_of_unqueued queued]
    split
    · exact same _ (b.gate_accept t (b.stamped now m))
    · exact same b rfl
  | cons first later =>
    rw [publish_of_queued queued]
    exact ⟨opened, b.queuedFailures_insert t later⟩

/-- A change leaves the gate alone unless it sets up a failure, publishes or closes. -/
theorem gate_change (unset : ∀ t e, c ≠ .failNext t e) (unasked : ∀ t, ¬ c.PublishesTo t)
    (goesOn : ∀ now, c ≠ .perform now .close) : (b.change c).gate = b.gate := by
  cases c with
  | perform now request =>
    apply gate_perform
    · intro t m asks
      exact unasked t ⟨now, m, congrArg (Change.perform now) asks⟩
    · intro closes
      exact goesOn now (congrArg (Change.perform now) closes)
  | failNext t e => exact absurd rfl (unset t e)
  | poll stream => exact b.gate_pollStream stream
  | dropStream stream => rfl
  | ack n => exact b.gate_ack n
  | nack n => exact b.gate_nack n
  | release n => exact b.gate_release n

/-! ## Runs of an open broker -/

/-- A change moves the failures of a topic: those that were queued, and those it sets up, are those
that a publish meets in it and those that are queued after it. -/
theorem moved_change (opened : b.closed = false) (goesOn : ∀ now, c ≠ .perform now .close) :
    (b.change c).closed = false ∧ ∀ topic,
      b.queuedFailures topic ++ c.setsUp topic
        = b.metIn topic c ++ (b.change c).queuedFailures topic := by
  by_cases sets : ∃ t e, c = .failNext t e
  · obtain ⟨t, e, rfl⟩ := sets
    constructor
    · exact opened
    · intro topic
      show _ = (b.failNextPublish t e).queuedFailures topic
      rw [failNextPublish, queuedFailures_insert, Change.setsUp]
      by_cases named : topic = t
      · rw [if_pos named, if_pos named.symm, named]
        rfl
      · rw [if_neg named, if_neg (Ne.symm named), List.append_nil]
  · by_cases publishes : ∃ t, c.PublishesTo t
    · obtain ⟨t, now, m, rfl⟩ := publishes
      obtain ⟨closed, queues⟩ := gate_publish opened now t m
      constructor
      · exact closed
      · intro topic
        show b.queuedFailures topic ++ [] = _ ++ (b.perform now (.publish t m)).1.queuedFailures topic
        rw [List.append_nil, queues, metIn]
        by_cases named : topic = t
        · subst named
          cases queued : b.queuedFailures topic with
          | nil => simp
          | cons first later =>
            rw [perform_opened opened, publish_of_queued queued]
            simp [errorOf]
        · rw [if_neg named, if_neg (fun both => named both.1.symm), List.nil_append]
    · have same : (b.change c).gate = b.gate := by
        apply gate_change
        · intro t e h
          exact sets ⟨t, e, h⟩
        · intro t h
          exact publishes ⟨t, h⟩
        · exact goesOn
      constructor
      · exact (closed_of_gate same).trans opened
      · intro topic
        have nothing : c.setsUp topic = [] ∧ b.metIn topic c = [] := by
          cases c with
          | failNext t e => exact absurd ⟨t, e, rfl⟩ sets
          | perform now request =>
            cases request with
            | publish t m => exact absurd ⟨t, now, m, rfl⟩ publishes
            | _ => exact ⟨rfl, rfl⟩
          | _ => exact ⟨rfl, rfl⟩
        rw [nothing.1, nothing.2, queuedFailures_of_gate same, List.append_nil, List.nil_append]

/-- Over a run without closing, what was queued and set up is what was met and is queued still. -/
theorem moved_after (opened : b.closed = false) (goesOn : ∀ now, .perform now .close ∉ cs) :
    (b.after cs).closed = false ∧ ∀ topic,
      b.queuedFailures topic ++ cs.flatMap (Change.setsUp topic)
        = b.met topic cs ++ (b.after cs).queuedFailures topic := by
  induction cs generalizing b with
  | nil =>
    constructor
    · exact opened
    · intro topic
      exact List.append_nil _
  | cons c cs ih =>
    have first : ∀ now, c ≠ .perform now .close := by
      intro now h
      exact goesOn now (h ▸ List.mem_cons_self)
    obtain ⟨closed, moved⟩ := moved_change opened first
    obtain ⟨closed', rest⟩ := ih closed fun now h => goesOn now (List.mem_cons_of_mem _ h)
    constructor
    · exact closed'
    · intro topic
      calc
        b.queuedFailures topic ++ (c :: cs).flatMap (Change.setsUp topic)
          = (b.queuedFailures topic ++ c.setsUp topic) ++ cs.flatMap (Change.setsUp topic) := by
            rw [List.flatMap_cons, List.append_assoc]
        _ = b.metIn topic c
              ++ ((b.change c).queuedFailures topic ++ cs.flatMap (Change.setsUp topic)) := by
            rw [moved, List.append_assoc]
        _ = b.met topic (c :: cs) ++ (b.after (c :: cs)).queuedFailures topic := by
            rw [rest, met, List.append_assoc]
            rfl

/-- How the failures that are set up for a topic are met in a run. -/
structure MeetsFailures (cs : List Change) (topic : String) : Prop where
  /-- What was set up is what was met, in this order and each once, and what still waits. -/
  inOrder : cs.flatMap (Change.setsUp topic)
    = empty.met topic cs ++ (empty.after cs).queuedFailures topic
  /-- A publish that finds failures returns the first and leaves the others, whether or not the topic
  exists. -/
  next : ∀ before now m after e later, cs = before ++ .perform now (.publish topic m) :: after →
    (empty.after before).queuedFailures topic = e :: later →
    ((empty.after before).perform now (.publish topic m)).2 = .error e ∧
      ((empty.after before).perform now (.publish topic m)).1.queuedFailures topic = later
  /-- Every other publish succeeds exactly if the topic exists. -/
  unhindered : ∀ before now m after, cs = before ++ .perform now (.publish topic m) :: after →
    (empty.after before).queuedFailures topic = [] →
    ((∃ reply, ((empty.after before).perform now (.publish topic m)).2 = .ok reply) ↔
      (empty.after before).hasTopic topic = true)
  /-- Nothing but setting a failure up and publishing to the topic touches its queue. -/
  apart : ∀ before c after, cs = before ++ c :: after → c.setsUp topic = [] →
    ¬ c.PublishesTo topic →
    ((empty.after before).change c).queuedFailures topic = (empty.after before).queuedFailures topic

theorem metIn_of_not_publishesTo (other : ¬ c.PublishesTo topic) : b.metIn topic c = [] := by
  cases c with
  | perform now request =>
    cases request with
    | publish t m =>
      rw [metIn, if_neg]
      rintro ⟨rfl, _⟩
      exact other ⟨now, m, rfl⟩
    | _ => rfl
  | _ => rfl

theorem meetsFailures (goesOn : ∀ now, .perform now .close ∉ cs) (topic : String) :
    MeetsFailures cs topic := by
  have open_ {before : List Change} {c : Change} {after : List Change}
      (split : cs = before ++ c :: after) :
      (empty.after before).closed = false ∧ ∀ now, c ≠ .perform now .close := by
    subst split
    constructor
    · have opened : empty.closed = false := rfl
      exact (moved_after opened fun now h => goesOn now (List.mem_append_left _ h)).1
    · rintro now rfl
      exact goesOn now (List.mem_append_right _ List.mem_cons_self)
  have opened : empty.closed = false := rfl
  refine ⟨(moved_after opened goesOn).2 topic, ?_, ?_, ?_⟩
  · intro before now m after e later split queued
    rw [perform_opened (open_ split).1, publish_of_queued queued]
    constructor
    · rfl
    · rw [queuedFailures_insert, if_pos rfl]
  · intro before now m after split free
    rw [perform_opened (open_ split).1, publish_of_unqueued free]
    by_cases there : (empty.after before).hasTopic topic = true
    · rw [if_pos there]
      exact ⟨fun _ => there, fun _ => ⟨_, rfl⟩⟩
    · rw [if_neg there]
      constructor
      · rintro ⟨reply, ok⟩
        cases ok
      · intro there'
        exact absurd there' there
  · intro before c after split unset other
    obtain ⟨opened, goesOn'⟩ := open_ split
    have moved := (moved_change opened goesOn').2 topic
    rw [unset, metIn_of_not_publishesTo other, List.append_nil, List.nil_append] at moved
    exact moved.symm

/-- Two failures are set up for a topic that does not exist, one for a topic that does, and five
messages are published. -/
def hindered : List Change :=
  let publish (topic : String) : Change :=
    .perform .epoch (.publish topic ⟨Text.toBytes "a", Dictionary.empty⟩)
  [.perform .epoch (.createTopic "letters"), .failNext "numbers" (.unavailable "first"),
    .failNext "letters" (.backend "lost"), .failNext "numbers" (.unavailable "second"),
    publish "numbers", publish "letters", publish "numbers", publish "numbers", publish "letters"]

/-- The failures are met one by one, and only the last publish is accepted. -/
example :
    empty.met "numbers" hindered = [.unavailable "first", .unavailable "second"] ∧
      empty.met "letters" hindered = [.backend "lost"] ∧
      ((empty.after hindered).published.map fun p => p.2.id) = ["1"] := by
  decide +kernel

/-- What requests that fail do to a broker after a run. -/
structure FailsCleanly (cs : List Change) : Prop where
  atomic : ∀ now request e, ((empty.after cs).perform now request).2 = .error e →
    (empty.after cs).FailedRequest ((empty.after cs).perform now request).1 request e
  publishes : (∀ now, .perform now .close ∉ cs) → ∀ topic, MeetsFailures cs topic

/-- **Requests fail cleanly**, wherever a run leads. -/
theorem failsCleanly (cs : List Change) : FailsCleanly cs where
  atomic := by
    intro now request e failed
    exact perform_error failed
  publishes := by
    intro goesOn topic
    exact meetsFailures goesOn topic

end Broker

end MessageChannels
