import MessageChannels.Proofs.Broker.Queue

/-!
# The order of deliveries

What a subscription queues is of two kinds. A message that is published to its topic is new to it,
and one that is put back was delivered before. So the first deliveries of the messages that were
published since the subscription was made follow the order of publishing, with none left out on the
way, whatever is settled in between (`Progress`). The messages themselves are numbered by the order
in which the broker accepts them, whatever publishes fail in between (`publishedIds_change`).
`queuesInOrder` puts this together with what becomes of a message that is put back.
-/

set_option autoImplicit false

namespace MessageChannels

namespace Broker

/-! ## First deliveries -/

/-- Of some deliveries, those of own messages that were not delivered before. -/
def firsts (own delivered : List Message) : List Message :=
  delivered.eraseDups.filter fun m => m ∈ own

/-- Of the messages that wait, the own ones that were not delivered before. -/
def unseen (own delivered waiting : List Message) : List Message :=
  waiting.filter fun m => m ∈ own ∧ m ∉ delivered

variable {b : Broker} {c : Change} {name topic : String} {sub : Subscription}
  {own delivered waiting : List Message} {m : Message}

theorem eraseDups_snoc (l : List Message) (m : Message) :
    (l ++ [m]).eraseDups = if m ∈ l then l.eraseDups else l.eraseDups ++ [m] := by
  rw [List.eraseDups_append]
  by_cases old : m ∈ l
  · rw [if_pos old]
    simp [List.removeAll, old]
  · rw [if_neg old]
    simp [List.removeAll, List.eraseDups_cons, old]

/-- An own message that joins is delivered first after all the own ones before it. -/
theorem order_arrives (undelivered : m ∉ delivered) (joins : m ∉ waiting) :
    firsts (own ++ [m]) delivered ++ unseen (own ++ [m]) delivered (waiting ++ [m])
      = firsts own delivered ++ unseen own delivered waiting ++ [m] := by
  have firsts_ : firsts (own ++ [m]) delivered = firsts own delivered := by
    apply List.filter_congr
    intro x member
    have differ : x ≠ m := by
      rintro rfl
      exact undelivered (List.mem_eraseDups.1 member)
    simp [differ]
  have before : unseen (own ++ [m]) delivered waiting = unseen own delivered waiting := by
    apply List.filter_congr
    intro x member
    have differ : x ≠ m := by
      rintro rfl
      exact joins member
    simp [differ]
  have last : unseen (own ++ [m]) delivered [m] = [m] := by simp [unseen, undelivered]
  have split : unseen (own ++ [m]) delivered (waiting ++ [m])
      = unseen (own ++ [m]) delivered waiting ++ unseen (own ++ [m]) delivered [m] :=
    List.filter_append _ _
  rw [firsts_, split, before, last, List.append_assoc]

/-- The first message that waits, once delivered, is the next of the first deliveries, if it is an
own one that was not delivered before. -/
theorem order_delivers (differ : m ∉ waiting) :
    firsts own (delivered ++ [m]) ++ unseen own (delivered ++ [m]) waiting
      = firsts own delivered ++ unseen own delivered (m :: waiting) := by
  have later : unseen own (delivered ++ [m]) waiting = unseen own delivered waiting := by
    apply List.filter_congr
    intro x member
    have other : x ≠ m := by
      rintro rfl
      exact differ member
    simp [other]
  rw [later]
  by_cases old : m ∈ delivered
  · have again : firsts own (delivered ++ [m]) = firsts own delivered := by
      unfold firsts
      rw [eraseDups_snoc, if_pos old]
    have seen : unseen own delivered (m :: waiting) = unseen own delivered waiting := by
      simp [unseen, old]
    rw [again, seen]
  · have new : firsts own (delivered ++ [m])
        = firsts own delivered ++ [m].filter fun m => m ∈ own := by
      unfold firsts
      rw [eraseDups_snoc, if_neg old, List.filter_append]
    have first : unseen own delivered (m :: waiting)
        = ([m].filter fun m => m ∈ own) ++ unseen own delivered waiting := by
      by_cases mine : m ∈ own
      · simp [unseen, old, mine]
      · simp [unseen, mine]
    rw [new, first, List.append_assoc]

/-- A message that is put back waits for no first delivery. -/
theorem unseen_returns (seen : m ∈ own → m ∈ delivered) :
    unseen own delivered (waiting ++ [m]) = unseen own delivered waiting := by
  have back : unseen own delivered [m] = [] := by
    by_cases mine : m ∈ own
    · simp [unseen, seen mine]
    · simp [unseen, mine]
  have split : unseen own delivered (waiting ++ [m])
      = unseen own delivered waiting ++ unseen own delivered [m] := List.filter_append _ _
  rw [split, back, List.append_nil]

/-- How far the delivery of own messages has come. -/
structure Progress (b : Broker) (name : String) (own delivered : List Message) : Prop where
  /-- First deliveries, and the own messages that wait for theirs, make up the own messages. -/
  order : firsts own delivered ++ unseen own delivered (b.backlog name) = own
  held : ∀ h ∈ b.held, h.subscription = name → h.message ∈ own → h.message ∈ delivered
  accepted : ∀ m ∈ own ++ delivered, ∃ topic, (topic, m) ∈ b.published

theorem accepted_of_waiting (sound : b.ledger.Sound) (waits : m ∈ b.backlog name) :
    ∃ topic, (topic, m) ∈ b.published := by
  apply sound.accepted name
  unfold Ledger.whereabouts
  rw [List.append_assoc]
  exact List.mem_append_left _ waits

theorem accepted_of_held (sound : b.ledger.Sound) {h : Held} (held : h ∈ b.held) :
    ∃ topic, (topic, h.message) ∈ b.published := by
  apply sound.accepted h.subscription
  have taken : h.message ∈ Ledger.messagesOn b.held h.subscription := by
    apply List.mem_map_of_mem
    exact List.mem_filter.2 ⟨held, decide_eq_true rfl⟩
  exact List.mem_append_left _ (List.mem_append_right _ taken)

/-- What is delivered has waited. -/
theorem QueueMove.waited (move : b.QueueMove c name topic) :
    ∀ m ∈ b.deliveredIn name c, m ∈ b.backlog name := by
  intro m member
  have none_ (nothing : b.deliveredIn name c = []) : m ∈ b.backlog name := by
    rw [nothing] at member
    cases member
  cases move with
  | delivers first waiting delivered published =>
    rw [delivered] at member
    obtain rfl := List.mem_singleton.1 member
    rw [waiting]
    exact List.mem_cons_self
  | rests new waiting delivered published elsewhere => exact none_ delivered
  | arrives m' waiting delivered published => exact none_ delivered
  | returns h held subscription waiting delivered published => exact none_ delivered

/-- However the queue moves, own messages are first delivered in their order. -/
theorem Progress.order_change (sound : b.ledger.Sound) (move : b.QueueMove c name topic)
    (progress : b.Progress name own delivered) {new : List (String × Message)}
    (grown : (b.change c).published = b.published ++ new) :
    firsts (own ++ Ledger.ofTopic topic new) (delivered ++ b.deliveredIn name c)
        ++ unseen (own ++ Ledger.ofTopic topic new) (delivered ++ b.deliveredIn name c)
            ((b.change c).backlog name)
      = own ++ Ledger.ofTopic topic new := by
  have order := progress.order
  have nothing_new (same : (b.change c).published = b.published) :
      Ledger.ofTopic topic new = [] := by
    rw [same] at grown
    rw [List.self_eq_append_right.1 grown]
    rfl
  cases move with
  | rests new' waits none_ published elsewhere =>
    obtain rfl : new' = new := List.append_cancel_left (published.symm.trans grown)
    rw [elsewhere, none_, waits, List.append_nil, List.append_nil]
    exact order
  | arrives m waits none_ published =>
    obtain rfl : [(topic, m)] = new := List.append_cancel_left (published.symm.trans grown)
    have fresh := ((b.ledger_change c).fresh sound grown).2 _ List.mem_cons_self
    have unknown : ¬ ∃ t, (t, m) ∈ b.published := by
      rintro ⟨t, member⟩
      exact fresh _ member rfl
    have undelivered : m ∉ delivered := by
      intro member
      exact unknown (progress.accepted m (List.mem_append_right _ member))
    have joins : m ∉ b.backlog name := by
      intro member
      exact unknown (accepted_of_waiting sound member)
    have arrived : Ledger.ofTopic topic [(topic, m)] = [m] := by simp [Ledger.ofTopic]
    rw [arrived, none_, waits, List.append_nil, order_arrives undelivered joins, order]
  | delivers m waits taken published =>
    have differ : m ∉ (b.change c).backlog name := by
      have nodup := nodup_backlog sound name
      rw [waits] at nodup
      exact (List.nodup_cons.1 nodup).1
    rw [nothing_new published, taken, List.append_nil, order_delivers differ, ← waits]
    exact order
  | returns h held subscription waits none_ published =>
    rw [nothing_new published, none_, waits, List.append_nil, List.append_nil,
      unseen_returns (progress.held h held subscription)]
    exact order

/-- A change keeps the account of own messages. -/
theorem Progress.change (sound : b.ledger.Sound) (move : b.QueueMove c name topic)
    (progress : b.Progress name own delivered) {new : List (String × Message)}
    (grown : (b.change c).published = b.published ++ new) :
    (b.change c).Progress name (own ++ Ledger.ofTopic topic new)
      (delivered ++ b.deliveredIn name c) := by
  have still {m : Message} (known : ∃ t, (t, m) ∈ b.published) :
      ∃ t, (t, m) ∈ (b.change c).published := by
    obtain ⟨t, member⟩ := known
    exact ⟨t, published_after member [c]⟩
  have arrived {m : Message} (member : m ∈ Ledger.ofTopic topic new) : (topic, m) ∈ new := by
    obtain ⟨⟨t, m'⟩, listed, rfl⟩ := List.mem_map.1 member
    obtain ⟨found, same⟩ := List.mem_filter.1 listed
    obtain rfl : t = topic := of_decide_eq_true same
    exact found
  refine ⟨progress.order_change sound move grown, ?_, ?_⟩
  · intro h held subscription mine
    rcases held_or_delivered held subscription with before | now
    · rcases List.mem_append.1 mine with old | recent
      · exact List.mem_append_left _ (progress.held h before subscription old)
      · obtain ⟨t, published⟩ := accepted_of_held sound before
        exact (((b.ledger_change c).fresh sound grown).2 _ (arrived recent) _ published rfl).elim
    · exact List.mem_append_right _ now
  · intro m member
    rcases List.mem_append.1 member with mine | taken
    · rcases List.mem_append.1 mine with old | recent
      · exact still (progress.accepted m (List.mem_append_left _ old))
      · refine ⟨topic, ?_⟩
        rw [grown]
        exact List.mem_append_right _ (arrived recent)
    · rcases List.mem_append.1 taken with old | now
      · exact still (progress.accepted m (List.mem_append_right _ old))
      · exact still (accepted_of_waiting sound (move.waited m now))

/-- The messages that were published to a topic, but for the first `start` ones of all. -/
def publishedSince (b : Broker) (start : Nat) (topic : String) : List Message :=
  Ledger.ofTopic topic (b.published.drop start)

/-- Over a run from an empty queue, the messages published to the topic are first delivered in the
order in which they were published. -/
theorem progress_after {cs : List Change} (sound : b.ledger.Sound) (none_ : b.backlog name = [])
    (lasts : b.Lasts cs name topic) :
    (b.after cs).Progress name ((b.after cs).publishedSince b.published.length topic)
      (b.deliveries name cs) := by
  induction cs using List.reverseRecOn with
  | nil =>
    have nothing : b.publishedSince b.published.length topic = [] := by
      unfold publishedSince
      rw [List.drop_length]
      rfl
    change b.Progress name (b.publishedSince _ topic) []
    rw [nothing]
    refine ⟨?_, ?_, ?_⟩
    · rw [none_]
      rfl
    · intro h held subscription mine
      cases mine
    · intro m member
      cases member
  | append_singleton cs c ih =>
    obtain ⟨before, last⟩ := lasts.split
    obtain ⟨_, move, _⟩ := last.of_cons
    obtain ⟨new, grown⟩ := (b.after cs).published_change c
    have progress := (ih before).change (sound_after sound cs) move grown
    have since : (b.after (cs ++ [c])).publishedSince b.published.length topic
        = (b.after cs).publishedSince b.published.length topic ++ Ledger.ofTopic topic new := by
      unfold publishedSince
      rw [after_snoc, grown, List.drop_append_of_le_length (b.length_published_le cs)]
      simp [Ledger.ofTopic]
    rw [since, deliveries_snoc, after_snoc]
    exact progress

/-! ## Numbers -/

/-- The identifier that a change answers to a publish, if it accepts one. -/
def acceptedIn (b : Broker) : Change → List String
  | .perform now (.publish topic m) =>
    match (b.perform now (.publish topic m)).2 with
    | .ok (.accepted id) => [id]
    | _ => []
  | _ => []

/-- The identifiers that a run answers to the publishes it accepts, in order. -/
def acceptedIds (b : Broker) : List Change → List String
  | [] => []
  | c :: cs => b.acceptedIn c ++ (b.change c).acceptedIds cs

/-- Only a publish brings a message in. -/
theorem published_perform {request : Request} (now : Timestamp)
    (other : ∀ t m, request ≠ .publish t m) :
    (b.perform now request).1.published = b.published := by
  by_cases closes : request = .close
  · subst closes
    unfold perform
    split
    · rfl
    · exact congrArg Ledger.published b.ledger_close
  · obtain ⟨_, _, _, _, _, _, same⟩ := b.perform_elsewhere now other closes
    rw [same]

/-- The identifiers of the messages that a broker has accepted, in the order of accepting. -/
def publishedIds (b : Broker) : List String := b.published.map fun p => p.2.id

/-- A change answers the identifier of each message that it brings in. -/
theorem publishedIds_change (b : Broker) (c : Change) :
    (b.change c).publishedIds = b.publishedIds ++ b.acceptedIn c := by
  have brings_none (same : (b.change c).published = b.published) (silent : b.acceptedIn c = []) :
      (b.change c).publishedIds = b.publishedIds ++ b.acceptedIn c := by
    unfold publishedIds
    rw [same, silent, List.append_nil]
  cases c with
  | perform now request =>
    by_cases publishes : ∃ t m, request = .publish t m
    · obtain ⟨t, m, rfl⟩ := publishes
      rcases b.perform_publish now t m with ⟨e, failed, same⟩ | ⟨ok, grown⟩
      · apply brings_none same
        dsimp only [acceptedIn]
        rw [failed]
      · dsimp only [acceptedIn]
        rw [ok]
        show ((b.perform now (.publish t m)).1.published.map fun p => p.2.id) = _
        rw [grown, List.map_append]
        rfl
    · apply brings_none
      · apply published_perform
        intro t m asks
        exact publishes ⟨t, m, asks⟩
      · cases request with
        | publish t m => exact absurd ⟨t, m, rfl⟩ publishes
        | _ => rfl
  | failNext t e => exact brings_none rfl rfl
  | poll n =>
    apply brings_none
    · rcases b.pollStream_cases n with ⟨_, same⟩ | ⟨_, _, _, _, _, _, _, heq⟩
      · exact congrArg Ledger.published same
      · exact congrArg (fun p => p.1.published) heq
    · rfl
  | dropStream n => exact brings_none rfl rfl
  | ack n => exact brings_none (b.published_ack n) rfl
  | nack n => exact brings_none (b.published_nack n) rfl
  | release n => exact brings_none (b.published_release n) rfl

theorem publishedIds_after (b : Broker) (cs : List Change) :
    (b.after cs).publishedIds = b.publishedIds ++ b.acceptedIds cs := by
  induction cs generalizing b with
  | nil => exact (List.append_nil _).symm
  | cons c cs ih =>
    calc
      (b.after (c :: cs)).publishedIds
        = (b.change c).publishedIds ++ (b.change c).acceptedIds cs := ih (b.change c)
      _ = b.publishedIds ++ b.acceptedIds (c :: cs) := by
        rw [publishedIds_change, acceptedIds, List.append_assoc]

/-- The texts of 1, 2, 3 and so on, up to a number. -/
def numbers (n : Nat) : List String := (List.range n).map fun i => toString (i + 1)

theorem publishedIds_of_sound (sound : b.ledger.Sound) :
    b.publishedIds = numbers b.published.length := by
  apply List.ext_getElem
  · simp [publishedIds, numbers]
  · intro i bound _
    have inside : i < b.published.length := by simpa [publishedIds] using bound
    have numbered := sound.numbered i b.published[i] (List.getElem?_eq_getElem inside)
    simpa [publishedIds, numbers] using numbered

/-! ## Queues of a run -/

/-- What holds of the queue of a subscription that `c` made, in the changes `rest` since. -/
structure OrderedQueue (b : Broker) (c : Change) (rest : List Change) (name : String)
    (sub : Subscription) : Prop where
  born : b.Born c name sub
  /-- The messages published to the topic since, in the order of publishing, are those of the first
  deliveries, in their order, and then those that still wait for theirs. -/
  firstInOrder :
    let own := ((b.change c).after rest).publishedSince (b.change c).published.length sub.topic
    let delivered := (b.change c).deliveries name rest
    own = firsts own delivered ++ unseen own delivered sub.backlog
  /-- A message that is put back is delivered again after all those that waited then. -/
  behind : ∀ before back between again later,
    rest = before ++ back :: (between ++ again :: later) →
    ∀ h ∈ ((b.change c).after before).held, h.subscription = name → back.PutsBack h.number →
    (((b.change c).after (before ++ [back])).after between).deliveredIn name again = [h.message] →
    ((b.change c).after before).backlog name
      <+: ((b.change c).after (before ++ [back])).deliveries name between

/-- The queues and the numbers of a run. -/
structure QueuesInOrder (cs : List Change) : Prop where
  /-- Accepted publishes are answered 1, 2, 3 and so on, over all topics; their messages bear these
  identifiers. -/
  numbered : empty.acceptedIds cs = numbers (empty.acceptedIds cs).length ∧
    (empty.after cs).publishedIds = empty.acceptedIds cs
  queues : (empty.after cs).closed = false → ∀ name sub,
    (empty.after cs).subscriptions.get? name = some sub →
    ∃ before c rest, cs = before ++ c :: rest ∧
      (empty.after before).OrderedQueue c rest name sub

theorem Born.lasts {rest : List Change} (born : b.Born c name sub)
    (sound : (b.change c).ledger.Sound)
    (found : ((b.change c).after rest).subscriptions.get? name = some sub) :
    (b.change c).Lasts rest name sub.topic ∧ (b.change c).backlog name = [] := by
  obtain ⟨sub₀, made, _, creation, nothing⟩ := born.made
  constructor
  · refine ⟨sub, found, rfl, ?_⟩
    rw [← creation]
    exact sound.creation_lt name sub₀ made
  · rw [backlog_of_get? made]
    exact nothing

theorem Born.orderedQueue {rest : List Change} (born : b.Born c name sub)
    (sound : (b.change c).ledger.Sound) (opened : ((b.change c).after rest).closed = false)
    (found : ((b.change c).after rest).subscriptions.get? name = some sub) :
    b.OrderedQueue c rest name sub := by
  obtain ⟨lasts, nothing⟩ := born.lasts sound found
  refine ⟨born, ?_, ?_⟩
  · have order := (progress_after sound nothing lasts).order
    rw [backlog_of_get? found] at order
    exact order.symm
  · rintro before back between again later rfl h held rfl puts redelivered
    have opened' : ((b.change c).after before).closed = false := by
      cases shut : ((b.change c).after before).closed with
      | false => rfl
      | true =>
        rw [after_append, closed_after shut] at opened
        cases opened
    have run : ((b.change c).after before).Lasts (back :: (between ++ [again])) h.subscription
        sub.topic := by
      have whole : back :: (between ++ again :: later)
          = (back :: (between ++ [again])) ++ later := by
        rw [List.cons_append, List.append_assoc, List.singleton_append]
      have since := lasts.split.2
      rw [whole] at since
      exact since.split.1
    rw [after_snoc] at redelivered ⊢
    exact Broker.behind (sound_after sound before) opened' held puts run redelivered

/-- **Queues are in order**, wherever a run leads. -/
theorem queuesInOrder (cs : List Change) : QueuesInOrder cs where
  numbered := by
    have all : (empty.after cs).publishedIds = empty.acceptedIds cs := empty.publishedIds_after cs
    have sound := sound_after Ledger.sound_empty cs
    have counted : (empty.after cs).published.length = (empty.acceptedIds cs).length := by
      rw [← all, publishedIds, List.length_map]
    constructor
    · rw [← counted, ← all]
      exact publishedIds_of_sound sound
    · exact all
  queues := by
    intro opened name sub found
    obtain ⟨before, c, rest, rfl, origins⟩ := origins_of_found found
    have whole : empty.after (before ++ c :: rest)
        = ((empty.after before).change c).after rest := by
      rw [after_append, after_cons]
    rw [whole] at opened found
    have sound := sound_after Ledger.sound_empty before
    refine ⟨before, c, rest, rfl, ?_⟩
    apply origins.born.orderedQueue _ opened found
    exact ((empty.after before).ledger_change c).sound sound

/-- Two streams read three letters; the first is put back while the third waits. -/
def readByTwo : List Change :=
  let publish (text : String) : Change :=
    .perform .epoch (.publish "letters" ⟨Text.toBytes text, Dictionary.empty⟩)
  [.perform .epoch (.createTopic "letters"),
    .perform .epoch (.createSubscription "letters" "reader" (.ofSecs 10)),
    .perform .epoch (.receive "letters" "reader"), .perform .epoch (.receive "letters" "reader"),
    publish "a", .failNext "letters" (.backend "lost"), publish "x", publish "b", publish "c",
    .poll 0, .poll 1, .nack 0, .poll 0, .ack 1, .poll 1]

/-- The first letter is delivered again after the third, and the lost one left no gap. -/
example :
    (empty.deliveries "reader" readByTwo).map Message.id = ["1", "2", "3", "1"] ∧
      empty.acceptedIds readByTwo = ["1", "2", "3"] := by
  decide +kernel

end Broker

end MessageChannels
