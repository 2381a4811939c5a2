import MessageChannels.Proofs.Topology.Reconciliation

/-!
# Removing all that a registry names

An attempt to remove goes through the channels in the order of their names, to each one's subscription
and then to its topic. Whatever was seen to is gone, and nothing else is (`SeenTo.has_iff`), so what
an attempt leaves is told by where it stopped: what the channels before that one name is gone, and of
that channel the subscription if it stopped at the topic (`Removed`). What channels share is removed
with the first of them, and the later ones find it gone. Faults that stop attempts only put off the
rest to the next (`removes`).
-/

set_option autoImplicit false

namespace MessageChannels

open MessageChannels.Topology (Chore Progress Reduces SeenTo Work Wrought callsFor part parts
  removeChores)

namespace Topology

/-- A request is a call of a chore, which goes by a name in errors. -/
inductive Chore.Call (c : Chore) : Request → String → Prop where
  | question {q : Request} (asks : c.question? = some q) : c.Call q c.questionName
  | change {r : Request} (asks : c.change? = some r) : c.Call r c.changeName

/-- The visit to a channel in removing: calls about its subscription, then calls about its topic,
which do not begin before those about its subscription. -/
structure Visit (at_ : Channel) (first last : List Request) : Prop where
  subscription : first = [] ∨
    ∃ n, at_.subscription = some n ∧ (Chore.removeSubscription n).Calls first
  topic : last = [] ∨ (Chore.removeTopic at_.topic).Calls last
  order : last ≠ [] → at_.subscription ≠ none → first ≠ []

/-- A broker has what it had but for what channels of a registry name. -/
structure Cleared (r : Registry) (b b' : Broker) : Prop where
  reduces : Reduces (· ∈ r.toList) b b'
  has_iff : ∀ x, b'.has x = true ↔ b.has x = true ∧ ¬ ∃ at_ ∈ r.toList, at_.Names x

end Topology

open MessageChannels.Topology (Cleared Visit)

namespace System

/-- An attempt of a service to remove all that its registry names, whose calls meet some faults, or
none, in their order. -/
def removed (s : System) (k : Nat) (faults : List (Option TransportError)) : System :=
  (s.step (.begin k .deleteAll)).after (faults.map (answering s.operations.length))

/-- Attempts one after the other. -/
def removedEach (s : System) (k : Nat) (attempts : List (List (Option TransportError))) : System :=
  attempts.foldl (fun s faults => s.removed k faults) s

/-- What comes of an attempt to remove what a registry names: what the operation `op` has made of a
system by the answers to its calls. -/
structure Removed (s made : System) (op : Nat) (r : Registry)
    (faults : List (Option TransportError)) : Prop where
  /-- Nothing is gone but what channels name, and what is left is as it was. -/
  takes : Reduces (· ∈ r.toList) s.broker made.broker
  /-- The channels are visited one after the other. -/
  visits : ∃ begun visits, begun <+: r.toList ∧
    List.Forall₂ (fun at_ (visit : List Request × List Request) => Visit at_ visit.1 visit.2) begun
      visits ∧
    made.requests op = visits.flatMap fun visit => visit.1 ++ visit.2
  /-- It stops at a fault with its error. Then all is gone that the channels before name, and the
  channel's subscription if it stops at the topic; and nothing else is. -/
  stops : ∀ i e, faults[i]? = some (some e) → i < (made.requests op).length →
    (made.requests op).length = i + 1 ∧
      ∃ at_ ∈ r.toList, ∃ c ∈ removeChores at_, ∃ q name,
        (made.requests op).getLast? = some q ∧ c.Call q name ∧
        made.result? op = some (.error (.ofTransport name c.resource e)) ∧
        ∀ x, made.broker.has x = true ↔ s.broker.has x = true ∧
          (¬ ∃ other ∈ r.toList, other.id < at_.id ∧ other.Names x) ∧
          ¬ (c = .removeTopic at_.topic ∧ ∃ n, at_.subscription = some n ∧ x = .subscription n)
  /-- It comes to an end. -/
  ends : 4 * r.size ≤ faults.length → (made.result? op).isSome = true
  ok_iff : made.result? op = some (.ok .done) ↔
    (made.result? op).isSome = true ∧ ∀ i < (made.requests op).length, faults[i]? = some none
  /-- If there are no faults, it returns. -/
  faultless : (∀ f ∈ faults, f = none) → 4 * r.size ≤ faults.length →
    made.result? op = some (.ok .done)
  complete : made.result? op = some (.ok .done) → Cleared r s.broker made.broker

end System

namespace Topology

variable {b₀ b b' b'' : Broker} {done chores taken later : List Chore} {calls : List Request} {w : Work}
  {at_ : Channel} {channels : List Channel} {x : Resource} {each : List (List Request)}
  {faults : List (Option TransportError)} {state : OperationState} {r : Registry}

/-! ## What is gone -/

/-- After removing chores there is what there was but for what they are about. -/
theorem SeenTo.has_iff (seen : SeenTo b₀ done calls b) (kind : ∀ c ∈ done, c.OfKind false) :
    b.has x = true ↔ b₀.has x = true ∧ ¬ ∃ c ∈ done, c.subject? = some x := by
  by_cases about : ∃ c ∈ done, c.subject? = some x
  · obtain ⟨c, mem, subject⟩ := about
    have gone : b.has x = false :=
      (seen.holds kind c mem x subject).trans ((kind c mem).isMaking subject)
    rw [gone]
    exact ⟨nofun, fun there => absurd ⟨c, mem, subject⟩ there.2⟩
  · have same : b.has x = b₀.has x :=
      seen.has_of_forall_ne fun c mem subject => about ⟨c, mem, subject⟩
    rw [same]
    exact ⟨fun there => ⟨there, about⟩, And.left⟩

/-- Work that has removed what channels of a registry name has left the rest. -/
theorem cleared_of_wrought (wrought : Wrought false (· ∈ r.toList) b b')
    (gone : ∀ at_ ∈ r.toList, ∀ x, at_.Names x → b'.has x = false) : Cleared r b b' := by
  have reduces := wrought.reduces
  refine ⟨reduces, fun x => ⟨fun there => ⟨reduces.keeps x there, ?_⟩, fun there => ?_⟩⟩
  · rintro ⟨at_, mem, names⟩
    cases there.symm.trans (gone at_ mem x names)
  · exact (reduces.gone x there.1).resolve_right there.2

theorem exists_subject_parts_iff (making : Bool) :
    (∃ c ∈ parts making channels, c.subject? = some x) ↔ ∃ at_ ∈ channels, at_.Names x := by
  constructor
  · rintro ⟨c, mem, about⟩
    exact (mem_parts.1 mem).names about
  · rintro ⟨at_, mem, names⟩
    obtain ⟨c, own, about⟩ := exists_mem_part making names
    exact ⟨c, mem_parts.2 ⟨at_, mem, own⟩, about⟩

/-- The chores of a channel before one of them, which is the removal of the subscription or topic. -/
theorem removeChores_split {c : Chore} {mine rest : List Chore} (real : c ≠ .verifyOpen)
    (own : removeChores at_ = mine ++ c :: rest) :
    (∃ n, at_.subscription = some n ∧ c = .removeSubscription n ∧ mine = [.verifyOpen]) ∨
      c = .removeTopic at_.topic ∧ (at_.subscription = none ∧ mine = [.verifyOpen] ∨
        ∃ n, at_.subscription = some n ∧ mine = [.verifyOpen, .removeSubscription n]) := by
  unfold removeChores at own
  rcases mine with _ | ⟨_, mine⟩
  · cases own
    exact absurd rfl real
  · obtain ⟨rfl, own⟩ := List.cons_eq_cons.1 own
    cases subscription : at_.subscription with
    | none =>
      simp only [subscription] at own
      rcases mine with _ | ⟨_, mine⟩
      · cases own
        exact Or.inr ⟨rfl, Or.inl ⟨rfl, rfl⟩⟩
      · simp at own
    | some n =>
      simp only [subscription] at own
      rcases mine with _ | ⟨_, _ | ⟨_, mine⟩⟩
      · cases own
        exact Or.inl ⟨n, rfl, rfl, rfl⟩
      · cases own
        exact Or.inr ⟨rfl, Or.inr ⟨n, rfl, rfl⟩⟩
      · simp at own

/-- Of a channel's own chores only the removal of the subscription comes before another, which is then
the removal of the topic. -/
theorem exists_subject_before_iff {c : Chore} {mine rest : List Chore} (real : c ≠ .verifyOpen)
    (own : removeChores at_ = mine ++ c :: rest) :
    (∃ d ∈ mine, d.subject? = some x) ↔
      c = .removeTopic at_.topic ∧ ∃ n, at_.subscription = some n ∧ x = .subscription n := by
  rcases removeChores_split real own with
    ⟨n, subscription, rfl, rfl⟩ | ⟨rfl, ⟨subscription, rfl⟩ | ⟨n, subscription, rfl⟩⟩
  · simp [Chore.subject?]
  · simp [Chore.subject?, subscription]
  · simp [Chore.subject?, subscription, eq_comm]

/-- Where removing stops at a chore, all is gone that the channels before name, and the channel's
subscription if the chore is the removal of its topic; and nothing else is. -/
theorem At.has_iff (at_chore : At (parts false r.toList) b₀ calls b w) :
    ∃ at_ ∈ r.toList, w.chore ∈ removeChores at_ ∧
      ∀ x, b.has x = true ↔ b₀.has x = true ∧
        (¬ ∃ other ∈ r.toList, other.id < at_.id ∧ other.Names x) ∧
        ¬ (w.chore = .removeTopic at_.topic ∧
          ∃ n, at_.subscription = some n ∧ x = .subscription n) := by
  obtain ⟨real, _, done, _, seen, split, _⟩ := at_chore
  have kind : ∀ c ∈ done, c.OfKind false := fun c mem =>
    kind_of_mem_parts (split ▸ List.mem_append_left _ mem)
  obtain ⟨before, at_, after, mine, rest, channels, own, rfl⟩ := parts_split split
  refine ⟨at_, ?_, ?_, fun x => ?_⟩
  · rw [channels]
    exact List.mem_append_right _ List.mem_cons_self
  · rw [show removeChores at_ = _ from own]
    exact List.mem_append_right _ List.mem_cons_self
  · have early : (∃ c ∈ parts false before, c.subject? = some x) ↔
        ∃ other ∈ r.toList, other.id < at_.id ∧ other.Names x := by
      rw [exists_subject_parts_iff]
      constructor
      · rintro ⟨other, mem, names⟩
        exact ⟨other, channels ▸ List.mem_append_left _ mem, r.lt_of_mem_before channels mem, names⟩
      · rintro ⟨other, mem, smaller, names⟩
        exact ⟨other, Registry.mem_before channels mem smaller, names⟩
    rw [seen.has_iff kind, ← early, ← exists_subject_before_iff real own, ← not_or, ← exists_or]
    simp only [List.mem_append, or_and_right]

/-! ## Visits -/

theorem At.last (at_ : At chores b₀ calls b w) :
    ∃ q, calls.getLast? = some q ∧ w.chore.Call q w.callName := by
  obtain ⟨real, _, done, before, _, _, rfl⟩ := at_
  obtain ⟨q, asks⟩ := Chore.exists_question real
  cases changing : w.changing with
  | false =>
    refine ⟨q, by simp [Work.calls, asks, changing], ?_⟩
    rw [Work.callName, changing]
    exact .question asks
  | true =>
    obtain ⟨r, change⟩ : ∃ r, w.chore.change? = some r := by
      obtain ⟨r, request⟩ := Work.request?_isSome real
      exact ⟨r, by rwa [Work.request?, changing] at request⟩
    refine ⟨r, by simp [Work.calls, asks, change, changing], ?_⟩
    rw [Work.callName, changing]
    exact .change change

/-- The calls are those of chores from the first on, one chore after the other. -/
theorem Progress.calls_apart (progress : Progress chores b₀ faults calls b state) :
    ∃ taken later each, chores = taken ++ later ∧ List.Forall₂ Chore.Calls taken each ∧
      calls = each.flatten := by
  rcases progress.seen_or_at with seen | ⟨w, _, _, done, before, seen, rfl, rfl⟩
  · obtain ⟨each, apart, rfl⟩ := seen.calls_apart
    exact ⟨chores, [], each, (List.append_nil _).symm, apart, rfl⟩
  · obtain ⟨each, apart, rfl⟩ := seen.calls_apart
    have own : w.chore.Calls w.calls := by
      rw [Chore.Calls, Work.calls]
      cases w.changing
      · exact Or.inl (by simp)
      · exact Or.inr rfl
    refine ⟨done ++ [w.chore], w.later, each ++ [w.calls], by simp, ?_, by simp⟩
    exact List.rel_append apart (.cons own .nil)

theorem Chore.Calls.ne_nil {c : Chore} (own : c.Calls calls) (real : c ≠ .verifyOpen) : calls ≠ [] := by
  obtain ⟨q, asks⟩ := Chore.exists_question real
  rcases own with rfl | rfl <;> simp [asks]

/-- The calls of one chore, if it was come to. -/
theorem calls_of_prefix_singleton {c : Chore} (begins : taken <+: [c])
    (apart : List.Forall₂ Chore.Calls taken each) :
    each.flatten = [] ∨ c.Calls each.flatten := by
  cases apart with
  | nil => exact Or.inl rfl
  | cons own apart =>
    obtain ⟨rfl, none⟩ := List.cons_prefix_cons.1 begins
    obtain rfl := List.prefix_nil.1 none
    cases apart
    exact Or.inr (by simpa using own)

/-- The calls of a channel's chores, as far as they go, are a visit to it. -/
theorem visit_of_calls (begins : taken <+: removeChores at_)
    (apart : List.Forall₂ Chore.Calls taken each) :
    ∃ first last, Visit at_ first last ∧ each.flatten = first ++ last := by
  unfold removeChores at begins
  cases apart with
  | nil => exact ⟨[], [], ⟨Or.inl rfl, Or.inl rfl, nofun⟩, rfl⟩
  | @cons _ calls taken each own apart =>
    obtain ⟨rfl, rest⟩ := List.cons_prefix_cons.1 begins
    obtain rfl : calls = [] := by rcases own with rfl | rfl <;> rfl
    clear begins
    cases subscription : at_.subscription with
    | none =>
      rw [subscription] at rest
      exact ⟨[], each.flatten, ⟨Or.inl rfl, calls_of_prefix_singleton rest apart,
        fun _ named => absurd subscription named⟩, rfl⟩
    | some n =>
      rw [subscription] at rest
      cases apart with
      | nil => exact ⟨[], [], ⟨Or.inl rfl, Or.inl rfl, nofun⟩, rfl⟩
      | @cons _ first taken each own apart =>
        obtain ⟨rfl, topic⟩ := List.cons_prefix_cons.1 rest
        exact ⟨first, each.flatten, ⟨Or.inr ⟨n, subscription, own⟩,
          calls_of_prefix_singleton topic apart, fun _ _ => own.ne_nil nofun⟩, rfl⟩

/-- The calls of the chores of some channels, as far as they go, are visits to them in their order. -/
theorem visits_of_calls (split : parts false channels = taken ++ later)
    (apart : List.Forall₂ Chore.Calls taken each) :
    ∃ begun visits, begun <+: channels ∧
      List.Forall₂ (fun at_ (visit : List Request × List Request) => Visit at_ visit.1 visit.2) begun
        visits ∧
      each.flatten = visits.flatMap fun visit => visit.1 ++ visit.2 := by
  induction channels generalizing taken each with
  | nil =>
    obtain ⟨rfl, _⟩ := List.append_eq_nil_iff.1 split.symm
    cases apart
    exact ⟨[], [], List.prefix_refl _, .nil, rfl⟩
  | cons at_ others ih =>
    rcases List.append_eq_append_iff.1 split with ⟨rest, rfl, left⟩ | ⟨rest, own, _⟩
    · -- The channel was gone through.
      have mine := List.forall₂_take (part false at_).length apart
      have theirs := List.forall₂_drop (part false at_).length apart
      rw [List.take_left] at mine
      rw [List.drop_left] at theirs
      obtain ⟨first, last, visit, calls⟩ := visit_of_calls (List.prefix_refl _) mine
      obtain ⟨begun, visits, prefixed, rest, calls'⟩ := ih left theirs
      refine ⟨at_ :: begun, (first, last) :: visits, ?_, .cons visit rest, ?_⟩
      · exact List.cons_prefix_cons.2 ⟨rfl, prefixed⟩
      · rw [List.flatMap_cons, ← calls, ← calls', ← List.flatten_append, List.take_append_drop]
    · obtain ⟨first, last, visit, calls⟩ := visit_of_calls ⟨rest, own.symm⟩ apart
      refine ⟨[at_], [(first, last)], ⟨others, rfl⟩, .cons visit .nil, ?_⟩
      rw [calls]
      exact (List.append_nil _).symm

end Topology

namespace System

open MessageChannels.Topology (visits_of_calls)

variable {s s₀ : System} {k : Nat} {v : Service} {r : Registry}
  {faults : List (Option TransportError)}

/-! ## A whole attempt -/

theorem unhindered_removed (reachable : s.Reachable) (alive : s.service? k = some v)
    (opened : v.closed = false) (connected : s.broker.closed = false)
    (excluded : ∀ e, some e ∈ faults → e.isNotFound = false) :
    Unhindered false s k v.registry.toList faults (s.removed k faults) :=
  unhindered_pursued reachable alive opened connected excluded

theorem Unhindered.wrought {making : Bool} {channels : List Channel}
    (unhindered : Unhindered making s₀ k channels faults s) :
    Wrought making (· ∈ channels) s₀.broker s.broker := by
  obtain ⟨state, _, progress⟩ := unhindered.progress
  obtain ⟨done, before, seen, among⟩ := progress.seen
  exact seen.wrought fun c mem => Topology.mem_parts.1 (among c mem)

theorem Unhindered.removed (unhindered : Unhindered false s₀ k r.toList faults s) :
    Removed s₀ s s₀.operations.length r faults := by
  obtain ⟨state, found, progress⟩ := unhindered.progress
  have kind : ∀ c ∈ parts false r.toList, c.OfKind false := fun _ => Topology.kind_of_mem_parts
  have stage : Stage (parts false r.toList) s.broker faults (s.requests s₀.operations.length).length
    state := .of_progress progress kind
  have result : s.result? s₀.operations.length = state.result? := by
    rw [result?, found]
    rfl
  have most : 4 * r.size ≤ faults.length → callsFor (parts false r.toList) ≤ faults.length := by
    have bound := Topology.callsFor_parts_le false r.toList
    have length : r.toList.length = r.size := List.length_map _
    omega
  refine ⟨unhindered.wrought.reduces, ?_, fun i e fault met => ?_, ?_, ?_, ?_, fun ok => ?_⟩
  · obtain ⟨taken, later, each, split, apart, calls⟩ := progress.calls_apart
    rw [calls]
    exact visits_of_calls split apart
  · obtain ⟨w, at_chore, count, failed⟩ := progress.stops fault met
    obtain ⟨at_, registered, own, has_iff⟩ := at_chore.has_iff
    obtain ⟨q, last, call⟩ := at_chore.last
    exact ⟨count, at_, registered, w.chore, own, q, w.callName, last, call, result ▸ failed, has_iff⟩
  · exact fun enough => result ▸ stage.ended (most enough)
  · exact result ▸ stage.ok_iff
  · exact fun unmet enough => result ▸ stage.ok_of_faultless (stage.ended (most enough)) unmet
  · refine Topology.cleared_of_wrought unhindered.wrought fun at_ mem => ?_
    refine Topology.holds_part_iff.1 fun c part => stage.holds (result ▸ ok) c ?_
    exact List.mem_flatMap.2 ⟨at_, mem, part⟩

/-! ## Attempt after attempt -/

/-- Attempts leave a service open and in someone's hands, and the broker open, and they remove only
what channels name. -/
theorem removedEach_again (reachable : s.Reachable) (alive : s.service? k = some v)
    (opened : v.closed = false) (connected : s.broker.closed = false)
    {attempts : List (List (Option TransportError))}
    (excluded : ∀ faults ∈ attempts, ∀ e, some e ∈ faults → e.isNotFound = false) :
    (s.removedEach k attempts).Reachable ∧ (s.removedEach k attempts).service? k = some v ∧
      (s.removedEach k attempts).broker.closed = false ∧
      Wrought false (· ∈ v.registry.toList) s.broker (s.removedEach k attempts).broker := by
  induction attempts generalizing s with
  | nil => exact ⟨reachable, alive, connected, .refl⟩
  | cons faults attempts ih =>
    have first := unhindered_removed reachable alive opened connected
      (excluded faults List.mem_cons_self)
    have again := @ih (s.removed k faults) ((reachable.step _).after _)
      (service?_kept first.services first.earlier alive) (first.connected.trans connected)
      fun later mem => excluded later (List.mem_cons_of_mem _ mem)
    exact ⟨again.1, again.2.1, again.2.2.1, first.wrought.trans again.2.2.2⟩

/-- **Removal takes what a registry names and nothing else**: whatever faults earlier attempts met, an
attempt removes it channel by channel up to its own first fault, all of it if it meets none; and then
a further one that meets none removes what is left. -/
theorem removes (reachable : s.Reachable) (alive : s.service? k = some v)
    (opened : v.closed = false) (connected : s.broker.closed = false)
    (attempts : List (List (Option TransportError))) (faults : List (Option TransportError))
    (excluded : ∀ met ∈ faults :: attempts, ∀ e, some e ∈ met → e.isNotFound = false) :
    Removed (s.removedEach k attempts) ((s.removedEach k attempts).removed k faults)
        (s.removedEach k attempts).operations.length v.registry faults ∧
      ∀ answers, 4 * v.registry.size ≤ answers →
        (((s.removedEach k attempts).removed k faults).removed k
            (List.replicate answers none)).result?
          ((s.removedEach k attempts).removed k faults).operations.length = some (.ok .done) ∧
        Cleared v.registry s.broker (((s.removedEach k attempts).removed k faults).removed k
          (List.replicate answers none)).broker := by
  obtain ⟨reachable', alive', connected', earlier⟩ := removedEach_again reachable alive opened
    connected fun met mem => excluded met (List.mem_cons_of_mem _ mem)
  have attempt := unhindered_removed reachable' alive' opened connected'
    (excluded faults List.mem_cons_self)
  refine ⟨attempt.removed, fun answers enough => ?_⟩
  have none_met : ∀ f ∈ List.replicate answers (none : Option TransportError), f = none :=
    fun f mem => (List.mem_replicate.1 mem).2
  have last := unhindered_removed ((reachable'.step _).after _)
    (service?_kept attempt.services attempt.earlier alive') opened
    (attempt.connected.trans connected') fun e mem => by cases none_met _ mem
  have returned := last.removed.faultless none_met (by rwa [List.length_replicate])
  refine ⟨returned, Topology.cleared_of_wrought
    ((earlier.trans attempt.wrought).trans last.wrought) fun at_ mem x names => ?_⟩
  exact Bool.eq_false_iff.2 fun there =>
    ((last.removed.complete returned).has_iff x |>.1 there).2 ⟨at_, mem, names⟩

/-- A service of two channels that share a topic, and a broker that has a further subscription on it. -/
def sharedTopic : System :=
  (start .epoch).after
    [.addService (.build ((Registry.empty.add (.publishOnly "audit" "orders-topic")).add
      ((Channel.publishOnly "orders" "orders-topic").withSubscription "orders-sub")) none),
     .direct (.perform .epoch (.createTopic "orders-topic")),
     .direct (.perform .epoch (.createSubscription "orders-topic" "orders-sub" (.ofSecs 10))),
     .direct (.perform .epoch (.createSubscription "orders-topic" "kept-sub" (.ofSecs 30)))]

/-- The topic goes with the first channel; the removal of the second one's subscription fails. -/
def stoppedAtSubscription : List (Option TransportError) :=
  [none, none, none, some (.unavailable "away")]

/-- A further attempt removes the subscription, and the other one stays. -/
theorem removes_sharedTopic :
    (∃ v, sharedTopic.service? 0 = some v ∧ v.closed = false ∧
      Removed sharedTopic (sharedTopic.removed 0 stoppedAtSubscription) 0 v.registry
        stoppedAtSubscription) ∧
      (sharedTopic.removed 0 stoppedAtSubscription).broker.hasTopic "orders-topic" = false ∧
      (sharedTopic.removed 0 stoppedAtSubscription).broker.hasSubscription "orders-sub" = true ∧
      ((sharedTopic.removed 0 stoppedAtSubscription).removed 0
        (List.replicate 8 none)).broker.hasSubscription "orders-sub" = false ∧
      ((sharedTopic.removed 0 stoppedAtSubscription).removed 0
        (List.replicate 8 none)).broker.hasSubscription "kept-sub" = true := by
  have excluded : ∀ met ∈ [stoppedAtSubscription], ∀ e, some e ∈ met → e.isNotFound = false := by
    intro met mem e found
    obtain rfl := List.mem_singleton.1 mem
    simp only [stoppedAtSubscription, List.mem_cons, List.not_mem_nil, reduceCtorEq,
      Option.some.injEq, false_or, or_false] at found
    rw [found]
    rfl
  have removed := removes ⟨.epoch, _, rfl⟩ (rfl : sharedTopic.service? 0 = some _) rfl rfl []
    stoppedAtSubscription excluded
  refine ⟨⟨_, rfl, rfl, removed.1⟩, ?_, ?_, ?_, ?_⟩
  all_goals decide +kernel

end System

end MessageChannels
