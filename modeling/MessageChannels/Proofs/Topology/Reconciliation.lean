import MessageChannels.Proofs.Registry
import MessageChannels.Proofs.Topology.Unhindered

/-!
# Reconciling again and again

An attempt to reconcile makes its calls one after the other, and each is answered by the broker or
fails before it gets there. `Stage` says where an attempt stands after some answers, `Alone` what it
has made of the system by then, which is what work makes of it that nothing hinders. Whatever faults
the attempts before it met, an attempt finds what they made and adds what is missing, up to its own
first fault (`reconciles`); once one has met none, the next only looks.
-/

set_option autoImplicit false

namespace MessageChannels

open MessageChannels.Topology (Chore InPlace Extends Progress Stands Work Wrought callsFor part
  parts rank)

namespace System

/-- An attempt of a service to reconcile whose calls meet some faults, or none, in their order. -/
def reconciled (s : System) (k : Nat) (faults : List (Option TransportError)) : System :=
  (s.step (.begin k .reconcileAll)).after (faults.map (answering s.operations.length))

/-- Attempts one after the other. -/
def reconciledEach (s : System) (k : Nat) (attempts : List (List (Option TransportError))) : System :=
  attempts.foldl (fun s faults => s.reconciled k faults) s

/-- What comes of a further attempt that meets no fault, where all that a registry names is in place. -/
structure Idle (s : System) (k : Nat) (r : Registry) (answers : Nat) : Prop where
  unchanged : (s.reconciled k (List.replicate answers none)).broker = s.broker
  looks : ∀ q ∈ (s.reconciled k (List.replicate answers none)).requests s.operations.length,
    q.isExistenceCheck = true
  returns : 4 * r.size ≤ answers →
    (s.reconciled k (List.replicate answers none)).result? s.operations.length = some (.ok .done)

/-- What comes of an attempt to reconcile what a registry names: what the operation `op` has made of a
system by the answers to its calls. -/
structure Attempted (s made : System) (op : Nat) (r : Registry)
    (faults : List (Option TransportError)) : Prop where
  /-- Nothing is changed that was there, and only what channels name is made. -/
  adds : Extends (· ∈ r.toList) s.broker made.broker
  /-- It stops at a fault: with its error, and with everything in place that comes before in the order
  of the channels' names, a topic before its subscription. -/
  stops : ∀ i e, faults[i]? = some (some e) → i < (made.requests op).length →
    (made.requests op).length = i + 1 ∧
      ∃ at_ ∈ r.toList, ∃ c ∈ Topology.ensureChores at_, ∃ name,
        (name = c.questionName ∨ name = c.changeName) ∧
        made.result? op = some (.error (.ofTransport name c.resource e)) ∧
        (∀ other ∈ r.toList, other.id < at_.id → InPlace made.broker other) ∧
        (c ≠ .ensureTopic at_.topic → made.broker.hasTopic at_.topic = true)
  /-- It comes to an end. -/
  ends : 4 * r.size ≤ faults.length → (made.result? op).isSome = true
  ok_iff : made.result? op = some (.ok .done) ↔
    (made.result? op).isSome = true ∧ ∀ i < (made.requests op).length, faults[i]? = some none
  /-- If there are no faults, it returns. -/
  faultless : (∀ f ∈ faults, f = none) → 4 * r.size ≤ faults.length →
    made.result? op = some (.ok .done)
  complete : made.result? op = some (.ok .done) → ∀ at_ ∈ r.toList, InPlace made.broker at_

/-- Where an attempt stands after some answers, of which it has asked for some. -/
inductive Stage (chores : List Chore) (b : Broker) (faults : List (Option TransportError))
    (calls : Nat) : OperationState → Prop where
  | working (w : Work) (stands : Stands chores b (.ok (some w))) (unmet : ∀ f ∈ faults, f = none)
      (count : calls = faults.length + 1)
      (near : rank (.ok (some w)) + faults.length ≤ callsFor chores) :
      Stage chores b faults calls (.tending w)
  | returned (stands : Stands chores b (.ok none)) (unmet : ∀ i < calls, faults[i]? = some none) :
      Stage chores b faults calls (.finished (.ok .done))
  | failed (i : Nat) (e : TransportError) (done : List Chore) (c : Chore) (later : List Chore)
      (name : String) (fault : faults[i]? = some (some e))
      (unmet : ∀ j < i, faults[j]? = some none) (count : calls = i + 1)
      (split : chores = done ++ c :: later) (holds : ∀ d ∈ done, d.Holds b)
      (named : name = c.questionName ∨ name = c.changeName) :
      Stage chores b faults calls (.finished (.error (.ofTransport name c.resource e)))

/-- What an attempt on a system has made of it after some answers. -/
structure Alone (s₀ : System) (k : Nat) (channels : List Channel)
    (faults : List (Option TransportError)) (s : System) : Prop where
  services : s.services = s₀.services
  earlier : ∀ j < s₀.operations.length, s.operations[j]? = s₀.operations[j]?
  wrought : Wrought true (· ∈ channels) s₀.broker s.broker
  /-- It asks for something to be made only where that is missing. -/
  asks : ∀ q ∈ s.requests s₀.operations.length, q.isExistenceCheck = true ∨
    ∃ c ∈ parts true channels, ¬ c.Holds s₀.broker
  stage : ∃ state, s.operations[s₀.operations.length]? = some ⟨k, state⟩ ∧
    Stage (parts true channels) s.broker faults (s.requests s₀.operations.length).length state

variable {s s₀ : System} {k : Nat} {v : Service} {channels : List Channel}
  {faults : List (Option TransportError)} {chores : List Chore} {b : Broker} {calls : Nat}
  {state : OperationState}

/-! ## An attempt is work that nothing hinders -/

theorem Stage.of_progress {b₀ : Broker} {requests : List Request} {making : Bool}
    (progress : Progress chores b₀ faults requests b state) (kind : ∀ c ∈ chores, c.OfKind making) :
    Stage chores b faults requests.length state := by
  cases progress with
  | working w at_ unmet count near => exact .working w (at_.stands kind) unmet count near
  | returned seen unmet => exact .returned (seen.holds kind) unmet
  | failed i e w at_ fault unmet count =>
    obtain ⟨_, done, split, holds⟩ := at_.stands kind
    refine .failed i e done w.chore w.later w.callName fault unmet count split holds ?_
    rw [Work.callName]
    cases w.changing
    · exact Or.inl rfl
    · exact Or.inr rfl

/-- **An attempt is followed to its end.** -/
theorem alone_reconciled (reachable : s.Reachable) (alive : s.service? k = some v)
    (opened : v.closed = false) (connected : s.broker.closed = false)
    (excluded : ∀ e, some e ∈ faults → e.isAlreadyExists = false) :
    Alone s k v.registry.toList faults (s.reconciled k faults) := by
  obtain ⟨services, earlier, _, state, found, progress⟩ : Unhindered true s k v.registry.toList
      faults (s.reconciled k faults) :=
    unhindered_pursued reachable alive opened connected excluded
  have kind : ∀ c ∈ parts true v.registry.toList, c.OfKind true := fun _ => Topology.kind_of_mem_parts
  refine ⟨services, earlier, ?_, fun q mem => ?_, state, found, .of_progress progress kind⟩
  · obtain ⟨done, before, seen, among⟩ := progress.seen
    exact seen.wrought fun c mem => Topology.mem_parts.1 (among c mem)
  · by_cases holds : ∀ c ∈ parts true v.registry.toList, c.Holds s.broker
    · exact Or.inl (progress.idle holds q mem)
    · refine Or.inr (Classical.byContradiction fun none => holds fun c mem => ?_)
      exact Classical.byContradiction fun missing => none ⟨c, mem, missing⟩

/-! ## What has come of it -/

theorem Stage.stops {r : Registry} (stage : Stage (parts true r.toList) b faults calls state) {i : Nat}
    {e : TransportError} (fault : faults[i]? = some (some e)) (met : i < calls) :
    calls = i + 1 ∧ ∃ at_ ∈ r.toList, ∃ c ∈ Topology.ensureChores at_, ∃ name,
      (name = c.questionName ∨ name = c.changeName) ∧
      state.result? = some (.error (.ofTransport name c.resource e)) ∧
      (∀ other ∈ r.toList, other.id < at_.id → InPlace b other) ∧
      (c ≠ .ensureTopic at_.topic → b.hasTopic at_.topic = true) := by
  cases stage with
  | working w stands unmet count near => cases unmet _ (List.mem_of_getElem? fault)
  | returned stands unmet => cases fault.symm.trans (unmet i met)
  | failed j e' done c later name fault' unmet count split holds named =>
    obtain ⟨rfl, rfl⟩ := Topology.eq_of_fault fault met fault' unmet count
    obtain ⟨before, at_, after, mine, rest, channels, own, rfl⟩ := Topology.parts_split split
    have mem : c ∈ Topology.ensureChores at_ := by
      rw [show Topology.ensureChores at_ = _ from own]
      exact List.mem_append_right _ List.mem_cons_self
    refine ⟨count, at_, ?_, c, mem, name, named, rfl, fun other mem smaller => ?_, fun other => ?_⟩
    · rw [channels]
      exact List.mem_append_right _ List.mem_cons_self
    · have early := Registry.mem_before channels mem smaller
      refine Topology.holds_part_iff.1 fun d mem => holds d (List.mem_append_left _ ?_)
      exact List.mem_flatMap.2 ⟨_, early, mem⟩
    · rcases Topology.mem_ensureChores.1 mem with h | ⟨n, _, rfl⟩
      · exact absurd h other
      · exact holds _ (Topology.grounded_parts true r.toList _ _ _ _ split) (.topic _) rfl

/-- An attempt has ended when as many calls were answered as it can make. -/
theorem Stage.ended (stage : Stage chores b faults calls state)
    (enough : callsFor chores ≤ faults.length) : state.result?.isSome = true := by
  cases stage with
  | working w stands unmet count near =>
    have more := Topology.rank_pos w
    omega
  | returned stands unmet => rfl
  | failed => rfl

theorem Stage.ok_iff (stage : Stage chores b faults calls state) :
    state.result? = some (.ok .done) ↔
      state.result?.isSome = true ∧ ∀ i < calls, faults[i]? = some none := by
  cases stage with
  | working w stands unmet count near => simp [OperationState.result?]
  | returned stands unmet => exact ⟨fun _ => ⟨rfl, unmet⟩, fun _ => rfl⟩
  | failed i e done c later name fault unmet count split holds named =>
    constructor
    · intro ok
      cases ok
    · rintro ⟨_, all⟩
      cases fault.symm.trans (all i (by omega))

theorem Stage.holds (stage : Stage chores b faults calls state)
    (ok : state.result? = some (.ok .done)) : ∀ c ∈ chores, c.Holds b := by
  cases stage with
  | working w stands unmet count near => cases ok
  | returned stands unmet => exact stands
  | failed => cases ok

/-- Only a fault makes an attempt fail. -/
theorem Stage.ok_of_faultless (stage : Stage chores b faults calls state)
    (ended : state.result?.isSome = true) (none_met : ∀ f ∈ faults, f = none) :
    state.result? = some (.ok .done) := by
  cases stage with
  | working w stands unmet count near => cases ended
  | returned stands unmet => rfl
  | failed i e done c later name fault unmet count split holds named =>
    cases none_met _ (List.mem_of_getElem? fault)

theorem Alone.attempted {r : Registry} (alone : Alone s₀ k r.toList faults s) :
    Attempted s₀ s s₀.operations.length r faults := by
  obtain ⟨state, found, stage⟩ := alone.stage
  have result : s.result? s₀.operations.length = state.result? := by
    rw [result?, found]
    rfl
  have most : 4 * r.size ≤ faults.length → callsFor (parts true r.toList) ≤ faults.length := by
    have bound := Topology.callsFor_parts_le true r.toList
    have length : r.toList.length = r.size := List.length_map _
    omega
  refine ⟨alone.wrought.extends, ?_, ?_, ?_, ?_, ?_⟩
  all_goals rw [result]
  · exact fun i e fault met => stage.stops fault met
  · exact fun enough => stage.ended (most enough)
  · exact stage.ok_iff
  · exact fun none_met enough => stage.ok_of_faultless (stage.ended (most enough)) none_met
  · intro ok at_ mem
    refine Topology.holds_part_iff.1 fun c part => stage.holds ok c ?_
    exact List.mem_flatMap.2 ⟨at_, mem, part⟩

theorem idle_of_inPlace (reachable : s.Reachable) (alive : s.service? k = some v)
    (opened : v.closed = false) (connected : s.broker.closed = false)
    (placed : ∀ at_ ∈ v.registry.toList, InPlace s.broker at_) (answers : Nat) :
    s.Idle k v.registry answers := by
  have none_met : ∀ f ∈ List.replicate answers (none : Option TransportError), f = none :=
    fun f mem => (List.mem_replicate.1 mem).2
  have alone : Alone s k v.registry.toList (List.replicate answers none)
      (s.reconciled k (List.replicate answers none)) :=
    alone_reconciled reachable alive opened connected fun e mem => by cases none_met _ mem
  have holds : ∀ c, Topology.Wanted true (· ∈ v.registry.toList) c → c.Holds s.broker := by
    rintro c ⟨at_, mem, part⟩
    exact Topology.holds_part_iff.2 (placed at_ mem) c part
  refine ⟨alone.wrought.eq_of_holds holds, fun q mem => ?_, fun enough => ?_⟩
  · rcases alone.asks q mem with check | ⟨c, mem, missing⟩
    · exact check
    · exact absurd (holds c (Topology.mem_parts.1 mem)) missing
  · refine alone.attempted.faultless none_met ?_
    rw [List.length_replicate]
    exact enough

/-! ## Attempt after attempt -/

/-- Attempts leave a service open and in someone's hands, and the broker open. -/
theorem reconciledEach_again (reachable : s.Reachable) (alive : s.service? k = some v)
    (opened : v.closed = false) (connected : s.broker.closed = false)
    {attempts : List (List (Option TransportError))}
    (excluded : ∀ faults ∈ attempts, ∀ e, some e ∈ faults → e.isAlreadyExists = false) :
    (s.reconciledEach k attempts).Reachable ∧ (s.reconciledEach k attempts).service? k = some v ∧
      (s.reconciledEach k attempts).broker.closed = false := by
  induction attempts generalizing s with
  | nil => exact ⟨reachable, alive, connected⟩
  | cons faults attempts ih =>
    have alone := alone_reconciled reachable alive opened connected
      (excluded faults List.mem_cons_self)
    refine ih ((reachable.step _).after _) ?_ ?_ fun later mem =>
      excluded later (List.mem_cons_of_mem _ mem)
    · exact service?_kept alone.services alone.earlier alive
    · exact alone.wrought.closed.trans connected

/-- **Reconciliation converges**: whatever faults earlier attempts met, an attempt keeps all there is,
makes what is missing up to its first fault, and returns if it meets none; another one then finds
nothing to do. -/
theorem reconciles (reachable : s.Reachable) (alive : s.service? k = some v)
    (opened : v.closed = false) (connected : s.broker.closed = false)
    (attempts : List (List (Option TransportError))) (faults : List (Option TransportError))
    (excluded : ∀ met ∈ faults :: attempts, ∀ e, some e ∈ met → e.isAlreadyExists = false) :
    Attempted (s.reconciledEach k attempts) ((s.reconciledEach k attempts).reconciled k faults)
        (s.reconciledEach k attempts).operations.length v.registry faults ∧
      (((s.reconciledEach k attempts).reconciled k faults).result?
          (s.reconciledEach k attempts).operations.length = some (.ok .done) →
        ∀ answers, ((s.reconciledEach k attempts).reconciled k faults).Idle k v.registry answers) := by
  obtain ⟨reachable', alive', connected'⟩ := reconciledEach_again reachable alive opened connected
    fun met mem => excluded met (List.mem_cons_of_mem _ mem)
  have alone := alone_reconciled reachable' alive' opened connected'
    (excluded faults List.mem_cons_self)
  refine ⟨alone.attempted, fun ok answers => ?_⟩
  refine idle_of_inPlace ((reachable'.step _).after _) ?_ opened ?_ (alone.attempted.complete ok) _
  · exact service?_kept alone.services alone.earlier alive'
  · exact alone.wrought.closed.trans connected'

/-- A service of two channels, and a broker that has the topic of one. -/
def halfSettled : System :=
  (start .epoch).after
    [.addService ordersService, .direct (.perform .epoch (.createTopic "dead-topic"))]

/-- The first attempt cannot make the topic of the other channel; the second makes it, but cannot ask
for the subscription. -/
def interrupted : List (List (Option TransportError)) :=
  [[none, none, some (.unavailable "away")], [none, none, none, some (.cancelled "gone")]]

/-- The third attempt makes what is missing. -/
theorem reconciles_interrupted :
    (∀ met ∈ List.replicate 8 none :: interrupted, ∀ e, some e ∈ met → e.isAlreadyExists = false) ∧
      Attempted (halfSettled.reconciledEach 0 interrupted)
        ((halfSettled.reconciledEach 0 interrupted).reconciled 0 (List.replicate 8 none)) 2
        ordersService.registry (List.replicate 8 none) ∧
      (halfSettled.reconciledEach 0 interrupted).broker.hasTopic "orders-topic" = true ∧
      (halfSettled.reconciledEach 0 interrupted).broker.hasSubscription "orders-sub" = false ∧
      ((halfSettled.reconciledEach 0 interrupted).reconciled 0
        (List.replicate 8 none)).broker.hasSubscription "orders-sub" = true := by
  have excluded : ∀ met ∈ List.replicate 8 none :: interrupted, ∀ e, some e ∈ met →
      e.isAlreadyExists = false := by
    intro met mem e found
    simp only [interrupted, List.mem_cons, List.not_mem_nil, or_false] at mem
    rcases mem with rfl | rfl | rfl
    · simp at found
    · simp only [List.mem_cons, List.not_mem_nil, reduceCtorEq, Option.some.injEq, false_or,
        or_false] at found
      rw [found]
      rfl
    · simp only [List.mem_cons, List.not_mem_nil, reduceCtorEq, Option.some.injEq, false_or,
        or_false] at found
      rw [found]
      rfl
  have alive : halfSettled.service? 0 = some ordersService := rfl
  have reconciled := reconciles ⟨.epoch, _, rfl⟩ alive rfl rfl interrupted _ excluded
  refine ⟨excluded, reconciled.1, ?_, ?_, ?_⟩
  all_goals decide +kernel

end System

end MessageChannels
