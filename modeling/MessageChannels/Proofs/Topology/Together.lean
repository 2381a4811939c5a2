import Mathlib.Data.List.Induction
import MessageChannels.Proofs.Topology.Tending

/-!
# Many at once

Any number of services reconcile over one broker at once, or delete all they name, and their calls
come in any order. Work of one kind never undoes what other such work has done, so each stands where
it would alone (`Joint.begun`), with fewer calls left after each of its own; the broker is at any time
what it was with some chores done, none twice. `joint_after` follows this through a run, and
`converges_together` reads off what it says where all have ended.
-/

set_option autoImplicit false

namespace MessageChannels

open MessageChannels.Topology (Answered Chore Extends InPlace Next Reduces Stands Work Wrought
  callsFor part parts rank stateOf)

/-- Whether an event is an answer of the broker to an operation. -/
def Event.isServe (op : Nat) : Event → Bool
  | .serve k => k == op
  | _ => false

namespace System

/-- What may happen while services carry out a command at once: one that is open and in someone's
hands begins, or the broker answers one that has begun. -/
inductive Together (s : System) (c : Command) : Event → Prop where
  | begin (k : Nat) (v : Service) (alive : s.service? k = some v) (opened : v.closed = false) :
      Together s c (.begin k c)
  | serve (op : Nat) (new : s.operations.length ≤ op) : Together s c (.serve op)

/-- A channel of a service that has begun to carry out a command. -/
def Named (s : System) (c : Command) (es : List Event) (at_ : Channel) : Prop :=
  ∃ k v, Event.begin k c ∈ es ∧ s.service? k = some v ∧ at_ ∈ v.registry.toList

/-- The requests that the broker grants in a run, other than those that only ask. -/
def granted (s : System) : List Event → List Request
  | [] => []
  | e :: es => s.grantedIn e ++ (s.step e).granted es

/-- How often the broker was granted to create a topic or subscription. -/
def creationsOf (x : Resource) (changes : List Request) : Nat :=
  changes.countP fun r => r.created? = some x

/-- The operations that were begun in a run have come to their end. -/
def Over (s : System) (es : List Event) : Prop :=
  ∀ op, s.operations.length ≤ op → op < (s.after es).operations.length →
    ((s.after es).result? op).isSome = true

/-- Every operation that was begun returns, and none fails. -/
structure Returns (s : System) (c : Command) (es : List Event) : Prop where
  ok : ∀ op result, s.operations.length ≤ op → (s.after es).result? op = some result →
    result = .ok .done
  /-- It returns when its calls are answered, of which it makes four a channel at most. -/
  ends : ∀ before after k v, es = before ++ .begin k c :: after → s.service? k = some v →
    4 * v.registry.size ≤ after.countP (Event.isServe (s.after before).operations.length) →
    (s.after es).result? (s.after before).operations.length = some (.ok .done)

/-- What there is when services have reconciled at once. -/
structure MadeAll (s : System) (es : List Event) : Prop where
  adds : Extends (s.Named .reconcileAll es) s.broker (s.after es).broker
  iff : ∀ x, (s.after es).broker.has x = true ↔
    s.broker.has x = true ∨ ∃ at_, s.Named .reconcileAll es at_ ∧ at_.Names x
  once : ∀ x, s.broker.has x = false → (∃ at_, s.Named .reconcileAll es at_ ∧ at_.Names x) →
    creationsOf x (s.granted es) = 1

/-- What there is when services have deleted at once. -/
structure RemovedAll (s : System) (es : List Event) : Prop where
  takes : Reduces (s.Named .deleteAll es) s.broker (s.after es).broker
  iff : ∀ x, (s.after es).broker.has x = true ↔
    s.broker.has x = true ∧ ¬ ∃ at_, s.Named .deleteAll es at_ ∧ at_.Names x

/-- What services have made of a system that carry out a command at once. -/
structure Joint (s : System) (making : Bool) (es : List Event) (s' : System) : Prop where
  services : s'.services = s.services
  earlier : ∀ j < s.operations.length, s'.operations[j]? = s.operations[j]?
  longer : s.operations.length ≤ s'.operations.length
  wrought : Wrought making (s.Named (wholly making) es) s.broker s'.broker
  begun : ∀ op o, s.operations.length ≤ op → s'.operations[op]? = some o →
    ∃ v next, Event.begin o.service (wholly making) ∈ es ∧ s.service? o.service = some v ∧
      v.closed = false ∧ o.state = stateOf next ∧
      Stands (parts making v.registry.toList) s'.broker next
  once : making = true → ∀ x,
    creationsOf x (s.granted es) = if s'.broker.has x && !s.broker.has x then 1 else 0

variable {s s' : System} {c : Command} {es : List Event} {e : Event} {making : Bool} {op k : Nat}
  {next : Next} {w : Work} {x : Resource}

/-! ## What is granted -/

theorem granted_append (s : System) (es fs : List Event) :
    s.granted (es ++ fs) = s.granted es ++ (s.after es).granted fs := by
  induction es generalizing s with
  | nil => rfl
  | cons e es ih =>
    rw [List.cons_append, granted, ih, granted, List.append_assoc]
    rfl

theorem granted_snoc (s : System) (es : List Event) (e : Event) :
    s.granted (es ++ [e]) = s.granted es ++ (s.after es).grantedIn e := by
  rw [granted_append, granted, granted, List.append_nil]

/-- An answer grants the creation of what it makes, and of nothing else. -/
theorem creationsOf_answered {b b' : Broker} {changes : List Request}
    (answered : Answered b w b' next changes) (kind : w.chore.OfKind true) (x : Resource) :
    creationsOf x changes = if b'.has x && !b.has x then 1 else 0 := by
  have unchanged : 0 = if b.has x && !b.has x then 1 else 0 := by simp
  cases answered with
  | changed b' r missing change did =>
    have created : r.created? = w.chore.subject? := by
      cases h : w.chore with
      | verifyOpen => simp [h, Chore.change?] at change
      | ensureTopic t =>
        rw [h] at change
        cases change
        rfl
      | ensureSubscription t n =>
        rw [h] at change
        cases change
        rfl
      | removeSubscription n => cases (h ▸ kind).isMaking rfl
      | removeTopic t => cases (h ▸ kind).isMaking rfl
    rw [did.has]
    by_cases about : w.chore.subject? = some x
    · have absent : b.has x = false := by
        by_contra there
        refine missing (Topology.holds_of_has about ?_)
        rw [kind.isMaking about]
        simpa using there
      simp [creationsOf, created, about, absent, kind.isMaking about]
    · simp [creationsOf, created, about]
  | _ => exact unchanged

/-- What is created in two stretches, neither of which loses anything, is created once. -/
theorem creationsOf_append {b b₁ b₂ : Broker} {earlier later : List Request} {x : Resource}
    (before : creationsOf x earlier = if b₁.has x && !b.has x then 1 else 0)
    (after : creationsOf x later = if b₂.has x && !b₁.has x then 1 else 0)
    (kept : b.has x = true → b₁.has x = true) (kept' : b₁.has x = true → b₂.has x = true) :
    creationsOf x (earlier ++ later) = if b₂.has x && !b.has x then 1 else 0 := by
  rw [creationsOf] at before after
  rw [creationsOf, List.countP_append, before, after]
  cases h : b.has x with
  | true => simp [kept h, kept' (kept h)]
  | false =>
    cases h' : b₁.has x with
    | true => simp [kept' h']
    | false => simp

/-! ## One event -/

theorem Named.snoc {at_ : Channel} (named : s.Named c es at_) : s.Named c (es ++ [e]) at_ := by
  obtain ⟨k, v, begun, alive, mem⟩ := named
  exact ⟨k, v, List.mem_append_left _ begun, alive, mem⟩

/-- An operation that has ended is served no more. -/
theorem serve_idle (idle : s.request? op = none) :
    s.step (.serve op) = s ∧ s.grantedIn (.serve op) = [] := by
  constructor
  · simp only [step, serve, idle]
  · simp only [grantedIn, idle]

theorem request?_of_rank_eq_zero (found : s.operations[op]? = some ⟨k, stateOf next⟩)
    (done : rank next = 0) : s.request? op = none := by
  have none : (stateOf next).request? = none := by
    cases next with
    | error e => rfl
    | ok work =>
      cases work with
      | none => rfl
      | some w => exact absurd done (Nat.ne_of_gt (Topology.rank_pos w))
  rw [request?, found, Option.bind_some, none]

/-- An event that is no answer to an operation leaves it where it stands. -/
theorem getElem?_step_of_together (together : s.Together c e) (other : e.isServe op = false)
    (begun : op < s'.operations.length) :
    (s'.step e).operations[op]? = s'.operations[op]? := by
  refine (frame_step s' e ?_ begun).1
  cases together with
  | begin k v alive opened => exact Nat.ne_of_lt begun
  | serve j _ => exact fun h => by simp [Event.isServe, h, Event.operation] at other

/-- What an answer does to the operation that it goes to, and to the broker. -/
theorem Joint.served (joint : Joint s making es s') (connected : s.broker.closed = false)
    (new : s.operations.length ≤ op) (working : ¬ s'.request? op = none) :
    ∃ k v w b' next, s'.operations[op]? = some ⟨k, .tending w⟩ ∧ s.service? k = some v ∧
      Event.begin k (wholly making) ∈ es ∧ v.closed = false ∧
      Stands (parts making v.registry.toList) s'.broker (.ok (some w)) ∧
      Answered s'.broker w b' next (s'.grantedIn (.serve op)) ∧
      s'.step (.serve op) = ({ s' with broker := b' } : System).tend op next := by
  cases found : s'.operations[op]? with
  | none => exact absurd (by rw [request?, found]; rfl) working
  | some o =>
    obtain ⟨k, state⟩ := o
    obtain ⟨v, next, begun, alive, opened, rfl, stands⟩ := joint.begun op _ new found
    cases next with
    | error e => exact stands.elim
    | ok work =>
      cases work with
      | none => exact absurd (request?_of_rank_eq_zero found rfl) working
      | some w =>
        have shut : s'.isClosed k = false := (isClosed_of_service? joint.services alive).trans opened
        obtain ⟨b', next, answered, step⟩ := step_serve_tending found stands.1 shut
          (joint.wrought.closed.trans connected)
        exact ⟨k, v, w, b', next, rfl, alive, begun, opened, stands, answered, step⟩

theorem Joint.begins {v : Service} (joint : Joint s making es s') (alive : s.service? k = some v)
    (opened : v.closed = false) :
    Joint s making (es ++ [.begin k (wholly making)]) (s'.step (.begin k (wholly making))) := by
  have alive' := service?_kept joint.services joint.earlier alive
  have standing := s'.getElem?_addOperation k
  rw [step_begin_wholly alive' opened]
  have old {j : Nat} (bound : j < s'.operations.length) (next : Next) :
      ((s'.addOperation k).tend s'.operations.length next).operations[j]? = s'.operations[j]? := by
    rw [getElem?_tend_of_ne (Nat.ne_of_lt bound)]
    exact List.getElem?_append_left bound
  have length (next : Next) :
      ((s'.addOperation k).tend s'.operations.length next).operations.length
        = s'.operations.length + 1 := by
    rw [operations_tend, setState, List.length_modify, addOperation, List.length_append]
    rfl
  refine ⟨?_, fun j bound => ?_, ?_, ?_, fun op o new found => ?_, fun kind x => ?_⟩
  · exact (services_tend _ _ _).trans joint.services
  · rw [old (Nat.lt_of_lt_of_le bound joint.longer), joint.earlier j bound]
  · rw [length]
    exact Nat.le_succ_of_le joint.longer
  · rw [broker_tend]
    exact joint.wrought.mono fun _ => Named.snoc
  · rw [broker_tend]
    by_cases last : op = s'.operations.length
    · subst last
      rw [getElem?_tend_self standing] at found
      cases found
      refine ⟨v, _, List.mem_append_right _ (List.mem_singleton.2 rfl), alive, opened, rfl, ?_⟩
      exact Topology.stands_begin s'.broker _
    · have bound := (List.getElem?_eq_some_iff.1 found).1
      rw [length] at bound
      rw [old (by omega)] at found
      obtain ⟨v', next, begun, rest⟩ := joint.begun op o new found
      exact ⟨v', next, List.mem_append_left _ begun, rest⟩
  · rw [broker_tend, granted_snoc]
    have nothing : (s.after es).grantedIn (.begin k (wholly making)) = [] := rfl
    rw [nothing, List.append_nil]
    exact joint.once kind x

/-- Where nothing waits for the broker, its turn changes nothing. -/
theorem Joint.rests (joint : Joint s making es s') (same : s' = s.after es)
    (idle : s'.request? op = none) :
    Joint s making (es ++ [.serve op]) (s'.step (.serve op)) := by
  obtain ⟨unmoved, nothing⟩ := serve_idle idle
  rw [unmoved]
  refine { joint with
    wrought := joint.wrought.mono fun _ => Named.snoc, begun := ?_, once := ?_ }
  · intro j o new found
    obtain ⟨v, next, begun, rest⟩ := joint.begun j o new found
    exact ⟨v, next, List.mem_append_left _ begun, rest⟩
  · intro kind x
    rw [granted_snoc, ← same, nothing, List.append_nil]
    exact joint.once kind x

/-- A turn of the broker goes on with one of them, and leaves the others where they stand. -/
theorem Joint.serves (joint : Joint s making es s') (same : s' = s.after es)
    (connected : s.broker.closed = false) (new : s.operations.length ≤ op) :
    Joint s making (es ++ [.serve op]) (s'.step (.serve op)) := by
  have grown : ∀ at_, s.Named (wholly making) es at_ →
      s.Named (wholly making) (es ++ [.serve op]) at_ := fun _ => Named.snoc
  by_cases idle : s'.request? op = none
  · exact joint.rests same idle
  · obtain ⟨k, v, w, b', next, found, alive, begun, opened, stands, answered, step⟩ :=
      joint.served connected new idle
    have mem : w.chore ∈ parts making v.registry.toList := stands.mem
    have wanted : Topology.Wanted making (s.Named (wholly making) (es ++ [.serve op])) w.chore := by
      obtain ⟨at_, listed, part⟩ := Topology.mem_parts.1 mem
      exact ⟨at_, ⟨k, v, List.mem_append_left _ begun, alive, listed⟩, part⟩
    have now := answered.wrought wanted
    rw [step]
    refine ⟨?_, fun j bound => ?_, ?_, ?_, fun j o new' found' => ?_, fun kind x => ?_⟩
    · exact (services_tend _ _ _).trans joint.services
    · rw [getElem?_tend_of_ne (by omega)]
      exact joint.earlier j bound
    · rw [operations_tend, setState, List.length_modify]
      exact joint.longer
    · rw [broker_tend]
      exact (joint.wrought.mono grown).trans now
    · rw [broker_tend]
      by_cases own : j = op
      · subst own
        rw [getElem?_tend_self (s := { s' with broker := b' }) found] at found'
        cases found'
        refine ⟨v, next, List.mem_append_left _ begun, alive, opened, rfl, ?_⟩
        exact answered.stands stands (fun _ => Topology.kind_of_mem_parts)
          (Topology.grounded_parts making _)
      · rw [getElem?_tend_of_ne own] at found'
        obtain ⟨v', next', begun', alive', opened', state, stands'⟩ := joint.begun j o new' found'
        refine ⟨v', next', List.mem_append_left _ begun', alive', opened', state, ?_⟩
        exact stands'.keep (fun _ => Topology.kind_of_mem_parts) fun _ => now.keeps
    · subst kind
      rw [broker_tend, granted_snoc, ← same]
      exact creationsOf_append (joint.once rfl x)
        (creationsOf_answered answered (Topology.kind_of_mem_parts mem) x)
        (joint.wrought.extends.keeps x) (now.extends.keeps x)

/-! ## A whole run -/

/-- **A run of many at once** is a run of each. -/
theorem joint_after (connected : s.broker.closed = false)
    (together : ∀ e ∈ es, s.Together (wholly making) e) : Joint s making es (s.after es) := by
  induction es using List.reverseRecOn with
  | nil =>
    refine ⟨rfl, fun _ _ => rfl, Nat.le_refl _, .refl, fun op o new found => ?_, fun _ x => ?_⟩
    · have bound := (List.getElem?_eq_some_iff.1 found).1
      exact absurd new (Nat.not_le_of_lt bound)
    · have nothing : 0 = if s.broker.has x && !s.broker.has x then 1 else 0 := by simp
      exact nothing
  | append_singleton es e ih =>
    have joint := ih fun e mem => together e (List.mem_append_left _ mem)
    rw [after_snoc]
    cases together e (List.mem_append_right _ (List.mem_singleton.2 rfl)) with
    | begin k v alive opened => exact joint.begins alive opened
    | serve op new => exact joint.serves rfl connected new

/-! ## Each operation comes to its end -/

theorem stateOf_injective {next' : Next} (same : stateOf next = stateOf next') : next = next' := by
  rcases next with e | (_ | w) <;> rcases next' with e' | (_ | w') <;> cases same <;> rfl

/-- An operation that has no call left to be answered has returned. -/
theorem Joint.returned (joint : Joint s making es s') (new : s.operations.length ≤ op)
    (found : s'.operations[op]? = some ⟨k, stateOf next⟩) (done : rank next = 0) :
    next = .ok none := by
  obtain ⟨v, next', _, _, _, same, stands⟩ := joint.begun op _ new found
  obtain rfl := stateOf_injective same
  rcases next with e | (_ | w)
  · exact stands.elim
  · rfl
  · exact absurd done (Nat.ne_of_gt (Topology.rank_pos w))

/-- An event of the run brings an operation nearer to its end, if it is an answer to it. -/
theorem Joint.nearer (joint : Joint s making es s') (connected : s.broker.closed = false)
    (together : s.Together c e) (new : s.operations.length ≤ op)
    (found : s'.operations[op]? = some ⟨k, stateOf next⟩) :
    ∃ next', (s'.step e).operations[op]? = some ⟨k, stateOf next'⟩ ∧
      (rank next' + [e].countP (Event.isServe op) ≤ rank next ∨ rank next' = 0) := by
  have begun := (List.getElem?_eq_some_iff.1 found).1
  cases isServe : e.isServe op with
  | false =>
    refine ⟨next, (getElem?_step_of_together together isServe begun).trans found, Or.inl ?_⟩
    simp [isServe]
  | true =>
    cases together with
    | begin j v alive opened => cases isServe
    | serve j _ =>
      obtain rfl : j = op := by simpa [Event.isServe] using isServe
      by_cases done : rank next = 0
      · have idle := request?_of_rank_eq_zero found done
        rw [(serve_idle idle).1]
        exact ⟨next, found, Or.inr done⟩
      · have working : ¬ s'.request? j = none := by
          obtain ⟨v, next', _, _, _, same, stands⟩ := joint.begun j _ new found
          obtain rfl := stateOf_injective same
          rcases next with e | (_ | w)
          · exact absurd rfl done
          · exact absurd rfl done
          · obtain ⟨r, asks⟩ := Work.request?_isSome stands.1
            rw [request?, found, Option.bind_some]
            simp [stateOf, OperationState.request?, asks]
        obtain ⟨k', v, w, b', next', found', _, _, _, _, answered, step⟩ :=
          joint.served connected new working
        have same : stateOf next = stateOf (.ok (some w)) :=
          congrArg Operation.state (Option.some.inj (found.symm.trans found'))
        obtain rfl : k = k' :=
          congrArg Operation.service (Option.some.inj (found.symm.trans found'))
        obtain rfl := stateOf_injective same
        rw [step]
        refine ⟨next', getElem?_tend_self (s := { s' with broker := b' }) found' _, Or.inl ?_⟩
        have less := answered.rank_lt
        have one : [Event.serve j].countP (Event.isServe j) = 1 := by simp [Event.isServe]
        omega

/-- An operation stands at its work from its beginning on, with fewer calls left after each answer. -/
theorem standing_after {v : Service} {before after : List Event}
    (connected : s.broker.closed = false) (alive : s.service? k = some v)
    (together : ∀ e ∈ before ++ .begin k (wholly making) :: after, s.Together (wholly making) e) :
    ∃ next, (s.after (before ++ .begin k (wholly making) :: after)).operations[
        (s.after before).operations.length]? = some ⟨k, stateOf next⟩ ∧
      (rank next + after.countP (Event.isServe (s.after before).operations.length)
          ≤ 4 * v.registry.size ∨ rank next = 0) := by
  have first : Joint s making before (s.after before) := joint_after connected fun e mem =>
    together e (List.mem_append_left _ mem)
  induction after using List.reverseRecOn with
  | nil =>
    have opened : v.closed = false := by
      cases together _ (List.mem_append_right _ List.mem_cons_self) with
      | begin _ v' alive' opened =>
        cases alive.symm.trans alive'
        exact opened
    have alive' := service?_kept first.services first.earlier alive
    rw [after_snoc, step_begin_wholly alive' opened]
    refine ⟨_, getElem?_tend_self ((s.after before).getElem?_addOperation k) _, Or.inl ?_⟩
    have bound := Topology.callsFor_parts_le making v.registry.toList
    have least := Topology.rank_begin_le (parts making v.registry.toList)
    have length : v.registry.toList.length = v.registry.size := List.length_map _
    simp only [List.countP_nil]
    omega
  | append_singleton after e ih =>
    have regroup : before ++ .begin k (wholly making) :: (after ++ [e])
        = (before ++ .begin k (wholly making) :: after) ++ [e] := by simp
    rw [regroup] at together ⊢
    have earlier : ∀ e ∈ before ++ .begin k (wholly making) :: after,
        s.Together (wholly making) e := fun e mem => together e (List.mem_append_left _ mem)
    obtain ⟨next, found, near⟩ := ih earlier
    have last := together e (List.mem_append_right _ (List.mem_singleton.2 rfl))
    obtain ⟨next', found', nearer⟩ :=
      (joint_after connected earlier).nearer connected last first.longer found
    refine ⟨next', (after_snoc s _ e).symm ▸ found', ?_⟩
    rw [List.countP_append]
    omega

theorem result?_of_standing (found : s.operations[op]? = some ⟨k, stateOf next⟩) :
    s.result? op = (stateOf next).result? := by
  rw [result?, found]
  rfl

theorem returns_of_together (connected : s.broker.closed = false)
    (together : ∀ e ∈ es, s.Together (wholly making) e) : s.Returns (wholly making) es := by
  refine ⟨fun op result new ended => ?_, ?_⟩
  · cases found : (s.after es).operations[op]? with
    | none =>
      rw [result?, found] at ended
      cases ended
    | some o =>
      obtain ⟨v, next, _, _, _, same, stands⟩ :=
        (joint_after connected together).begun op o new found
      have ended : o.state.result? = some result := by
        rw [result?, found] at ended
        exact ended
      rw [same] at ended
      rcases next with e | (_ | w)
      · exact stands.elim
      · cases ended
        rfl
      · cases ended
  · rintro before after k v rfl alive enough
    have first : Joint s making before (s.after before) := joint_after connected fun e mem =>
      together e (List.mem_append_left _ mem)
    obtain ⟨next, found, near⟩ := standing_after connected alive together
    have done := (joint_after connected together).returned first.longer found (by omega)
    rw [result?_of_standing found, done]
    rfl

/-- Where all have ended, everything that the services name is as it is to be. -/
theorem has_of_over (connected : s.broker.closed = false)
    (together : ∀ e ∈ es, s.Together (wholly making) e) (finished : s.Over es) {at_ : Channel}
    (named : s.Named (wholly making) es at_) (names : at_.Names x) :
    (s.after es).broker.has x = making := by
  obtain ⟨k, v, begun, alive, listed⟩ := named
  obtain ⟨before, after, rfl⟩ := List.append_of_mem begun
  have first : Joint s making before (s.after before) := joint_after connected fun e mem =>
    together e (List.mem_append_left _ mem)
  have joint := joint_after connected together
  obtain ⟨next, found, _⟩ := standing_after connected alive together
  have ended := finished _ first.longer (List.getElem?_eq_some_iff.1 found).1
  rw [result?_of_standing found] at ended
  obtain ⟨v', next', _, alive', _, same, stands⟩ := joint.begun _ _ first.longer found
  obtain rfl := stateOf_injective same
  cases alive.symm.trans alive'
  rcases next with e | (_ | w)
  · exact stands.elim
  · refine Topology.holds_part_iff.1 (fun c part => stands c ?_) x names
    exact List.mem_flatMap.2 ⟨at_, listed, part⟩
  · cases ended

/-- **Work on the topology converges**, however many do it at once and however their calls come: what
they reconcile is made once, what they delete is gone, and no one fails. -/
theorem converges_together (connected : s.broker.closed = false) (es : List Event) :
    ((∀ e ∈ es, s.Together .reconcileAll e) →
        s.Returns .reconcileAll es ∧ (s.Over es → s.MadeAll es)) ∧
      ((∀ e ∈ es, s.Together .deleteAll e) →
        s.Returns .deleteAll es ∧ (s.Over es → s.RemovedAll es)) := by
  constructor
  · intro together
    have joint : Joint s true es (s.after es) := joint_after connected together
    have returns : s.Returns (wholly true) es := returns_of_together connected together
    refine ⟨returns, fun finished => ?_⟩
    have placed {x : Resource} (named : ∃ at_, s.Named .reconcileAll es at_ ∧ at_.Names x) :
        (s.after es).broker.has x = true := by
      obtain ⟨at_, named, names⟩ := named
      exact has_of_over connected together finished named names
    refine ⟨joint.wrought.extends, fun x => ⟨joint.wrought.extends.new x, ?_⟩, ?_⟩
    · rintro (there | named)
      · exact joint.wrought.extends.keeps x there
      · exact placed named
    · intro x missing named
      rw [joint.once rfl x, placed named, missing]
      rfl
  · intro together
    have joint : Joint s false es (s.after es) := joint_after connected together
    have returns : s.Returns (wholly false) es := returns_of_together connected together
    refine ⟨returns, fun finished => ?_⟩
    refine ⟨joint.wrought.reduces, fun x => ⟨fun there => ?_, fun ⟨there, unnamed⟩ => ?_⟩⟩
    · refine ⟨joint.wrought.reduces.keeps x there, fun ⟨at_, named, names⟩ => ?_⟩
      have gone : (s.after es).broker.has x = false :=
        has_of_over connected together finished named names
      cases there.symm.trans gone
    · rcases joint.wrought.reduces.gone x there with kept | named
      · exact kept
      · exact absurd named unnamed

/-- Two services with the same channels, over a broker that has one of their topics. -/
def rivals : System :=
  (start .epoch).after [.addService ordersService, .addService ordersService,
    .direct (.perform .epoch (.createTopic "dead-topic"))]

/-- Both carry out a command, and the broker answers them in turns. -/
def racing (first : Nat) (c : Command) : List Event :=
  [.begin 0 c, .begin 1 c] ++ (List.replicate 8 [.serve first, .serve (first + 1)]).flatten

theorem together_racing (alive : s.service? 0 = some ordersService)
    (alive' : s.service? 1 = some ordersService) (c : Command) :
    ∀ e ∈ racing s.operations.length c, s.Together c e := by
  intro e mem
  rcases List.mem_append.1 mem with mem | mem
  · simp only [List.mem_cons, List.not_mem_nil, or_false] at mem
    rcases mem with rfl | rfl
    · exact .begin 0 ordersService alive rfl
    · exact .begin 1 ordersService alive' rfl
  · obtain ⟨pair, same, mem⟩ := List.mem_flatten.1 mem
    rw [(List.mem_replicate.1 same).2] at mem
    simp only [List.mem_cons, List.not_mem_nil, or_false] at mem
    rcases mem with rfl | rfl
    · exact .serve _ (Nat.le_refl _)
    · exact .serve _ (Nat.le_succ _)

/-- Two services race to make what they name and then to remove it; each loses some of the races. -/
theorem converges_together_racing :
    rivals.MadeAll (racing 0 .reconcileAll) ∧
      (rivals.after (racing 0 .reconcileAll)).RemovedAll (racing 2 .deleteAll) ∧
      (rivals.after (racing 0 .reconcileAll)).broker.has (.subscription "orders-sub") = true ∧
      ((rivals.after (racing 0 .reconcileAll)).after (racing 2 .deleteAll)).broker.has
        (.topic "dead-topic") = false := by
  have finished (s : System) (es : List Event) (two : (s.after es).operations.length
      = s.operations.length + 2) (first : ((s.after es).result? s.operations.length).isSome = true)
      (second : ((s.after es).result? (s.operations.length + 1)).isSome = true) : s.Over es := by
    intro op new bound
    obtain rfl | rfl : op = s.operations.length ∨ op = s.operations.length + 1 := by omega
    · exact first
    · exact second
  refine ⟨?_, ?_, ?_, ?_⟩
  · refine ((converges_together (s := rivals) rfl _).1 (together_racing rfl rfl _)).2
      (finished _ _ ?_ ?_ ?_)
    all_goals decide +kernel
  · have connected : (rivals.after (racing 0 .reconcileAll)).broker.closed = false := by
      decide +kernel
    refine ((converges_together connected _).2 (together_racing rfl rfl _)).2
      (finished _ _ ?_ ?_ ?_)
    all_goals decide +kernel
  · decide +kernel
  · decide +kernel

end System

end MessageChannels
