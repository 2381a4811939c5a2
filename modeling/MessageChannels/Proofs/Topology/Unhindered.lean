import Mathlib.Data.List.Forall2
import Mathlib.Data.List.Induction
import MessageChannels.Proofs.Topology.Tending

/-!
# Topology work that nothing hinders

Work that has a system to itself does its chores one after the other: it asks about each, and changes
what does not hold (`SeenTo`). Between a question and the change nothing happens, so the calls and the
broker are told by the chores that are over, and the one at hand has made its first call or both
(`At`). `Progress` adds how the calls were met, each by the broker's answer or by a fault on its way,
and `Unhindered` is one answer after the other, by induction.
-/

set_option autoImplicit false

namespace MessageChannels

open MessageChannels.Topology (Answered Chore Next Work Wrought asked callsFor parts rank stateOf)

namespace Topology

/-- The chores of a list were seen to in their order, with these calls, and the broker is what they
have made of it: a chore that holds is only asked about, and one that does not is done. -/
inductive SeenTo (b₀ : Broker) : List Chore → List Request → Broker → Prop where
  | nothing : SeenTo b₀ [] [] b₀
  | verified {done : List Chore} {calls : List Request} {b : Broker} (seen : SeenTo b₀ done calls b) :
      SeenTo b₀ (done ++ [.verifyOpen]) calls b
  | held {done : List Chore} {calls : List Request} {b : Broker} {c : Chore} {q : Request}
      (seen : SeenTo b₀ done calls b) (asks : c.question? = some q) (holds : c.Holds b) :
      SeenTo b₀ (done ++ [c]) (calls ++ [q]) b
  | did {done : List Chore} {calls : List Request} {b b' : Broker} {c : Chore} {q r : Request}
      (seen : SeenTo b₀ done calls b) (asks : c.question? = some q) (change : c.change? = some r)
      (missing : ¬ c.Holds b) (did : c.Done b b') :
      SeenTo b₀ (done ++ [c]) (calls ++ [q, r]) b'

/-- The calls of a chore at hand, the last of which is waited for. -/
def Work.calls (w : Work) : List Request :=
  w.chore.question?.toList ++ if w.changing then w.chore.change?.toList else []

/-- What the call that is waited for is called in errors. -/
def Work.callName (w : Work) : String :=
  if w.changing then w.chore.changeName else w.chore.questionName

/-- Work on some chores is at one of them, after seeing to those before it. -/
structure At (chores : List Chore) (b₀ : Broker) (calls : List Request) (b : Broker) (w : Work) :
    Prop where
  real : w.chore ≠ .verifyOpen
  missing : w.changing = true → ¬ w.chore.Holds b
  came : ∃ done before, SeenTo b₀ done before b ∧ chores = done ++ w.chore :: w.later ∧
    calls = before ++ w.calls

/-- How far work has come that goes on like this: it is at a chore, or has seen to all of them. -/
def Reached (chores : List Chore) (b₀ : Broker) (calls : List Request) (b : Broker) : Next → Prop
  | .ok (some w) => At chores b₀ calls b w
  | .ok none => SeenTo b₀ chores calls b
  | .error _ => False

/-- Where an operation stands that does some chores, after answers of which it has asked for some. -/
inductive Progress (chores : List Chore) (b₀ : Broker) (faults : List (Option TransportError))
    (calls : List Request) (b : Broker) : OperationState → Prop where
  | working (w : Work) (at_ : At chores b₀ calls b w) (unmet : ∀ f ∈ faults, f = none)
      (count : calls.length = faults.length + 1)
      (near : rank (.ok (some w)) + faults.length ≤ callsFor chores) :
      Progress chores b₀ faults calls b (.tending w)
  | returned (seen : SeenTo b₀ chores calls b) (unmet : ∀ i < calls.length, faults[i]? = some none) :
      Progress chores b₀ faults calls b (.finished (.ok .done))
  | failed (i : Nat) (e : TransportError) (w : Work) (at_ : At chores b₀ calls b w)
      (fault : faults[i]? = some (some e)) (unmet : ∀ j < i, faults[j]? = some none)
      (count : calls.length = i + 1) :
      Progress chores b₀ faults calls b
        (.finished (.error (.ofTransport w.callName w.chore.resource e)))

/-- Whether an error of a change is what work of a kind takes for success. -/
def isSettling (making : Bool) (e : TransportError) : Bool :=
  if making then e.isAlreadyExists else e.isNotFound

variable {making : Bool} {b₀ b b' : Broker} {done chores : List Chore}
  {calls changes : List Request} {w : Work} {next : Next} {named : Channel → Prop} {x : Resource}
  {faults : List (Option TransportError)} {state : OperationState}

/-! ## What was seen to -/

theorem Chore.isExistenceCheck_of_question? {c : Chore} {q : Request}
    (asks : c.question? = some q) : q.isExistenceCheck = true := by
  cases c <;> cases asks <;> rfl

theorem forall_mem_snoc {α : Type} {p : α → Prop} {before : List α} {last : α} :
    (∀ a ∈ before ++ [last], p a) ↔ (∀ a ∈ before, p a) ∧ p last := by
  rw [List.forall_mem_append, List.forall_mem_singleton]

theorem SeenTo.wrought (seen : SeenTo b₀ done calls b) (wanted : ∀ c ∈ done, Wanted making named c) :
    Wrought making named b₀ b := by
  induction seen with
  | nothing => exact .refl
  | verified seen ih => exact ih (forall_mem_snoc.1 wanted).1
  | held seen asks holds ih => exact ih (forall_mem_snoc.1 wanted).1
  | @did done calls b b' c q r seen asks change missing did ih =>
    obtain ⟨before, own⟩ := forall_mem_snoc.1 wanted
    exact (ih before).tail ⟨c, own, missing, did⟩

theorem SeenTo.closed (seen : SeenTo b₀ done calls b) : b.closed = b₀.closed := by
  induction seen with
  | nothing => rfl
  | verified seen ih => exact ih
  | held seen asks holds ih => exact ih
  | did seen asks change missing did ih => exact did.closed.trans ih

/-- What was seen to holds. -/
theorem SeenTo.holds (seen : SeenTo b₀ done calls b) (kind : ∀ c ∈ done, c.OfKind making) :
    ∀ c ∈ done, c.Holds b := by
  induction seen with
  | nothing => exact nofun
  | verified seen ih =>
    exact forall_mem_snoc.2 ⟨ih (forall_mem_snoc.1 kind).1, fun _ about => by cases about⟩
  | held seen asks holds ih => exact forall_mem_snoc.2 ⟨ih (forall_mem_snoc.1 kind).1, holds⟩
  | did seen asks change missing did ih =>
    obtain ⟨before, own⟩ := forall_mem_snoc.1 kind
    exact forall_mem_snoc.2
      ⟨fun c mem => did.keeps own (before c mem) (ih before c mem), did.holds⟩

/-- What no chore is about is as it was. -/
theorem SeenTo.has_of_forall_ne (seen : SeenTo b₀ done calls b)
    (other : ∀ c ∈ done, c.subject? ≠ some x) : b.has x = b₀.has x := by
  induction seen with
  | nothing => rfl
  | verified seen ih => exact ih (forall_mem_snoc.1 other).1
  | held seen asks holds ih => exact ih (forall_mem_snoc.1 other).1
  | did seen asks change missing did ih =>
    obtain ⟨before, own⟩ := forall_mem_snoc.1 other
    rw [did.has, if_neg own, ih before]

/-- Where all chores hold, they are only asked about. -/
theorem SeenTo.idle (seen : SeenTo b₀ done calls b) (holds : ∀ c ∈ done, c.Holds b₀) :
    b = b₀ ∧ ∀ q ∈ calls, q.isExistenceCheck = true := by
  induction seen with
  | nothing => exact ⟨rfl, nofun⟩
  | verified seen ih => exact ih (forall_mem_snoc.1 holds).1
  | held seen asks _ ih =>
    obtain ⟨same, looks⟩ := ih (forall_mem_snoc.1 holds).1
    exact ⟨same, forall_mem_snoc.2 ⟨looks, Chore.isExistenceCheck_of_question? asks⟩⟩
  | did seen asks change missing did ih =>
    obtain ⟨before, own⟩ := forall_mem_snoc.1 holds
    obtain ⟨rfl, _⟩ := ih before
    exact absurd own missing

/-- The calls of a chore: its question, and perhaps its change. -/
def Chore.Calls (c : Chore) (mine : List Request) : Prop :=
  mine = c.question?.toList ∨ mine = c.question?.toList ++ c.change?.toList

/-- The calls are those of the chores, one chore after the other. -/
theorem SeenTo.calls_apart (seen : SeenTo b₀ done calls b) :
    ∃ each, List.Forall₂ Chore.Calls done each ∧ calls = each.flatten := by
  have further {done : List Chore} {calls : List Request} (c : Chore) (mine : List Request)
      (before : ∃ each, List.Forall₂ Chore.Calls done each ∧ calls = each.flatten)
      (own : c.Calls mine) :
      ∃ each, List.Forall₂ Chore.Calls (done ++ [c]) each ∧ calls ++ mine = each.flatten := by
    obtain ⟨each, apart, rfl⟩ := before
    exact ⟨each ++ [mine], List.rel_append apart (.cons own .nil), by simp⟩
  induction seen with
  | nothing => exact ⟨[], .nil, rfl⟩
  | @verified done calls b seen ih =>
    have more := further .verifyOpen [] ih (Or.inl rfl)
    rwa [List.append_nil] at more
  | held seen asks holds ih =>
    refine further _ _ ih ?_
    rw [Chore.Calls, asks]
    exact Or.inl rfl
  | did seen asks change missing did ih =>
    refine further _ _ ih ?_
    rw [Chore.Calls, asks, change]
    exact Or.inr rfl

/-! ## Going on -/

theorem Answered.closed (answered : Answered b w b' next changes) : b'.closed = b.closed := by
  cases answered with
  | changed b' r missing change did => exact did.closed
  | _ => rfl

theorem reached_begin (later : List Chore) (seen : SeenTo b₀ done calls b) :
    Reached (done ++ later) b₀ (calls ++ asked (begin false later)) b (begin false later) := by
  induction later generalizing done with
  | nil =>
    rw [List.append_nil, show asked (begin false []) = [] from rfl, List.append_nil]
    exact seen
  | cons c later ih =>
    unfold begin
    rw [Bool.and_false, if_neg Bool.false_ne_true]
    split
    · rename_i none
      obtain rfl := Chore.question?_eq_none.1 none
      have further := ih seen.verified
      rwa [List.append_assoc] at further
    · rename_i real
      refine ⟨fun h => real (Chore.question?_eq_none.2 h), by simp, done, calls, seen, rfl, ?_⟩
      simp [asked, Work.calls, Work.request?]

theorem At.mem (at_ : At chores b₀ calls b w) : w.chore ∈ chores := by
  obtain ⟨done, before, _, split, _⟩ := at_.came
  rw [split]
  exact List.mem_append_right _ List.mem_cons_self

theorem At.stands (at_ : At chores b₀ calls b w) (kind : ∀ c ∈ chores, c.OfKind making) :
    Stands chores b (.ok (some w)) := by
  obtain ⟨done, before, seen, rfl, _⟩ := at_.came
  exact ⟨at_.real, done, rfl, seen.holds fun c mem => kind c (List.mem_append_left _ mem)⟩

/-- **Every answer of the broker takes the work further**, with the calls that it makes. -/
theorem Answered.reached (answered : Answered b w b' next changes) (at_ : At chores b₀ calls b w)
    (grants : changes ≠ [] → w.changing = true) (kind : ∀ c ∈ chores, c.OfKind making)
    (grounded : Grounded chores) : Reached chores b₀ (calls ++ asked next) b' next := by
  obtain ⟨real, missing, done, before, seen, rfl, rfl⟩ := at_
  obtain ⟨q, asks⟩ := Chore.exists_question real
  cases answered with
  | settled holds =>
    have asking : w.changing = false := Bool.eq_false_iff.2 fun changing => missing changing holds
    have own : w.calls = [q] := by simp [Work.calls, asks, asking]
    have further := reached_begin w.later (seen.held asks holds)
    rwa [own, List.append_cons]
  | wanting asking absent =>
    refine ⟨real, fun _ => absent, done, before, seen, rfl, ?_⟩
    simp [Work.calls, asked, Work.request?, asking]
  | changed b' r absent change did =>
    have own : w.calls = [q, r] := by
      simp [Work.calls, asks, change, grants]
    have further := reached_begin w.later (seen.did asks change absent did)
    rwa [own, List.append_cons]
  | orphaned t n chore absent =>
    have topic : Chore.ensureTopic t ∈ done := grounded done t n w.later (by rw [chore])
    have holds := seen.holds (fun c mem => kind c (List.mem_append_left _ mem)) _ topic
    have present : b.hasTopic t = true := holds (.topic t) rfl
    cases present.symm.trans absent

theorem getElem?_of_unmet (unmet : ∀ f ∈ faults, f = none) {i : Nat} (bound : i < faults.length) :
    faults[i]? = some none := by
  rw [List.getElem?_eq_getElem bound, unmet _ (List.getElem_mem bound)]

/-- Work that waits has asked for one thing. -/
theorem length_asked (real : w.chore ≠ .verifyOpen) : (asked (.ok (some w))).length = 1 := by
  obtain ⟨r, asks⟩ := Work.request?_isSome real
  rw [asked, asks]
  rfl

theorem Progress.of_reached (reached : Reached chores b₀ calls b next)
    (unmet : ∀ f ∈ faults, f = none) (count : calls.length = faults.length + (asked next).length)
    (near : rank next + faults.length ≤ callsFor chores) :
    Progress chores b₀ faults calls b (stateOf next) := by
  cases next with
  | error e => exact reached.elim
  | ok work =>
    cases work with
    | none =>
      refine .returned reached fun i bound => getElem?_of_unmet unmet ?_
      have none_asked : (asked (.ok none)).length = 0 := rfl
      omega
    | some w =>
      have one := length_asked reached.real
      exact .working w reached unmet (by omega) near

/-- Later answers change nothing for work that has ended. -/
theorem Progress.snoc (progress : Progress chores b₀ faults calls b state)
    (ended : state.inProgress = false) (f : Option TransportError) :
    Progress chores b₀ (faults ++ [f]) calls b state := by
  have old {i : Nat} {g : Option TransportError} (h : faults[i]? = some g) :
      (faults ++ [f])[i]? = some g := by
    rw [List.getElem?_append_left (List.getElem?_eq_some_iff.1 h).1, h]
  cases progress with
  | working w => cases ended
  | returned seen unmet => exact .returned seen fun i h => old (unmet i h)
  | failed i e w at_ fault unmet count =>
    exact .failed i e w at_ (old fault) (fun j h => old (unmet j h)) count

/-- The first fault is the only one that is met. -/
theorem eq_of_fault {i j calls : Nat} {e e' : TransportError} (fault : faults[i]? = some (some e))
    (met : i < calls) (fault' : faults[j]? = some (some e'))
    (unmet : ∀ l < j, faults[l]? = some none) (count : calls = j + 1) : i = j ∧ e = e' := by
  have first : i = j := by
    rcases Nat.lt_trichotomy i j with less | same | more
    · cases fault.symm.trans (unmet i less)
    · exact same
    · omega
  subst first
  cases fault.symm.trans fault'
  exact ⟨rfl, rfl⟩

/-- Work stops at the fault that it meets. -/
theorem Progress.stops (progress : Progress chores b₀ faults calls b state) {i : Nat}
    {e : TransportError} (fault : faults[i]? = some (some e)) (met : i < calls.length) :
    ∃ w, At chores b₀ calls b w ∧ calls.length = i + 1 ∧
      state.result? = some (.error (.ofTransport w.callName w.chore.resource e)) := by
  cases progress with
  | working w at_ unmet => cases unmet _ (List.mem_of_getElem? fault)
  | returned seen unmet => cases fault.symm.trans (unmet i met)
  | failed j e' w at_ fault' unmet count =>
    obtain ⟨rfl, rfl⟩ := eq_of_fault fault met fault' unmet count
    exact ⟨w, at_, count, rfl⟩

/-- Work has seen to all its chores or is at one of them, be it where it stopped. -/
theorem Progress.seen_or_at (progress : Progress chores b₀ faults calls b state) :
    SeenTo b₀ chores calls b ∨ ∃ w, At chores b₀ calls b w := by
  cases progress with
  | working w at_ => exact Or.inr ⟨w, at_⟩
  | returned seen => exact Or.inl seen
  | failed i e w at_ => exact Or.inr ⟨w, at_⟩

/-- What work has made of a broker was made by some of its chores. -/
theorem Progress.seen (progress : Progress chores b₀ faults calls b state) :
    ∃ done before, SeenTo b₀ done before b ∧ ∀ c ∈ done, c ∈ chores := by
  rcases progress.seen_or_at with seen | ⟨w, at_⟩
  · exact ⟨_, _, seen, fun c mem => mem⟩
  · obtain ⟨done, before, seen, rfl, _⟩ := at_.came
    exact ⟨done, before, seen, fun c => List.mem_append_left _⟩

/-- Where all chores hold already, nothing is asked for but to look. -/
theorem Progress.idle (progress : Progress chores b₀ faults calls b state)
    (holds : ∀ c ∈ chores, c.Holds b₀) : ∀ q ∈ calls, q.isExistenceCheck = true := by
  rcases progress.seen_or_at with seen | ⟨w, at_⟩
  · exact (seen.idle holds).2
  · have own := holds _ at_.mem
    obtain ⟨real, missing, done, before, seen, rfl, rfl⟩ := at_
    obtain ⟨rfl, looks⟩ := seen.idle fun c mem => holds c (List.mem_append_left _ mem)
    obtain ⟨q, asks⟩ := Chore.exists_question real
    have asking : w.changing = false := Bool.eq_false_iff.2 fun changing => missing changing own
    have mine : w.calls = [q] := by simp [Work.calls, asks, asking]
    rw [mine]
    exact forall_mem_snoc.2 ⟨looks, Chore.isExistenceCheck_of_question? asks⟩

end Topology

/-! ## One answer after the other -/

namespace System

open MessageChannels.Topology (Progress At)

/-- What happens to a call of an operation: the broker answers, or the call fails on its way. -/
def answering (op : Nat) : Option TransportError → Event
  | none => .serve op
  | some e => .reply op (.error e)

/-- Topology work that is begun on a system, and whose calls meet some faults, or none, in their
order. -/
def pursued (making : Bool) (s : System) (k : Nat) (faults : List (Option TransportError)) : System :=
  (s.step (.begin k (wholly making))).after (faults.map (answering s.operations.length))

/-- What topology work that was begun on a system has made of it after some answers. -/
structure Unhindered (making : Bool) (s₀ : System) (k : Nat) (channels : List Channel)
    (faults : List (Option TransportError)) (s : System) : Prop where
  services : s.services = s₀.services
  earlier : ∀ j < s₀.operations.length, s.operations[j]? = s₀.operations[j]?
  connected : s.broker.closed = s₀.broker.closed
  progress : ∃ state, s.operations[s₀.operations.length]? = some ⟨k, state⟩ ∧
    Progress (parts making channels) s₀.broker faults (s.requests s₀.operations.length) s.broker state

variable {making : Bool} {s s₀ : System} {k op : Nat} {v : Service} {channels : List Channel}
  {faults : List (Option TransportError)} {w : Work} {next : Next} {state : OperationState}

/-- The broker grants nothing to a question. -/
theorem changing_of_grantedIn (found : s.operations[op]? = some ⟨k, .tending w⟩)
    (granted : s.grantedIn (.serve op) ≠ []) : w.changing = true := by
  refine Decidable.byContradiction fun asking => granted ?_
  have waits : s.request? op = w.chore.question? := by
    simp [request?, found, OperationState.request?, Work.request?, asking]
  rw [grantedIn, waits]
  cases asks : w.chore.question? with
  | none => rfl
  | some q =>
    have looks := Chore.isExistenceCheck_of_question? asks
    cases reply : (s.broker.perform s.clock q).2 with
    | ok answer => simp [reply, Request.granted, looks]
    | error e => simp [reply, Request.granted]

/-- What topology work has made of a system when it goes on over a broker. -/
theorem Unhindered.tended (unhindered : Unhindered making s₀ k channels faults s) (made : Broker)
    {later : List (Option TransportError)}
    (found : s.operations[s₀.operations.length]? = some ⟨k, state⟩)
    (connected : made.closed = s₀.broker.closed)
    (progress : Progress (parts making channels) s₀.broker later
      (s.requests s₀.operations.length ++ asked next) made (stateOf next)) :
    Unhindered making s₀ k channels later
      (({ s with broker := made } : System).tend s₀.operations.length next) := by
  refine ⟨(services_tend _ _ _).trans unhindered.services, fun j bound => ?_, ?_, _,
    getElem?_tend_self (s := { s with broker := made }) found _, ?_⟩
  · rw [getElem?_tend_of_ne (Nat.ne_of_lt bound)]
    exact unhindered.earlier j bound
  · rw [broker_tend]
    exact connected
  · rw [broker_tend, requests_tend]
    exact progress

/-- The broker's answer takes the work further. -/
theorem Unhindered.served (unhindered : Unhindered making s₀ k channels faults s)
    (found : s.operations[s₀.operations.length]? = some ⟨k, .tending w⟩)
    (shut : s.isClosed k = false) (connected : s₀.broker.closed = false)
    (at_ : At (parts making channels) s₀.broker (s.requests s₀.operations.length) s.broker w)
    (unmet : ∀ f ∈ faults, f = none)
    (count : (s.requests s₀.operations.length).length = faults.length + 1)
    (near : rank (.ok (some w)) + faults.length ≤ callsFor (parts making channels)) :
    Unhindered making s₀ k channels (faults ++ [none]) (s.step (.serve s₀.operations.length)) := by
  obtain ⟨made, next, answered, step⟩ := step_serve_tending found at_.real shut
    (unhindered.connected.trans connected)
  have reached := answered.reached at_ (changing_of_grantedIn found)
    (fun _ => Topology.kind_of_mem_parts) (Topology.grounded_parts making channels)
  have closer := answered.rank_lt
  rw [step]
  refine unhindered.tended made found (answered.closed.trans unhindered.connected)
    (.of_reached reached ?_ ?_ ?_)
  · exact Topology.forall_mem_snoc.2 ⟨unmet, rfl⟩
  · rw [List.length_append, List.length_append, List.length_singleton, count]
  · rw [List.length_append, List.length_singleton]
    omega

/-- The failure of a call is where the work stops. -/
theorem Unhindered.refused (unhindered : Unhindered making s₀ k channels faults s)
    (found : s.operations[s₀.operations.length]? = some ⟨k, .tending w⟩)
    (shut : s.isClosed k = false)
    (at_ : At (parts making channels) s₀.broker (s.requests s₀.operations.length) s.broker w)
    (unmet : ∀ f ∈ faults, f = none)
    (count : (s.requests s₀.operations.length).length = faults.length + 1) {e : TransportError}
    (excluded : Topology.isSettling making e = false) :
    Unhindered making s₀ k channels (faults ++ [some e])
      (s.step (.reply s₀.operations.length (.error e))) := by
  have own : w.chore.isMaking = making :=
    (Topology.kind_of_mem_parts at_.mem).resolve_left at_.real
  have fails : w.answer false (.error e) = .error (.ofTransport w.callName w.chore.resource e) := by
    cases changing : w.changing with
    | false => simp [Work.answer, Work.callName, changing]
    | true =>
      have unsettled : w.chore.isSettledBy e = false := by
        rw [Chore.isSettledBy, own]
        exact excluded
      simp [Work.answer, Work.callName, changing, unsettled]
  rw [step_fail_tending found shut e, fails]
  refine unhindered.tended s.broker found unhindered.connected ?_
  rw [show asked (.error _) = [] from rfl, List.append_nil]
  refine .failed faults.length e w at_ List.getElem?_concat_length (fun j bound => ?_) count
  rw [List.getElem?_append_left bound]
  exact Topology.getElem?_of_unmet unmet bound

/-- An answer, or the call's failure, takes the work from one stage to the next. -/
theorem Unhindered.answer (unhindered : Unhindered making s₀ k channels faults s)
    (alive : s₀.service? k = some v) (opened : v.closed = false)
    (connected : s₀.broker.closed = false) {f : Option TransportError}
    (excluded : ∀ e, f = some e → Topology.isSettling making e = false) :
    Unhindered making s₀ k channels (faults ++ [f])
      (s.step (answering s₀.operations.length f)) := by
  obtain ⟨state, found, progress⟩ := unhindered.progress
  have about : (answering s₀.operations.length f).operation s = s₀.operations.length := by
    cases f <;> rfl
  have shut : s.isClosed k = false := (isClosed_of_service? unhindered.services alive).trans opened
  -- Work that has ended is not touched.
  have rests (ended : state.inProgress = false) : Unhindered making s₀ k channels (faults ++ [f])
      (s.step (answering s₀.operations.length f)) := by
    rw [step_of_ended found ended about]
    exact { unhindered with progress := ⟨state, found, progress.snoc ended f⟩ }
  cases progress with
  | returned seen unmet => exact rests rfl
  | failed i e w at_ fault unmet count => exact rests rfl
  | working w at_ unmet count near =>
    cases f with
    | some e => exact unhindered.refused found shut at_ unmet count (excluded e rfl)
    | none => exact unhindered.served found shut connected at_ unmet count near

/-- **Topology work that nothing hinders is followed to its end.** -/
theorem unhindered_pursued (reachable : s.Reachable) (alive : s.service? k = some v)
    (opened : v.closed = false) (connected : s.broker.closed = false)
    (excluded : ∀ e, some e ∈ faults → Topology.isSettling making e = false) :
    Unhindered making s k v.registry.toList faults (s.pursued making k faults) := by
  unfold pursued
  induction faults using List.reverseRecOn with
  | nil =>
    have standing := s.getElem?_addOperation k
    have unasked := reachable.requests_eq_nil (Nat.le_refl _)
    show Unhindered making s k _ [] (s.step (.begin k (wholly making)))
    rw [step_begin_wholly alive opened]
    have requests : ((s.addOperation k).tend s.operations.length
        (Topology.begin false (parts making v.registry.toList))).requests s.operations.length
          = asked (Topology.begin false (parts making v.registry.toList)) := by
      rw [requests_tend]
      exact congrArg (· ++ _) unasked
    have reached := Topology.reached_begin (parts making v.registry.toList)
      (.nothing : Topology.SeenTo s.broker [] [] s.broker)
    refine ⟨services_tend _ _ _, fun j bound => ?_, ?_, _, getElem?_tend_self standing _, ?_⟩
    · rw [getElem?_tend_of_ne (Nat.ne_of_lt bound)]
      exact List.getElem?_append_left bound
    · rw [broker_tend]
      rfl
    · rw [requests, broker_tend]
      exact .of_reached reached nofun (Nat.zero_add _).symm (Topology.rank_begin_le _)
  | append_singleton faults f ih =>
    rw [List.map_append, List.map_singleton, after_snoc]
    refine (ih fun e mem => excluded e ?_).answer alive opened connected fun e h => excluded e ?_
    · exact List.mem_append_left _ mem
    · exact List.mem_append_right _ (by simp [h])

end System

end MessageChannels
