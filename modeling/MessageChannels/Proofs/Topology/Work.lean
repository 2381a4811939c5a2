import Mathlib.Logic.Relation
import MessageChannels.Proofs.Topology.Chore

/-!
# Work on a list of chores

Work goes through a list of chores, one kind to a list: those before the one at hand hold (`Stands`),
and they go on holding whatever is done meanwhile by work of the same kind. So work that makes things
always finds the topic of a subscription that it is to make, and every answer of the broker takes it
further (`Answered.stands`). What work of one kind leaves of a broker is what it was with some chores
done (`Wrought`), none of them twice.
-/

set_option autoImplicit false

namespace MessageChannels.Topology

/-- What is made for a channel, or removed. -/
def part : Bool → Channel → List Chore
  | true => ensureChores
  | false => removeChores

/-- All that work on some channels is to bring about. -/
def parts (making : Bool) (channels : List Channel) : List Chore := channels.flatMap (part making)

/-- How many calls work on some chores makes at most. -/
def callsFor (chores : List Chore) : Nat := 2 * (chores.filter (· ≠ .verifyOpen)).length

/-- How many calls are still to be answered at most. -/
def rank : Next → Nat
  | .ok (some w) => (if w.changing then 1 else 2) + callsFor w.later
  | _ => 0

/-- What work asks for as it goes on. -/
def asked : Next → List Request
  | .ok (some w) => w.request?.toList
  | _ => []

/-- How far work on some chores has come: all before the one at hand hold, or all of them. -/
def Stands (chores : List Chore) (b : Broker) : Next → Prop
  | .ok (some w) => w.chore ≠ .verifyOpen ∧
      ∃ done, chores = done ++ w.chore :: w.later ∧ ∀ c ∈ done, c.Holds b
  | .ok none => ∀ c ∈ chores, c.Holds b
  | .error _ => False

/-- No subscription is to be made before its topic. -/
def Grounded (chores : List Chore) : Prop :=
  ∀ done t n later, chores = done ++ .ensureSubscription t n :: later → .ensureTopic t ∈ done

/-- Chores of some channels. -/
def Wanted (making : Bool) (named : Channel → Prop) (c : Chore) : Prop :=
  ∃ at_, named at_ ∧ c ∈ part making at_

/-- What is left of a broker when chores of some channels were done, each where it did not hold. -/
def Wrought (making : Bool) (named : Channel → Prop) : Broker → Broker → Prop :=
  Relation.ReflTransGen fun b b' => ∃ c, Wanted making named c ∧ ¬ c.Holds b ∧ c.Done b b'

variable {making : Bool} {b b' : Broker} {c : Chore} {chores : List Chore} {w : Work} {next : Next}
  {named : Channel → Prop} {channels : List Channel} {at_ : Channel} {x : Resource}
  {changes : List Request}

/-! ## The chores of channels -/

theorem mem_ensureChores :
    c ∈ ensureChores at_ ↔ c = .ensureTopic at_.topic ∨
      ∃ n, at_.subscription = some n ∧ c = .ensureSubscription at_.topic n := by
  unfold ensureChores
  cases at_.subscription with
  | none => simp
  | some n => simp

theorem mem_removeChores :
    c ∈ removeChores at_ ↔ c = .verifyOpen ∨ c = .removeTopic at_.topic ∨
      ∃ n, at_.subscription = some n ∧ c = .removeSubscription n := by
  unfold removeChores
  cases at_.subscription with
  | none => simp
  | some n =>
    simp only [List.mem_cons, List.not_mem_nil, or_false, Option.some.injEq, exists_eq_left']
    rw [or_comm (a := c = .removeSubscription n)]

theorem kind_of_mem_part (mem : c ∈ part making at_) : c.OfKind making := by
  cases making with
  | true =>
    rcases mem_ensureChores.1 mem with rfl | ⟨n, _, rfl⟩
    · exact Or.inr rfl
    · exact Or.inr rfl
  | false =>
    rcases mem_removeChores.1 mem with rfl | rfl | ⟨n, _, rfl⟩
    · exact Or.inl rfl
    · exact Or.inr rfl
    · exact Or.inr rfl

theorem names_of_mem_part (mem : c ∈ part making at_) (about : c.subject? = some x) :
    at_.Names x := by
  cases making with
  | true =>
    rcases mem_ensureChores.1 mem with rfl | ⟨n, subscription, rfl⟩
    · cases about
      rfl
    · cases about
      exact subscription
  | false =>
    rcases mem_removeChores.1 mem with rfl | rfl | ⟨n, subscription, rfl⟩
    · cases about
    · cases about
      rfl
    · cases about
      exact subscription

/-- There is a chore for everything that a channel names. -/
theorem exists_mem_part (making : Bool) (names : at_.Names x) :
    ∃ c ∈ part making at_, c.subject? = some x := by
  cases x with
  | topic t =>
    obtain rfl : at_.topic = t := names
    cases making with
    | true => exact ⟨.ensureTopic _, mem_ensureChores.2 (Or.inl rfl), rfl⟩
    | false => exact ⟨.removeTopic _, mem_removeChores.2 (Or.inr (Or.inl rfl)), rfl⟩
  | subscription n =>
    cases making with
    | true => exact ⟨_, mem_ensureChores.2 (Or.inr ⟨n, names, rfl⟩), rfl⟩
    | false => exact ⟨_, mem_removeChores.2 (Or.inr (Or.inr ⟨n, names, rfl⟩)), rfl⟩

/-- All chores of a channel hold if all that the channel names is as it is to be. -/
theorem holds_part_iff :
    (∀ c ∈ part making at_, c.Holds b) ↔ ∀ x, at_.Names x → b.has x = making := by
  constructor
  · intro holds x names
    obtain ⟨c, mem, about⟩ := exists_mem_part making names
    rw [holds c mem x about, (kind_of_mem_part mem).isMaking about]
  · intro settled c mem x about
    rw [settled x (names_of_mem_part mem about), (kind_of_mem_part mem).isMaking about]

theorem Wanted.names (wanted : Wanted making named c) (about : c.subject? = some x) :
    ∃ at_, named at_ ∧ at_.Names x := by
  obtain ⟨at_, name, mem⟩ := wanted
  exact ⟨at_, name, names_of_mem_part mem about⟩

theorem Wanted.kind (wanted : Wanted making named c) : c.OfKind making := by
  obtain ⟨at_, _, mem⟩ := wanted
  exact kind_of_mem_part mem

theorem mem_parts : c ∈ parts making channels ↔ Wanted making (· ∈ channels) c :=
  List.mem_flatMap

theorem kind_of_mem_parts (mem : c ∈ parts making channels) : c.OfKind making :=
  (mem_parts.1 mem).kind

/-- A chore of some channels is one of a channel, after all of those before it. -/
theorem parts_split {done later : List Chore} (split : parts making channels = done ++ c :: later) :
    ∃ before at_ after mine rest, channels = before ++ at_ :: after ∧
      part making at_ = mine ++ c :: rest ∧ done = parts making before ++ mine := by
  induction channels generalizing done with
  | nil => cases done <;> cases split
  | cons first others ih =>
    have inOthers (mid : List Chore) (within : parts making others = mid ++ c :: later)
        (same : done = part making first ++ mid) :
        ∃ before at_ after mine rest, first :: others = before ++ at_ :: after ∧
          part making at_ = mine ++ c :: rest ∧ done = parts making before ++ mine := by
      obtain ⟨before, at_, after, mine, rest, rfl, own, rfl⟩ := ih within
      refine ⟨first :: before, at_, after, mine, rest, rfl, own, ?_⟩
      rw [same]
      exact (List.append_assoc _ _ _).symm
    rcases List.append_eq_append_iff.1 split with ⟨mid, same, within⟩ | ⟨mid, within, tail_eq⟩
    · exact inOthers mid within same
    · -- The chore is one of the first channel, or the first after it.
      cases mid with
      | nil =>
        refine inOthers [] tail_eq.symm ?_
        rw [List.append_nil] at within ⊢
        exact within.symm
      | cons head rest =>
        obtain ⟨rfl, _⟩ := List.cons_eq_cons.1 tail_eq
        exact ⟨[], first, others, done, rest, rfl, within, rfl⟩

/-- A subscription of a channel is made after the channel's topic. -/
theorem grounded_parts (making : Bool) (channels : List Channel) :
    Grounded (parts making channels) := by
  intro done t n later split
  obtain ⟨before, at_, after, mine, rest, _, own, rfl⟩ := parts_split split
  have mem : Chore.ensureSubscription t n ∈ part making at_ := by
    rw [own]
    exact List.mem_append_right _ List.mem_cons_self
  cases making with
  | false => cases (kind_of_mem_part mem).isMaking rfl
  | true =>
    have first : (part true at_).head? = some (.ensureTopic at_.topic) := rfl
    rw [own] at first
    rcases mem_ensureChores.1 mem with h | ⟨n', _, h⟩
    · cases h
    · cases h
      cases mine with
      | nil => cases first
      | cons c mine =>
        cases first
        exact List.mem_append_right _ List.mem_cons_self

theorem callsFor_cons (c : Chore) (later : List Chore) :
    callsFor (c :: later) = (if c = .verifyOpen then 0 else 2) + callsFor later := by
  unfold callsFor
  by_cases h : c = .verifyOpen
  · simp [h]
  · simp [h]
    omega

theorem callsFor_append (cs ds : List Chore) :
    callsFor (cs ++ ds) = callsFor cs + callsFor ds := by
  unfold callsFor
  rw [List.filter_append, List.length_append]
  omega

/-- Work on a channel makes at most four calls. -/
theorem callsFor_parts_le (making : Bool) (channels : List Channel) :
    callsFor (parts making channels) ≤ 4 * channels.length := by
  induction channels with
  | nil => exact Nat.le_refl _
  | cons first rest ih =>
    have four : callsFor (part making first) ≤ 4 := by
      cases making <;> simp only [part, ensureChores, removeChores] <;>
        cases first.subscription <;> simp [callsFor]
    show callsFor (part making first ++ parts making rest) ≤ _
    rw [callsFor_append, List.length_cons]
    omega

/-! ## Work goes on -/

theorem Chore.question?_eq_none : c.question? = none ↔ c = .verifyOpen := by
  cases c <;> simp [Chore.question?]

theorem Chore.exists_question (real : c ≠ .verifyOpen) : ∃ q, c.question? = some q :=
  Option.ne_none_iff_exists'.1 fun none => real (Chore.question?_eq_none.1 none)

theorem Work.request?_isSome (real : w.chore ≠ .verifyOpen) : ∃ r, w.request? = some r := by
  unfold Work.request?
  cases h : w.chore <;> cases w.changing <;>
    first
      | exact absurd h real
      | exact ⟨_, rfl⟩

theorem stands_begin_append {done later : List Chore} (holds : ∀ c ∈ done, c.Holds b) :
    Stands (done ++ later) b (begin false later) := by
  induction later generalizing done with
  | nil =>
    intro c mem
    exact holds c (by simpa using mem)
  | cons c later ih =>
    unfold begin
    rw [Bool.and_false, if_neg Bool.false_ne_true]
    split
    · rename_i none
      have same : done ++ c :: later = (done ++ [c]) ++ later := by simp
      rw [same]
      refine ih fun d mem => ?_
      rcases List.mem_append.1 mem with mem | mem
      · exact holds d mem
      · obtain rfl := List.mem_singleton.1 mem
        rw [Chore.question?_eq_none.1 none]
        intro x about
        cases about
    · rename_i real
      exact ⟨fun h => real (Chore.question?_eq_none.2 h), done, rfl, holds⟩

/-- Work that has just begun stands at its first chore. -/
theorem stands_begin (b : Broker) (chores : List Chore) : Stands chores b (begin false chores) := by
  have holds : ∀ c ∈ [], Chore.Holds b c := by simp
  exact stands_begin_append holds

theorem rank_begin_le (later : List Chore) : rank (begin false later) ≤ callsFor later := by
  induction later with
  | nil => exact Nat.le_refl _
  | cons c later ih =>
    unfold begin
    rw [Bool.and_false, if_neg Bool.false_ne_true, callsFor_cons]
    split
    · omega
    · rename_i real
      rw [if_neg fun h => real (Chore.question?_eq_none.2 h)]
      exact Nat.le_refl _

/-- Work that waits has a call to be answered. -/
theorem rank_pos (w : Work) : 0 < rank (.ok (some w)) := by
  show 0 < (if w.changing then 1 else 2) + callsFor w.later
  split <;> omega

theorem Stands.mem (stands : Stands chores b (.ok (some w))) : w.chore ∈ chores := by
  obtain ⟨_, done, split, _⟩ := stands
  rw [split]
  exact List.mem_append_right _ List.mem_cons_self

/-- **Every answer of the broker takes the work further**: none of them fails it. -/
theorem Answered.stands (answered : Answered b w b' next changes)
    (stands : Stands chores b (.ok (some w))) (kind : ∀ c ∈ chores, c.OfKind making)
    (grounded : Grounded chores) : Stands chores b' next := by
  obtain ⟨real, done, rfl, holds⟩ := stands
  have same : done ++ w.chore :: w.later = (done ++ [w.chore]) ++ w.later := by simp
  have after {b₁ : Broker} (holds₁ : ∀ c ∈ done, c.Holds b₁) (now : w.chore.Holds b₁) :
      Stands (done ++ w.chore :: w.later) b₁ (begin false w.later) := by
    rw [same]
    refine stands_begin_append fun c mem => ?_
    rcases List.mem_append.1 mem with mem | mem
    · exact holds₁ c mem
    · obtain rfl := List.mem_singleton.1 mem
      exact now
  cases answered with
  | settled now => exact after holds now
  | wanting asking missing => exact ⟨real, done, rfl, holds⟩
  | changed b' r missing change did =>
    have own : w.chore.OfKind making := kind _ (by simp)
    exact after (fun c mem => did.keeps own (kind c (by simp [mem])) (holds c mem)) did.holds
  | orphaned t n chore absent =>
    have topic : Chore.ensureTopic t ∈ done := grounded done t n w.later (by rw [chore])
    have present : b.hasTopic t = true := holds _ topic (.topic t) rfl
    cases present.symm.trans absent

/-- What others do of the same kind leaves the work where it stands. -/
theorem Stands.keep (stands : Stands chores b next) (kind : ∀ c ∈ chores, c.OfKind making)
    (keeps : ∀ c : Chore, c.OfKind making → c.Holds b → c.Holds b') : Stands chores b' next := by
  cases next with
  | error e => exact stands
  | ok work =>
    cases work with
    | none => exact fun c mem => keeps c (kind c mem) (stands c mem)
    | some w =>
      obtain ⟨real, done, rfl, holds⟩ := stands
      exact ⟨real, done, rfl, fun c mem => keeps c (kind c (by simp [mem])) (holds c mem)⟩

/-- Every answer of the broker brings the work nearer to its end. -/
theorem Answered.rank_lt (answered : Answered b w b' next changes) :
    rank next < rank (.ok (some w)) := by
  have later := rank_begin_le w.later
  have rest : callsFor w.later < rank (.ok (some w)) := by
    show callsFor w.later < (if w.changing then 1 else 2) + callsFor w.later
    split <;> omega
  cases answered with
  | settled now => omega
  | wanting asking missing =>
    show 1 + callsFor w.later < (if w.changing then 1 else 2) + callsFor w.later
    rw [asking, if_neg Bool.false_ne_true]
    omega
  | changed b' r missing change did => omega
  | orphaned t n chore absent => exact rank_pos w

/-! ## What is left of the broker -/

theorem Answered.wrought (answered : Answered b w b' next changes)
    (wanted : Wanted making named w.chore) : Wrought making named b b' := by
  cases answered with
  | changed b' r missing change did => exact .single ⟨w.chore, wanted, missing, did⟩
  | _ => exact .refl

theorem Wrought.mono {others : Channel → Prop} (wrought : Wrought making named b b')
    (wider : ∀ at_, named at_ → others at_) : Wrought making others b b' :=
  Relation.ReflTransGen.mono
    (fun _ _ ⟨c, ⟨at_, name, mem⟩, did⟩ => ⟨c, ⟨at_, wider at_ name, mem⟩, did⟩) _ _ wrought

theorem Wrought.closed (wrought : Wrought making named b b') : b'.closed = b.closed := by
  induction wrought with
  | refl => rfl
  | tail _ step ih =>
    obtain ⟨c, _, _, did⟩ := step
    exact did.closed.trans ih

/-- What was brought about stays. -/
theorem Wrought.keeps (wrought : Wrought making named b b') (kind : c.OfKind making)
    (holds : c.Holds b) : c.Holds b' := by
  induction wrought with
  | refl => exact holds
  | tail _ step ih =>
    obtain ⟨d, wanted, _, did⟩ := step
    exact did.keeps wanted.kind kind ih

/-- Where everything holds already, nothing is done. -/
theorem Wrought.eq_of_holds (wrought : Wrought making named b b')
    (holds : ∀ c, Wanted making named c → c.Holds b) : b' = b := by
  induction wrought with
  | refl => rfl
  | tail before step ih =>
    obtain ⟨c, wanted, missing, _⟩ := step
    exact absurd (Wrought.keeps before wanted.kind (holds c wanted)) missing

/-- A topic or subscription is as it was, or as a channel's chore is to make it. -/
theorem Wrought.has (wrought : Wrought making named b b') (x : Resource) :
    b'.has x = b.has x ∨ b'.has x = making ∧ ∃ at_, named at_ ∧ at_.Names x := by
  induction wrought with
  | refl => exact Or.inl rfl
  | tail _ step ih =>
    obtain ⟨c, wanted, _, did⟩ := step
    rw [did.has]
    split
    · rename_i about
      exact Or.inr ⟨wanted.kind.isMaking about, wanted.names about⟩
    · exact ih

/-! ## Making -/

/-- A channel's topic and subscription are there. -/
def InPlace (b : Broker) (at_ : Channel) : Prop := ∀ x, at_.Names x → b.has x = true

/-- A broker has what it had, unchanged, and besides only new topics and subscriptions that channels
name; new subscriptions are empty and have a deadline of ten seconds. -/
structure Extends (named : Channel → Prop) (b b' : Broker) : Prop where
  keeps : ∀ x, b.has x = true → b'.has x = true
  same : ∀ n sub, b.subscriptions.get? n = some sub → b'.subscriptions.get? n = some sub
  new : ∀ x, b'.has x = true → b.has x = true ∨ ∃ at_, named at_ ∧ at_.Names x
  fresh : ∀ n sub, b'.subscriptions.get? n = some sub → b.has (.subscription n) = false →
    (∃ at_, named at_ ∧ at_.subscription = some n ∧ at_.topic = sub.topic) ∧
      sub.ackDeadline = .ofSecs 10 ∧ sub.backlog = []
  others : { b' with
    topics := b.topics, subscriptions := b.subscriptions, creations := b.creations } = b

/-- The change of a making chore adds a subscription or none, and besides changes only the topics. -/
theorem Chore.Done.adds (did : c.Done b b') (kind : c.OfKind true) :
    (b'.subscriptions = b.subscriptions ∨ ∃ t n, c = .ensureSubscription t n ∧
      b'.subscriptions = b.subscriptions.insert n (Chore.made b t)) ∧
      { b' with
        topics := b.topics, subscriptions := b.subscriptions, creations := b.creations } = b := by
  cases did with
  | ensureTopic t => exact ⟨Or.inl rfl, rfl⟩
  | ensureSubscription t n topic => exact ⟨Or.inr ⟨t, n, rfl, rfl⟩, rfl⟩
  | removeSubscription n creation => cases kind.isMaking rfl
  | removeTopic t => cases kind.isMaking rfl

theorem has_subscription_of_get? {n : String} {sub : Subscription}
    (found : b.subscriptions.get? n = some sub) : b.has (.subscription n) = true := by
  simp [Broker.has, Broker.hasSubscription, Dictionary.contains, found]

/-- Work that makes things leaves the subscriptions that there are as they are. -/
theorem Wrought.same (wrought : Wrought true named b b') {n : String} {sub : Subscription}
    (found : b.subscriptions.get? n = some sub) : b'.subscriptions.get? n = some sub := by
  induction wrought with
  | refl => exact found
  | tail _ step ih =>
    obtain ⟨c, wanted, missing, did⟩ := step
    rcases (did.adds wanted.kind).1 with same | ⟨t, m, rfl, added⟩
    · rw [same, ih]
    · rw [added, Dictionary.get?_insert, if_neg]
      · exact ih
      · rintro rfl
        exact missing (holds_of_has rfl (has_subscription_of_get? ih))

/-- A subscription that is new is one that a channel names, as a service makes it. -/
theorem Wrought.fresh (wrought : Wrought true named b b') {n : String} {sub : Subscription}
    (found : b'.subscriptions.get? n = some sub) (absent : b.has (.subscription n) = false) :
    (∃ at_, named at_ ∧ at_.subscription = some n ∧ at_.topic = sub.topic) ∧
      sub.ackDeadline = .ofSecs 10 ∧ sub.backlog = [] := by
  induction wrought with
  | refl => cases (has_subscription_of_get? found).symm.trans absent
  | tail _ step ih =>
    obtain ⟨c, wanted, _, did⟩ := step
    rcases (did.adds wanted.kind).1 with same | ⟨t, m, rfl, added⟩
    · exact ih (same ▸ found)
    · rw [added, Dictionary.get?_insert] at found
      split at found
      · rename_i same
        subst same
        cases found
        obtain ⟨at_, name, mem⟩ := wanted
        rcases mem_ensureChores.1 mem with h | ⟨_, subscription, h⟩
        · cases h
        · cases h
          exact ⟨⟨at_, name, subscription, rfl⟩, rfl, rfl⟩
      · exact ih found

/-- Work that makes things leaves everything else as it was. -/
theorem Wrought.extends (wrought : Wrought true named b b') : Extends named b b' := by
  refine ⟨fun x there => ?_, fun _ _ => wrought.same, fun x there => ?_,
    fun _ _ => wrought.fresh, ?_⟩
  · rcases wrought.has x with same | ⟨made, _⟩
    · exact same.trans there
    · exact made
  · rcases wrought.has x with same | ⟨_, name⟩
    · exact Or.inl (same ▸ there)
    · exact Or.inr name
  · induction wrought with
    | refl => rfl
    | tail _ step ih =>
      obtain ⟨c, wanted, _, did⟩ := step
      have others := (did.adds wanted.kind).2
      rw [← others] at ih
      exact ih

/-! ## Removing -/

/-- A broker has nothing that it did not have, and misses only topics and subscriptions that channels
name. -/
structure Reduces (named : Channel → Prop) (b b' : Broker) : Prop where
  same : ∀ n sub, b'.subscriptions.get? n = some sub → b.subscriptions.get? n = some sub
  keeps : ∀ x, b'.has x = true → b.has x = true
  gone : ∀ x, b.has x = true → b'.has x = true ∨ ∃ at_, named at_ ∧ at_.Names x
  others : { b' with topics := b.topics, subscriptions := b.subscriptions, parked := b.parked } = b

/-- The change of a removing chore takes a subscription or none, and besides changes only the topics
and who waits. -/
theorem Chore.Done.takes (did : c.Done b b') (kind : c.OfKind false) :
    (b'.subscriptions = b.subscriptions ∨ ∃ n, b'.subscriptions = b.subscriptions.erase n) ∧
      { b' with topics := b.topics, subscriptions := b.subscriptions, parked := b.parked } = b := by
  cases did with
  | ensureTopic t => cases kind.isMaking rfl
  | ensureSubscription t n topic => cases kind.isMaking rfl
  | removeSubscription n creation => exact ⟨Or.inr ⟨n, rfl⟩, rfl⟩
  | removeTopic t => exact ⟨Or.inl rfl, rfl⟩

/-- Work that removes things leaves everything else as it was. -/
theorem Wrought.reduces (wrought : Wrought false named b b') : Reduces named b b' := by
  refine ⟨fun n sub found => ?_, fun x there => ?_, fun x there => ?_, ?_⟩
  · induction wrought with
    | refl => exact found
    | tail _ step ih =>
      obtain ⟨c, wanted, _, did⟩ := step
      rcases (did.takes wanted.kind).1 with same | ⟨m, taken⟩
      · exact ih (same ▸ found)
      · rw [taken, Dictionary.get?_erase] at found
        split at found
        · cases found
        · exact ih found
  · rcases wrought.has x with same | ⟨removed, _⟩
    · exact same ▸ there
    · cases removed.symm.trans there
  · rcases wrought.has x with same | ⟨_, name⟩
    · exact Or.inl (same.trans there)
    · exact Or.inr name
  · induction wrought with
    | refl => rfl
    | tail _ step ih =>
      obtain ⟨c, wanted, _, did⟩ := step
      have others := (did.takes wanted.kind).2
      rw [← others] at ih
      exact ih

end MessageChannels.Topology
