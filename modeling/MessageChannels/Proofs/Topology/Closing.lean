import MessageChannels.Proofs.Topology.Reconciliation

/-!
# Closing a service whose topology work goes on

The work is over any transport: its calls get replies that the broker gives or that are made up, and
anything may happen between. `TendsOn` says what one event can do to it. In a closed service a chore
is not begun for which the service must be open, so work only winds up: it makes the change of the
chore at hand, if it has still to, and does the chores after it that do not need the service open
(`Work.windUp`). Where these end is told by the place of the chore among those of the channels: work
that makes things ends with the chore at hand, and work that removes them with its channel
(`closingStops`).
-/

set_option autoImplicit false

namespace MessageChannels

open MessageChannels.Topology (Chore Next Work asked part parts removeChores stateOf)

/-- An event gives a reply to an operation. -/
def Event.isAnswer (op : Nat) : Event → Bool
  | .serve j => j = op
  | .reply j _ => j = op
  | _ => false

namespace Topology

/-- The most that a chore asks for. -/
def Chore.mostCalls (c : Chore) : List Request := c.question?.toList ++ c.change?.toList

/-- What the chore at hand has still to ask for at most: its change, unless that is under way. -/
def Work.changeLeft (w : Work) : List Request := if w.changing then [] else w.chore.change?.toList

/-- The chores after the one at hand that are done in a closed service. -/
def Work.unguarded (w : Work) : List Chore := w.later.takeWhile fun c => !c.needsOpen

/-- The most that work asks for as it winds up in a closed service. -/
def Work.windUp (w : Work) : List Request :=
  w.changeLeft ++ w.unguarded.flatMap Chore.mostCalls

/-- Work can come to its end in a closed service: none of its chores after the one at hand needs an
open one. -/
def Work.CanReturn (w : Work) : Prop := ∀ c ∈ w.later, c.needsOpen = false

/-- How work goes on in a closed service: it is over, or fails, or there is less to wind up. -/
inductive WindsOn (w : Work) : Next → Prop where
  | failed (e : ChannelError) : WindsOn w (.error e)
  | emptied (last : w.later = []) : WindsOn w (.ok none)
  | further (w' : Work) (real : w'.chore ≠ .verifyOpen)
      (less : asked (.ok (some w')) ++ w'.windUp <:+ w.windUp)
      (alike : w'.CanReturn → w.CanReturn) : WindsOn w (.ok (some w'))

/-- An operation is at a chore that work on a list has come to, or has come to its end. -/
inductive Placed (chores : List Chore) : OperationState → Prop where
  | working (w : Work) (real : w.chore ≠ .verifyOpen) (left : w.chore :: w.later <:+ chores) :
      Placed chores (.tending w)
  | ended {state : OperationState} (idle : state.inProgress = false) : Placed chores state

/-- Work of a kind on the channels of a registry is at a chore of one of them, for which some are left,
and all those of the channels after it. -/
structure Site (making : Bool) (r : Registry) (w : Work) (at_ : Channel) (rest : List Chore) :
    Prop where
  channel : ∃ before after, r.toList = before ++ at_ :: after ∧ w.later = rest ++ parts making after
  chore : ∃ mine, part making at_ = mine ++ w.chore :: rest

/-- No channel comes after one in the order of the names. -/
def IsLast (r : Registry) (at_ : Channel) : Prop := ∀ other ∈ r.toList, ¬ at_.id < other.id

/-- What work of a kind was at when it waits in a channel: the chore at hand, if it makes things, and
otherwise all that is left for the channel. -/
def atHand (making : Bool) (w : Work) (rest : List Chore) : List Request :=
  w.changeLeft ++ if making then [] else rest.flatMap Chore.mostCalls

/-- Work of a kind is at the last that there is to it: of its chores, if it makes things, and otherwise
of the channels. -/
def AtLast (making : Bool) (r : Registry) (at_ : Channel) (rest : List Chore) : Prop :=
  IsLast r at_ ∧ (making = true → rest = [])

variable {making : Bool} {closed : Bool} {chores later : List Chore} {w w' : Work} {next : Next}
  {reply : Except TransportError Reply} {at_ : Channel} {c : Chore}

/-! ## Work goes down its list -/

theorem begin_suffix (begun : begin closed later = .ok (some w)) :
    w.chore ≠ .verifyOpen ∧ w.chore :: w.later <:+ later := by
  induction later with
  | nil => cases begun
  | cons c later ih =>
    unfold begin at begun
    split at begun
    · cases begun
    · split at begun
      · obtain ⟨real, suffix⟩ := ih begun
        exact ⟨real, suffix.trans (List.suffix_cons _ _)⟩
      · rename_i asks
        cases begun
        exact ⟨fun h => asks (Chore.question?_eq_none.2 h), List.suffix_refl _⟩

/-- After a reply the chore at hand is over, or its change is asked for, or the work fails. -/
theorem answer_cases (w : Work) (closed : Bool) (reply : Except TransportError Reply) :
    w.answer closed reply = begin closed w.later ∨
      w.changing = false ∧ w.answer closed reply = .ok (some { w with changing := true }) ∨
      ∃ e, w.answer closed reply = .error e := by
  cases reply with
  | ok r =>
    simp only [Work.answer]
    split
    · exact Or.inl rfl
    · rename_i more
      have asking : w.changing = false := by
        cases changing : w.changing with
        | false => rfl
        | true => exact absurd (by rw [changing, Bool.true_or]) more
      exact Or.inr (Or.inl ⟨asking, rfl⟩)
  | error e =>
    simp only [Work.answer]
    split
    · exact Or.inr (Or.inr ⟨_, rfl⟩)
    · split
      · exact Or.inl rfl
      · exact Or.inr (Or.inr ⟨_, rfl⟩)

theorem answer_suffix (real : w.chore ≠ .verifyOpen)
    (answered : w.answer closed reply = .ok (some w')) :
    w'.chore ≠ .verifyOpen ∧ w'.chore :: w'.later <:+ w.chore :: w.later := by
  rcases answer_cases w closed reply with turned | ⟨_, more⟩ | ⟨e, failed⟩
  · obtain ⟨real', suffix⟩ := begin_suffix (turned.symm.trans answered)
    exact ⟨real', suffix.trans (List.suffix_cons _ _)⟩
  · cases more.symm.trans answered
    exact ⟨real, List.suffix_refl _⟩
  · cases failed.symm.trans answered

/-! ## Winding up -/

theorem windsOn_begin (w : Work) : WindsOn w (begin true w.later) := by
  cases later : w.later with
  | nil => exact .emptied later
  | cons c rest =>
    unfold begin
    rw [Bool.and_true]
    split
    · exact .failed _
    · rename_i unguarded
      have free : c.needsOpen = false := by simpa using unguarded
      have asks : c.question? ≠ none := fun none => by
        cases Chore.question?_eq_none.1 none
        cases free
      rw [if_neg asks]
      refine .further _ (fun h => asks (Chore.question?_eq_none.2 h)) ?_ fun can d mem => ?_
      · refine ⟨w.changeLeft, ?_⟩
        simp [Work.windUp, Work.unguarded, later, free, asked, Work.request?, Work.changeLeft,
          Chore.mostCalls]
      · rw [later] at mem
        rcases List.mem_cons.1 mem with rfl | mem
        · exact free
        · exact can d mem

/-- **A reply takes work in a closed service towards its end.** -/
theorem windsOn_answer (real : w.chore ≠ .verifyOpen) (reply : Except TransportError Reply) :
    WindsOn w (w.answer true reply) := by
  rcases answer_cases w true reply with turned | ⟨asking, more⟩ | ⟨e, failed⟩
  · rw [turned]
    exact windsOn_begin w
  · rw [more]
    refine .further _ real ⟨[], ?_⟩ fun can => can
    simp [Work.windUp, Work.changeLeft, Work.unguarded, asked, Work.request?, asking]
  · rw [failed]
    exact .failed e

/-! ## Where the chore at hand is -/

theorem exists_guarded (making : Bool) (at_ : Channel) : ∃ c ∈ part making at_, c.needsOpen = true := by
  cases making with
  | true => exact ⟨.ensureTopic at_.topic, mem_ensureChores.2 (Or.inl rfl), rfl⟩
  | false => exact ⟨.verifyOpen, mem_removeChores.2 (Or.inl rfl), rfl⟩

/-- What makes things needs the service open. -/
theorem needsOpen_of_making {channels : List Channel} (mem : c ∈ parts true channels) :
    c.needsOpen = true := by
  rcases kind_of_mem_parts mem with rfl | making
  · rfl
  · cases c <;> first | rfl | cases making

/-- Within a channel what is left to remove does not need the service open. -/
theorem needsOpen_of_rest {mine rest : List Chore} (real : w.chore ≠ .verifyOpen)
    (own : removeChores at_ = mine ++ w.chore :: rest) (mem : c ∈ rest) : c.needsOpen = false := by
  have after_first : ∀ d ∈ (removeChores at_).tail, d.needsOpen = false := by
    unfold removeChores
    cases at_.subscription with
    | none => simp [Chore.needsOpen]
    | some n => simp [Chore.needsOpen]
  cases mine with
  | nil => exact absurd (congrArg List.head? own) (by simp [removeChores, real.symm])
  | cons d mine =>
    refine after_first c ?_
    rw [own]
    exact List.mem_append_right _ (List.mem_cons_of_mem _ mem)

theorem takeWhile_unguarded_eq_nil (guarded : ∀ d ∈ chores.head?, d.needsOpen = true) :
    chores.takeWhile (fun d => !d.needsOpen) = [] := by
  cases chores with
  | nil => rfl
  | cons d chores => simp [guarded d rfl]

/-- Work that makes things winds up with the chore at hand, and work that removes them with its
channel. -/
theorem windUp_eq {mine rest : List Chore} {channels after : List Channel}
    (real : w.chore ≠ .verifyOpen) (own : part making at_ = mine ++ w.chore :: rest)
    (later : w.later = rest ++ parts making after) (among : ∀ d ∈ w.later, d ∈ parts making channels) :
    w.windUp = atHand making w rest := by
  rw [Work.windUp, atHand, Work.unguarded]
  cases making with
  | true =>
    rw [takeWhile_unguarded_eq_nil fun d first => ?_]
    · rfl
    · exact needsOpen_of_making (among d (List.mem_of_mem_head? first))
  | false =>
    have next : (parts false after).takeWhile (fun d => !d.needsOpen) = [] := by
      refine takeWhile_unguarded_eq_nil fun d first => ?_
      cases after with
      | nil => cases first
      | cons at_ after =>
        cases first
        rfl
    rw [later, List.takeWhile_append_of_pos, next, List.append_nil]
    · rfl
    · intro d mem
      rw [needsOpen_of_rest real own mem]
      rfl

/-- **Where work of a kind is**: in a channel, with what is left for that; and it can come to its end
in a closed service only if it is at the last. -/
theorem exists_channel {r : Registry} (real : w.chore ≠ .verifyOpen)
    (left : w.chore :: w.later <:+ parts making r.toList) :
    ∃ at_ rest, Site making r w at_ rest ∧ w.windUp = atHand making w rest ∧
      (w.CanReturn → AtLast making r at_ rest) := by
  obtain ⟨done, split⟩ := left
  have among : ∀ d ∈ w.later, d ∈ parts making r.toList := fun d mem => by
    rw [← split]
    exact List.mem_append_right _ (List.mem_cons_of_mem _ mem)
  obtain ⟨before, at_, after, mine, rest, channels, own, rfl⟩ := parts_split split.symm
  have whole : parts making r.toList
      = parts making before ++ (part making at_ ++ parts making after) := by
    rw [channels, parts, List.flatMap_append]
    rfl
  have later : w.later = rest ++ parts making after := by
    rw [whole, own, List.append_assoc, List.append_cancel_left_eq, List.append_assoc,
      List.append_cancel_left_eq] at split
    exact (List.cons_eq_cons.1 split).2
  refine ⟨at_, rest, ⟨⟨before, after, channels, later⟩, mine, own⟩, windUp_eq real own later among,
    fun can => ?_⟩
  have none_after : after = [] := by
    cases after with
    | nil => rfl
    | cons other after =>
      obtain ⟨c, mem, guarded⟩ := exists_guarded making other
      have unguarded := can c (by simp [later, parts, mem])
      cases guarded.symm.trans unguarded
  refine ⟨fun other mem larger => ?_, fun makes => ?_⟩
  · rw [channels, none_after, List.mem_append, List.mem_singleton] at mem
    rcases mem with earlier | rfl
    · exact String.lt_asymm larger (Registry.lt_of_mem_before channels earlier)
    · exact String.lt_irrefl _ larger
  · subst makes
    refine List.eq_nil_iff_forall_not_mem.2 fun c mem => ?_
    have inLater : c ∈ w.later := later ▸ List.mem_append_left _ mem
    cases (needsOpen_of_making (among c inLater)).symm.trans (can c inLater)

end Topology

open MessageChannels.Topology (AtLast Placed Site atHand)

namespace System

/-- From here on an operation asks for no more than what was left, a call for an answer; it returns
when it has got more answers than that, and what it returns is an error, with an exception. -/
structure WindsUp (s : System) (op : Nat) (left : List Request) (excepted : Prop) (es : List Event) :
    Prop where
  asks : ∃ more, (s.after es).requests op = s.requests op ++ more ∧ more.Sublist left
  returns : left.length < es.countP (·.isAnswer op) → .abandon op ∉ es →
    ((s.after es).result? op).isSome = true
  fails : ∀ result, (s.after es).result? op = some result → excepted ∨ ∃ e, result = .error e

/-- What an event can do to an operation at topology work. -/
inductive TendsOn (op k : Nat) (w : Work) (e : Event) (s s' : System) : Prop where
  | rests (unanswered : e.isAnswer op = false) (stays : s'.operations[op]? = some ⟨k, .tending w⟩)
      (unasked : s'.requests op = s.requests op)
  | givenUp (up : e = .abandon op) (gone : s'.operations[op]? = some ⟨k, .abandoned⟩)
      (unasked : s'.requests op = s.requests op)
  | answered (reply : Except TransportError Reply)
      (goesOn : s'.operations[op]? = some ⟨k, stateOf (w.answer (s.isClosed k) reply)⟩)
      (asks : s'.requests op = s.requests op ++ asked (w.answer (s.isClosed k) reply))

variable {s s' : System} {op k : Nat} {v : Service} {w : Work} {next : Next} {making : Bool}
  {chores : List Chore} {state : OperationState} {left : List Request} {excepted : Prop}
  {es : List Event} {e : Event}

/-! ## One event -/

/-- **What an event can do to an operation at topology work.** -/
theorem tendsOn_step (found : s.operations[op]? = some ⟨k, .tending w⟩)
    (real : w.chore ≠ .verifyOpen) (e : Event) : TendsOn op k w e s (s.step e) := by
  have begun := (List.getElem?_eq_some_iff.1 found).1
  by_cases about : e.operation s = op
  · cases concerns_of_about begun about with
    | serve =>
      obtain ⟨r, asks⟩ := Work.request?_isSome real
      have waits : s.request? op = some r := by
        simpa [request?, found, OperationState.request?] using asks
      let s₁ : System := { s with broker := (s.broker.perform s.clock r).1 }
      have served : s.step (.serve op)
          = s₁.tend op (w.answer (s.isClosed k) (s.broker.perform s.clock r).2) := by
        simp only [step, serve, waits, answer, found]
        rfl
      have found₁ : s₁.operations[op]? = some ⟨k, .tending w⟩ := found
      rw [served]
      exact .answered _ (getElem?_tend_self found₁ _) (requests_tend _ _ _)
    | reply reply =>
      have replied : s.step (.reply op reply) = s.tend op (w.answer (s.isClosed k) reply) := by
        simp only [step, answer, found]
      rw [replied]
      exact .answered reply (getElem?_tend_self found _) (requests_tend _ _ _)
    | turn =>
      have still : s.step (.turn op) = s := by simp only [step, turn, found]
      rw [still]
      exact .rests rfl found rfl
    | handlerEnded i panicked =>
      have still : s.step (.handlerEnded op i panicked) = s := by
        simp only [step, handlerEnded, found, Option.map_some]
      rw [still]
      exact .rests rfl found rfl
    | abandon =>
      have gone : s.step (.abandon op) = s.setState op .abandoned := by
        simp only [step, abandon, found, Option.map_some]
      rw [gone]
      exact .givenUp rfl (getElem?_setState_self found _) rfl
  · obtain ⟨same, unasked⟩ := s.frame_step e (Ne.symm about) begun
    refine .rests ?_ (same.trans found) unasked
    cases e with
    | serve j => exact decide_eq_false about
    | reply j r => exact decide_eq_false about
    | _ => rfl

/-! ## Any number of events -/

/-- An operation that an event has brought to its end stays there. -/
theorem windsUp_of_ended (found : (s.step e).operations[op]? = some ⟨k, state⟩)
    (unasked : (s.step e).requests op = s.requests op) (idle : state.inProgress = false)
    (returned : .abandon op ∉ e :: es → state.result?.isSome = true)
    (fails : ∀ result, state.result? = some result → excepted ∨ ∃ e, result = .error e) :
    s.WindsUp op left excepted (e :: es) := by
  obtain ⟨stays, more⟩ := ended_after found idle es
  have result : (s.after (e :: es)).result? op = state.result? := by
    rw [after_cons, result?, stays]
    rfl
  constructor
  · exact ⟨[], by rw [after_cons, more, unasked, List.append_nil], List.nil_sublist _⟩
  · exact fun _ kept => result ▸ returned kept
  · exact fun r returned => fails r (result ▸ returned)

/-- An event that does not concern an operation leaves what follows as it is. -/
theorem WindsUp.cons (winds : (s.step e).WindsUp op left excepted es)
    (unanswered : e.isAnswer op = false)
    (unasked : (s.step e).requests op = s.requests op) : s.WindsUp op left excepted (e :: es) := by
  obtain ⟨asks, returns, fails⟩ := winds
  refine ⟨unasked ▸ asks, fun enough none => ?_, fails⟩
  rw [List.countP_cons_of_neg (by simp [unanswered])] at enough
  exact returns enough fun mem => none (List.mem_cons_of_mem _ mem)

theorem WindsUp.imp {wider : Prop} (winds : s.WindsUp op left excepted es)
    (implies : excepted → wider) : s.WindsUp op left wider es :=
  ⟨winds.asks, winds.returns, fun result returned => (winds.fails result returned).imp_left implies⟩

/-- **Work winds up in a closed service**, whatever happens meanwhile. -/
theorem windsUp (found : s.operations[op]? = some ⟨k, .tending w⟩) (real : w.chore ≠ .verifyOpen)
    (service : s.services[k]? = some v) (closed : v.closed = true) (es : List Event) :
    s.WindsUp op w.windUp w.CanReturn es := by
  induction es generalizing s v w with
  | nil =>
    refine ⟨⟨[], (List.append_nil _).symm, List.nil_sublist _⟩, fun enough => ?_, fun r returned => ?_⟩
    · exact absurd enough (Nat.not_lt_zero _)
    · rw [after, List.foldl_nil, result?, found] at returned
      cases returned
  | cons e es ih =>
    obtain ⟨v', service', _, closed'⟩ := closed_after service closed [e]
    have shut : s.isClosed k = true := (isClosed_of_getElem? service).trans closed
    cases tendsOn_step found real e with
    | rests unanswered stays unasked =>
      exact (ih stays real service' closed').cons unanswered unasked
    | givenUp up gone unasked =>
      exact windsUp_of_ended gone unasked rfl (fun kept => absurd (up ▸ List.mem_cons_self) kept)
        fun r returned => by cases returned
    | answered reply goesOn asks =>
      have winds := Topology.windsOn_answer real reply
      rw [shut] at goesOn asks
      generalize w.answer true reply = next at winds goesOn asks
      cases winds with
      | failed failure =>
        rw [show asked (.error failure) = [] from rfl, List.append_nil] at asks
        exact windsUp_of_ended goesOn asks rfl (fun _ => rfl) fun r returned =>
          Or.inr ⟨failure, (Option.some.inj returned).symm⟩
      | emptied last =>
        rw [show asked (.ok none) = [] from rfl, List.append_nil] at asks
        refine windsUp_of_ended goesOn asks rfl (fun _ => rfl) fun r returned => Or.inl ?_
        rw [Work.CanReturn, last]
        exact fun _ listed => absurd listed List.not_mem_nil
      | further w' real' less alike =>
        obtain ⟨⟨more, requests, rest⟩, returns, fails⟩ := ih goesOn real' service' closed'
        have shorter := less.length_le
        rw [List.length_append, Topology.length_asked real'] at shorter
        refine ⟨⟨_ ++ more, ?_, ((List.Sublist.refl _).append rest).trans less.sublist⟩,
          fun enough kept => returns ?_ fun mem => kept (List.mem_cons_of_mem _ mem),
          fun r returned => (fails r returned).imp_left alike⟩
        · rw [after_cons, requests, asks, List.append_assoc]
        · have counted := List.countP_cons (p := (·.isAnswer op)) (a := e) (l := es)
          split at counted <;> omega

/-! ## From its closing on -/

theorem operations_begin_wholly (alive : s.service? k = some v) (making : Bool) :
    (s.step (.begin k (wholly making))).operations[s.operations.length]? = some ⟨k, stateOf
      (Topology.begin v.closed (.verifyOpen :: parts making v.registry.toList))⟩ := by
  rw [step_begin alive]
  cases making with
  | true => exact getElem?_tend_self (s.getElem?_addOperation k) _
  | false => exact getElem?_tend_self (s.getElem?_addOperation k) _

theorem placed_stateOf (placed : ∀ w, next = .ok (some w) →
    w.chore ≠ .verifyOpen ∧ w.chore :: w.later <:+ chores) : Placed chores (stateOf next) := by
  cases next with
  | error e => exact .ended rfl
  | ok work =>
    cases work with
    | none => exact .ended rfl
    | some w => exact .working w (placed w rfl).1 (placed w rfl).2

/-- An event leaves an operation at a chore of its list, or brings it to its end. -/
theorem placed_step (found : s.operations[op]? = some ⟨k, state⟩) (placed : Placed chores state)
    (e : Event) :
    ∃ state, (s.step e).operations[op]? = some ⟨k, state⟩ ∧ Placed chores state := by
  cases placed with
  | ended idle => exact ⟨state, (ended_step found idle e).1, .ended idle⟩
  | working w real left =>
    cases tendsOn_step found real e with
    | rests unanswered stays => exact ⟨_, stays, .working w real left⟩
    | givenUp up gone => exact ⟨_, gone, .ended rfl⟩
    | answered reply goesOn =>
      refine ⟨_, goesOn, placed_stateOf fun w' answered => ?_⟩
      obtain ⟨real', suffix⟩ := Topology.answer_suffix real answered
      exact ⟨real', suffix.trans left⟩

theorem placed_after (found : s.operations[op]? = some ⟨k, state⟩) (placed : Placed chores state)
    (es : List Event) :
    ∃ state, (s.after es).operations[op]? = some ⟨k, state⟩ ∧ Placed chores state := by
  induction es generalizing s state with
  | nil => exact ⟨state, found, placed⟩
  | cons e es ih =>
    obtain ⟨state', found', placed'⟩ := placed_step found placed e
    exact ih found' placed'

/-- Work that waits is at a chore of the channels. -/
theorem left_of_tending (alive : s.service? k = some v) (before : List Event)
    (waits : ((s.step (.begin k (wholly making))).after before).operations[s.operations.length]?
      = some ⟨k, .tending w⟩) :
    w.chore ≠ .verifyOpen ∧ w.chore :: w.later <:+ parts making v.registry.toList := by
  have begun : Placed (parts making v.registry.toList) (stateOf
      (Topology.begin v.closed (.verifyOpen :: parts making v.registry.toList))) := by
    refine placed_stateOf fun w begun => ?_
    obtain ⟨real, suffix⟩ := Topology.begin_suffix begun
    rcases List.suffix_cons_iff.1 suffix with whole | suffix
    · exact absurd (List.cons_eq_cons.1 whole).1 real
    · exact ⟨real, suffix⟩
  obtain ⟨state, found, placed⟩ := placed_after (operations_begin_wholly alive making) begun before
  cases waits.symm.trans found
  cases placed with
  | ended idle => cases idle
  | working w real left => exact ⟨real, left⟩

/-- A service is held while one of its operations goes on. -/
theorem service?_of_inProgress (found : s.operations[op]? = some ⟨k, state⟩)
    (busy : state.inProgress = true) (service : s.services[k]? = some v) :
    s.service? k = some v := by
  have living : s.isAlive k = true := by
    rw [isAlive, Bool.or_eq_true]
    exact Or.inr (List.any_eq_true.2 ⟨_, List.mem_of_getElem? found, by simp [busy]⟩)
  rw [service?, if_pos living, service]

/-- **Closing stops topology work in progress**: whatever happens before and after, of what was to be
done when a service is closed there is only asked for what was at hand, and the work ends with an
error unless it was at the last. -/
theorem closingStops (alive : s.service? k = some v) (making : Bool) (before es : List Event)
    (waits : ((s.step (.begin k (wholly making))).after before).operations[s.operations.length]?
      = some ⟨k, .tending w⟩) :
    (((s.step (.begin k (wholly making))).after before).step (.begin k .close)).isClosed k = true ∧
      ∃ at_ rest, Site making v.registry w at_ rest ∧
        ((s.step (.begin k (wholly making))).after before).WindsUp s.operations.length
          (atHand making w rest) (AtLast making v.registry at_ rest) (.begin k .close :: es) := by
  obtain ⟨real, left⟩ := left_of_tending alive before waits
  obtain ⟨at_, rest, site, windUp, last⟩ := Topology.exists_channel real left
  obtain ⟨v₁, service, _⟩ := (lasts_after s (.begin k (wholly making) :: before)).services k v
    (service?_eq_some alive)
  rw [after_cons] at service
  generalize (s.step (.begin k (wholly making))).after before = s₁ at waits service
  have alive₁ : s₁.service? k = some v₁ := service?_of_inProgress waits rfl service
  have shut := services_step_close alive₁
  have apart : s.operations.length ≠ s₁.operations.length :=
    Nat.ne_of_lt (List.getElem?_eq_some_iff.1 waits).1
  obtain ⟨same, unasked⟩ := s₁.frame_step (.begin k .close) apart
    (List.getElem?_eq_some_iff.1 waits).1
  refine ⟨isClosed_of_getElem? shut, at_, rest, site, ?_⟩
  have winds := windsUp (same.trans waits) real shut rfl es
  rw [windUp] at winds
  exact (winds.cons rfl unasked).imp last

/-- A service of two channels is closed when it looks whether the topic of the first is there, which
is then removed; the second channel keeps its own. -/
theorem closingStops_firstChannel :
    (∃ w, (((start .epoch).after ordersSetting).step (.begin 0 (wholly false))).operations[0]?
        = some ⟨0, .tending w⟩ ∧
      ∃ at_ rest, Site false ordersService.registry w at_ rest ∧
        (((start .epoch).after ordersSetting).step (.begin 0 (wholly false))).WindsUp 0
          (atHand false w rest) (AtLast false ordersService.registry at_ rest)
          [.begin 0 .close, .serve 0, .serve 0]) ∧
      (((start .epoch).after ordersSetting).after
        [.begin 0 .deleteAll, .begin 0 .close, .serve 0, .serve 0]).result? 0
          = some (.error .closed) ∧
      (((start .epoch).after ordersSetting).after
        [.begin 0 .deleteAll, .begin 0 .close, .serve 0, .serve 0]).broker.hasTopic "dead-topic"
          = false ∧
      (((start .epoch).after ordersSetting).after
        [.begin 0 .deleteAll, .begin 0 .close, .serve 0, .serve 0]).broker.hasTopic "orders-topic"
          = true := by
  have alive : ((start .epoch).after ordersSetting).service? 0 = some ordersService := rfl
  refine ⟨⟨_, rfl, (closingStops alive false [] [.serve 0, .serve 0] rfl).2⟩, ?_, ?_, ?_⟩
  all_goals decide +kernel

end System

end MessageChannels
