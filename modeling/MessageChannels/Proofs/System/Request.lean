import MessageChannels.Proofs.System.Broker
import MessageChannels.Proofs.System.Frame

/-!
# What operations ask for, and what they are replied

An operation is touched only by the events that are about it (`frame_step`), and one that has
finished by none (`finished_after`). What an operation asked stands in the journal, the reply that
ended its wait is the first that it got while it waited, and the messages that it brought into the
broker are those accepted when it was served.
-/

set_option autoImplicit false

namespace MessageChannels

namespace System

/-- What an operation asked of the transport, in order. -/
def requests (s : System) (op : Nat) : List Request :=
  s.journal.filterMap fun entry =>
    match entry with
    | .asked k r => if k = op then some r else none
    | _ => none

/-- The reply that an event gives an operation which waits for one. -/
def replyIn (s : System) (op : Nat) : Event → Option (Except TransportError Reply)
  | .serve k =>
    if k = op then (s.request? op).map fun r => (s.broker.perform s.clock r).2 else none
  | .reply k r => if k = op ∧ (s.request? op).isSome then some r else none
  | _ => none

/-- The first reply that an operation gets in a run. -/
def replyTo? (s : System) (op : Nat) : List Event → Option (Except TransportError Reply)
  | [] => none
  | e :: es =>
    match s.replyIn op e with
    | some r => some r
    | none => (s.step e).replyTo? op es

/-- What an event makes the broker accept from an operation. -/
def acceptedIn (s : System) (op : Nat) : Event → List (String × Message)
  | .serve k =>
    if k = op then (s.serve k).broker.published.drop s.broker.published.length else []
  | _ => []

/-- What the broker accepts from an operation in a run, with the topics. -/
def acceptedFrom (s : System) (op : Nat) : List Event → List (String × Message)
  | [] => []
  | e :: es => s.acceptedIn op e ++ (s.step e).acceptedFrom op es

variable {e : Event} {op k : Nat} {s s' : System}

/-! ## Requests in the journal -/

theorem requests_congr (journal : s'.journal = s.journal) (k : Nat) :
    s'.requests k = s.requests k := by
  unfold requests
  rw [journal]

theorem requests_note (s : System) (n : Note) (k : Nat) :
    (s.note n).requests k = s.requests k := by
  simp [requests, note, record]

theorem requests_asked (s : System) (op : Nat) (r : Request) (k : Nat) :
    (s.record (.asked op r)).requests k = s.requests k ++ if k = op then [r] else [] := by
  by_cases h : k = op
  · simp [requests, record, h]
  · simp [requests, record, h, Ne.symm h]

theorem requests_useAcker (s : System) (i : Nat) (a : Acker) (v : Settlement) (k : Nat) :
    (s.useAcker i a v).requests k = s.requests k := by
  simp [requests, journal_useAcker]

theorem requests_settleFrom (s : System) (i : Nat) (d : Disposition) (v : Settlement) (k : Nat) :
    (s.settleFrom i d v).requests k = s.requests k := by
  rcases s.settleFrom_cases i d v with same | ⟨made, _, _, heq⟩
  · rw [same]
  · rw [heq, count, requests_note, requests_useAcker]
    rfl

theorem requests_dropAcker (s : System) (a : Acker) (k : Nat) :
    (s.dropAcker a).requests k = s.requests k := by
  cases a <;> rfl

/-- An act asks for the operation that it is about, which waits for it, or for none. -/
theorem Act.requests (act : Act e op s s') :
    (∀ k, s'.requests k = s.requests k) ∨
      op < s.operations.length ∧ ∀ k, k ≠ op → s'.requests k = s.requests k := by
  cases act with
  | asked r waits =>
    obtain ⟨o, standing, _⟩ := Option.bind_eq_some_iff.1 waits
    refine Or.inr ⟨(List.getElem?_eq_some_iff.1 standing).1, fun k h => ?_⟩
    rw [requests_asked, if_neg h, List.append_nil]
  | wrote n => exact Or.inl (requests_note s n)
  | looked source nothing => exact Or.inl (requests_congr (journal_poll s source))
  | leftSource source => cases source <;> exact Or.inl fun _ => rfl
  | gaveUp i made cause found => exact Or.inl (requests_dropAcker s made.acker)
  | pulled k l d found phase shown => exact Or.inl (requests_congr (journal_poll s l.source))
  | handed k l d cause found phase => exact Or.inl (requests_note _ _)
  | letGo k l d outcome found phase => exact Or.inl (requests_dropAcker s d.acker)
  | collected k c d found shown =>
    exact Or.inl fun j => (requests_note _ _ j).trans (requests_congr (journal_poll s c.source) j)
  | settled i made v found received cause => exact Or.inl (requests_settleFrom s i _ v)
  | left i k p v channel result cause standing purpose =>
    exact Or.inl (requests_settleFrom s i _ v)
  | _ => exact Or.inl fun _ => rfl

/-! ## What was asked stays asked -/

/-- An act only adds to the journal. -/
theorem Act.journal (act : Act e op s s') : s.journal <+: s'.journal := by
  have same {j : List Entry} (h : j = s.journal) : s.journal <+: j := h ▸ List.prefix_refl _
  cases act with
  | wrote n => exact List.prefix_append _ _
  | asked r waits => exact List.prefix_append _ _
  | looked source nothing => exact same (journal_poll s source)
  | leftSource source => exact same (journal_dropSource s source)
  | gaveUp i made cause found => exact same (journal_dropAcker s made.acker)
  | pulled k l d found phase shown => exact same (journal_poll s l.source)
  | handed k l d cause found phase => exact List.prefix_append _ _
  | letGo k l d outcome found phase => exact same (journal_dropAcker s d.acker)
  | collected k c d found shown =>
    show s.journal <+: (s.poll c.source).1.journal ++ _
    rw [journal_poll]
    exact List.prefix_append _ _
  | settled i made v found received cause => exact journal_settleFrom s i _ v
  | left i k p v channel result cause standing purpose => exact journal_settleFrom s i _ v
  | _ => exact List.prefix_refl _

theorem journal_acts (acts : Acts e op s s') : s.journal <+: s'.journal := by
  induction acts with
  | refl => exact List.prefix_refl _
  | tail _ act ih => exact ih.trans act.journal

/-- **The journal only grows.** -/
theorem journal_after (s : System) (es : List Event) : s.journal <+: (s.after es).journal := by
  induction es generalizing s with
  | nil => exact List.prefix_refl _
  | cons e es ih => exact (journal_acts (s.acts_step e)).trans (ih (s.step e))

/-- What an operation asked stays asked. -/
theorem requests_after (s : System) (op : Nat) (es : List Event) :
    s.requests op <+: (s.after es).requests op :=
  (s.journal_after es).filterMap _

/-! ## What an event leaves alone -/

/-- An act begins an operation, or changes where the one that it is about stands, or neither. -/
theorem Act.operations (act : Act e op s s') :
    s'.operations = s.operations ∨
      (∃ o, op = s.operations.length ∧ s'.operations = s.operations ++ [o]) ∨
      ∃ state, s'.operations = (s.setState op state).operations := by
  have set {s₁ : System} {state : OperationState} (same : s₁.operations = s.operations) :
      (s₁.setState op state).operations = (s.setState op state).operations := by
    simp only [setState, same]
  cases act with
  | looked source nothing => exact Or.inl (operations_poll s source)
  | leftSource source => cases source <;> exact Or.inl rfl
  | gaveUp i made cause found => cases made.acker <;> exact Or.inl rfl
  | started service new => exact Or.inr (Or.inl ⟨_, new, rfl⟩)
  | moved o state found plain => exact Or.inr (Or.inr ⟨state, rfl⟩)
  | registered j v o c found service lookup topic subscription opened =>
    exact Or.inr (Or.inr ⟨_, rfl⟩)
  | pulled j l d found phase shown => exact Or.inr (Or.inr ⟨_, set (operations_poll s l.source)⟩)
  | handed j l d cause found phase => exact Or.inr (Or.inr ⟨_, rfl⟩)
  | letGo j l d outcome found phase =>
    refine Or.inr (Or.inr ⟨_, set ?_⟩)
    cases d.acker <;> rfl
  | collected j c d found shown => exact Or.inl (operations_poll s c.source)
  | settled i made v found received cause => exact Or.inl (operations_settleFrom s i _ v)
  | entered i made p j c text channel cause found received standing purpose =>
    exact Or.inr (Or.inr ⟨_, rfl⟩)
  | left i j p v channel result cause standing purpose =>
    exact Or.inr (Or.inr ⟨_, set (operations_settleFrom s i _ v)⟩)
  | dropped o i cause found routing => exact Or.inr (Or.inr ⟨_, rfl⟩)
  | _ => exact Or.inl rfl

theorem Act.length_le (act : Act e op s s') : s.operations.length ≤ s'.operations.length := by
  rcases act.operations with same | ⟨o, _, grown⟩ | ⟨state, changed⟩
  · exact Nat.le_of_eq (congrArg List.length same).symm
  · rw [grown, List.length_append]
    omega
  · have same : s'.operations.length = s.operations.length := by
      rw [changed, setState, List.length_modify]
    omega

/-- Acts leave an operation alone that they are not about. -/
theorem frame_acts (acts : Acts e op s s') (h : k ≠ op) (begun : k < s.operations.length) :
    s'.operations[k]? = s.operations[k]? ∧ s'.requests k = s.requests k := by
  suffices all : s.operations.length ≤ s'.operations.length ∧
      s'.operations[k]? = s.operations[k]? ∧ s'.requests k = s.requests k from all.2
  induction acts with
  | refl => exact ⟨Nat.le_refl _, rfl, rfl⟩
  | tail _ act ih =>
    obtain ⟨hlength, hoperation, hrequests⟩ := ih
    refine ⟨Nat.le_trans hlength act.length_le, ?_, ?_⟩
    · rw [← hoperation]
      rcases act.operations with same | ⟨o, _, grown⟩ | ⟨state, changed⟩
      · rw [same]
      · rw [grown, List.getElem?_append_left (by omega)]
      · rw [changed, getElem?_setState, if_neg h]
    · rw [← hrequests]
      rcases act.requests with same | ⟨_, others⟩
      · exact same k
      · exact others k h

theorem length_le_acts (acts : Acts e op s s') : s.operations.length ≤ s'.operations.length := by
  induction acts with
  | refl => exact Nat.le_refl _
  | tail _ act ih => exact Nat.le_trans ih act.length_le

theorem length_le_after (s : System) (es : List Event) :
    s.operations.length ≤ (s.after es).operations.length := by
  induction es generalizing s with
  | nil => exact Nat.le_refl _
  | cons e es ih => exact Nat.le_trans (length_le_acts (s.acts_step e)) (ih (s.step e))

/-- An operation that was not begun asked for nothing. -/
theorem Reachable.requests_eq_nil (reachable : s.Reachable) {k : Nat}
    (unbegun : s.operations.length ≤ k) : s.requests k = [] := by
  refine reachable.induction (P := fun s => ∀ k, s.operations.length ≤ k → s.requests k = [])
    (fun now k _ => rfl) (fun s e h => ?_) k unbegun
  have acts := s.acts_step e
  generalize s.step e = s' at acts
  induction acts with
  | refl => exact h
  | @tail s₁ s₂ _ act ih =>
    intro k unbegun
    have bound := act.length_le
    rcases act.requests with same | ⟨begun, others⟩
    · rw [same]
      exact ih k (by omega)
    · rw [others k (by omega)]
      exact ih k (by omega)

/-- An event leaves an operation alone that it is not about. -/
theorem frame_step (s : System) (e : Event) (h : k ≠ e.operation s)
    (begun : k < s.operations.length) :
    (s.step e).operations[k]? = s.operations[k]? ∧ (s.step e).requests k = s.requests k :=
  frame_acts (s.acts_step e) h begun

/-! ## An operation that waits for nothing -/

/-- The events about an operation that was begun before. -/
inductive Concerns (op : Nat) : Event → Prop where
  | serve : Concerns op (.serve op)
  | reply (r : Except TransportError Reply) : Concerns op (.reply op r)
  | turn : Concerns op (.turn op)
  | handlerEnded (i : Nat) (panicked : Bool) : Concerns op (.handlerEnded op i panicked)
  | abandon : Concerns op (.abandon op)

theorem concerns_of_about (begun : op < s.operations.length) (about : e.operation s = op) :
    Concerns op e := by
  cases e with
  | serve k =>
    obtain rfl : k = op := about
    exact .serve
  | reply k r =>
    obtain rfl : k = op := about
    exact .reply r
  | turn k =>
    obtain rfl : k = op := about
    exact .turn
  | handlerEnded k i panicked =>
    obtain rfl : k = op := about
    exact .handlerEnded i panicked
  | abandon k =>
    obtain rfl : k = op := about
    exact .abandon
  | _ =>
    have unbegun : s.operations.length = op := about
    omega

/-- An operation stays as it is while nothing happens that is about it. -/
theorem unconcerned_after {o : Operation} (standing : s.operations[op]? = some o) {es : List Event}
    (others : ∀ e ∈ es, ¬ Concerns op e) : (s.after es).operations[op]? = some o := by
  induction es generalizing s with
  | nil => exact standing
  | cons e es ih =>
    obtain ⟨other, others⟩ := List.forall_mem_cons.1 others
    have begun := (List.getElem?_eq_some_iff.1 standing).1
    have apart : op ≠ e.operation s := fun h => other (concerns_of_about begun h.symm)
    exact ih ((s.frame_step e apart begun).1.trans standing) others

theorem setState_eq_self {state : OperationState} {j : Nat}
    (standing : s.operations[op]? = some ⟨j, state⟩) : s.setState op state = s := by
  have same : (s.setState op state).operations = s.operations := by
    apply List.ext_getElem?
    intro k
    rw [getElem?_setState]
    by_cases h : k = op
    · subst h
      rw [if_pos rfl, standing]
      rfl
    · rw [if_neg h]
  show { s with operations := (s.setState op state).operations } = s
  rw [same]

theorem map_state_of_getElem? {o : Operation} (found : s.operations[op]? = some o) :
    (s.operations[op]?).map Operation.state = some o.state := by
  rw [found, Option.map_some]

theorem request?_of_ended {state : OperationState} {j : Nat}
    (standing : s.operations[op]? = some ⟨j, state⟩) (ended : state.inProgress = false) :
    s.request? op = none := by
  rw [request?, standing]
  cases state <;> first | rfl | cases ended

/-- An operation that has come to an end is touched by no event. -/
theorem step_of_ended {state : OperationState} {j : Nat}
    (standing : s.operations[op]? = some ⟨j, state⟩) (ended : state.inProgress = false)
    (about : e.operation s = op) : s.step e = s := by
  have stands := map_state_of_getElem? standing
  cases concerns_of_about (List.getElem?_eq_some_iff.1 standing).1 about with
  | serve =>
    simp only [step, serve, request?_of_ended standing ended]
  | reply r =>
    simp only [step, answer, standing]
    cases state <;> first | rfl | cases ended
  | turn =>
    simp only [step, turn, standing]
    cases state <;> first | rfl | cases ended
  | handlerEnded i panicked =>
    simp only [step, handlerEnded, stands]
    cases state <;> first | rfl | cases ended
  | abandon =>
    simp only [step, abandon, stands]
    cases state with
    | finished result => rfl
    | abandoned => exact setState_eq_self standing
    | _ => cases ended

theorem ended_step {state : OperationState} {j : Nat}
    (standing : s.operations[op]? = some ⟨j, state⟩) (ended : state.inProgress = false)
    (e : Event) :
    (s.step e).operations[op]? = some ⟨j, state⟩ ∧ (s.step e).requests op = s.requests op := by
  by_cases h : e.operation s = op
  · rw [step_of_ended standing ended h]
    exact ⟨standing, rfl⟩
  · have begun := (List.getElem?_eq_some_iff.1 standing).1
    obtain ⟨same, requests⟩ := s.frame_step e (Ne.symm h) begun
    exact ⟨same.trans standing, requests⟩

/-- An operation that has come to an end stays as it is and asks for nothing more. -/
theorem ended_after {state : OperationState} {j : Nat}
    (standing : s.operations[op]? = some ⟨j, state⟩) (ended : state.inProgress = false)
    (es : List Event) :
    (s.after es).operations[op]? = some ⟨j, state⟩ ∧
      (s.after es).requests op = s.requests op := by
  induction es generalizing s with
  | nil => exact ⟨standing, rfl⟩
  | cons e es ih =>
    obtain ⟨next, requests⟩ := ended_step standing ended e
    obtain ⟨last, unasked⟩ := ih next
    exact ⟨last, unasked.trans requests⟩

/-- An operation that asks for nothing gets no reply and brings nothing into the broker. -/
theorem unasked_step (unasked : s.request? op = none) (e : Event) :
    s.replyIn op e = none ∧ s.acceptedIn op e = [] := by
  constructor
  · unfold replyIn
    split
    · simp [unasked]
    · simp [unasked]
    · rfl
  · unfold acceptedIn
    split
    · split
      · rename_i h
        subst h
        simp only [serve, unasked, List.drop_length]
      · rfl
    · rfl

/-- An operation that has finished stays as it is, asks for nothing more, gets no reply and brings
nothing into the broker. -/
theorem finished_after {result : Except ChannelError Outcome} {j : Nat}
    (standing : s.operations[op]? = some ⟨j, .finished result⟩) (es : List Event) :
    (s.after es).operations[op]? = some ⟨j, .finished result⟩ ∧
      (s.after es).requests op = s.requests op ∧ s.replyTo? op es = none ∧
      s.acceptedFrom op es = [] := by
  induction es generalizing s with
  | nil => exact ⟨standing, rfl, rfl, rfl⟩
  | cons e es ih =>
    have next := ended_step standing rfl e
    obtain ⟨noReply, nothing⟩ := unasked_step (request?_of_ended standing rfl) e
    obtain ⟨hstanding, hrequests, hreply, haccepted⟩ := ih next.1
    refine ⟨hstanding, hrequests.trans next.2, ?_, ?_⟩
    · rw [replyTo?, noReply]
      exact hreply
    · rw [acceptedFrom, nothing]
      exact haccepted

/-- Before an operation is begun, nothing is replied to it or accepted from it. -/
theorem unbegun_step (unbegun : s.operations.length ≤ op) (e : Event) :
    s.replyIn op e = none ∧ s.acceptedIn op e = [] := by
  have waits : s.request? op = none := by
    simp [request?, List.getElem?_eq_none unbegun]
  exact unasked_step waits e

/-- An operation that was not begun is still not begun after acts that are not about it. -/
theorem unbegun_acts {s' : System} {n : Nat} (acts : Acts e op s s') (other : n ≠ op)
    (unbegun : s.operations.length ≤ n) : s'.operations.length ≤ n := by
  induction acts with
  | refl => exact unbegun
  | tail _ act ih =>
    rcases act.operations with same | ⟨o, new, grown⟩ | ⟨state, changed⟩
    · rw [same]
      exact ih
    · rw [grown, List.length_append, List.length_singleton]
      omega
    · rw [changed, setState, List.length_modify]
      exact ih

/-- An operation that was not begun is begun by a call, or is still not begun. -/
theorem begun_or_unbegun (unbegun : s.operations.length ≤ op) (e : Event) :
    (s.step e).operations.length ≤ op ∨ op = s.operations.length ∧
      ((∃ k c, e = .begin k c) ∨ ∃ i c cause, e = .fail i c cause) := by
  by_cases about : e.operation s = op
  · have nothing : s.operations[op]? = none := List.getElem?_eq_none unbegun
    have stays (same : (s.step e).operations = s.operations) :
        (s.step e).operations.length ≤ op := same ▸ unbegun
    cases e with
    | begin k c => exact Or.inr ⟨about.symm, Or.inl ⟨k, c, rfl⟩⟩
    | fail i c cause => exact Or.inr ⟨about.symm, Or.inr ⟨i, c, cause, rfl⟩⟩
    | serve j =>
      obtain rfl : j = op := about
      refine Or.inl (stays ?_)
      simp only [step, serve, request?, nothing, Option.bind_none]
    | reply j r =>
      obtain rfl : j = op := about
      refine Or.inl (stays ?_)
      simp only [step, answer, nothing]
    | turn j =>
      obtain rfl : j = op := about
      refine Or.inl (stays ?_)
      simp only [step, turn, nothing]
    | handlerEnded j i panicked =>
      obtain rfl : j = op := about
      refine Or.inl (stays ?_)
      simp only [step, handlerEnded, nothing, Option.map_none]
    | abandon j =>
      obtain rfl : j = op := about
      left
      simp only [step, abandon, nothing, Option.map_none, setState, List.length_modify]
      exact unbegun
    | ack i => exact Or.inl (stays (operations_settleFrom s i _ _))
    | nack i => exact Or.inl (stays (operations_settleFrom s i _ _))
    | release i =>
      refine Or.inl (stays ?_)
      show (s.release i).operations = _
      unfold release
      split
      · rfl
      · rename_i made _
        cases made.acker <;> rfl
    | _ => exact Or.inl unbegun
  · exact Or.inl (unbegun_acts (s.acts_step e) (Ne.symm about) unbegun)

end System

end MessageChannels
