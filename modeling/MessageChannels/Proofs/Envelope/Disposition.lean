import MessageChannels.Proofs.Delivery.Owner

/-!
# How the disposition of an envelope changes

An act leaves envelopes alone, makes one, settles one that is only received, or lets a dead-letter
route enter, leave or drop the wait for its publish (`Touch`). Two facts hold wherever a run leads
(`Settled`): what was passed to the handle of an envelope is what its disposition says, and an
operation that waits for an envelope is the only one and finds the envelope pending.
-/

set_option autoImplicit false

namespace MessageChannels

/-- The settlement that a disposition stands for. -/
def Disposition.settlement? : Disposition → Option Settlement
  | acked => some .ack
  | nacked => some .nack
  | _ => none

@[simp] theorem Settlement.settlement?_disposition (v : Settlement) :
    v.disposition.settlement? = some v := by
  cases v <;> rfl

@[simp] theorem Settlement.isTerminal_disposition (v : Settlement) :
    v.disposition.isTerminal = true := by
  cases v <;> rfl

/-- What was passed to the handle of an envelope that stands where it stands. -/
def Envelope.settlements (made : Envelope) : List (Acker × Settlement) :=
  (made.disposition.settlement?.map fun v => (made.acker, v)).toList

namespace System

/-- What was passed to the handle of an envelope, with the handle. -/
def settlements (s : System) (i : Nat) : List (Acker × Settlement) :=
  s.journal.filterMap fun entry =>
    match entry with
    | .settled j a v => if j = i then some (a, v) else none
    | _ => none

/-- The envelope that waits for the publish of an operation. -/
def routing? (s : System) (op : Nat) : Option Nat :=
  (s.operations[op]?).bind fun o => o.state.routing?

variable {e : Event} {op : Nat} {s s' : System}

/-- An envelope was settled, and nothing else was. -/
structure SettledAs (s s' : System) (i : Nat) (made : Envelope) (v : Settlement) : Prop where
  envelopes : s'.envelopes = s.envelopes.set i { made with disposition := v.disposition }
  settlements : ∀ j, s'.settlements j = s.settlements j ++ if j = i then [(made.acker, v)] else []

/-- What an act does to envelopes and to operations that an envelope waits for. -/
inductive Touch (e : Event) (op : Nat) (s s' : System) : Prop where
  | still (envelopes : s'.envelopes = s.envelopes)
      (settlements : ∀ i, s'.settlements i = s.settlements i)
      (routing : ∀ k, s'.routing? k = s.routing? k)
  | made (new : Envelope) (received : new.disposition = .received)
      (envelopes : s'.envelopes = s.envelopes ++ [new])
      (settlements : ∀ i, s'.settlements i = s.settlements i)
      (routing : ∀ k, s'.routing? k = s.routing? k)
  | settled (i : Nat) (made : Envelope) (v : Settlement) (found : s.envelopes[i]? = some made)
      (received : made.disposition = .received) (cause : e.MaySettle op i)
      (settled : s.SettledAs s' i made v) (routing : ∀ k, s'.routing? k = s.routing? k)
  | entered (i : Nat) (made : Envelope) (c : FailureCommand) (text : String)
      (cause : e = .fail i c text) (found : s.envelopes[i]? = some made)
      (received : made.disposition = .received) (idle : s.routing? op = none)
      (envelopes : s'.envelopes
        = s.envelopes.set i { made with disposition := .deadLetterPending })
      (settlements : ∀ j, s'.settlements j = s.settlements j)
      (routing : ∀ k, s'.routing? k = if k = op then some i else s.routing? k)
  | left (i : Nat) (made : Envelope) (v : Settlement) (cause : e.Answers op)
      (waits : s.routing? op = some i) (found : s.envelopes[i]? = some made)
      (pending : made.disposition = .deadLetterPending) (settled : s.SettledAs s' i made v)
      (routing : ∀ k, s'.routing? k = if k = op then none else s.routing? k)
  | dropped (cause : e = .abandon op) (envelopes : s'.envelopes = s.envelopes)
      (settlements : ∀ i, s'.settlements i = s.settlements i)
      (routing : ∀ k, s'.routing? k = if k = op then none else s.routing? k)

/-- What holds of envelopes wherever a run leads. -/
structure Settled (s : System) : Prop where
  settlements : ∀ i made, s.envelopes[i]? = some made → s.settlements i = made.settlements
  unmade : ∀ i, s.envelopes.length ≤ i → s.settlements i = []
  pending : ∀ k i, s.routing? k = some i →
    ∃ made, s.envelopes[i]? = some made ∧ made.disposition = .deadLetterPending
  alone : ∀ k k' i, s.routing? k = some i → s.routing? k' = some i → k = k'

/-! ## Acts -/

theorem routing?_setState (s : System) (op : Nat) (state : OperationState) (k : Nat) :
    (s.setState op state).routing? k
      = if k = op then (s.operations[op]?).bind fun _ => state.routing? else s.routing? k := by
  unfold routing?
  rw [getElem?_setState]
  by_cases h : k = op
  · subst h
    simp only [if_true]
    cases s.operations[k]? <;> rfl
  · simp [h]

/-- An operation that no envelope waited for, and none waits for, leaves all others as they are. -/
theorem routing?_setState_same {o : Operation} {state : OperationState}
    (found : s.operations[op]? = some o) (same : state.routing? = o.state.routing?) (k : Nat) :
    (s.setState op state).routing? k = s.routing? k := by
  rw [routing?_setState]
  by_cases h : k = op
  · subst h
    simp [routing?, found, same]
  · simp [h]

theorem routing?_congr (operations : s'.operations = s.operations) (k : Nat) :
    s'.routing? k = s.routing? k := by
  unfold routing?
  rw [operations]

theorem settlements_congr (journal : s'.journal = s.journal) (i : Nat) :
    s'.settlements i = s.settlements i := by
  unfold settlements
  rw [journal]

theorem settlements_note (s : System) (n : Note) (i : Nat) :
    (s.note n).settlements i = s.settlements i := by
  simp [settlements, note, record]

theorem settlements_asked (s : System) (op : Nat) (r : Request) (i : Nat) :
    (s.record (.asked op r)).settlements i = s.settlements i := by
  simp [settlements, record]

theorem settlements_useAcker (s : System) (i : Nat) (a : Acker) (v : Settlement) (j : Nat) :
    (s.useAcker i a v).settlements j
      = s.settlements j ++ if j = i then [(a, v)] else [] := by
  unfold settlements
  rw [journal_useAcker, List.filterMap_append]
  by_cases h : j = i
  · simp [h]
  · simp [h, Ne.symm h]

theorem settleFrom_settledAs {i : Nat} {made : Envelope} (found : s.envelopes[i]? = some made)
    (v : Settlement) : s.SettledAs (s.settleFrom i made.disposition v) i made v := by
  have heq : s.settleFrom i made.disposition v
      = ((s.setDisposition i v.disposition).useAcker i made.acker v).count (settlementCounter v)
        made.channel := by
    simp [settleFrom, found]
  rw [heq]
  constructor
  · show ((s.setDisposition i v.disposition).useAcker i made.acker v).envelopes = _
    rw [envelopes_useAcker, envelopes_setDisposition found]
  · intro j
    rw [count, settlements_note, settlements_useAcker]
    rfl

theorem still_dropAcker (s : System) (a : Acker) : Touch e op s (s.dropAcker a) := by
  cases a <;> exact .still rfl (fun _ => rfl) fun _ => rfl

theorem still_poll (s : System) (source : Source) : Touch e op s (s.poll source).1 :=
  .still (envelopes_poll s source) (settlements_congr (journal_poll s source))
    (routing?_congr (operations_poll s source))

/-- What an act does to envelopes and to operations that wait for them. -/
theorem Act.touch (act : Act e op s s') (settled : s.Settled) : Touch e op s s' := by
  cases act with
  | world services clock tokens scripts kept => exact .still rfl (fun _ => rfl) fun _ => rfl
  | wrote n => exact .still rfl (settlements_note s n) fun _ => rfl
  | asked r waits => exact .still rfl (settlements_asked s op r) fun _ => rfl
  | direct c cause => exact .still rfl (fun _ => rfl) fun _ => rfl
  | performed r cause waits => exact .still rfl (fun _ => rfl) fun _ => rfl
  | looked source nothing => exact still_poll s source
  | leftSource source => cases source <;> exact .still rfl (fun _ => rfl) fun _ => rfl
  | gaveUp i made cause found => exact still_dropAcker s made.acker
  | started service new =>
    refine .still rfl (fun _ => rfl) fun k => ?_
    show ((s.operations ++ [⟨service, .abandoned⟩])[k]?).bind _ = _
    by_cases hlt : k < s.operations.length
    · rw [List.getElem?_append_left hlt]
      rfl
    · have hnone : s.operations[k]? = none := List.getElem?_eq_none (by omega)
      rw [List.getElem?_append_right (by omega)]
      simp only [routing?, hnone]
      cases k - s.operations.length <;> rfl
  | moved o state found plain =>
    exact .still rfl (fun _ => rfl)
      (routing?_setState_same found (plain.routing_after.trans plain.routing_before.symm))
  | registered k v o c found service lookup topic subscription opened =>
    exact .still rfl (fun _ => rfl) (routing?_setState_same found rfl)
  | pulled k l d found phase shown =>
    have standing : (s.poll l.source).1.operations[op]? = some ⟨k, .receiving l⟩ := by
      rw [operations_poll]
      exact found
    refine .still (envelopes_poll s l.source) (settlements_congr (journal_poll s l.source)) fun j =>
      (routing?_setState_same standing ?_ j).trans (routing?_congr (operations_poll s l.source) j)
    rfl
  | handed k l d cause found phase =>
    refine .made _ rfl rfl (fun i => ?_) (routing?_setState_same (o := ⟨k, .receiving l⟩) found rfl)
    exact settlements_note _ _ i
  | letGo k l d outcome found phase =>
    have operations : (s.dropAcker d.acker).operations = s.operations := by
      cases d.acker <;> rfl
    have standing : (s.dropAcker d.acker).operations[op]? = some ⟨k, .receiving l⟩ :=
      operations ▸ found
    refine .still (envelopes_dropAcker s d.acker) (fun i => ?_) fun j =>
      (routing?_setState_same standing ?_ j).trans (routing?_congr operations j)
    · show (s.dropAcker d.acker).settlements i = s.settlements i
      cases d.acker <;> rfl
    · rfl
  | collected k c d found shown =>
    refine .made ⟨d.message, c.channel, k, d.acker, .received⟩ rfl ?_ (fun i => ?_) fun j => ?_
    · show (s.poll c.source).1.envelopes ++ _ = _
      rw [envelopes_poll]
    · exact (settlements_note _ _ i).trans (settlements_congr (journal_poll s c.source) i)
    · exact routing?_congr (operations_poll s c.source) j
  | settled i made v found received cause =>
    exact .settled i made v found received cause.maySettle (received ▸ settleFrom_settledAs found v)
      (routing?_congr (operations_settleFrom s i _ v))
  | entered i made p k c text channel cause found received standing purpose =>
    have idle : s.routing? op = none := by simp [routing?, standing, OperationState.routing?]
    refine .entered i made c text cause found received idle (envelopes_setDisposition found _)
      (fun _ => rfl) fun j => ?_
    rw [routing?_setState]
    by_cases h : j = op
    · subst h
      have same : (s.setDisposition i .deadLetterPending).operations[j]? = some ⟨k, .abandoned⟩ :=
        standing
      simp [same, OperationState.routing?, purpose]
    · simp only [h, if_false]
      rfl
  | left i k p v channel result cause standing purpose =>
    have waits : s.routing? op = some i := by
      simp [routing?, standing, OperationState.routing?, purpose]
    obtain ⟨made, found, pending⟩ := settled.pending op i waits
    refine .left i made v cause waits found pending (pending ▸ ?_) fun j => ?_
    · obtain ⟨envelopes, settlements⟩ := settleFrom_settledAs found v
      exact ⟨envelopes, settlements⟩
    · rw [routing?_setState, operations_settleFrom]
      by_cases h : j = op
      · subst h
        simp [standing, OperationState.routing?]
      · simp only [h, if_false]
        exact routing?_congr (operations_settleFrom s i _ v) j
  | dropped o i cause found routing =>
    refine .dropped cause rfl (fun _ => rfl) fun j => ?_
    rw [routing?_setState]
    by_cases h : j = op
    · subst h
      simp [found, OperationState.routing?]
    · simp only [h, if_false]

/-! ## What every act keeps -/

theorem settled_start (now : Timestamp) : (start now).Settled where
  settlements := by intro i made h; simp [start] at h
  unmade := by intro i _; rfl
  pending := by intro k i h; simp [routing?, start] at h
  alone := by intro k k' i h; simp [routing?, start] at h

/-- The handle of an envelope that was not settled is used as its new disposition says. -/
theorem SettledAs.settlements_eq {i : Nat} {made : Envelope} {v : Settlement}
    (as : s.SettledAs s' i made v) (settled : s.Settled) (found : s.envelopes[i]? = some made)
    (open_ : made.disposition.settlement? = none) :
    (∀ j made', s'.envelopes[j]? = some made' → s'.settlements j = made'.settlements) ∧
      ∀ j, s'.envelopes.length ≤ j → s'.settlements j = [] := by
  constructor
  · intro j made' found'
    rw [as.envelopes, getElem?_set_iff found] at found'
    rw [as.settlements]
    by_cases h : j = i
    · subst h
      simp only [if_true, Option.some.injEq] at found'
      subst found'
      simp [settled.settlements j made found, Envelope.settlements, open_]
    · simp only [h, if_false, List.append_nil] at found' ⊢
      exact settled.settlements j made' found'
  · intro j bound
    rw [as.envelopes, List.length_set] at bound
    have hne : j ≠ i := by
      rintro rfl
      have := (List.getElem?_eq_some_iff.1 found).1
      omega
    rw [as.settlements, if_neg hne, List.append_nil]
    exact settled.unmade j bound

/-- Where no operation begins to wait for an envelope, and no one settles an envelope that one
waits for, those that wait find their envelopes pending. -/
theorem Settled.of_fewer (settled : s.Settled)
    (settlements : ∀ i made, s'.envelopes[i]? = some made → s'.settlements i = made.settlements)
    (unmade : ∀ i, s'.envelopes.length ≤ i → s'.settlements i = [])
    (fewer : ∀ k i, s'.routing? k = some i → s.routing? k = some i)
    (kept : ∀ k i made, s'.routing? k = some i → s.envelopes[i]? = some made →
      s'.envelopes[i]? = some made) : s'.Settled := by
  refine ⟨settlements, unmade, fun k i waits => ?_, fun k k' i waits waits' => ?_⟩
  · obtain ⟨made, found, pending⟩ := settled.pending k i (fewer k i waits)
    exact ⟨made, kept k i made waits found, pending⟩
  · exact settled.alone k k' i (fewer k i waits) (fewer k' i waits')

theorem Settled.disposition?_of_routing (settled : s.Settled) {i : Nat}
    (waits : s.routing? op = some i) : s.disposition? i = some .deadLetterPending := by
  obtain ⟨made, found, pending⟩ := settled.pending op i waits
  rw [disposition?, found, Option.map_some, pending]

theorem Settled.not_routing (settled : s.Settled) {i : Nat} {made : Envelope}
    (found : s.envelopes[i]? = some made) (received : made.disposition = .received) (k : Nat) :
    s.routing? k ≠ some i := by
  intro waits
  obtain ⟨made', found', pending⟩ := settled.pending k i waits
  obtain rfl : made = made' := Option.some.inj (found.symm.trans found')
  rw [received] at pending
  cases pending

theorem settled_entered (settled : s.Settled) {i : Nat} {made : Envelope}
    (found : s.envelopes[i]? = some made) (received : made.disposition = .received)
    (envelopes : s'.envelopes = s.envelopes.set i { made with disposition := .deadLetterPending })
    (settlements : ∀ j, s'.settlements j = s.settlements j)
    (routing : ∀ k, s'.routing? k = if k = op then some i else s.routing? k) : s'.Settled := by
  have free := settled.not_routing found received
  -- Whoever waits now waited before, but the operation that begins to.
  have back : ∀ k j, s'.routing? k = some j → k = op ∧ j = i ∨ j ≠ i ∧ s.routing? k = some j := by
    intro k j waits
    rw [routing] at waits
    split at waits
    · rename_i hk
      exact Or.inl ⟨hk, (Option.some.inj waits).symm⟩
    · exact Or.inr ⟨fun h => free k (h ▸ waits), waits⟩
  refine ⟨fun j made' found' => ?_, fun j bound => ?_, fun k j waits => ?_,
    fun k k' j waits waits' => ?_⟩
  · rw [envelopes, getElem?_set_iff found] at found'
    rw [settlements]
    by_cases h : j = i
    · subst h
      simp only [if_true, Option.some.injEq] at found'
      subst found'
      simp [settled.settlements j made found, Envelope.settlements, received,
        Disposition.settlement?]
    · simp only [h, if_false] at found'
      exact settled.settlements j made' found'
  · rw [envelopes, List.length_set] at bound
    rw [settlements]
    exact settled.unmade j bound
  · rw [envelopes, getElem?_set_iff found]
    rcases back k j waits with ⟨_, rfl⟩ | ⟨hne, waits⟩
    · exact ⟨_, if_pos rfl, rfl⟩
    · obtain ⟨made', found', pending⟩ := settled.pending k j waits
      exact ⟨made', (if_neg hne).trans found', pending⟩
  · rcases back k j waits with ⟨hk, hj⟩ | ⟨hne, waits⟩
    · rcases back k' j waits' with ⟨hk', _⟩ | ⟨hne', _⟩
      · exact hk.trans hk'.symm
      · exact absurd hj hne'
    · rcases back k' j waits' with ⟨_, hj⟩ | ⟨_, waits'⟩
      · exact absurd hj hne
      · exact settled.alone k k' j waits waits'

/-- Every act keeps what holds of envelopes. -/
theorem Touch.keeps (touch : Touch e op s s') (settled : s.Settled) : s'.Settled := by
  cases touch with
  | still envelopes settlements routing =>
    refine settled.of_fewer (fun i made found => ?_) (fun i bound => ?_)
      (fun k i waits => routing k ▸ waits) fun _ _ _ _ found => envelopes ▸ found
    · rw [settlements]
      exact settled.settlements i made (envelopes ▸ found)
    · rw [settlements]
      exact settled.unmade i (envelopes ▸ bound)
  | made new received envelopes settlements routing =>
    refine settled.of_fewer (fun i made found => ?_) (fun i bound => ?_)
      (fun k i waits => routing k ▸ waits) fun k i made _ found => ?_
    · rw [settlements]
      rw [envelopes, List.getElem?_append] at found
      split at found
      · exact settled.settlements i made found
      · rename_i high
        obtain rfl : made = new := List.mem_singleton.1 (List.mem_of_getElem? found)
        rw [settled.unmade i (Nat.le_of_not_lt high), Envelope.settlements, received]
        rfl
    · rw [settlements]
      rw [envelopes, List.length_append] at bound
      exact settled.unmade i (by omega)
    · rw [envelopes, List.getElem?_append_left (List.getElem?_eq_some_iff.1 found).1]
      exact found
  | settled i made v found received cause as routing =>
    have uses := as.settlements_eq settled found (by rw [received]; rfl)
    refine settled.of_fewer uses.1 uses.2 (fun k j waits => routing k ▸ waits)
      fun k j made' waits found' => ?_
    have hne : j ≠ i := by
      rintro rfl
      exact settled.not_routing found received k (routing k ▸ waits)
    rw [as.envelopes, getElem?_set_iff found, if_neg hne]
    exact found'
  | entered i made c text cause found received idle envelopes settlements routing =>
    exact settled_entered settled found received envelopes settlements routing
  | left i made v cause waits found pending as routing =>
    have uses := as.settlements_eq settled found (by rw [pending]; rfl)
    have fewer : ∀ k j, s'.routing? k = some j → k ≠ op ∧ s.routing? k = some j := by
      intro k j h
      rw [routing] at h
      split at h
      · cases h
      · exact ⟨‹_›, h⟩
    apply settled.of_fewer uses.1 uses.2 (fun k j h => (fewer k j h).2)
    intro k j made' h found'
    have hne : j ≠ i := by
      rintro rfl
      exact (fewer k j h).1 (settled.alone k op j (fewer k j h).2 waits)
    rw [as.envelopes, getElem?_set_iff found, if_neg hne]
    exact found'
  | dropped cause envelopes settlements routing =>
    refine settled.of_fewer (fun i made found => ?_) (fun i bound => ?_) (fun k i waits => ?_)
      fun _ _ _ _ found => envelopes ▸ found
    · rw [settlements]
      exact settled.settlements i made (envelopes ▸ found)
    · rw [settlements]
      exact settled.unmade i (envelopes ▸ bound)
    · rw [routing] at waits
      split at waits
      · cases waits
      · exact waits

theorem settled_acts (acts : Acts e op s s') (settled : s.Settled) : s'.Settled := by
  induction acts with
  | refl => exact settled
  | tail _ act ih => exact (act.touch ih).keeps ih

theorem Reachable.settled (reachable : s.Reachable) : s.Settled :=
  reachable.induction settled_start fun s e h => settled_acts (s.acts_step e) h

end System

end MessageChannels
