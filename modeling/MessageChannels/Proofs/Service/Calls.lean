import MessageChannels.Proofs.Service.Publications
import MessageChannels.Proofs.Topology.Reconciliation

/-!
# Which call an operation publishes for

A run is read as the list of its calls that publish, each with the number of its operation.
`Ascribed` says that an operation waits for a publish only of the one call that began it, and only
until it has a reply; every event keeps it (`ascribed_snoc`), so that it holds of whole runs.
-/

set_option autoImplicit false

namespace MessageChannels

namespace System

/-- The call that an event makes, if it publishes, with the number of its operation. -/
def publicationIn (s : System) : Event → List (Nat × Publication)
  | .begin _ (.publish channel _ _) => [(s.operations.length, .event channel)]
  | .fail i _ _ =>
    match s.envelopes[i]? with
    | some made => [(s.operations.length, .deadLetter made.channel)]
    | none => []
  | _ => []

/-- The calls of a run that publish. -/
def publications (s : System) : List Event → List (Nat × Publication)
  | [] => []
  | e :: es => s.publicationIn e ++ (s.step e).publications es

/-- What stands of the calls of a run that publish: an operation waits for a publish only of the one
call that began it, and then has no reply yet. -/
structure Ascribed (s : System) (r : Registry) (es : List Event) : Prop where
  stands : ∀ x ∈ s.publications es,
    (∃ k p, (s.after es).operations[x.1]? = some ⟨k, .publishing p⟩ ∧ p.IsOf r x.2 ∧
        s.replyTo? x.1 es = none) ∨
      ∃ k state, (s.after es).operations[x.1]? = some ⟨k, state⟩ ∧ state.inProgress = false
  called : ∀ op k p, (s.after es).operations[op]? = some ⟨k, .publishing p⟩ →
    ∃ call, (op, call) ∈ s.publications es
  once : ((s.publications es).map Prod.fst).Nodup
  /-- Dead letters are of envelopes of the service's channels. -/
  known : ∀ x ∈ s.publications es, ∀ channel, x.2 = .deadLetter channel →
    channel ∈ r.toList.map Channel.id

variable {s : System} {r : Registry} {es : List Event} {e : Event} {op : Nat}

/-! ## Replies -/

/-- The first reply stands, and is the last event's if there was none before. -/
theorem replyTo?_snoc (s : System) (op : Nat) (es : List Event) (e : Event) :
    s.replyTo? op (es ++ [e]) = (s.replyTo? op es).or ((s.after es).replyIn op e) := by
  induction es generalizing s with
  | nil =>
    show s.replyTo? op [e] = s.replyIn op e
    unfold replyTo?
    cases s.replyIn op e <;> rfl
  | cons e' es ih =>
    rw [List.cons_append, replyTo?, replyTo?]
    cases s.replyIn op e' with
    | some reply => rfl
    | none => exact ih (s.step e')

theorem replyTo?_unbegun (unbegun : (s.after es).operations.length ≤ op) :
    s.replyTo? op es = none := by
  induction es generalizing s with
  | nil => rfl
  | cons e es ih =>
    have earlier : s.operations.length ≤ op :=
      Nat.le_trans (length_le_after s (e :: es)) unbegun
    rw [replyTo?, (unbegun_step earlier e).1]
    exact ih unbegun

theorem replyIn_of_ended {k : Nat} {state : OperationState}
    (standing : s.operations[op]? = some ⟨k, state⟩) (ended : state.inProgress = false)
    (e : Event) : s.replyIn op e = none :=
  (unasked_step (request?_of_ended standing ended) e).1

/-- An operation that asks gets a reply from an event that answers it. -/
theorem replyIn_of_answers {request : Request} (asks : s.request? op = some request)
    (answers : e.Answers op) : s.replyIn op e ≠ none := by
  rcases answers with rfl | ⟨reply, rfl⟩
  · rw [replyIn, if_pos rfl, asks]
    simp
  · rw [replyIn, if_pos ⟨rfl, by rw [asks]; rfl⟩]
    simp

/-! ## The calls of a run -/

theorem publications_snoc (s : System) (es : List Event) (e : Event) :
    s.publications (es ++ [e]) = s.publications es ++ (s.after es).publicationIn e := by
  induction es generalizing s with
  | nil => exact List.append_nil _
  | cons e' es ih =>
    rw [List.cons_append, publications, ih, publications, List.append_assoc]
    rfl

/-- The operation of a call is the next one. -/
theorem publicationIn_cases {x : Nat × Publication} (mem : x ∈ s.publicationIn e) :
    (∃ k channel event payload, e = .begin k (.publish channel event payload) ∧
        x = (s.operations.length, .event channel)) ∨
      ∃ i c cause made, e = .fail i c cause ∧ s.envelopes[i]? = some made ∧
        x = (s.operations.length, .deadLetter made.channel) := by
  unfold publicationIn at mem
  split at mem
  · exact Or.inl ⟨_, _, _, _, rfl, List.mem_singleton.1 mem⟩
  · split at mem
    · rename_i made found
      exact Or.inr ⟨_, _, _, made, rfl, found, List.mem_singleton.1 mem⟩
    · cases mem
  · cases mem

theorem unbegun_publicationIn {x : Nat × Publication} (mem : x ∈ s.publicationIn e) :
    s.operations.length ≤ x.1 := by
  rcases publicationIn_cases mem with ⟨_, _, _, _, _, rfl⟩ | ⟨_, _, _, _, _, _, rfl⟩
  · exact Nat.le_refl _
  · exact Nat.le_refl _

theorem operations_publicationIn (s : System) (e : Event) :
    (s.publicationIn e).map Prod.fst = [] ∨
      (s.publicationIn e).map Prod.fst = [s.operations.length] := by
  unfold publicationIn
  split
  · exact Or.inr rfl
  · split
    · exact Or.inr rfl
    · exact Or.inl rfl
  · exact Or.inl rfl

/-! ## Who waits for a publish -/

/-- A call that publishes waits for its publish, or has ended. -/
theorem stands_new (governed : s.Governed r) {x : Nat × Publication}
    (mem : x ∈ s.publicationIn e) :
    (∃ k p, (s.step e).operations[x.1]? = some ⟨k, .publishing p⟩ ∧ p.IsOf r x.2) ∨
      ∃ k result, (s.step e).operations[x.1]? = some ⟨k, .finished result⟩ := by
  rcases publicationIn_cases mem with
    ⟨k, channel, event, payload, rfl, rfl⟩ | ⟨i, c, cause, made, rfl, found, rfl⟩
  · rcases event_begun s r k channel event payload with ⟨p, standing, of⟩ | ⟨result, standing⟩
    · exact Or.inl ⟨k, p, standing, of⟩
    · exact Or.inr ⟨k, result, standing⟩
  · cases alive : s.service? made.service with
    | none =>
      obtain ⟨⟨k, standing⟩, _⟩ := decision_gone s i c cause fun made' found' => by
        cases found.symm.trans found'
        exact alive
      exact Or.inr ⟨k, _, standing⟩
    | some v =>
      have registry := governed _ v (service?_eq_some alive)
      cases decision_step found alive c cause with
      | waits p standing of => exact Or.inl ⟨_, p, standing, registry ▸ of⟩
      | refused standing => exact Or.inr ⟨_, _, standing⟩
      | ended result other standing => exact Or.inr ⟨_, result, standing⟩

/-- An operation that an event makes wait for a publish is that of the event's call. -/
theorem called_new (unbegun : s.operations.length ≤ op) {k : Nat} {p : Publishing}
    (standing : (s.step e).operations[op]? = some ⟨k, .publishing p⟩) :
    ∃ call, (op, call) ∈ s.publicationIn e := by
  rcases begun_or_unbegun unbegun e with later | ⟨rfl, ⟨j, c, rfl⟩ | ⟨i, c, cause, rfl⟩⟩
  · rw [List.getElem?_eq_none later] at standing
    cases standing
  · cases c with
    | publish channel event payload => exact ⟨.event channel, List.mem_singleton_self _⟩
    | _ => exact absurd standing (noPublish_begin s j (fun _ _ _ h => by cases h) k p)
  · cases found : s.envelopes[i]? with
    | none =>
      obtain ⟨⟨j, ended⟩, _⟩ := decision_gone s i c cause fun made found' => by
        cases found.symm.trans found'
      cases ended.symm.trans standing
    | some made =>
      refine ⟨.deadLetter made.channel, ?_⟩
      simp only [publicationIn, found]
      exact List.mem_singleton_self _

/-- A dead letter is of an envelope of a channel that the registry names. -/
theorem known_new (reachable : s.Reachable) (governed : s.Governed r) {x : Nat × Publication}
    (mem : x ∈ s.publicationIn e) {channel : String} (dead : x.2 = .deadLetter channel) :
    channel ∈ r.toList.map Channel.id := by
  rcases publicationIn_cases mem with ⟨_, _, _, _, _, rfl⟩ | ⟨_, _, _, made, _, found, rfl⟩
  · cases dead
  · cases dead
    obtain ⟨v, c, service, lookup⟩ := reachable.registered.envelopes _ made found
    rw [governed _ v service] at lookup
    refine List.mem_map.2 ⟨c, ?_, Registry.id_of_lookup? lookup⟩
    exact (Dictionary.mem_values_iff _ _).2 ⟨_, lookup⟩

/-- A call's operation is begun once it is made. -/
theorem Ascribed.begun (ascribed : s.Ascribed r es) {x : Nat × Publication}
    (mem : x ∈ s.publications es) : x.1 < (s.after es).operations.length := by
  rcases ascribed.stands x mem with ⟨k, p, standing, _⟩ | ⟨k, state, standing, _⟩
  · exact (List.getElem?_eq_some_iff.1 standing).1
  · exact (List.getElem?_eq_some_iff.1 standing).1

/-- What stands of a call goes on standing. -/
theorem Ascribed.stands_old (ascribed : s.Ascribed r es) {x : Nat × Publication}
    (mem : x ∈ s.publications es) (e : Event) :
    (∃ k p, (s.after (es ++ [e])).operations[x.1]? = some ⟨k, .publishing p⟩ ∧ p.IsOf r x.2 ∧
        s.replyTo? x.1 (es ++ [e]) = none) ∨
      ∃ k state, (s.after (es ++ [e])).operations[x.1]? = some ⟨k, state⟩ ∧
        state.inProgress = false := by
  rw [after_snoc, replyTo?_snoc]
  rcases ascribed.stands x mem with ⟨k, p, standing, of, unreplied⟩ | ⟨k, state, standing, ended⟩
  · rcases publishing_step standing e with ⟨reply, result, _, finished, _⟩ | ⟨none, on | given⟩
    · exact Or.inr ⟨k, _, finished, rfl⟩
    · refine Or.inl ⟨k, p, on, of, ?_⟩
      rw [unreplied, none]
      rfl
    · exact Or.inr ⟨k, _, given, rfl⟩
  · exact Or.inr ⟨k, state, (ended_step standing ended e).1, ended⟩

theorem ascribed_snoc (ascribed : s.Ascribed r es) (governed : (s.after es).Governed r)
    (reachable : (s.after es).Reachable) (e : Event) : s.Ascribed r (es ++ [e]) := by
  constructor
  · intro x mem
    rw [publications_snoc] at mem
    rcases List.mem_append.1 mem with old | new
    · exact ascribed.stands_old old e
    · have unbegun := unbegun_publicationIn new
      rw [after_snoc, replyTo?_snoc, replyTo?_unbegun unbegun, (unbegun_step unbegun e).1]
      rcases stands_new governed new with ⟨k, p, standing, of⟩ | ⟨k, result, standing⟩
      · exact Or.inl ⟨k, p, standing, of, rfl⟩
      · exact Or.inr ⟨k, _, standing, rfl⟩
  · intro op k p standing
    rw [after_snoc] at standing
    rw [publications_snoc]
    rcases Nat.lt_or_ge op (s.after es).operations.length with begun | unbegun
    · obtain ⟨call, mem⟩ := ascribed.called op k p (publishing_before begun standing)
      exact ⟨call, List.mem_append_left _ mem⟩
    · obtain ⟨call, mem⟩ := called_new unbegun standing
      exact ⟨call, List.mem_append_right _ mem⟩
  · rw [publications_snoc, List.map_append]
    refine List.nodup_append.2 ⟨ascribed.once, ?_, ?_⟩
    · rcases (s.after es).operations_publicationIn e with none | one
      · rw [none]
        exact List.nodup_nil
      · rw [one]
        exact List.nodup_singleton _
    · intro op old op' new same
      obtain ⟨x, mem, rfl⟩ := List.mem_map.1 old
      have begun := ascribed.begun mem
      rcases (s.after es).operations_publicationIn e with none | one
      · rw [none] at new
        cases new
      · rw [one, List.mem_singleton] at new
        omega
  · intro x mem channel dead
    rw [publications_snoc] at mem
    rcases List.mem_append.1 mem with old | new
    · exact ascribed.known x old channel dead
    · exact known_new reachable governed new dead

theorem ascribed_run (reachable : s.Reachable) (governed : s.Governed r) (fresh : s.operations = [])
    (others : ∀ v, .addService v ∉ es) : s.Ascribed r es := by
  induction es using List.reverseRecOn with
  | nil =>
    refine ⟨nofun, fun op k p standing => ?_, List.nodup_nil, nofun⟩
    rw [after, List.foldl_nil, fresh] at standing
    cases standing
  | append_singleton es e ih =>
    have before : ∀ v, .addService v ∉ es := fun v mem => others v (List.mem_append_left _ mem)
    exact ascribed_snoc (ih before) (governed_after governed before) (reachable.after es) e

end System

end MessageChannels
