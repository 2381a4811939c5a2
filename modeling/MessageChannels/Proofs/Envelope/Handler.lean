import MessageChannels.Proofs.Envelope.Settlement
import MessageChannels.Proofs.System.Registered

/-!
# Handlers that run

A handler runs from the turn in which a receive loop hands it an envelope until it ends. While it
runs, its envelope is one of the loop's service, someone holds that service (the loop does), and
nothing but a call on the envelope settles it.
-/

set_option autoImplicit false

namespace MessageChannels

namespace System

variable {e : Event} {op i : Nat} {s s' : System}

/-- Whether the handler of an envelope runs. -/
def handles (s : System) (i : Nat) : Bool := s.operations.any fun o => o.state.running.contains i

theorem handles_iff : s.handles i = true ↔
    ∃ (k : Nat) (o : Operation), s.operations[k]? = some o ∧ i ∈ o.state.running := by
  simp only [handles, List.any_eq_true, List.contains_iff_mem]
  constructor
  · rintro ⟨o, member, runs⟩
    obtain ⟨k, found⟩ := List.mem_iff_getElem?.1 member
    exact ⟨k, o, found, runs⟩
  · rintro ⟨k, o, found, runs⟩
    exact ⟨o, List.mem_of_getElem? found, runs⟩

/-- No handler begins: those that run ran before, for the same service. -/
def NoneBegins (s s' : System) : Prop :=
  ∀ (k : Nat) (o' : Operation) (i : Nat), s'.operations[k]? = some o' → i ∈ o'.state.running →
    ∃ o, s.operations[k]? = some o ∧ o.service = o'.service ∧ i ∈ o.state.running

theorem NoneBegins.of_operations (same : s'.operations = s.operations) : s.NoneBegins s' :=
  fun _ o' _ found runs => ⟨o', same ▸ found, rfl, runs⟩

theorem NoneBegins.trans {s₁ : System} (first : s.NoneBegins s₁) (second : s₁.NoneBegins s') :
    s.NoneBegins s' := by
  intro k o' i found runs
  obtain ⟨o₁, found₁, service₁, runs₁⟩ := second k o' i found runs
  obtain ⟨o, found₀, service₀, runs₀⟩ := first k o₁ i found₁ runs₁
  exact ⟨o, found₀, service₀.trans service₁, runs₀⟩

theorem NoneBegins.of_setState {s₁ : System} (same : s₁.operations = s.operations) {o : Operation}
    (found : s.operations[op]? = some o) {state : OperationState}
    (fewer : state.running ⊆ o.state.running) : s.NoneBegins (s₁.setState op state) := by
  intro k o' i found' runs
  rw [getElem?_setState, same] at found'
  by_cases h : k = op
  · subst h
    rw [if_pos rfl, found] at found'
    cases found'
    exact ⟨o, found, rfl, fewer runs⟩
  · rw [if_neg h] at found'
    exact ⟨o', found', rfl, runs⟩

/-! ## Acts -/

/-- Only a turn lets a handler begin. -/
theorem Act.noneBegins (act : Act e op s s') (still : e ≠ .turn op) : s.NoneBegins s' := by
  cases act with
  | handed k l d cause found phase => exact absurd cause still
  | looked source nothing => exact .of_operations (operations_poll s source)
  | leftSource source => cases source <;> exact .of_operations rfl
  | gaveUp i made cause found => cases made.acker <;> exact .of_operations rfl
  | started service new =>
    intro k o' i found runs
    change (s.operations ++ [⟨service, .abandoned⟩])[k]? = some o' at found
    rw [List.getElem?_append] at found
    split at found
    · exact ⟨o', found, rfl, runs⟩
    · obtain rfl := List.mem_singleton.1 (List.mem_of_getElem? found)
      cases runs
  | moved o state found plain => exact .of_setState rfl found plain.running
  | registered k v o c found service lookup topic subscription opened =>
    exact .of_setState rfl found (List.nil_subset _)
  | pulled k l d found phase shown =>
    exact .of_setState (operations_poll s l.source) found (List.Subset.refl _)
  | letGo k l d outcome found phase =>
    refine .of_setState ?_ found (List.Subset.refl _)
    cases d.acker <;> rfl
  | collected k c d found shown => exact .of_operations (operations_poll s c.source)
  | settled i made v found received cause => exact .of_operations (operations_settleFrom s i _ v)
  | entered i made p k c text channel cause found received standing purpose =>
    exact .of_setState rfl standing (List.nil_subset _)
  | left i k p v channel result cause standing purpose =>
    exact .of_setState (operations_settleFrom s i _ v) standing (List.nil_subset _)
  | dropped o i cause found routing => exact .of_setState rfl found (List.nil_subset _)
  | _ => exact .of_operations rfl

theorem noneBegins_acts (acts : Acts e op s s') (still : e ≠ .turn op) : s.NoneBegins s' := by
  induction acts with
  | refl => exact .of_operations rfl
  | tail _ act ih => exact ih.trans (act.noneBegins still)

/-! ## Turns -/

/-- Envelopes that were made stay as they are, and no handler begins. -/
structure Undisturbed (s s' : System) : Prop where
  envelopes : ∀ i < s.envelopes.length, s'.envelopes[i]? = s.envelopes[i]?
  running : s.NoneBegins s'

theorem Undisturbed.of_same (envelopes : s'.envelopes = s.envelopes)
    (operations : s'.operations = s.operations) : s.Undisturbed s' :=
  ⟨fun _ _ => by rw [envelopes], .of_operations operations⟩

theorem Undisturbed.of_setState {s₁ : System} (envelopes : s₁.envelopes = s.envelopes)
    (operations : s₁.operations = s.operations) {o : Operation}
    (found : s.operations[op]? = some o) {state : OperationState}
    (fewer : state.running ⊆ o.state.running) : s.Undisturbed (s₁.setState op state) :=
  ⟨fun i _ => congrArg (·[i]?) envelopes, .of_setState operations found fewer⟩

theorem undisturbed_stopLoop {s₁ : System} (envelopes : s₁.envelopes = s.envelopes)
    (operations : s₁.operations = s.operations) {k : Nat} {l : Loop}
    (found : s.operations[op]? = some ⟨k, .receiving l⟩) (outcome : Except ChannelError Unit) :
    s.Undisturbed (s₁.stopLoop op l outcome) := by
  have dropped : ∀ (s₂ : System) (source : Source), (s₂.dropSource source).envelopes = s₂.envelopes
      ∧ (s₂.dropSource source).operations = s₂.operations := by
    intro s₂ source
    cases source <;> exact ⟨rfl, rfl⟩
  unfold stopLoop
  refine .of_setState ?_ ?_ found (List.Subset.refl _)
  · rw [(dropped _ _).1]
    split
    · rw [envelopes_dropAcker, envelopes]
    · exact envelopes
  · rw [(dropped _ _).2]
    split
    · rename_i d _
      cases d.acker <;> exact operations
    · exact operations

/-- A turn hands an envelope to a handler, or disturbs none. -/
theorem turn_cases (s : System) (op : Nat) :
    (∃ k l d, s.operations[op]? = some ⟨k, .receiving l⟩ ∧ (s.turn op).1
        = (s.addEnvelope k l.channel d).1.setState op
          (.receiving (l.handed s.envelopes.length))) ∨
      s.Undisturbed (s.turn op).1 := by
  unfold turn
  split
  · exact Or.inr (.of_same rfl rfl)
  · rename_i o found
    obtain ⟨k, state⟩ := o
    cases state with
    | receiving l =>
      dsimp only [turnLoop]
      split
      · refine Or.inr (.of_setState ?_ ?_ found (List.Subset.refl _)) <;> split <;> rfl
      · right
        have envelopes := envelopes_poll s l.source
        have operations := operations_poll s l.source
        split
        · exact .of_same envelopes operations
        · exact .of_setState envelopes operations found (List.Subset.refl _)
        · exact undisturbed_stopLoop envelopes operations found _
      · rename_i d _
        exact Or.inl ⟨k, l, d, found, rfl⟩
      · exact Or.inr (undisturbed_stopLoop rfl rfl found _)
      · exact Or.inr (.of_setState rfl rfl found (List.nil_subset _))
      · exact Or.inr (.of_same rfl rfl)
    | collecting c =>
      have drops {s₁ : System} (envelopes : s₁.envelopes = s.envelopes)
          (operations : s₁.operations = s.operations) (result : Except ChannelError Outcome) :
          s.Undisturbed ((s₁.dropSource c.source).finish op result) := by
        refine .of_setState ?_ ?_ found (List.nil_subset _)
        · cases c.source <;> exact envelopes
        · cases c.source <;> exact operations
      right
      dsimp only [turnCollection]
      split
      · exact drops rfl rfl _
      · have envelopes := envelopes_poll s c.source
        have operations := operations_poll s c.source
        split
        · exact .of_same envelopes operations
        · rename_i d _
          -- The collection settles the envelope that it has just made.
          refine ⟨fun i hlt => ?_, .of_setState ?_ found (List.nil_subset _)⟩
          · show ((((s.poll c.source).1.addEnvelope k c.channel d).1).settleFrom _ .received
              .ack).envelopes[i]? = s.envelopes[i]?
            have old : ((s.poll c.source).1.addEnvelope k c.channel d).1.envelopes[i]?
                = s.envelopes[i]? := by
              have hne : i ≠ s.envelopes.length := by omega
              rw [getElem?_addEnvelope, envelopes, if_neg hne]
            have hne : i ≠ (s.poll c.source).1.envelopes.length := by
              rw [envelopes]
              omega
            exact (getElem?_settleFrom_of_ne hne _ _).trans old
          · exact (operations_settleFrom _ _ _ _).trans operations
        · exact drops envelopes operations _
    | _ => exact Or.inr (.of_same rfl rfl)

/-! ## Runs -/

/-- A handler that runs ran before, or was just handed a new envelope. -/
theorem running_step (s : System) (e : Event) {k : Nat} {o' : Operation}
    (found' : (s.step e).operations[k]? = some o') (runs : i ∈ o'.state.running) :
    (∃ o, s.operations[k]? = some o ∧ o.service = o'.service ∧ i ∈ o.state.running) ∨
      ∃ made, (s.step e).envelopes[i]? = some made ∧ made.disposition = .received ∧
        made.service = o'.service := by
  by_cases turns : ∃ op, e = .turn op
  · obtain ⟨op, rfl⟩ := turns
    change (s.turn op).1.operations[k]? = some o' at found'
    show _ ∨ ∃ made, (s.turn op).1.envelopes[i]? = some made ∧ _
    rcases s.turn_cases op with ⟨j, l, d, found, heq⟩ | undisturbed
    · rw [heq] at found' ⊢
      rw [getElem?_setState] at found'
      by_cases h : k = op
      · subst h
        rw [if_pos rfl] at found'
        obtain ⟨o, found₀, rfl⟩ := Option.map_eq_some_iff.1 found'
        obtain rfl : ⟨j, .receiving l⟩ = o := Option.some.inj (found.symm.trans found₀)
        rcases List.mem_append.1 runs with old | new
        · exact Or.inl ⟨_, found, rfl, old⟩
        · obtain rfl := List.mem_singleton.1 new
          refine Or.inr ⟨⟨d.message, l.channel, j, d.acker, .received⟩, ?_, rfl, rfl⟩
          show (s.addEnvelope j l.channel d).1.envelopes[s.envelopes.length]? = _
          rw [getElem?_addEnvelope, if_pos rfl]
      · rw [if_neg h] at found'
        exact Or.inl ⟨o', found', rfl, runs⟩
    · exact Or.inl (undisturbed.running k o' i found' runs)
  · have still : e ≠ .turn (e.operation s) := fun h => turns ⟨_, h⟩
    exact Or.inl (noneBegins_acts (s.acts_step e) still k o' i found' runs)

/-- The envelope of a handler that runs is one of the handler's service. -/
theorem Reachable.running (reachable : s.Reachable) {k : Nat} {o : Operation}
    (found : s.operations[k]? = some o) (runs : i ∈ o.state.running) :
    ∃ made, s.envelopes[i]? = some made ∧ made.service = o.service := by
  suffices h : s.Reachable ∧ ∀ (k : Nat) (o : Operation) (i : Nat), s.operations[k]? = some o →
      i ∈ o.state.running → ∃ made, s.envelopes[i]? = some made ∧ made.service = o.service from
    h.2 k o i found runs
  refine reachable.induction (P := fun s => s.Reachable ∧ ∀ (k : Nat) (o : Operation) (i : Nat),
    s.operations[k]? = some o → i ∈ o.state.running →
      ∃ made, s.envelopes[i]? = some made ∧ made.service = o.service) (fun now => ?_) fun s e h => ?_
  · exact ⟨⟨now, [], rfl⟩, fun k o i found => by simp [start] at found⟩
  · obtain ⟨reachable, running⟩ := h
    refine ⟨reachable.step e, fun k o' i found' runs => ?_⟩
    rcases running_step s e found' runs with ⟨o, found, service, old⟩ | ⟨made, new, _, service⟩
    · obtain ⟨made, foundMade, hmade⟩ := running k o i found old
      obtain ⟨d, kept, _⟩ := turn_step reachable foundMade e
      exact ⟨_, kept, hmade.trans service⟩
    · exact ⟨made, new, service⟩

/-- While a handler runs, someone holds the service of its envelope. -/
theorem service_of_handles (reachable : s.Reachable) (handles : s.handles i = true) :
    ∃ made v, s.envelopes[i]? = some made ∧ s.service? made.service = some v := by
  obtain ⟨k, o, found, runs⟩ := handles_iff.1 handles
  obtain ⟨made, foundMade, service⟩ := reachable.running found runs
  obtain ⟨v, c, hv, _⟩ := reachable.registered.envelopes i made foundMade
  have inProgress : o.state.inProgress = true := by
    cases hstate : o.state with
    | receiving l => rfl
    | _ =>
      rw [hstate] at runs
      cases runs
  have alive : s.isAlive made.service = true := by
    have any : (s.operations.any fun o => o.service == made.service && o.state.inProgress)
        = true := by
      refine List.any_eq_true.2 ⟨o, List.mem_of_getElem? found, ?_⟩
      simp [service, inProgress]
    simp [isAlive, any]
  exact ⟨made, v, foundMade, by simp [service?, alive, hv]⟩

end System

end MessageChannels
