import MessageChannels.Proofs.Dispatch.Loop
import MessageChannels.Proofs.Envelope.Handler

/-!
# Handlers that began and handlers that ended

A handler begins when a loop hands it an envelope, and ends by an event of its own, whether it
returns or panics. In every run in which the loop is not given up, the handlers that ran at first or
began are those that ended and those that still run (`handlers_after`).
-/

set_option autoImplicit false

namespace MessageChannels

namespace System

/-- The envelopes whose handlers run, of an operation. -/
def running (s : System) (op : Nat) : List Nat :=
  ((s.operations[op]?).map fun o => o.state.running).getD []

/-- The handlers of an operation that run after an event and did not before. -/
def begunIn (s : System) (op : Nat) (e : Event) : List Nat :=
  ((s.step e).running op).filter fun i => !(s.running op).contains i

/-- The handler of an operation whose end an event is. -/
def endedIn (s : System) (op : Nat) : Event → List Nat
  | .handlerEnded k i _ => if k = op ∧ i ∈ s.running op then [i] else []
  | _ => []

/-- The handlers of an operation that begin in a run. -/
def handlersBegun (s : System) (op : Nat) : List Event → List Nat
  | [] => []
  | e :: es => s.begunIn op e ++ (s.step e).handlersBegun op es

/-- The handlers of an operation that end in a run. -/
def handlersEnded (s : System) (op : Nat) : List Event → List Nat
  | [] => []
  | e :: es => s.endedIn op e ++ (s.step e).handlersEnded op es

variable {e : Event} {op k i : Nat} {s : System} {l : Loop}

theorem running_of_getElem? {o : Operation} (found : s.operations[op]? = some o) :
    s.running op = o.state.running := by
  simp [running, found]

theorem NoLoop.running (none : s.NoLoop op) : s.running op = [] := by
  cases found : s.operations[op]? with
  | none => simp [System.running, found]
  | some o =>
    obtain ⟨k, state⟩ := o
    rw [running_of_getElem? found]
    cases state with
    | receiving l => exact absurd found (none k l)
    | _ => rfl

/-- An operation is a receive loop, or it is none. -/
theorem loop_or_noLoop (s : System) (op : Nat) :
    (∃ k l, s.operations[op]? = some ⟨k, .receiving l⟩) ∨ s.NoLoop op := by
  by_cases loop : ∃ k l, s.operations[op]? = some ⟨k, .receiving l⟩
  · exact Or.inl loop
  · exact Or.inr fun k l found => loop ⟨k, l, found⟩

/-- No handler is there yet where no loop is. -/
theorem NoLoop.running_step (none : s.NoLoop op) (e : Event) : (s.step e).running op = [] := by
  rcases (s.step e).loop_or_noLoop op with ⟨k, l, found'⟩ | none'
  · rcases loop_before e found' with ⟨l₀, found⟩ | ⟨o, source, _, rfl⟩
    · exact absurd found (none k l₀)
    · exact running_of_getElem? found'
  · exact none'.running

/-! ## One event -/

theorem begunIn_of_subset (fewer : (s.step e).running op ⊆ s.running op) : s.begunIn op e = [] := by
  apply List.filter_eq_nil_iff.2
  intro i runs
  simp [fewer runs]

/-- What an event does to the handlers of a loop: it leaves them alone, ends one or begins one, unless
the loop is given up. -/
theorem LoopNext.running {state : OperationState} (next : s.LoopNext e op k l state) :
    (state.running = l.running ∧ ∀ i panicked, e = .handlerEnded op i panicked → i ∉ l.running) ∨
      (∃ i panicked, e = .handlerEnded op i panicked ∧ i ∈ l.running ∧
        state.running = l.running.erase i) ∨
      (e = .turn op ∧ (s.isCancelled l.ctx = false ∧ s.isClosed k = false ∧ 0 < l.free) ∧
        state.running = l.running ++ [s.envelopes.length]) ∨
      state = .abandoned := by
  have turns {P : Prop} (cause : e = .turn op) (same : state.running = l.running) :
      (state.running = l.running ∧
        ∀ i panicked, e = .handlerEnded op i panicked → i ∉ l.running) ∨ P := by
    refine Or.inl ⟨same, fun i panicked h => ?_⟩
    cases cause.symm.trans h
  cases next with
  | stayed idle => exact Or.inl ⟨rfl, idle⟩
  | handlerEnded i panicked cause runs =>
    exact Or.inr (Or.inl ⟨i, panicked, cause, runs, rfl⟩)
  | joined cause => exact turns cause rfl
  | pulled d cause => exact turns cause rfl
  | handed d cause phase going opened permit =>
    exact Or.inr (Or.inr (Or.inl ⟨cause, ⟨going, opened, permit⟩, rfl⟩))
  | stopped outcome cause => exact turns cause rfl
  | returned outcome cause phase noticed idle => exact turns cause idle.symm
  | abandoned => exact Or.inr (Or.inr (Or.inr rfl))

/-- The handlers that an event begins, and those whose end it is, make up the difference between
those that run before and after it. -/
theorem handlers_step (reachable : s.Reachable) (op : Nat) (e : Event)
    (stays : ∀ k, (s.step e).operations[op]? ≠ some ⟨k, .abandoned⟩) :
    (s.running op ++ s.begunIn op e).Perm (s.endedIn op e ++ (s.step e).running op) := by
  have same (runs : (s.step e).running op = s.running op) (ends : s.endedIn op e = []) :
      (s.running op ++ s.begunIn op e).Perm (s.endedIn op e ++ (s.step e).running op) := by
    rw [begunIn_of_subset (runs ▸ List.Subset.refl _), runs, ends, List.append_nil, List.nil_append]
  rcases s.loop_or_noLoop op with ⟨k, l, found⟩ | none
  · obtain ⟨state, found', next⟩ := loop_step found e
    have before : s.running op = l.running := running_of_getElem? found
    have after : (s.step e).running op = state.running := running_of_getElem? found'
    rcases next.running with ⟨alike, idle⟩ | ⟨i, panicked, rfl, runs, erased⟩ |
      ⟨rfl, _, added⟩ | rfl
    · apply same (after.trans (alike.trans before.symm))
      unfold endedIn
      split
      · rename_i j i panicked
        by_cases about : j = op
        · subst about
          simp [before, idle i panicked rfl]
        · simp [about]
      · rfl
    · have ends : s.endedIn op (.handlerEnded op i panicked) = [i] := by
        simp [endedIn, before, runs]
      have begins : s.begunIn op (.handlerEnded op i panicked) = [] := by
        apply begunIn_of_subset
        rw [after, before, erased]
        exact List.erase_subset
      rw [ends, begins, after, before, erased, List.append_nil]
      exact List.perm_cons_erase runs
    · -- The envelope is new: no handler has it yet.
      have fresh : s.envelopes.length ∉ l.running := by
        intro runs
        obtain ⟨made, made_found, _⟩ := reachable.running (o := ⟨k, .receiving l⟩) found runs
        have bound := (List.getElem?_eq_some_iff.1 made_found).1
        omega
      have begins : s.begunIn op (.turn op) = [s.envelopes.length] := by
        rw [begunIn, after, before, added]
        simp [List.filter_append, fresh]
      rw [begins, after, before, added]
      exact List.Perm.refl _
    · exact absurd found' (stays k)
  · apply same ((none.running_step e).trans none.running.symm)
    unfold endedIn
    split
    · simp [none.running]
    · rfl

/-- A handler begins in a turn of a loop that is neither cancelled nor closed and has a permit. -/
theorem handed_of_begun (begins : i ∈ s.begunIn op e) :
    ∃ k l, s.operations[op]? = some ⟨k, .receiving l⟩ ∧ e = .turn op ∧
      s.isCancelled l.ctx = false ∧ s.isClosed k = false ∧ 0 < l.free := by
  have gone {P : Prop} (fewer : (s.step e).running op ⊆ s.running op) : P := by
    rw [begunIn_of_subset fewer] at begins
    cases begins
  rcases s.loop_or_noLoop op with ⟨k, l, found⟩ | none
  · obtain ⟨state, found', next⟩ := loop_step found e
    rw [running_of_getElem? found', running_of_getElem? found] at gone
    rcases next.running with ⟨alike, _⟩ | ⟨j, panicked, _, _, erased⟩ | ⟨cause, going, _⟩ | rfl
    · exact gone (alike ▸ List.Subset.refl _)
    · exact gone (erased ▸ List.erase_subset)
    · exact ⟨k, l, found, cause, going⟩
    · exact gone (List.nil_subset _)
  · apply gone
    rw [none.running_step e]
    exact List.nil_subset _

/-! ## Runs -/

/-- **Handlers are accounted for** in every run in which the loop is not given up. -/
theorem handlers_after (reachable : s.Reachable) (op : Nat) (es : List Event)
    (stays : ∀ k, (s.after es).operations[op]? ≠ some ⟨k, .abandoned⟩) :
    (s.running op ++ s.handlersBegun op es).Perm
      (s.handlersEnded op es ++ (s.after es).running op) := by
  induction es generalizing s with
  | nil => exact (List.append_nil _).symm ▸ List.Perm.refl _
  | cons e es ih =>
    have first := handlers_step reachable op e fun k given =>
      stays k (ended_after given rfl es).1
    have rest := ih (reachable.step e) stays
    calc List.Perm (s.running op ++ (s.begunIn op e ++ (s.step e).handlersBegun op es))
          ((s.running op ++ s.begunIn op e) ++ (s.step e).handlersBegun op es) := by
          rw [List.append_assoc]
      List.Perm _ ((s.endedIn op e ++ (s.step e).running op) ++ (s.step e).handlersBegun op es) :=
          first.append_right _
      List.Perm _ (s.endedIn op e ++ ((s.step e).running op ++ (s.step e).handlersBegun op es)) := by
          rw [List.append_assoc]
      List.Perm _ (s.endedIn op e ++
          ((s.step e).handlersEnded op es ++ ((s.step e).after es).running op)) :=
          rest.append_left _
      List.Perm _ ((s.endedIn op e ++ (s.step e).handlersEnded op es) ++
          ((s.step e).after es).running op) := by
          rw [List.append_assoc]

theorem mem_handlersBegun {es : List Event} (begins : i ∈ s.handlersBegun op es) :
    ∃ before e after, es = before ++ e :: after ∧ i ∈ (s.after before).begunIn op e := by
  induction es generalizing s with
  | nil => cases begins
  | cons e es ih =>
    rcases List.mem_append.1 begins with now | later
    · exact ⟨[], e, es, rfl, now⟩
    · obtain ⟨before, e', after, rfl, begun⟩ := ih later
      exact ⟨e :: before, e', after, rfl, begun⟩

end System

end MessageChannels
