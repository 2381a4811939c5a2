import Mathlib.Data.List.Induction
import MessageChannels.Cancellation
import MessageChannels.Proofs.Kinship

/-!
# What a room of tokens shows

A room keeps the state of each family of tokens and which tasks it has woken. Beside it stands the
log of what was asked of it: how each token was made, which tokens were cancelled, and for which one
each task waits. `TokenRoom.Follows` says what of the log shows in the room. Every step keeps it
(`Follows.step`): a change of a state wakes the tasks that wait, and a task that begins to wait later
looks at the state first, so that the tasks woken are always those of the families cancelled.
-/

set_option autoImplicit false

namespace MessageChannels

/-- What was asked of a room of tokens. A step that names a token that is not there asks nothing. -/
structure TokenLog where
  /-- The token that each token was cloned from, if it was. -/
  origins : List (Option Nat)
  /-- The tokens that were cancelled, call by call. -/
  cancelled : List Nat
  /-- The token that each task waits for. -/
  awaited : List Nat

namespace TokenLog

/-- The log with one more step. -/
def enter (log : TokenLog) : TokenStep → TokenLog
  | .new => { log with origins := log.origins ++ [none] }
  | .clone token =>
    if token < log.origins.length then { log with origins := log.origins ++ [some token] } else log
  | .cancel token =>
    if token < log.origins.length then { log with cancelled := log.cancelled ++ [token] } else log
  | .wait token =>
    if token < log.origins.length then { log with awaited := log.awaited ++ [token] } else log

/-- The log of steps, of which the first finds no tokens. -/
def of (steps : List TokenStep) : TokenLog := steps.foldl enter ⟨[], [], []⟩

theorem of_snoc (steps : List TokenStep) (step : TokenStep) :
    of (steps ++ [step]) = (of steps).enter step := by
  rw [of, List.foldl_append]
  rfl

end TokenLog

namespace TokenRoom

/-- The room without tokens. -/
def empty : TokenRoom := ⟨[], [], [], []⟩

/-- The room after steps, from the one without tokens on. -/
def after (steps : List TokenStep) : TokenRoom := steps.foldl step empty

theorem after_snoc (steps : List TokenStep) (next : TokenStep) :
    after (steps ++ [next]) = (after steps).step next := by
  rw [after, List.foldl_append]
  rfl

/-- A room shows what its log says. -/
structure Follows (log : TokenLog) (room : TokenRoom) : Prop where
  families : Families log.origins room.families room.states.length
  /-- A token that was cancelled is of a cancelled family. -/
  cancelled : ∀ token ∈ log.cancelled,
    ∃ f, room.families[token]? = some f ∧ room.states[f]? = some true
  /-- A family is cancelled only through a token of it. -/
  through : ∀ f, room.states[f]? = some true →
    ∃ token ∈ log.cancelled, room.families[token]? = some f
  tasks : room.waiters.length = log.awaited.length
  awaited : ∀ {task token : Nat}, log.awaited[task]? = some token →
    ∃ f, room.families[token]? = some f ∧ room.waiters[task]? = some f
  /-- The tasks woken are those that wait for a cancelled family. -/
  woken : ∀ task, task ∈ room.woken ↔
    ∃ f, room.waiters[task]? = some f ∧ room.states[f]? = some true

theorem follows_empty : Follows ⟨[], [], []⟩ empty where
  families := .empty
  cancelled := by
    intro token mem
    cases mem
  through := by
    intro f cancelled
    cases cancelled
  tasks := rfl
  awaited := by
    intro task token found
    cases found
  woken := by
    intro task
    constructor
    · intro mem
      cases mem
    · rintro ⟨f, found, _⟩
      cases found

variable {log : TokenLog} {room : TokenRoom} {token f : Nat}

/-- A family is cancelled or it is not: there is no third. -/
theorem Follows.state_cases (follows : Follows log room) (found : room.families[token]? = some f) :
    room.states[f]? = some false ∨ room.states[f]? = some true := by
  have there := follows.families.lt found
  rw [List.getElem?_eq_getElem there]
  cases room.states[f] with
  | false => exact Or.inl rfl
  | true => exact Or.inr rfl

/-! ## One step -/

theorem Follows.new (follows : Follows log room) :
    Follows (log.enter .new) (room.step .new) where
  families := by
    have founded := follows.families.found
    rw [show room.states.length + 1 = (room.states ++ [false]).length by simp] at founded
    exact founded
  cancelled := by
    intro token mem
    obtain ⟨f, found, state⟩ := follows.cancelled token mem
    exact ⟨f, family_snoc found _, getElem?_snoc_eq_some_iff.2 (Or.inl state)⟩
  through := by
    intro f cancelled
    rcases getElem?_snoc_eq_some_iff.1 cancelled with before | ⟨_, impossible⟩
    · obtain ⟨token, mem, found⟩ := follows.through f before
      exact ⟨token, mem, family_snoc found _⟩
    · cases impossible
  tasks := follows.tasks
  awaited := by
    intro task token waits
    obtain ⟨f, found, waiter⟩ := follows.awaited waits
    exact ⟨f, family_snoc found _, waiter⟩
  woken := by
    intro task
    rw [show task ∈ (room.step .new).woken ↔ task ∈ room.woken from Iff.rfl, follows.woken]
    constructor
    · rintro ⟨f, waiter, state⟩
      exact ⟨f, waiter, getElem?_snoc_eq_some_iff.2 (Or.inl state)⟩
    · rintro ⟨f, waiter, state⟩
      rcases getElem?_snoc_eq_some_iff.1 state with before | ⟨_, impossible⟩
      · exact ⟨f, waiter, before⟩
      · cases impossible

theorem Follows.clone (follows : Follows log room) (found : room.families[token]? = some f) :
    Follows { log with origins := log.origins ++ [some token] }
      { room with families := room.families ++ [f] } where
  families := follows.families.join found
  cancelled := by
    intro other mem
    obtain ⟨g, found, state⟩ := follows.cancelled other mem
    exact ⟨g, family_snoc found f, state⟩
  through := by
    intro g cancelled
    obtain ⟨other, mem, found⟩ := follows.through g cancelled
    exact ⟨other, mem, family_snoc found f⟩
  tasks := follows.tasks
  awaited := by
    intro task other waits
    obtain ⟨g, found, waiter⟩ := follows.awaited waits
    exact ⟨g, family_snoc found f, waiter⟩
  woken := follows.woken

/-- Where a family has just been cancelled, a family is cancelled if it was or if it is this one. -/
theorem getElem?_set_true {states : List Bool} {f g : Nat} (uncancelled : states[f]? = some false) :
    (states.set f true)[g]? = some true ↔ g = f ∨ states[g]? = some true := by
  have there := (List.getElem?_eq_some_iff.1 uncancelled).1
  by_cases same : g = f
  · subst same
    simp [there]
  · simp [same, Ne.symm same]

/-- The tasks woken by a change are those that wait for the family. -/
theorem mem_waiting {waiters : List Nat} {task : Nat} :
    task ∈ (List.range waiters.length).filter (fun t => waiters[t]? = some f) ↔
      waiters[task]? = some f := by
  rw [List.mem_filter, List.mem_range, decide_eq_true_eq]
  constructor
  · exact And.right
  · intro waits
    exact ⟨(List.getElem?_eq_some_iff.1 waits).1, waits⟩

/-- To cancel a token of a family that is cancelled already changes nothing, and wakes no one. -/
theorem Follows.cancel_again (follows : Follows log room) (found : room.families[token]? = some f)
    (state : room.states[f]? = some true) :
    Follows { log with cancelled := log.cancelled ++ [token] } room where
  families := follows.families
  cancelled := by
    intro other mem
    rcases List.mem_append.1 mem with before | new
    · exact follows.cancelled other before
    · obtain rfl := List.mem_singleton.1 new
      exact ⟨f, found, state⟩
  through := by
    intro g cancelled
    obtain ⟨other, mem, found⟩ := follows.through g cancelled
    exact ⟨other, List.mem_append_left _ mem, found⟩
  tasks := follows.tasks
  awaited := follows.awaited
  woken := follows.woken

theorem Follows.cancel (follows : Follows log room) (found : room.families[token]? = some f)
    (state : room.states[f]? = some false) :
    Follows { log with cancelled := log.cancelled ++ [token] } (room.cancelFamily f) := by
  unfold cancelFamily
  rw [if_pos state]
  refine ⟨?families, ?cancelled, ?through, follows.tasks, follows.awaited, ?woken⟩
  case families =>
    rw [List.length_set]
    exact follows.families
  case cancelled =>
    intro other mem
    rcases List.mem_append.1 mem with before | new
    · obtain ⟨g, found, before⟩ := follows.cancelled other before
      exact ⟨g, found, (getElem?_set_true state).2 (Or.inr before)⟩
    · obtain rfl := List.mem_singleton.1 new
      exact ⟨f, found, (getElem?_set_true state).2 (Or.inl rfl)⟩
  case through =>
    intro g cancelled
    rcases (getElem?_set_true state).1 cancelled with rfl | before
    · exact ⟨token, List.mem_append_right _ List.mem_cons_self, found⟩
    · obtain ⟨other, mem, found⟩ := follows.through g before
      exact ⟨other, List.mem_append_left _ mem, found⟩
  case woken =>
    intro task
    rw [List.mem_append, mem_waiting, follows.woken]
    constructor
    · rintro (⟨g, waiter, before⟩ | waiter)
      · exact ⟨g, waiter, (getElem?_set_true state).2 (Or.inr before)⟩
      · exact ⟨f, waiter, (getElem?_set_true state).2 (Or.inl rfl)⟩
    · rintro ⟨g, waiter, cancelled⟩
      rcases (getElem?_set_true state).1 cancelled with rfl | before
      · exact Or.inr waiter
      · exact Or.inl ⟨g, waiter, before⟩

theorem Follows.wait (follows : Follows log room) (found : room.families[token]? = some f) :
    Follows { log with awaited := log.awaited ++ [token] } (room.waitFor f) where
  families := follows.families
  cancelled := follows.cancelled
  through := follows.through
  tasks := by
    simp only [waitFor, List.length_append, List.length_singleton, follows.tasks]
  awaited := by
    intro task other waits
    rcases getElem?_snoc_eq_some_iff.1 waits with before | ⟨rfl, rfl⟩
    · obtain ⟨g, found, waiter⟩ := follows.awaited before
      exact ⟨g, found, getElem?_snoc_eq_some_iff.2 (Or.inl waiter)⟩
    · exact ⟨f, found, getElem?_snoc_eq_some_iff.2 (Or.inr ⟨follows.tasks.symm, rfl⟩)⟩
  woken := by
    intro task
    -- The new task is woken at once if it finds its family cancelled, and not at all otherwise.
    have woken : task ∈ (room.waitFor f).woken ↔
        task ∈ room.woken ∨ room.states[f]? = some true ∧ task = room.waiters.length := by
      unfold waitFor
      by_cases state : room.states[f]? = some true
      · simp [state]
      · simp [state]
    rw [woken, follows.woken]
    constructor
    · rintro (⟨g, waiter, state⟩ | ⟨state, rfl⟩)
      · exact ⟨g, getElem?_snoc_eq_some_iff.2 (Or.inl waiter), state⟩
      · exact ⟨f, List.getElem?_concat_length, state⟩
    · rintro ⟨g, waiter, state⟩
      rcases getElem?_snoc_eq_some_iff.1 waiter with before | ⟨rfl, rfl⟩
      · exact Or.inl ⟨g, before, state⟩
      · exact Or.inr ⟨state, rfl⟩

/-- Every step keeps what the room shows of its log. -/
theorem Follows.step (follows : Follows log room) (next : TokenStep) :
    Follows (log.enter next) (room.step next) := by
  have known (token : Nat) : room.families[token]? = none ∧ ¬ token < log.origins.length ∨
      ∃ f, room.families[token]? = some f ∧ token < log.origins.length := by
    cases found : room.families[token]? with
    | none => exact Or.inl ⟨rfl, follows.families.eq_none_iff.1 found⟩
    | some f => exact Or.inr ⟨f, rfl, follows.families.lt_length found⟩
  cases next with
  | new => exact follows.new
  | clone token =>
    rcases known token with ⟨found, outside⟩ | ⟨f, found, there⟩
    · simp only [TokenRoom.step, TokenLog.enter, found, if_neg outside]
      exact follows
    · simp only [TokenRoom.step, TokenLog.enter, found, if_pos there]
      exact follows.clone found
  | cancel token =>
    rcases known token with ⟨found, outside⟩ | ⟨f, found, there⟩
    · simp only [TokenRoom.step, TokenLog.enter, found, if_neg outside]
      exact follows
    · simp only [TokenRoom.step, TokenLog.enter, found, if_pos there]
      rcases follows.state_cases found with state | state
      · exact follows.cancel found state
      · rw [cancelFamily, if_neg (by rw [state]; decide)]
        exact follows.cancel_again found state
  | wait token =>
    rcases known token with ⟨found, outside⟩ | ⟨f, found, there⟩
    · simp only [TokenRoom.step, TokenLog.enter, found, if_neg outside]
      exact follows
    · simp only [TokenRoom.step, TokenLog.enter, found, if_pos there]
      exact follows.wait found

/-! ## What is read off the room -/

theorem isCancelled_iff (room : TokenRoom) (token : Nat) :
    room.isCancelled token = true ↔
      ∃ f, room.families[token]? = some f ∧ room.states[f]? = some true := by
  unfold isCancelled
  cases room.families[token]? with
  | none => simp
  | some f =>
    cases state : room.states[f]? with
    | none => simp [state]
    | some b => simp [state]

/-- A token is cancelled exactly if one of its kin was. -/
theorem Follows.isCancelled_iff (follows : Follows log room) :
    room.isCancelled token = true ↔ ∃ other ∈ log.cancelled, Kin log.origins other token := by
  rw [TokenRoom.isCancelled_iff]
  constructor
  · rintro ⟨f, found, state⟩
    obtain ⟨other, mem, family⟩ := follows.through f state
    exact ⟨other, mem, (follows.families.kin_iff family).2 found⟩
  · rintro ⟨other, mem, kin⟩
    obtain ⟨f, family, state⟩ := follows.cancelled other mem
    exact ⟨f, (follows.families.kin_iff family).1 kin, state⟩

/-- A task has finished exactly if it waits for a token that is cancelled. -/
theorem Follows.mem_finished_iff (follows : Follows log room) {task : Nat} :
    task ∈ room.finished ↔
      ∃ token, log.awaited[task]? = some token ∧ room.isCancelled token = true := by
  unfold finished
  rw [List.mem_filter, List.mem_range, List.contains_iff_mem, follows.woken]
  constructor
  · rintro ⟨there, f, waiter, state⟩
    rw [follows.tasks] at there
    obtain ⟨g, found, waiter'⟩ := follows.awaited (List.getElem?_eq_getElem there)
    obtain rfl := Option.some.inj (waiter.symm.trans waiter')
    exact ⟨_, List.getElem?_eq_getElem there, (TokenRoom.isCancelled_iff _ _).2 ⟨f, found, state⟩⟩
  · rintro ⟨token, waits, cancelled⟩
    obtain ⟨f, found, state⟩ := (TokenRoom.isCancelled_iff _ _).1 cancelled
    obtain ⟨g, found', waiter⟩ := follows.awaited waits
    obtain rfl := Option.some.inj (found.symm.trans found')
    exact ⟨(List.getElem?_eq_some_iff.1 waiter).1, f, waiter, state⟩

/-! ## What a step changes -/

theorem family_step {next : TokenStep} (found : room.families[token]? = some f) :
    (room.step next).families[token]? = some f := by
  cases next with
  | new => exact family_snoc found _
  | clone other =>
    dsimp only [TokenRoom.step]
    split
    · exact family_snoc found _
    · exact found
  | cancel other =>
    dsimp only [TokenRoom.step]
    split
    · unfold cancelFamily
      split <;> exact found
    · exact found
  | wait other =>
    dsimp only [TokenRoom.step]
    split <;> exact found

/-- A family is cancelled by the step that names a token of it, and by no other. -/
theorem Follows.state_step_iff (follows : Follows log room) {next : TokenStep} :
    (room.step next).states[f]? = some true ↔
      room.states[f]? = some true ∨ ∃ other, next = .cancel other ∧ room.families[other]? = some f := by
  cases next with
  | new => simp [TokenRoom.step, getElem?_snoc_eq_some_iff]
  | clone other =>
    dsimp only [TokenRoom.step]
    split <;> simp
  | cancel other =>
    dsimp only [TokenRoom.step]
    split
    · next g found =>
      rcases follows.state_cases found with state | state
      · rw [cancelFamily, if_pos state, getElem?_set_true state]
        simp [found, or_comm, eq_comm]
      · rw [cancelFamily, if_neg (by rw [state]; decide)]
        simp only [TokenStep.cancel.injEq, exists_eq_left', found, Option.some.injEq]
        constructor
        · exact Or.inl
        · rintro (before | rfl)
          · exact before
          · exact state
    · next found => simp [found]
  | wait other =>
    dsimp only [TokenRoom.step]
    split <;> simp [waitFor]

/-- **A step cancels a token that is there if it names one of its kin**, and changes no other. -/
theorem Follows.isCancelled_step_iff (follows : Follows log room) {next : TokenStep}
    (there : token < log.origins.length) :
    (room.step next).isCancelled token = true ↔
      room.isCancelled token = true ∨
        ∃ other, next = .cancel other ∧ Kin log.origins other token := by
  obtain ⟨f, found⟩ := follows.families.exists_family there
  have before : room.isCancelled token = true ↔ room.states[f]? = some true := by
    simp [TokenRoom.isCancelled_iff, found]
  have after : (room.step next).isCancelled token = true ↔
      (room.step next).states[f]? = some true := by
    simp [TokenRoom.isCancelled_iff, family_step found]
  have kin (other : Nat) : Kin log.origins other token ↔ room.families[other]? = some f := by
    rw [← follows.families.kin_iff found]
    exact ⟨Kin.symm, Kin.symm⟩
  rw [before, after, follows.state_step_iff]
  simp only [kin]

/-! ## Runs -/

theorem follows_after (steps : List TokenStep) : Follows (.of steps) (after steps) := by
  induction steps using List.reverseRecOn with
  | nil => exact follows_empty
  | append_singleton steps next ih =>
    rw [after_snoc, TokenLog.of_snoc]
    exact ih.step next

/-- Kin stay kin whatever is asked next. -/
theorem kin_enter {a b : Nat} (kin : Kin log.origins a b) (next : TokenStep) :
    Kin (log.enter next).origins a b := by
  cases next with
  | new => exact kin.snoc none
  | clone other =>
    dsimp only [TokenLog.enter]
    split
    · exact kin.snoc _
    · exact kin
  | cancel other =>
    dsimp only [TokenLog.enter]
    split <;> exact kin
  | wait other =>
    dsimp only [TokenLog.enter]
    split <;> exact kin

theorem length_enter (log : TokenLog) (next : TokenStep) :
    log.origins.length ≤ (log.enter next).origins.length := by
  cases next with
  | new => simp [TokenLog.enter]
  | _ =>
    dsimp only [TokenLog.enter]
    split <;> simp

theorem length_of_append (steps later : List TokenStep) :
    (TokenLog.of steps).origins.length ≤ (TokenLog.of (steps ++ later)).origins.length := by
  induction later using List.reverseRecOn with
  | nil => simp
  | append_singleton later next ih =>
    rw [← List.append_assoc, TokenLog.of_snoc]
    exact Nat.le_trans ih (length_enter _ next)

/-- A token that is cancelled stays so. -/
theorem isCancelled_append {steps : List TokenStep} (cancelled : (after steps).isCancelled token = true)
    (later : List TokenStep) : (after (steps ++ later)).isCancelled token = true := by
  induction later using List.reverseRecOn with
  | nil => rwa [List.append_nil]
  | append_singleton later next ih =>
    rw [← List.append_assoc, after_snoc]
    have follows := follows_after (steps ++ later)
    obtain ⟨f, found, state⟩ := (isCancelled_iff _ _).1 ih
    exact (follows.isCancelled_step_iff (follows.families.lt_length found)).2 (Or.inl ih)

/-- Steps that cancel none of its kin leave a token as it is. -/
theorem isCancelled_unrelated {steps later : List TokenStep}
    (there : token < (TokenLog.of steps).origins.length)
    (unrelated : ∀ other, .cancel other ∈ later →
      ¬ Kin (TokenLog.of (steps ++ later)).origins other token) :
    (after (steps ++ later)).isCancelled token = (after steps).isCancelled token := by
  induction later using List.reverseRecOn with
  | nil => rw [List.append_nil]
  | append_singleton later next ih =>
    rw [← List.append_assoc, TokenLog.of_snoc] at unrelated
    have before := ih fun other mem kin =>
      unrelated other (List.mem_append_left _ mem) (kin_enter kin next)
    have follows := follows_after (steps ++ later)
    have still := Nat.lt_of_lt_of_le there (length_of_append steps later)
    rw [← List.append_assoc, after_snoc, ← before, Bool.eq_iff_iff,
      follows.isCancelled_step_iff still]
    constructor
    · rintro (cancelled | ⟨other, rfl, kin⟩)
      · exact cancelled
      · exact absurd (kin_enter kin _) (unrelated other (by simp))
    · exact Or.inl

end TokenRoom

end MessageChannels
