import MessageChannels.Proofs.Cancellation.Tokens

/-!
# Tasks that wait for tokens, whenever they run

A room of tokens tells after each step which tasks have finished, as if every task ran at once. Here
tasks run on their own, at any time between the calls and in any order. A task that has begun to wait
is due, and so is one that a change of its token's state has woken; when a task that is due runs, it
looks at the state, and finishes or falls asleep. So no task sleeps on a cancelled token, which is to
say that no wake-up is missed, and none finishes on another (`Alike`). Once no task is due, those
that have finished are the ones that the room of tokens tells (`Alike.finished_eq`), and tasks that
go on running come to that (`settled_foldl_run`). `TokenRoom.cancels` puts this together with what
the room shows of its tokens.
-/

set_option autoImplicit false

namespace MessageChannels

/-- Where a task that waits for a token stands. -/
inductive Waiting where
  /-- It has begun to wait, or was woken: it looks at the state when it runs. -/
  | due
  | asleep
  | finished
  deriving DecidableEq

/-- The families of tokens, and the tasks that wait, each with the family that it waits for. -/
structure TaskRoom where
  states : List Bool
  families : List Nat
  tasks : List (Nat × Waiting)

/-- What happens in a room of tasks. -/
inductive Move where
  /-- A call to a token. -/
  | call (step : TokenStep)
  /-- A task runs until it has to wait. -/
  | run (task : Nat)

namespace Move

/-- The call that a move makes, if it makes one. -/
def call? : Move → Option TokenStep
  | call step => some step
  | run _ => none

/-- The calls of moves. -/
def calls (moves : List Move) : List TokenStep := moves.filterMap call?

end Move

namespace TaskRoom

/-- A task after the state of a family has changed. -/
def woken (family : Nat) : Nat × Waiting → Nat × Waiting
  | (f, .asleep) => if f = family then (f, .due) else (f, .asleep)
  | task => task

/-- A task after it has run. -/
def looked (states : List Bool) : Nat × Waiting → Nat × Waiting
  | (f, .due) => if states[f]? = some true then (f, .finished) else (f, .asleep)
  | task => task

/-- The room after a call to a token. Only a change of a state wakes tasks. -/
def call (room : TaskRoom) : TokenStep → TaskRoom
  | .new =>
    { room with
      states := room.states ++ [false]
      families := room.families ++ [room.states.length] }
  | .clone token =>
    match room.families[token]? with
    | some family => { room with families := room.families ++ [family] }
    | none => room
  | .cancel token =>
    match room.families[token]? with
    | some family =>
      if room.states[family]? = some false then
        { room with
          states := room.states.set family true
          tasks := room.tasks.map (woken family) }
      else room
    | none => room
  | .wait token =>
    match room.families[token]? with
    | some family => { room with tasks := room.tasks ++ [(family, .due)] }
    | none => room

/-- The room after a task has run. -/
def run (room : TaskRoom) (task : Nat) : TaskRoom :=
  { room with tasks := room.tasks.modify task (looked room.states) }

/-- The room after a move. -/
def move (room : TaskRoom) : Move → TaskRoom
  | .call step => room.call step
  | .run task => room.run task

/-- The room after moves, from the one without tokens and tasks on. -/
def after (moves : List Move) : TaskRoom := moves.foldl move ⟨[], [], []⟩

/-- Whether no task is left to run. -/
def Settled (room : TaskRoom) : Prop := ∀ task ∈ room.tasks, task.2 ≠ .due

/-- The finished tasks in the order of their numbers. -/
def finished (room : TaskRoom) : List Nat :=
  (List.range room.tasks.length).filter fun t => room.tasks[t]?.map Prod.snd = some .finished

/-- A room of tasks has the tokens of a room of tokens, and no task of it missed a wake-up. -/
structure Alike (room : TaskRoom) (tokens : TokenRoom) : Prop where
  states : room.states = tokens.states
  families : room.families = tokens.families
  waiters : room.tasks.map Prod.fst = tokens.waiters
  /-- A task finishes only when its family is cancelled. -/
  finished : ∀ f, (f, .finished) ∈ room.tasks → room.states[f]? = some true
  /-- No task sleeps on a cancelled family. -/
  asleep : ∀ f, (f, .asleep) ∈ room.tasks → room.states[f]? ≠ some true

variable {room : TaskRoom} {tokens : TokenRoom} {f task : Nat}

/-! ## Calls -/

theorem fst_woken (family : Nat) (task : Nat × Waiting) : (woken family task).1 = task.1 := by
  obtain ⟨f, waiting⟩ := task
  cases waiting with
  | asleep =>
    dsimp only [woken]
    split <;> rfl
  | due => rfl
  | finished => rfl

theorem woken_eq_finished_iff {family : Nat} {task : Nat × Waiting} :
    woken family task = (f, .finished) ↔ task = (f, .finished) := by
  obtain ⟨g, waiting⟩ := task
  cases waiting with
  | asleep =>
    dsimp only [woken]
    split <;> simp
  | due => simp [woken]
  | finished => simp [woken]

/-- Who still sleeps after a change does not wait for the family that changed. -/
theorem woken_eq_asleep_iff {family : Nat} {task : Nat × Waiting} :
    woken family task = (f, .asleep) ↔ task = (f, .asleep) ∧ f ≠ family := by
  obtain ⟨g, waiting⟩ := task
  cases waiting with
  | asleep =>
    dsimp only [woken]
    by_cases same : g = family
    · rw [if_pos same]
      simp only [Prod.mk.injEq, reduceCtorEq, and_false, and_true, false_iff, not_and, not_not]
      rintro rfl
      exact same
    · rw [if_neg same]
      simp only [Prod.mk.injEq, and_true, ne_eq, iff_self_and]
      rintro rfl
      exact same
  | due => simp [woken]
  | finished => simp [woken]

/-- To cancel a family wakes the tasks that sleep on it. -/
theorem Alike.cancel (alike : Alike room tokens) (state : tokens.states[f]? = some false) :
    Alike { room with states := room.states.set f true, tasks := room.tasks.map (woken f) }
      (tokens.cancelFamily f) := by
  unfold TokenRoom.cancelFamily
  rw [if_pos state]
  rw [← alike.states] at state
  refine ⟨?states, alike.families, ?waiters, ?finished, ?asleep⟩
  case states => rw [alike.states]
  case waiters =>
    rw [← alike.waiters, List.map_map]
    exact List.map_congr_left fun task _ => fst_woken f task
  case finished =>
    intro g mem
    obtain ⟨task, mem, same⟩ := List.mem_map.1 mem
    rw [woken_eq_finished_iff] at same
    subst same
    exact (TokenRoom.getElem?_set_true state).2 (Or.inr (alike.finished g mem))
  case asleep =>
    intro g mem
    obtain ⟨task, mem, same⟩ := List.mem_map.1 mem
    obtain ⟨rfl, other⟩ := woken_eq_asleep_iff.1 same
    rw [Ne, TokenRoom.getElem?_set_true state]
    rintro (rfl | cancelled)
    · exact other rfl
    · exact alike.asleep g mem cancelled

theorem Alike.new (alike : Alike room tokens) : Alike (room.call .new) (tokens.step .new) where
  states := by
    simp only [call, TokenRoom.step, alike.states]
  families := by
    simp only [call, TokenRoom.step, alike.states, alike.families]
  waiters := alike.waiters
  finished := by
    intro f mem
    exact getElem?_snoc_eq_some_iff.2 (Or.inl (alike.finished f mem))
  asleep := by
    intro f mem cancelled
    rcases getElem?_snoc_eq_some_iff.1 cancelled with before | ⟨_, impossible⟩
    · exact alike.asleep f mem before
    · cases impossible

/-- A task that begins to wait is due, whatever the state. -/
theorem Alike.wait (alike : Alike room tokens) (f : Nat) :
    Alike { room with tasks := room.tasks ++ [(f, .due)] } (tokens.waitFor f) where
  states := alike.states
  families := alike.families
  waiters := by
    rw [List.map_append, alike.waiters]
    rfl
  finished := by
    intro g mem
    rcases List.mem_append.1 mem with before | new
    · exact alike.finished g before
    · cases List.mem_singleton.1 new
  asleep := by
    intro g mem
    rcases List.mem_append.1 mem with before | new
    · exact alike.asleep g before
    · cases List.mem_singleton.1 new

theorem Alike.clone (alike : Alike room tokens) (f : Nat) :
    Alike { room with families := room.families ++ [f] }
      { tokens with families := tokens.families ++ [f] } where
  states := alike.states
  families := by
    simp only [alike.families]
  waiters := alike.waiters
  finished := alike.finished
  asleep := alike.asleep

theorem Alike.call (alike : Alike room tokens) (step : TokenStep) :
    Alike (room.call step) (tokens.step step) := by
  have same (token : Nat) : room.families[token]? = tokens.families[token]? := by
    rw [alike.families]
  cases step with
  | new => exact alike.new
  | clone token =>
    cases found : tokens.families[token]? with
    | none =>
      simp only [TaskRoom.call, TokenRoom.step, same, found]
      exact alike
    | some f =>
      simp only [TaskRoom.call, TokenRoom.step, same, found]
      exact alike.clone f
  | cancel token =>
    cases found : tokens.families[token]? with
    | none =>
      simp only [TaskRoom.call, TokenRoom.step, same, found]
      exact alike
    | some f =>
      simp only [TaskRoom.call, TokenRoom.step, same, found]
      by_cases state : tokens.states[f]? = some false
      · rw [if_pos (alike.states ▸ state)]
        exact alike.cancel state
      · rw [if_neg (alike.states ▸ state), TokenRoom.cancelFamily, if_neg state]
        exact alike
  | wait token =>
    cases found : tokens.families[token]? with
    | none =>
      simp only [TaskRoom.call, TokenRoom.step, same, found]
      exact alike
    | some f =>
      simp only [TaskRoom.call, TokenRoom.step, same, found]
      exact alike.wait f

/-! ## Tasks that run -/

theorem fst_looked (states : List Bool) (task : Nat × Waiting) : (looked states task).1 = task.1 := by
  obtain ⟨f, waiting⟩ := task
  cases waiting with
  | due =>
    dsimp only [looked]
    split <;> rfl
  | asleep => rfl
  | finished => rfl

/-- A task that has run is not due. -/
theorem looked_ne_due (states : List Bool) (task : Nat × Waiting) : (looked states task).2 ≠ .due := by
  obtain ⟨f, waiting⟩ := task
  cases waiting with
  | due =>
    dsimp only [looked]
    split <;> simp
  | asleep => simp [looked]
  | finished => simp [looked]

/-- A task stands as it did unless it has run. -/
theorem mem_run {t : Nat × Waiting} (mem : t ∈ (room.run task).tasks) :
    t ∈ room.tasks ∨ ∃ t' ∈ room.tasks, looked room.states t' = t := by
  obtain ⟨i, found⟩ := List.mem_iff_getElem?.1 mem
  rw [run, List.getElem?_modify] at found
  obtain ⟨t', there, same⟩ := Option.map_eq_some_iff.1 found
  have mem' := List.mem_of_getElem? there
  split at same
  · exact Or.inr ⟨t', mem', same⟩
  · exact Or.inl (same ▸ mem')

/-- A task finishes or falls asleep as the state of its family has it. -/
theorem Alike.run (alike : Alike room tokens) (task : Nat) : Alike (room.run task) tokens where
  states := alike.states
  families := alike.families
  waiters := by
    rw [← alike.waiters]
    apply List.ext_getElem?
    intro i
    rw [List.getElem?_map, List.getElem?_map, TaskRoom.run, List.getElem?_modify]
    cases room.tasks[i]? with
    | none => rfl
    | some t =>
      by_cases this : task = i
      · simp [this, fst_looked]
      · simp [this]
  finished := by
    intro f mem
    rcases mem_run mem with before | ⟨⟨g, waiting⟩, before, same⟩
    · exact alike.finished f before
    · cases waiting with
      | due =>
        dsimp only [looked] at same
        split at same
        · next cancelled =>
          obtain rfl := (Prod.mk.inj same).1
          exact cancelled
        · cases same
      | asleep => cases same
      | finished =>
        obtain rfl := (Prod.mk.inj same).1
        exact alike.finished g before
  asleep := by
    intro f mem
    rcases mem_run mem with before | ⟨⟨g, waiting⟩, before, same⟩
    · exact alike.asleep f before
    · cases waiting with
      | due =>
        dsimp only [looked] at same
        split at same
        · cases same
        · next uncancelled =>
          obtain rfl := (Prod.mk.inj same).1
          exact uncancelled
      | asleep =>
        obtain rfl := (Prod.mk.inj same).1
        exact alike.asleep g before
      | finished => cases same

/-! ## Runs -/

/-- **No wake-up is missed**, whatever is called and whenever tasks run. -/
theorem alike_after (moves : List Move) : Alike (after moves) (TokenRoom.after (Move.calls moves)) := by
  induction moves using List.reverseRecOn with
  | nil =>
    refine ⟨rfl, rfl, rfl, ?_, ?_⟩
    · intro f mem
      cases mem
    · intro f mem
      cases mem
  | append_singleton moves next ih =>
    rw [after, List.foldl_append, Move.calls, List.filterMap_append]
    cases next with
    | call step =>
      show Alike ((after moves).call step) (TokenRoom.after (Move.calls moves ++ [step]))
      rw [TokenRoom.after_snoc]
      exact ih.call step
    | run task =>
      show Alike ((after moves).run task) (TokenRoom.after (Move.calls moves ++ []))
      rw [List.append_nil]
      exact ih.run task

/-- Once no task is due, a task has finished exactly if the room of tokens tells so. -/
theorem Alike.finished_eq {log : TokenLog} (alike : Alike room tokens)
    (follows : TokenRoom.Follows log tokens) (settled : room.Settled) :
    room.finished = tokens.finished := by
  have length : room.tasks.length = tokens.waiters.length := by
    rw [← alike.waiters, List.length_map]
  unfold TaskRoom.finished TokenRoom.finished
  rw [length]
  apply List.filter_congr
  intro t inside
  rw [List.mem_range, ← length] at inside
  obtain ⟨⟨f, waiting⟩, found⟩ : ∃ task, room.tasks[t]? = some task :=
    ⟨_, List.getElem?_eq_getElem inside⟩
  have mem := List.mem_of_getElem? found
  have waiter : tokens.waiters[t]? = some f := by
    rw [← alike.waiters, List.getElem?_map, found]
    rfl
  have woken : t ∈ tokens.woken ↔ tokens.states[f]? = some true := by
    simp [follows.woken, waiter]
  rw [Bool.eq_iff_iff, List.contains_iff_mem, woken, ← alike.states, found]
  cases waiting with
  | due => exact absurd rfl (settled _ mem)
  | asleep => simp [alike.asleep f mem]
  | finished => simp [alike.finished f mem]

/-- A task that is due after another has run was due before, and is another one. -/
theorem due_run {t : Nat} (due : (room.run task).tasks[t]?.map Prod.snd = some .due) :
    t ≠ task ∧ room.tasks[t]?.map Prod.snd = some .due := by
  rw [run, List.getElem?_modify] at due
  obtain ⟨ran, found, same⟩ := Option.map_eq_some_iff.1 due
  obtain ⟨before, there, rfl⟩ := Option.map_eq_some_iff.1 found
  by_cases this : task = t
  · rw [if_pos this] at same
    exact absurd same (looked_ne_due _ _)
  · rw [if_neg this] at same
    rw [there]
    exact ⟨Ne.symm this, congrArg some same⟩

theorem due_foldl_run {t : Nat} {tasks : List Nat}
    (due : (tasks.foldl run room).tasks[t]?.map Prod.snd = some .due) :
    t ∉ tasks ∧ room.tasks[t]?.map Prod.snd = some .due := by
  induction tasks generalizing room with
  | nil => exact ⟨List.not_mem_nil, due⟩
  | cons task tasks ih =>
    obtain ⟨later, due⟩ := ih due
    obtain ⟨other, due⟩ := due_run due
    exact ⟨List.not_mem_cons_of_ne_of_not_mem other later, due⟩

/-- **Tasks that all run once come to rest**, in whatever order they run. -/
theorem settled_foldl_run {tasks : List Nat} (all : ∀ t < room.tasks.length, t ∈ tasks) :
    (tasks.foldl run room).Settled := by
  intro task mem due
  obtain ⟨t, found⟩ := List.mem_iff_getElem?.1 mem
  have still : (tasks.foldl run room).tasks[t]?.map Prod.snd = some .due := by
    rw [found, ← due]
    rfl
  obtain ⟨unrun, before⟩ := due_foldl_run still
  obtain ⟨_, there, _⟩ := Option.map_eq_some_iff.1 before
  exact unrun (all t (List.getElem?_eq_some_iff.1 there).1)

theorem after_run (moves : List Move) (tasks : List Nat) :
    after (moves ++ tasks.map .run) = tasks.foldl run (after moves) := by
  rw [after, List.foldl_append, List.foldl_map]
  rfl

end TaskRoom

namespace TokenRoom

/-- What holds of tokens and of the tasks that wait for them after any steps. -/
structure Cancels (steps : List TokenStep) : Prop where
  /-- A token is cancelled exactly if it or one of its kin was. -/
  cancelled : ∀ token, (after steps).isCancelled token = true ↔
    ∃ other ∈ (TokenLog.of steps).cancelled, Kin (TokenLog.of steps).origins other token
  stays : ∀ later token, (after steps).isCancelled token = true →
    (after (steps ++ later)).isCancelled token = true
  /-- What is not done to its kin leaves a token as it is. -/
  unrelated : ∀ later token, token < (TokenLog.of steps).origins.length →
    (∀ other, .cancel other ∈ later → ¬ Kin (TokenLog.of (steps ++ later)).origins other token) →
    (after (steps ++ later)).isCancelled token = (after steps).isCancelled token
  /-- A task has finished exactly if the token that it waits for is cancelled. -/
  finished : ∀ task, task ∈ (after steps).finished ↔
    ∃ token, (TokenLog.of steps).awaited[task]? = some token ∧
      (after steps).isCancelled token = true
  /-- The same tasks have finished if they run whenever they do, once none is left to run. -/
  settled : ∀ moves, Move.calls moves = steps → (TaskRoom.after moves).Settled →
    (TaskRoom.after moves).finished = (after steps).finished
  /-- None is left to run after each has run once more, in whatever order. -/
  settles : ∀ moves, Move.calls moves = steps → ∀ tasks : List Nat,
    (∀ task < (TaskRoom.after moves).tasks.length, task ∈ tasks) →
    Move.calls (moves ++ tasks.map .run) = steps ∧
      (TaskRoom.after (moves ++ tasks.map .run)).Settled

/-- **Cancellation lasts, reaches all kin and no one else, and no task misses it**, for every
sequence of steps over any number of tokens. -/
theorem cancels (steps : List TokenStep) : Cancels steps where
  cancelled := by
    intro token
    exact (follows_after steps).isCancelled_iff
  stays := by
    intro later token cancelled
    exact isCancelled_append cancelled later
  unrelated := by
    intro later token there unrelated
    exact isCancelled_unrelated there unrelated
  finished := by
    intro task
    exact (follows_after steps).mem_finished_iff
  settled := by
    rintro moves rfl settled
    exact (TaskRoom.alike_after moves).finished_eq (follows_after _) settled
  settles := by
    rintro moves rfl tasks all
    constructor
    · have none : (tasks.map Move.run).filterMap Move.call? = [] := by
        simp [List.filterMap_map, Move.call?, Function.comp_def]
      rw [Move.calls, List.filterMap_append, none, List.append_nil]
      rfl
    · rw [TaskRoom.after_run]
      exact TaskRoom.settled_foldl_run all

/-- A clone of a clone, made after its kin was cancelled, lets a task through that begins to wait on
it; a token of its own does not. -/
example :
    (after [.new, .clone 0, .wait 0, .new, .wait 2, .cancel 1, .clone 1, .wait 3]).finished = [0, 2] := by
  decide

end TokenRoom

end MessageChannels
