/-!
# Cancellation tokens

A token can be cancelled once and for all, and shares its state with its clones. A `TokenRoom` holds
any number of tokens and of tasks that wait for one: the state of each family of clones, the family
of each token, and the waiting tasks. A task has finished exactly if its token is cancelled, be it
that it began to wait before or after.
-/

set_option autoImplicit false

namespace MessageChannels

/-- A number of tokens and of tasks waiting for them. -/
structure TokenRoom where
  /-- Whether each family is cancelled. -/
  states : List Bool
  /-- The family of each token. -/
  families : List Nat
  /-- The family that each waiting task waits for. -/
  waiters : List Nat
  /-- The tasks that have been woken. -/
  woken : List Nat
  deriving DecidableEq

/-- One thing done with the tokens of a room. -/
inductive TokenStep where
  | new
  | clone (token : Nat)
  | cancel (token : Nat)
  | wait (token : Nat)
  deriving DecidableEq

namespace TokenRoom

/-- A room with one token that is not cancelled. -/
def single : TokenRoom := ⟨[false], [0], [], []⟩

/-- Whether a token is cancelled. -/
def isCancelled (room : TokenRoom) (token : Nat) : Bool :=
  ((room.families[token]?).bind (room.states[·]?)).getD false

/-- The room after a family has been cancelled. The tasks waiting for it are woken only by a change
of its state. -/
def cancelFamily (room : TokenRoom) (family : Nat) : TokenRoom :=
  if room.states[family]? = some false then
    { room with
      states := room.states.set family true
      woken := room.woken
        ++ (List.range room.waiters.length).filter (fun t => room.waiters[t]? = some family) }
  else room

/-- The room after a task has begun to wait for a family. It looks at the state before it waits. -/
def waitFor (room : TokenRoom) (family : Nat) : TokenRoom :=
  { room with
    waiters := room.waiters ++ [family]
    woken := if room.states[family]? = some true then room.woken ++ [room.waiters.length]
      else room.woken }

/-- The room after a step. -/
def step (room : TokenRoom) : TokenStep → TokenRoom
  | .new =>
    { room with
      states := room.states ++ [false]
      families := room.families ++ [room.states.length] }
  | .clone token =>
    match room.families[token]? with
    | some family => { room with families := room.families ++ [family] }
    | none => room
  | .cancel token =>
    match room.families[token]? with
    | some family => room.cancelFamily family
    | none => room
  | .wait token =>
    match room.families[token]? with
    | some family => room.waitFor family
    | none => room

/-- Whether each token is cancelled. -/
def readings (room : TokenRoom) : List Bool :=
  (List.range room.families.length).map room.isCancelled

/-- The finished tasks in the order of their numbers. -/
def finished (room : TokenRoom) : List Nat :=
  (List.range room.waiters.length).filter (room.woken.contains ·)

end TokenRoom

end MessageChannels
