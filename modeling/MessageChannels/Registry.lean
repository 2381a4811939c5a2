import MessageChannels.Channel
import MessageChannels.Dictionary
import MessageChannels.Error

/-!
# The registry of channels

The channels of a service by name, and which of them receives dead letters. Registering a channel
under a name that is taken replaces the earlier channel. Every channel stands under its own name and
has a retry age, and the dead-letter channel is a registered one: these are part of the type.
-/

set_option autoImplicit false

namespace MessageChannels

/-- Channels by name, and the name of the dead-letter channel. -/
structure Registry where
  channels : Dictionary Channel
  deadLetterId : Option String
  keyed : ∀ id c, channels.get? id = some c → c.id = id ∧ c.maxRetryAge ≠ Span.zero
  designated : ∀ id, deadLetterId = some id → (channels.get? id).isSome = true

namespace Registry

/-- The registry without channels. -/
def empty : Registry :=
  ⟨Dictionary.empty, none, fun _ _ h => by simp at h, fun _ h => by simp at h⟩

instance : Inhabited Registry := ⟨empty⟩

/-- The registry with one more channel, or one replaced. -/
def add (r : Registry) (c : Channel) : Registry where
  channels := r.channels.insert c.id c.completed
  deadLetterId := r.deadLetterId
  keyed := by
    intro id d h
    rw [Dictionary.get?_insert] at h
    split at h
    · cases h
      exact ⟨by simp_all, c.completed_maxRetryAge_ne_zero⟩
    · exact r.keyed id d h
  designated := by
    intro id h
    rw [Dictionary.get?_insert]
    split
    · rfl
    · exact r.designated id h

/-- The channel under the name that a dead-letter channel is registered by. -/
def deadLetterNamed (c : Channel) : Channel :=
  if c.id = "" then { c with id := Channel.defaultDeadLetterId } else c

/-- The registry with one more channel, which receives dead letters from now on. -/
def setDeadLetter (r : Registry) (c : Channel) : Registry where
  channels := (r.add (deadLetterNamed c)).channels
  deadLetterId := some (deadLetterNamed c).id
  keyed := (r.add (deadLetterNamed c)).keyed
  designated := by
    intro id h
    cases h
    simp [add]

/-- The channel of a name. -/
def lookup? (r : Registry) (id : String) : Option Channel := r.channels.get? id

/-- The channel of a name, or the error that none has it. -/
def lookup (r : Registry) (id : String) : Except ChannelError Channel :=
  match r.lookup? id with
  | some c => .ok c
  | none => .error (.channelNotFound id)

/-- The channel that receives dead letters. -/
def deadLetter? (r : Registry) : Option Channel := r.deadLetterId.bind r.lookup?

/-- All channels in the order of their names, the dead-letter channel among them. -/
def toList (r : Registry) : List Channel := r.channels.values

/-- The number of channels. -/
def size (r : Registry) : Nat := r.channels.size

/-- Registering a channel shows under its name and nowhere else. -/
@[simp] theorem lookup?_add (r : Registry) (c : Channel) (id : String) :
    (r.add c).lookup? id = if id = c.id then some c.completed else r.lookup? id :=
  Dictionary.get?_insert _ _ _ _

/-- A looked-up channel bears the name it stands under. -/
theorem id_of_lookup? {r : Registry} {id : String} {c : Channel} (h : r.lookup? id = some c) :
    c.id = id :=
  (r.keyed id c h).1

end Registry

end MessageChannels
