import MessageChannels.Time.Timestamp

/-!
# Clocks that move only when told to

A clock is a handle to a time that it shares with its clones. A `ClockRoom` holds any number of
clocks: the times, one per family of clones, and for each clock the number of its family. Setting
or advancing a clock moves its whole family (`now?_adjust`) and no other.
-/

set_option autoImplicit false

namespace MessageChannels

/-- The time a span later, or the same time where that is past the last instant. -/
def Timestamp.advance (t : Timestamp) (d : Span) : Timestamp := (t.plus? d).getD t

/-- A change of a clock's time. -/
inductive ClockMove where
  | advance (by_ : Span)
  | set (time : Timestamp)
  deriving DecidableEq

/-- The time after a change. -/
def ClockMove.apply : ClockMove → Timestamp → Timestamp
  | .advance d, t => t.advance d
  | .set u, _ => u

/-- A number of manual clocks. -/
structure ClockRoom where
  /-- The time of each family. -/
  times : List Timestamp
  /-- The family of each clock. -/
  families : List Nat
  deriving DecidableEq

namespace ClockRoom

/-- The room without clocks. -/
def empty : ClockRoom := ⟨[], []⟩

/-- The time that a clock shows. -/
def now? (room : ClockRoom) (clock : Nat) : Option Timestamp :=
  room.families[clock]?.bind (room.times[·]?)

/-- One more clock, of a family of its own. -/
def add (room : ClockRoom) (start : Timestamp) : ClockRoom :=
  ⟨room.times ++ [start], room.families ++ [room.times.length]⟩

/-- One more clock, of the family of another one. -/
def clone (room : ClockRoom) (clock : Nat) : ClockRoom :=
  match room.families[clock]? with
  | some family => { room with families := room.families ++ [family] }
  | none => room

/-- The room after one clock, and with it its family, has been moved. -/
def adjust (room : ClockRoom) (clock : Nat) (move : ClockMove) : ClockRoom :=
  match room.families[clock]? with
  | some family => { room with times := room.times.modify family move.apply }
  | none => room

/-- The times of all clocks. -/
def readings (room : ClockRoom) : List Timestamp :=
  (List.range room.families.length).filterMap room.now?

/-- A move shows on the clocks of the family moved, and on no other. -/
theorem now?_adjust (room : ClockRoom) (clock other : Nat) (move : ClockMove) :
    (room.adjust clock move).now? other
      = if room.families[other]? = room.families[clock]? then (room.now? other).map move.apply
        else room.now? other := by
  unfold adjust now?
  cases room.families[clock]? with
  | none => cases room.families[other]? <;> simp
  | some f =>
    cases room.families[other]? with
    | none => simp
    | some g =>
      by_cases h : g = f
      · subst h; simp
      · simp [h, Ne.symm h, List.getElem?_modify]

end ClockRoom

end MessageChannels
