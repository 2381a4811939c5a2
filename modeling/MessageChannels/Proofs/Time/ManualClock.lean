import Mathlib.Data.List.Induction
import MessageChannels.Proofs.Kinship
import MessageChannels.Time.ManualClock

/-!
# What manual clocks show

To advance a clock, the span is first made an `Offset`, which is shorter at its longest than the
longest span, and the offset is added if the range holds the sum. Every offset that a span is too
long for leads out of the range from anywhere in it, so the two limits act as the last one alone
(`Timestamp.advance_inSeries`), and in nanoseconds an advance is a sum or nothing
(`Timestamp.toNanos_advance`).

Clocks share their time with their clones. The log of a program says how each clock was made, at
what time those that are no clones were started, and which clock each move was asked of.
`ClockRoom.manualTime` reads off it what each clock shows: its family's start, moved by the moves
asked of its family and by no other.
-/

set_option autoImplicit false

namespace MessageChannels

/-- A length of time that can be added to a point in time, forward or back: 2^63 - 1 milliseconds at
most. -/
structure Offset where
  secs : Int
  nanos : Nat
  nanos_lt : nanos < 10 ^ 9
  least_le : -((2 ^ 63 - 1) * 10 ^ 6) ≤ secs * 10 ^ 9 + nanos
  le_greatest : secs * 10 ^ 9 + nanos ≤ (2 ^ 63 - 1) * 10 ^ 6

namespace Offset

/-- The longest offset forward. -/
def longest : Offset := ⟨9223372036854775, 807000000, by decide, by decide, by decide⟩

/-- A span as an offset, if it is not too long for one. -/
def ofSpan? (d : Span) : Option Offset :=
  if h : (d.secs : Int) * 10 ^ 9 + d.nanos ≤ (2 ^ 63 - 1) * 10 ^ 6 then
    some ⟨d.secs, d.nanos, d.nanos_lt, by omega, h⟩
  else none

end Offset

namespace Timestamp

/-- The point an offset away, if it is in the range. -/
def shifted? (t : Timestamp) (o : Offset) : Option Timestamp :=
  let nanos := t.nanos + o.nanos
  ofParts? (t.secs + o.secs + nanos / 10 ^ 9) (nanos % 10 ^ 9)

theorem toNanos_le_last (t : Timestamp) : t.toNanos ≤ last.toNanos := by
  have secs := t.le_last
  have nanos := t.nanos_lt
  simp only [toNanos, last]
  omega

/-- A sum leaves the range exactly behind the last instant. -/
theorem plus?_eq_none_iff (t : Timestamp) (d : Span) :
    t.plus? d = none ↔ last.toNanos < t.toNanos + d.toNanos := by
  obtain ⟨a, an, first_le, le_last, nanos_lt⟩ := t
  obtain ⟨s, n, secs_lt, span_nanos_lt⟩ := d
  simp only [plus?, ofParts?, toNanos, Span.toNanos, last]
  split
  · simp only [reduceCtorEq, false_iff]
    omega
  · simp only [true_iff]
    omega

/-- An advance is a sum up to the last instant, and nothing beyond it. -/
theorem toNanos_advance (t : Timestamp) (d : Span) :
    (t.advance d).toNanos
      = if t.toNanos + d.toNanos ≤ last.toNanos then t.toNanos + d.toNanos else t.toNanos := by
  unfold advance
  cases sum : t.plus? d with
  | none =>
    have beyond := (plus?_eq_none_iff t d).1 sum
    rw [if_neg (by omega)]
    rfl
  | some u =>
    have exact_ := (plus?_eq_some_iff t d u).1 sum
    have within := u.toNanos_le_last
    rw [if_pos (by omega), ← exact_]
    rfl

/-- From every point of the range the longest offset leads out of it. -/
theorem shifted?_longest (t : Timestamp) : t.shifted? .longest = none := by
  have first_le := t.first_le
  have secs : Offset.longest.secs = 9223372036854775 := rfl
  simp only [shifted?, ofParts?]
  rw [dif_neg]
  rintro ⟨_, within, _⟩
  omega

/-- **Two limits in series are one**: an offset takes every span that the range can. -/
theorem advance_inSeries (t : Timestamp) (d : Span) :
    t.advance d = (t.shifted? ((Offset.ofSpan? d).getD .longest)).getD t := by
  unfold Offset.ofSpan?
  split
  · rfl
  · next long =>
    have beyond : t.plus? d = none := by
      have first_le := t.first_le
      rw [plus?_eq_none_iff]
      simp only [toNanos, Span.toNanos, last]
      omega
    rw [advance, beyond, Option.getD_none, Option.getD_none, shifted?_longest, Option.getD_none]

/-- No sum of a point and an offset is beyond a signed word of 64 bits, in seconds. -/
theorem shifted?_fits (t : Timestamp) (o : Offset) :
    -2 ^ 63 ≤ t.secs + o.secs ∧ t.secs + o.secs + (t.nanos + o.nanos) / 10 ^ 9 < 2 ^ 63 := by
  have first_le := t.first_le
  have le_last := t.le_last
  have nanos_lt := t.nanos_lt
  have offset_lt := o.nanos_lt
  have least_le := o.least_le
  have le_greatest := o.le_greatest
  omega

end Timestamp

namespace ClockMove

/-- The time in nanoseconds after a move: the one set, or a sum up to the last instant. -/
def moved : ClockMove → Int → Int
  | .set time, _ => time.toNanos
  | .advance d, now =>
    if now + d.toNanos ≤ Timestamp.last.toNanos then now + d.toNanos else now

theorem toNanos_apply (move : ClockMove) (t : Timestamp) :
    (move.apply t).toNanos = move.moved t.toNanos := by
  cases move with
  | advance d => exact t.toNanos_advance d
  | set time => rfl

theorem toNanos_foldl_apply (moves : List ClockMove) (t : Timestamp) :
    (moves.foldl (fun t move => move.apply t) t).toNanos
      = moves.foldl (fun now move => move.moved now) t.toNanos := by
  induction moves generalizing t with
  | nil => rfl
  | cons move moves ih =>
    rw [List.foldl_cons, List.foldl_cons, ← toNanos_apply]
    exact ih _

end ClockMove

/-- One thing done with manual clocks. -/
inductive ClockStep where
  | new (start : Timestamp)
  | clone (clock : Nat)
  | move (clock : Nat) (change : ClockMove)

/-- What was asked of manual clocks. A step that names a clock that is not there asks nothing. -/
structure ClockLog where
  /-- The clock that each clock was cloned from, if it was. -/
  origins : List (Option Nat)
  /-- The clocks that are no clones, each with the time it was started at. -/
  starts : List (Nat × Timestamp)
  /-- The moves one after the other, each with the clock it was asked of. -/
  moves : List (Nat × ClockMove)

namespace ClockLog

/-- The log with one more step. -/
def enter (log : ClockLog) : ClockStep → ClockLog
  | .new start =>
    { log with
      origins := log.origins ++ [none]
      starts := log.starts ++ [(log.origins.length, start)] }
  | .clone clock =>
    if clock < log.origins.length then { log with origins := log.origins ++ [some clock] } else log
  | .move clock change =>
    if clock < log.origins.length then { log with moves := log.moves ++ [(clock, change)] } else log

/-- The log of steps, of which the first finds no clocks. -/
def of (steps : List ClockStep) : ClockLog := steps.foldl enter ⟨[], [], []⟩

theorem of_snoc (steps : List ClockStep) (step : ClockStep) :
    of (steps ++ [step]) = (of steps).enter step := by
  rw [of, List.foldl_append]
  rfl

open Classical in
/-- The moves asked of the kin of a clock, one after the other. -/
noncomputable def movesOf (log : ClockLog) (clock : Nat) : List ClockMove :=
  (log.moves.filter fun asked => Kin log.origins asked.1 clock).map Prod.snd

end ClockLog

namespace ClockRoom

/-- The room after a step. -/
def step (room : ClockRoom) : ClockStep → ClockRoom
  | .new start => room.add start
  | .clone clock => room.clone clock
  | .move clock change => room.adjust clock change

/-- The room after steps, from the one without clocks on. -/
def after (steps : List ClockStep) : ClockRoom := steps.foldl step empty

theorem after_snoc (steps : List ClockStep) (next : ClockStep) :
    after (steps ++ [next]) = (after steps).step next := by
  rw [after, List.foldl_append]
  rfl

/-- The moves asked of a family, one after the other. -/
def movesIn (moves : List (Nat × ClockMove)) (families : List Nat) (family : Nat) : List ClockMove :=
  (moves.filter fun asked => families[asked.1]? = some family).map Prod.snd

/-- A room shows what its log says. -/
structure Follows (log : ClockLog) (room : ClockRoom) : Prop where
  families : Families log.origins room.families room.times.length
  founded : ∀ f < room.times.length, ∃ entry ∈ log.starts, room.families[entry.1]? = some f
  asked : ∀ entry ∈ log.moves, ∃ f, room.families[entry.1]? = some f
  /-- The time of a family is that of its start, moved by the moves asked of it. -/
  times : ∀ entry ∈ log.starts, ∃ f, room.families[entry.1]? = some f ∧
    room.times[f]?
      = some ((movesIn log.moves room.families f).foldl (fun t move => move.apply t) entry.2)

variable {log : ClockLog} {room : ClockRoom} {clock f : Nat}

theorem follows_empty : Follows ⟨[], [], []⟩ empty where
  families := .empty
  founded := by
    intro f none
    cases none
  asked := by
    intro entry mem
    cases mem
  times := by
    intro entry mem
    cases mem

/-! ## One step -/

/-- More clocks take no part in the moves asked so far. -/
theorem Follows.movesIn_snoc (follows : Follows log room) (more f : Nat) :
    movesIn log.moves (room.families ++ [more]) f = movesIn log.moves room.families f := by
  unfold movesIn
  congr 1
  apply List.filter_congr
  intro entry mem
  obtain ⟨g, found⟩ := follows.asked entry mem
  rw [found, family_snoc found more]

theorem Follows.add (follows : Follows log room) (start : Timestamp) :
    Follows (log.enter (.new start)) (room.add start) where
  families := by
    rw [show (room.add start).times.length = room.times.length + 1 by simp [ClockRoom.add]]
    exact follows.families.found
  founded := by
    intro f inside
    simp only [ClockRoom.add, List.length_append, List.length_singleton] at inside
    rcases Nat.lt_or_eq_of_le (Nat.le_of_lt_succ inside) with old | rfl
    · obtain ⟨entry, mem, found⟩ := follows.founded f old
      exact ⟨entry, List.mem_append_left _ mem, family_snoc found _⟩
    · refine ⟨(log.origins.length, start), List.mem_append_right _ List.mem_cons_self, ?_⟩
      rw [← follows.families.length]
      exact List.getElem?_concat_length
  asked := by
    intro entry mem
    obtain ⟨f, found⟩ := follows.asked entry mem
    exact ⟨f, family_snoc found _⟩
  times := by
    intro entry mem
    rcases List.mem_append.1 mem with before | new
    · obtain ⟨f, found, time⟩ := follows.times entry before
      refine ⟨f, family_snoc found _, getElem?_snoc_eq_some_iff.2 (Or.inl ?_)⟩
      rw [time]
      exact congrArg (fun moves => some (List.foldl _ entry.2 moves)) (follows.movesIn_snoc _ f).symm
    · -- No move was asked of a family that is founded only now.
      obtain rfl := List.mem_singleton.1 new
      have unmoved : movesIn log.moves room.families room.times.length = [] := by
        unfold movesIn
        rw [List.map_eq_nil_iff, List.filter_eq_nil_iff]
        intro entry mem same
        exact absurd (follows.families.lt (of_decide_eq_true same)) (Nat.lt_irrefl _)
      refine ⟨room.times.length, ?_, ?_⟩
      · rw [← follows.families.length]
        exact List.getElem?_concat_length
      · show (room.times ++ [start])[room.times.length]? = _
        rw [List.getElem?_concat_length]
        show some start = some ((movesIn log.moves (room.families ++ [_]) _).foldl _ start)
        rw [follows.movesIn_snoc, unmoved]
        rfl

theorem Follows.clone (follows : Follows log room) (found : room.families[clock]? = some f) :
    Follows { log with origins := log.origins ++ [some clock] }
      { room with families := room.families ++ [f] } where
  families := follows.families.join found
  founded := by
    intro g inside
    obtain ⟨entry, mem, founder⟩ := follows.founded g inside
    exact ⟨entry, mem, family_snoc founder f⟩
  asked := by
    intro entry mem
    obtain ⟨g, family⟩ := follows.asked entry mem
    exact ⟨g, family_snoc family f⟩
  times := by
    intro entry mem
    obtain ⟨g, founder, time⟩ := follows.times entry mem
    refine ⟨g, family_snoc founder f, ?_⟩
    rw [follows.movesIn_snoc]
    exact time

/-- A move is one of the moves of its family, and of no other. -/
theorem movesIn_move (moves : List (Nat × ClockMove)) {families : List Nat}
    (found : families[clock]? = some f) (change : ClockMove) (g : Nat) :
    movesIn (moves ++ [(clock, change)]) families g
      = movesIn moves families g ++ if f = g then [change] else [] := by
  unfold movesIn
  rw [List.filter_append, List.map_append]
  congr 1
  by_cases same : f = g
  · simp [found, same]
  · simp [found, same]

theorem Follows.move (follows : Follows log room) (found : room.families[clock]? = some f)
    (change : ClockMove) :
    Follows { log with moves := log.moves ++ [(clock, change)] }
      { room with times := room.times.modify f change.apply } where
  families := by
    rw [List.length_modify]
    exact follows.families
  founded := by
    intro g inside
    rw [List.length_modify] at inside
    exact follows.founded g inside
  asked := by
    intro entry mem
    rcases List.mem_append.1 mem with before | new
    · exact follows.asked entry before
    · obtain rfl := List.mem_singleton.1 new
      exact ⟨f, found⟩
  times := by
    intro entry mem
    obtain ⟨g, founder, time⟩ := follows.times entry mem
    refine ⟨g, founder, ?_⟩
    rw [List.getElem?_modify, time, movesIn_move log.moves found, List.foldl_append]
    by_cases same : f = g
    · rw [if_pos same]
      simp [same]
    · rw [if_neg same]
      simp [same]

/-- Every step keeps what the room shows of its log. -/
theorem Follows.step (follows : Follows log room) (next : ClockStep) :
    Follows (log.enter next) (room.step next) := by
  cases next with
  | new start => exact follows.add start
  | clone clock =>
    simp only [ClockRoom.step, ClockRoom.clone, ClockLog.enter]
    cases found : room.families[clock]? with
    | none =>
      rw [if_neg (follows.families.eq_none_iff.1 found)]
      exact follows
    | some f =>
      rw [if_pos (follows.families.lt_length found)]
      exact follows.clone found
  | move clock change =>
    simp only [ClockRoom.step, ClockRoom.adjust, ClockLog.enter]
    cases found : room.families[clock]? with
    | none =>
      rw [if_neg (follows.families.eq_none_iff.1 found)]
      exact follows
    | some f =>
      rw [if_pos (follows.families.lt_length found)]
      exact follows.move found change

/-! ## Programs -/

theorem follows_after (steps : List ClockStep) : Follows (.of steps) (after steps) := by
  induction steps using List.reverseRecOn with
  | nil => exact follows_empty
  | append_singleton steps next ih =>
    rw [after_snoc, ClockLog.of_snoc]
    exact ih.step next

/-- The moves asked of the kin of a clock are those asked of its family. -/
theorem Follows.movesOf_eq (follows : Follows log room) (found : room.families[clock]? = some f) :
    log.movesOf clock = movesIn log.moves room.families f := by
  unfold ClockLog.movesOf movesIn
  congr 1
  apply List.filter_congr
  intro entry mem
  obtain ⟨g, family⟩ := follows.asked entry mem
  rw [decide_eq_decide, follows.families.kin_iff family, found, family]
  exact eq_comm

/-- A clock shows its family's start, moved by the moves asked of its family. -/
theorem Follows.now?_eq (follows : Follows log room) {entry : Nat × Timestamp}
    (mem : entry ∈ log.starts) (kin : Kin log.origins entry.1 clock) :
    (room.now? clock).map Timestamp.toNanos
      = some ((log.movesOf clock).foldl (fun now move => move.moved now) entry.2.toNanos) := by
  obtain ⟨f, founder, time⟩ := follows.times entry mem
  have found := (follows.families.kin_iff founder).1 kin
  rw [now?, found, Option.bind_some, time, Option.map_some, ClockMove.toNanos_foldl_apply,
    follows.movesOf_eq found]

/-- What holds of manual clocks after any program. -/
structure ManualTime (steps : List ClockStep) : Prop where
  /-- Every clock that was made shows a time, and it has kin that was started. -/
  there : ∀ clock, ((after steps).now? clock).isSome = true ↔
    clock < (ClockLog.of steps).origins.length
  founded : ∀ clock < (ClockLog.of steps).origins.length,
    ∃ entry ∈ (ClockLog.of steps).starts, Kin (ClockLog.of steps).origins entry.1 clock
  /-- It shows the time that its kin was started at, moved by the moves asked of its kin. -/
  shown : ∀ entry ∈ (ClockLog.of steps).starts, ∀ clock,
    Kin (ClockLog.of steps).origins entry.1 clock →
    ((after steps).now? clock).map Timestamp.toNanos
      = some (((ClockLog.of steps).movesOf clock).foldl (fun now move => move.moved now)
          entry.2.toNanos)
  /-- An advance is exact up to the last instant, and changes nothing beyond it. -/
  advances : ∀ (t : Timestamp) (d : Span), (t.advance d).toNanos
    = if t.toNanos + d.toNanos ≤ Timestamp.last.toNanos then t.toNanos + d.toNanos else t.toNanos
  /-- So it is if the span is first cut to the longest offset and the sum is then checked, -/
  inSeries : ∀ (t : Timestamp) (d : Span),
    t.advance d = (t.shifted? ((Offset.ofSpan? d).getD .longest)).getD t
  /-- and that sum fits in a word. -/
  fits : ∀ (t : Timestamp) (o : Offset),
    -2 ^ 63 ≤ t.secs + o.secs ∧ t.secs + o.secs + (t.nanos + o.nanos) / 10 ^ 9 < 2 ^ 63
  /-- No advance of any clock moves any clock back. -/
  forward : ∀ clock d other t, (after steps).now? other = some t →
    ∃ t', (after (steps ++ [.move clock (.advance d)])).now? other = some t' ∧
      t.toNanos ≤ t'.toNanos

/-- **A clock shows what its family was told**, after every program of any number of clocks. -/
theorem manualTime (steps : List ClockStep) : ManualTime steps where
  there := by
    intro clock
    have families := (follows_after steps).families
    constructor
    · intro shown
      obtain ⟨t, time⟩ := Option.isSome_iff_exists.1 shown
      obtain ⟨f, found, _⟩ := Option.bind_eq_some_iff.1 time
      exact families.lt_length found
    · intro inside
      obtain ⟨f, found⟩ := families.exists_family inside
      rw [now?, found, Option.bind_some, List.getElem?_eq_getElem (families.lt found)]
      rfl
  founded := by
    intro clock inside
    have follows := follows_after steps
    obtain ⟨f, found⟩ := follows.families.exists_family inside
    obtain ⟨entry, mem, founder⟩ := follows.founded f (follows.families.lt found)
    exact ⟨entry, mem, follows.families.kin founder found⟩
  shown := by
    intro entry mem clock kin
    exact (follows_after steps).now?_eq mem kin
  advances := Timestamp.toNanos_advance
  inSeries := Timestamp.advance_inSeries
  fits := Timestamp.shifted?_fits
  forward := by
    intro clock d other t time
    rw [after_snoc]
    show ∃ t', ((after steps).adjust clock (.advance d)).now? other = some t' ∧ _
    rw [now?_adjust, time]
    split
    · refine ⟨t.advance d, rfl, ?_⟩
      rw [t.toNanos_advance]
      split
      · omega
      · exact Int.le_refl _
    · exact ⟨t, rfl, Int.le_refl _⟩

/-- The longest span moves no clock, and the last nanosecond of the range is reached and not passed. -/
example :
    (after [.new .epoch, .clone 0, .new .last, .move 1 (.advance (.ofSecs 60)),
      .move 0 (.advance .longest), .move 2 (.advance ⟨0, 1, by decide, by decide⟩),
      .clone 1, .move 3 (.advance (.ofSecs 8210266876739))]).readings.map Timestamp.toNanos
      = [8210266876799 * 10 ^ 9, 8210266876799 * 10 ^ 9, 8210266876799999999999,
          8210266876799 * 10 ^ 9] := by
  decide

end ClockRoom

end MessageChannels
