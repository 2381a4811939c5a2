import Mathlib.Logic.Function.Iterate
import MessageChannels.DeadLetter
import MessageChannels.Proofs.Text.Numeral

/-!
# How dead letters are counted

The count of a dead letter is a text among its attributes, and may be any text or none. `Stands` says
which integer a count stands for, by the grammar of integers and the range of counts. The next count
is one more, up to the greatest; where a count stands for none, counting begins at one. What is
written is read again, so `countsUp` holds of counts that were counted any number of times.
-/

set_option autoImplicit false

namespace MessageChannels.DeadLetter

open Decimal

/-- A count that is there and stands for an integer of 64 bits. -/
def Stands (current : Option String) (v : Int) : Prop :=
  ∃ text, current = some text ∧ Denotes text.toList v ∧ -2 ^ 63 ≤ v ∧ v ≤ 2 ^ 63 - 1

/-- The count after a number of dead letters. -/
def counted (k : Nat) (current : Option String) : Option String :=
  (fun count => some (nextCount count))^[k] current

variable {current : Option String} {v : Int}

theorem counted_succ (k : Nat) (current : Option String) :
    counted (k + 1) current = some (nextCount (counted k current)) :=
  Function.iterate_succ_apply' _ k current

/-- A count stands for the integer that it is read as. -/
theorem stands_iff : Stands current v ↔ current.bind (read? countRange) = some v := by
  have signed : countRange.admitsMinus = true := by decide
  cases current with
  | none => simp [Stands]
  | some text =>
    rw [Option.bind_some, read?_eq_some_iff signed]
    constructor
    · rintro ⟨_, same, denotes, within⟩
      obtain rfl := Option.some.inj same
      exact ⟨denotes, within⟩
    · rintro ⟨denotes, within⟩
      exact ⟨text, rfl, denotes, within⟩

theorem Stands.bounds (stands : Stands current v) : -2 ^ 63 ≤ v ∧ v ≤ 2 ^ 63 - 1 := by
  obtain ⟨_, _, _, within⟩ := stands
  exact within

theorem nextCount_of_stands (stands : Stands current v) :
    nextCount current = toString (min (v + 1) (2 ^ 63 - 1)) := by
  rw [stands_iff] at stands
  rw [nextCount, stands]
  rfl

theorem nextCount_of_forall_not_stands (uncounted : ∀ v, ¬ Stands current v) :
    nextCount current = toString (1 : Int) := by
  have unread : current.bind (read? countRange) = none := by
    apply Option.eq_none_iff_forall_ne_some.2
    intro v read
    exact uncounted v (stands_iff.2 read)
  rw [nextCount, unread]
  decide

/-- A count is followed by the text of an integer of the range. -/
theorem exists_nextCount_eq (current : Option String) :
    ∃ w : Int, nextCount current = toString w ∧ -2 ^ 63 ≤ w ∧ w ≤ 2 ^ 63 - 1 := by
  by_cases there : ∃ v, Stands current v
  · obtain ⟨v, stands⟩ := there
    have bounds := stands.bounds
    refine ⟨_, nextCount_of_stands stands, ?_, ?_⟩
    · omega
    · omega
  · refine ⟨1, nextCount_of_forall_not_stands (not_exists.1 there), ?_, ?_⟩
    · decide
    · decide

/-- The text of an integer of the range is read as that integer. -/
theorem read?_nextCount {w : Int} (written : nextCount current = toString w) (least : -2 ^ 63 ≤ w)
    (greatest : w ≤ 2 ^ 63 - 1) : read? countRange (nextCount current) = some w := by
  rw [written]
  exact read?_toString least greatest

theorem stands_nextCount {w : Int} (read : read? countRange (nextCount current) = some w) :
    Stands (some (nextCount current)) w :=
  stands_iff.2 read

/-- One more than a count, up to the greatest. -/
theorem Stands.next (stands : Stands current v) :
    read? countRange (nextCount current) = some (min (v + 1) (2 ^ 63 - 1)) := by
  have bounds := stands.bounds
  apply read?_nextCount (nextCount_of_stands stands)
  · omega
  · omega

/-- Counting goes on from a count, one by one up to the greatest. -/
theorem Stands.counted (stands : Stands current v) (k : Nat) :
    Stands (counted k current) (min (v + k) (2 ^ 63 - 1)) := by
  induction k with
  | zero =>
    have bounds := stands.bounds
    have same : min (v + (0 : Nat)) (2 ^ 63 - 1) = v := by omega
    rw [same]
    exact stands
  | succ k ih =>
    have next := ih.next
    have same : min (min (v + k) (2 ^ 63 - 1) + 1) (2 ^ 63 - 1)
        = min (v + (k + 1 : Nat)) (2 ^ 63 - 1) := by omega
    rw [same] at next
    rw [counted_succ]
    exact stands_nextCount next

/-- Where there is no count to go on from, the first is one. -/
theorem stands_first (uncounted : ∀ v, ¬ Stands current v) : Stands (DeadLetter.counted 1 current) 1 := by
  rw [counted_succ]
  apply stands_nextCount
  exact read?_nextCount (nextCount_of_forall_not_stands uncounted) (by decide) (by decide)

/-- What holds of the counts that follow a count, which may be any text or none. -/
structure CountsUp (current : Option String) : Prop where
  canonical : IsCanonical (nextCount current).toList
  /-- The next count is one more, -/
  more : ∀ v, Stands current v → v < 2 ^ 63 - 1 →
    read? countRange (nextCount current) = some (v + 1)
  /-- but no greater than the greatest there is. -/
  top : Stands current (2 ^ 63 - 1) → read? countRange (nextCount current) = some (2 ^ 63 - 1)
  /-- It is one after every text that stands for no count, and after none. -/
  first : (∀ v, ¬ Stands current v) → read? countRange (nextCount current) = some 1
  again : ∀ v, Stands current v → ∀ k : Nat,
    Stands (counted k current) (min (v + k) (2 ^ 63 - 1))
  afresh : (∀ v, ¬ Stands current v) → ∀ k : Nat,
    Stands (counted (k + 1) current) (min (k + 1) (2 ^ 63 - 1))

/-- **Counts are written as they are read, and count up**, from any text or none. -/
theorem countsUp (current : Option String) : CountsUp current where
  canonical := by
    obtain ⟨w, written, _⟩ := exists_nextCount_eq current
    rw [written]
    exact isCanonical_toString w
  more := by
    intro v stands below
    have next := stands.next
    have same : min (v + 1) (2 ^ 63 - 1) = v + 1 := by omega
    rw [same] at next
    exact next
  top := by
    intro stands
    have next := stands.next
    have same : min ((2 ^ 63 - 1 : Int) + 1) (2 ^ 63 - 1) = 2 ^ 63 - 1 := by omega
    rw [same] at next
    exact next
  first := by
    intro uncounted
    exact read?_nextCount (nextCount_of_forall_not_stands uncounted) (by decide) (by decide)
  again := by
    intro v stands k
    exact stands.counted k
  afresh := by
    intro uncounted k
    have stands := (stands_first uncounted).counted k
    have same : (1 : Int) + k = k + 1 := Int.add_comm 1 k
    rw [same] at stands
    have split : DeadLetter.counted (k + 1) current
        = DeadLetter.counted k (DeadLetter.counted 1 current) := Function.iterate_add_apply _ k 1 current
    rw [split]
    exact stands

/-- Signs and leading zeros are read and not written; a text too long for the range begins anew. -/
example :
    nextCount (some "-0010") = "-9" ∧ nextCount (some "+0") = "1" ∧ nextCount (some "+-4") = "1" ∧
      nextCount (some "9223372036854775807") = "9223372036854775807" ∧
      nextCount (some "9223372036854775808") = "1" := by
  decide +kernel

end MessageChannels.DeadLetter
