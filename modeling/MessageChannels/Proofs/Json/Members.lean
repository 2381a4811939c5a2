import MessageChannels.Json.Reader
import MessageChannels.Proofs.Dictionary

/-!
# Members that are written more than once

The text of an object may name a member more than once. `writtenMembers?` reads the members of such
a text as they stand, all of them and in their order. The object that the text stands for has them
ordered by name, and of members of one name it has the last.
-/

set_option autoImplicit false

namespace MessageChannels

namespace Dictionary

variable {α : Type}

/-- Looking an entry up from the back of a list finds what the dictionary of the list holds. -/
theorem get?_ofList (entries : List (String × α)) (key : String) :
    (ofList entries).get? key = (entries.reverse.find? fun e => e.1 = key).map Prod.snd := by
  induction entries using List.reverseRecOn with
  | nil => rfl
  | append_singleton entries e ih =>
    rw [ofList_snoc, get?_insert, List.reverse_append, List.reverse_singleton,
      List.singleton_append]
    by_cases named : key = e.1
    · rw [if_pos named, List.find?_cons_of_pos (by simp [named])]
      rfl
    · rw [if_neg named, List.find?_cons_of_neg (by simp [Ne.symm named]), ih]

/-- A dictionary has one entry of a key, wherever it is looked for. -/
theorem find?_reverse_entries (d : Dictionary α) (key : String) :
    (d.entries.reverse.find? fun e => e.1 = key).map Prod.snd = d.get? key := by
  cases found : d.entries.reverse.find? fun e => e.1 = key with
  | none =>
    cases held : d.get? key with
    | none => rfl
    | some v =>
      have member := (d.mem_entries_iff key v).2 held
      have other := List.find?_eq_none.1 found _ (List.mem_reverse.2 member)
      simp at other
  | some e =>
    obtain ⟨k, v⟩ := e
    have named : k = key := by simpa using List.find?_some found
    have member := List.mem_reverse.1 (List.mem_of_find?_eq_some found)
    rw [Option.map_some, ← named]
    exact ((d.mem_entries_iff k v).1 member).symm

end Dictionary

namespace Json

variable {bytes : List UInt8} {ms : List (String × Json)}

/-- The members that the text of an object names, as they stand there. -/
def writtenMembers? (bytes : List UInt8) : Option (List (String × Json)) :=
  match skipBlanks bytes with
  | [] => none
  | b :: rest =>
    if b = '\x7b'.toUInt8 then (whole (objectBody (value (nestingLimit - 1)) rest)).toOption
    else none

/-- Of members of one name, an object has the last. -/
theorem get?_objectOfLast (ms : List (String × Json)) (key : String) :
    (objectOfLast ms).get? key = (object ms).get? key := by
  show ((Dictionary.ofList ms).entries.reverse.find? fun m => m.1 = key).map Prod.snd = _
  rw [Dictionary.find?_reverse_entries, Dictionary.get?_ofList]
  rfl

/-- Reading on from what was read leaves what must stand after it as it is. -/
theorem whole_map {α β : Type} (f : α → β) (read : Except Fault (α × List UInt8)) :
    whole (read.map fun r => (f r.1, r.2)) = (whole read).map f := by
  unfold whole
  cases read with
  | error fault => rfl
  | ok r =>
    show (if skipBlanks r.2 = [] then _ else _) = Except.map f (if skipBlanks r.2 = [] then _ else _)
    split
    · rfl
    · rfl

/-- What bytes that begin with a brace are the text of. -/
theorem ofBytes_of_brace {rest : List UInt8} (begins : skipBlanks bytes = '\x7b'.toUInt8 :: rest) :
    ofBytes bytes = (whole (objectBody (value (nestingLimit - 1)) rest)).map objectOfLast := by
  rw [← whole_map]
  show whole (valueWith (some (value (nestingLimit - 1))) bytes) = _
  unfold valueWith
  rw [begins]
  rfl

theorem ofBytes_of_writtenMembers (written : writtenMembers? bytes = some ms) :
    ofBytes bytes = .ok (objectOfLast ms) := by
  unfold writtenMembers? at written
  split at written
  · cases written
  · rename_i b rest begins
    split at written
    · rename_i brace
      subst brace
      rw [ofBytes_of_brace begins]
      cases read : whole (objectBody (value (nestingLimit - 1)) rest) with
      | error fault =>
        rw [read] at written
        cases written
      | ok ms' =>
        rw [read] at written
        cases written
        rfl
    · cases written

/-- Only what begins with a brace is read as an object. -/
theorem brace_of_valueWith {nested : Option (Reader Json)} {d : List (String × Json)}
    {after : List UInt8} (read : valueWith nested bytes = .ok (object d, after)) :
    ∃ rest, skipBlanks bytes = '\x7b'.toUInt8 :: rest := by
  have never {α : Type} {part : Except Fault α} {f : α → Json × List UInt8}
      (read : part.map f = .ok (object d, after)) (other : ∀ a, (f a).1 ≠ object d) : False := by
    cases part with
    | error fault => cases read
    | ok a => exact other a (congrArg Prod.fst (Except.ok.inj read))
  have number_ne (n : Number) : n.toJson ≠ object d := by
    cases n with
    | natural n => exact Json.noConfusion
    | negative n => exact Json.noConfusion
    | float x => exact Json.noConfusion
  unfold valueWith at read
  split at read
  · cases read
  · rename_i b rest begins
    split at read
    · exact (never read fun _ => Json.noConfusion).elim
    split at read
    · exact (never read fun _ => Json.noConfusion).elim
    split at read
    · exact (never read fun _ => Json.noConfusion).elim
    split at read
    · exact (never read fun r => number_ne r.1).elim
    split at read
    · exact (never read fun _ => Json.noConfusion).elim
    split at read
    · cases nested with
      | none => cases read
      | some item => exact (never read fun _ => Json.noConfusion).elim
    split at read
    · rename_i brace
      exact ⟨rest, brace ▸ begins⟩
    · cases read

theorem brace_of_object {d : List (String × Json)} (read : ofBytes bytes = .ok (object d)) :
    ∃ rest, skipBlanks bytes = '\x7b'.toUInt8 :: rest := by
  have parts : ofBytes bytes = whole (valueWith (some (value (nestingLimit - 1))) bytes) := rfl
  rw [parts] at read
  cases begun : valueWith (some (value (nestingLimit - 1))) bytes with
  | error fault =>
    rw [begun] at read
    cases read
  | ok r =>
    obtain ⟨v, after⟩ := r
    rw [begun] at read
    have ended : (if skipBlanks after = [] then .ok v else .error .malformed : Except Fault Json)
        = .ok (object d) := read
    split at ended
    · cases ended
      exact brace_of_valueWith begun
    · cases ended

/-- An object has the members that its text names. -/
theorem writtenMembers_of_object {d : List (String × Json)}
    (read : ofBytes bytes = .ok (object d)) :
    ∃ ms, writtenMembers? bytes = some ms ∧ object d = objectOfLast ms := by
  obtain ⟨rest, begins⟩ := brace_of_object read
  rw [ofBytes_of_brace begins] at read
  unfold writtenMembers?
  rw [begins]
  dsimp only
  rw [if_pos rfl]
  cases body : whole (objectBody (value (nestingLimit - 1)) rest) with
  | error fault =>
    rw [body] at read
    cases read
  | ok ms =>
    rw [body] at read
    refine ⟨ms, rfl, ?_⟩
    exact (Except.ok.inj read).symm

end Json

end MessageChannels
