import Mathlib.Logic.Relation

/-!
# Handles and their clones

A handle is made anew or as a clone of one that is there, and it is known by its number in the order
in which handles are made. Handles are kin if clones lead from one to the other: in either direction
and through any chain of clones. A room that hands handles out keeps the number of a family for each;
a handle made anew founds a family, a clone joins one. Such numbers tell kin exactly
(`Families.kin_iff`), whatever comes later: `Families.found` and `Families.join` are the two ways in
which the handles of a room become more.
-/

set_option autoImplicit false

namespace MessageChannels

/-- Whether the first of two handles was made as a clone of the second. -/
def IsCloneOf (origins : List (Option Nat)) (copy handle : Nat) : Prop :=
  origins[copy]? = some (some handle)

/-- Handles between which clones lead. The handles are given by what each is a clone of, if of any. -/
def Kin (origins : List (Option Nat)) : Nat → Nat → Prop := Relation.EqvGen (IsCloneOf origins)

/-- The numbers of their families tell which handles are kin. -/
structure Families (origins : List (Option Nat)) (families : List Nat) (count : Nat) : Prop where
  length : families.length = origins.length
  lt : ∀ {a f : Nat}, families[a]? = some f → f < count
  clone : ∀ {a b : Nat}, IsCloneOf origins a b → ∃ f, families[a]? = some f ∧ families[b]? = some f
  kin : ∀ {a b f : Nat}, families[a]? = some f → families[b]? = some f → Kin origins a b

/-- What is found in a list with one more at its end was there before, or is the new one. -/
theorem getElem?_snoc_eq_some_iff {α : Type} {l : List α} {x y : α} {i : Nat} :
    (l ++ [y])[i]? = some x ↔ l[i]? = some x ∨ i = l.length ∧ x = y := by
  constructor
  · intro found
    rw [List.getElem?_append] at found
    split at found
    · exact Or.inl found
    · obtain ⟨short, same⟩ := List.getElem?_eq_some_iff.1 found
      rw [List.length_singleton] at short
      rw [List.getElem_singleton] at same
      right
      constructor
      · omega
      · exact same.symm
  · rintro (before | ⟨rfl, rfl⟩)
    · have there := (List.getElem?_eq_some_iff.1 before).1
      rw [List.getElem?_append_left there, before]
    · exact List.getElem?_concat_length

variable {origins : List (Option Nat)} {families : List Nat} {count a b f : Nat}

theorem isCloneOf_snoc {origin : Option Nat} :
    IsCloneOf (origins ++ [origin]) a b ↔
      IsCloneOf origins a b ∨ a = origins.length ∧ some b = origin :=
  getElem?_snoc_eq_some_iff

/-- The family of a handle stays the same as more handles are made. -/
theorem family_snoc (found : families[a]? = some f) (more : Nat) :
    (families ++ [more])[a]? = some f :=
  getElem?_snoc_eq_some_iff.2 (Or.inl found)

/-- Kin stay kin as more handles are made. -/
theorem Kin.snoc (kin : Kin origins a b) (origin : Option Nat) : Kin (origins ++ [origin]) a b :=
  Relation.EqvGen.mono (fun _ _ clone => isCloneOf_snoc.2 (Or.inl clone)) _ _ kin

theorem Kin.symm (kin : Kin origins a b) : Kin origins b a := Relation.EqvGen.symm _ _ kin

namespace Families

theorem empty : Families [] [] 0 where
  length := rfl
  lt := by
    intro a f found
    cases found
  clone := by
    intro a b clone
    cases clone
  kin := by
    intro a b f found
    cases found

theorem lt_length (fs : Families origins families count) (found : families[a]? = some f) :
    a < origins.length := by
  rw [← fs.length]
  exact (List.getElem?_eq_some_iff.1 found).1

theorem exists_family (fs : Families origins families count) (there : a < origins.length) :
    ∃ f, families[a]? = some f := by
  rw [← fs.length] at there
  exact ⟨_, List.getElem?_eq_getElem there⟩

theorem eq_none_iff (fs : Families origins families count) :
    families[a]? = none ↔ ¬ a < origins.length := by
  rw [List.getElem?_eq_none_iff, fs.length, Nat.not_lt]

/-- Clones lead only to handles of the same family. -/
theorem eq_of_kin (fs : Families origins families count) (kin : Kin origins a b) :
    families[a]? = families[b]? := by
  induction kin with
  | rel a b clone =>
    obtain ⟨f, ha, hb⟩ := fs.clone clone
    rw [ha, hb]
  | refl a => rfl
  | symm a b _ ih => exact ih.symm
  | trans a b c _ _ first second => exact first.trans second

/-- **Handles are kin exactly if they are of one family.** -/
theorem kin_iff (fs : Families origins families count) (found : families[a]? = some f) :
    Kin origins a b ↔ families[b]? = some f := by
  constructor
  · intro kin
    rw [← fs.eq_of_kin kin, found]
  · intro same
    exact fs.kin found same

/-- A handle that is made anew founds a family. -/
theorem found (fs : Families origins families count) :
    Families (origins ++ [none]) (families ++ [count]) (count + 1) where
  length := by
    rw [List.length_append, List.length_append, fs.length]
    rfl
  lt := by
    intro a f found
    rcases getElem?_snoc_eq_some_iff.1 found with before | ⟨_, rfl⟩
    · exact Nat.lt_succ_of_lt (fs.lt before)
    · exact Nat.lt_succ_self _
  clone := by
    intro a b clone
    rcases isCloneOf_snoc.1 clone with before | ⟨_, impossible⟩
    · obtain ⟨f, ha, hb⟩ := fs.clone before
      exact ⟨f, family_snoc ha count, family_snoc hb count⟩
    · cases impossible
  kin := by
    intro a b f ha hb
    rcases getElem?_snoc_eq_some_iff.1 ha with old | ⟨rfl, rfl⟩
    · rcases getElem?_snoc_eq_some_iff.1 hb with old' | ⟨_, rfl⟩
      · exact (fs.kin old old').snoc none
      · exact absurd (fs.lt old) (Nat.lt_irrefl _)
    · rcases getElem?_snoc_eq_some_iff.1 hb with old' | ⟨rfl, _⟩
      · exact absurd (fs.lt old') (Nat.lt_irrefl _)
      · exact Relation.EqvGen.refl _

/-- A clone joins the family of the handle that it is made from. -/
theorem join {handle : Nat} (fs : Families origins families count)
    (there : families[handle]? = some f) :
    Families (origins ++ [some handle]) (families ++ [f]) count where
  length := by
    rw [List.length_append, List.length_append, fs.length]
    rfl
  lt := by
    intro a g found
    rcases getElem?_snoc_eq_some_iff.1 found with before | ⟨_, rfl⟩
    · exact fs.lt before
    · exact fs.lt there
  clone := by
    intro a b clone
    rcases isCloneOf_snoc.1 clone with before | ⟨rfl, same⟩
    · obtain ⟨g, ha, hb⟩ := fs.clone before
      exact ⟨g, family_snoc ha f, family_snoc hb f⟩
    · obtain rfl := Option.some.inj same
      refine ⟨f, ?_, family_snoc there f⟩
      rw [← fs.length, List.getElem?_concat_length]
  kin := by
    -- The new handle is kin to the one it was made from, and through that to the rest of the family.
    have copy : Kin (origins ++ [some handle]) families.length handle := by
      apply Relation.EqvGen.rel
      exact isCloneOf_snoc.2 (Or.inr ⟨fs.length, rfl⟩)
    intro a b g ha hb
    rcases getElem?_snoc_eq_some_iff.1 ha with old | ⟨rfl, rfl⟩
    · rcases getElem?_snoc_eq_some_iff.1 hb with old' | ⟨rfl, rfl⟩
      · exact (fs.kin old old').snoc _
      · exact Relation.EqvGen.trans _ _ _ ((fs.kin old there).snoc _) copy.symm
    · rcases getElem?_snoc_eq_some_iff.1 hb with old' | ⟨rfl, _⟩
      · exact Relation.EqvGen.trans _ _ _ copy ((fs.kin there old').snoc _)
      · exact Relation.EqvGen.refl _

end Families

end MessageChannels
