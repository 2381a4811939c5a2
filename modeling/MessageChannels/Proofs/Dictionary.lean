import Mathlib.Data.List.Induction
import MessageChannels.Dictionary

/-!
# Dictionaries made of lists

A dictionary keeps every entry of a list whose keys differ, and a list that is in key order is the
listing of its dictionary.
-/

set_option autoImplicit false

namespace MessageChannels.Dictionary

variable {α : Type}

theorem ofList_snoc (entries : List (String × α)) (e : String × α) :
    ofList (entries ++ [e]) = (ofList entries).insert e.1 e.2 := by
  rw [ofList, List.foldl_append]
  rfl

theorem place_perm {key : String} {value : α} {entries : List (String × α)}
    (fresh : key ∉ entries.map Prod.fst) :
    (place key value entries).Perm ((key, value) :: entries) := by
  induction entries with
  | nil => exact .refl _
  | cons e rest ih =>
    obtain ⟨k, v⟩ := e
    rw [List.map_cons, List.mem_cons, not_or] at fresh
    rw [place, if_neg fresh.1]
    split
    · exact .refl _
    · exact ((ih fresh.2).cons (k, v)).trans (.swap _ _ _)

/-- Entries under different keys are all kept. -/
theorem entries_ofList_perm {entries : List (String × α)}
    (distinct : (entries.map Prod.fst).Nodup) : (ofList entries).entries.Perm entries := by
  induction entries using List.reverseRecOn with
  | nil => exact .refl _
  | append_singleton entries e ih =>
    rw [List.map_append, List.nodup_append] at distinct
    obtain ⟨before, _, apart⟩ := distinct
    have kept := ih before
    have fresh : e.1 ∉ (ofList entries).entries.map Prod.fst := fun h =>
      apart _ ((kept.map Prod.fst).mem_iff.1 h) _ List.mem_cons_self rfl
    rw [ofList_snoc]
    exact (place_perm fresh).trans ((kept.cons e).trans (List.perm_append_singleton e entries).symm)

/-- Entries in the order of their keys are the listing of their dictionary. -/
theorem entries_ofList {entries : List (String × α)}
    (increasing : entries.Pairwise fun a b => a.1 < b.1) : (ofList entries).entries = entries := by
  have distinct : (entries.map Prod.fst).Nodup := by
    refine (List.pairwise_map.2 (increasing.imp ?_))
    rintro a b h e
    exact String.lt_irrefl _ (e ▸ h)
  have same (key : String) : find? key (ofList entries).entries = find? key entries := by
    apply Option.ext
    intro value
    rw [← Option.mem_def, ← Option.mem_def]
    exact (mem_iff_find? (ofList entries).sorted key value).symm.trans
      ((entries_ofList_perm distinct).mem_iff.trans (mem_iff_find? increasing key value))
  exact eq_of_find? (ofList entries).sorted increasing same

end MessageChannels.Dictionary
