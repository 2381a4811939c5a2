/-!
# Dictionaries ordered by key

A dictionary from strings to values is a list of entries whose keys strictly increase, so two
dictionaries with the same entries are equal and a listing comes out in key order. The order is
that of the code points of the keys. `get?` is the view of a dictionary: `get?_insert` and
`get?_erase` say what the two changes do to it, `mem_entries_iff` ties it to the list, and
`ext_get?` says that it determines the dictionary.
-/

set_option autoImplicit false

namespace MessageChannels

/-- A dictionary from strings to values, its entries in increasing key order. -/
structure Dictionary (α : Type) where
  entries : List (String × α)
  sorted : entries.Pairwise (fun a b => a.1 < b.1)

namespace Dictionary

variable {α β : Type}

instance [DecidableEq α] : DecidableEq (Dictionary α) := fun a b =>
  if h : a.entries = b.entries then
    isTrue (by cases a; cases b; cases h; rfl)
  else
    isFalse (fun e => h (congrArg entries e))

/-- The dictionary without entries. -/
def empty : Dictionary α := ⟨[], List.Pairwise.nil⟩

instance : Inhabited (Dictionary α) := ⟨empty⟩

/-- The value that a list of entries gives to a key. -/
def find? (key : String) : List (String × α) → Option α
  | [] => none
  | (k, v) :: rest => if k = key then some v else find? key rest

/-- The entries with one more, or with the value of one replaced. -/
def place (key : String) (value : α) : List (String × α) → List (String × α)
  | [] => [(key, value)]
  | (k, v) :: rest =>
    if key < k then (key, value) :: (k, v) :: rest
    else if key = k then (key, value) :: rest
    else (k, v) :: place key value rest

theorem mem_place {key : String} {value : α} {entries : List (String × α)} {e : String × α}
    (h : e ∈ place key value entries) : e = (key, value) ∨ e ∈ entries := by
  induction entries with
  | nil => simp [place] at h; exact Or.inl h
  | cons head rest ih =>
    obtain ⟨k, v⟩ := head
    unfold place at h
    split at h
    · simpa using h
    · split at h
      · rcases List.mem_cons.1 h with h | h
        · exact Or.inl h
        · exact Or.inr (List.mem_cons_of_mem _ h)
      · rcases List.mem_cons.1 h with h | h
        · exact Or.inr (h ▸ List.mem_cons_self)
        · rcases ih h with h | h
          · exact Or.inl h
          · exact Or.inr (List.mem_cons_of_mem _ h)

theorem lt_of_not_lt_of_ne {a b : String} (h : ¬ a < b) (hne : a ≠ b) : b < a := by
  have hle : b ≤ a := String.not_lt.1 h
  apply Classical.byContradiction
  intro hlt
  exact hne (String.le_antisymm (String.not_lt.1 hlt) hle)

theorem sorted_place {key : String} {value : α} {entries : List (String × α)}
    (h : entries.Pairwise (fun a b => a.1 < b.1)) :
    (place key value entries).Pairwise (fun a b => a.1 < b.1) := by
  induction entries with
  | nil => simp [place]
  | cons head rest ih =>
    obtain ⟨k, v⟩ := head
    rw [List.pairwise_cons] at h
    unfold place
    split
    · rename_i hlt
      refine List.pairwise_cons.2 ⟨?_, List.pairwise_cons.2 h⟩
      intro e he
      rcases List.mem_cons.1 he with rfl | he
      · exact hlt
      · exact String.lt_trans hlt (h.1 e he)
    · split
      · rename_i heq
        subst heq
        exact List.pairwise_cons.2 h
      · rename_i hnlt hne
        refine List.pairwise_cons.2 ⟨?_, ih h.2⟩
        intro e he
        rcases mem_place he with rfl | he
        · exact lt_of_not_lt_of_ne hnlt hne
        · exact h.1 e he

/-- The value of a key, if it has one. -/
def get? (d : Dictionary α) (key : String) : Option α := find? key d.entries

/-- Whether a key has a value. -/
def contains (d : Dictionary α) (key : String) : Bool := (d.get? key).isSome

/-- The dictionary with the value of one key set. -/
def insert (d : Dictionary α) (key : String) (value : α) : Dictionary α :=
  ⟨place key value d.entries, sorted_place d.sorted⟩

/-- The dictionary without a key. -/
def erase (d : Dictionary α) (key : String) : Dictionary α :=
  ⟨d.entries.filter (fun e => e.1 ≠ key), d.sorted.filter _⟩

/-- The dictionary with every value changed by a function of it. -/
def map (f : α → β) (d : Dictionary α) : Dictionary β :=
  ⟨d.entries.map (fun e => (e.1, f e.2)), by
    rw [List.pairwise_map]; exact d.sorted⟩

/-- The keys, in increasing order. -/
def keys (d : Dictionary α) : List String := d.entries.map Prod.fst

/-- The values, in the order of their keys. -/
def values (d : Dictionary α) : List α := d.entries.map Prod.snd

/-- The number of entries. -/
def size (d : Dictionary α) : Nat := d.entries.length

/-- The dictionary of a list of entries, where the last entry of a key counts. -/
def ofList (entries : List (String × α)) : Dictionary α :=
  entries.foldl (fun d e => d.insert e.1 e.2) empty

@[simp] theorem get?_empty (key : String) : (empty : Dictionary α).get? key = none := rfl

theorem find?_eq_none_of_lt {key : String} {entries : List (String × α)}
    (h : ∀ e ∈ entries, key < e.1) : find? key entries = none := by
  induction entries with
  | nil => rfl
  | cons head rest ih =>
    obtain ⟨k, v⟩ := head
    have hk : key < k := h (k, v) List.mem_cons_self
    have hne : k ≠ key := fun e => String.lt_irrefl k (e ▸ hk)
    simp only [find?, hne, if_false]
    exact ih (fun e he => h e (List.mem_cons_of_mem _ he))

theorem find?_place (key : String) (value : α) (entries : List (String × α)) (other : String) :
    find? other (place key value entries)
      = if other = key then some value else find? other entries := by
  induction entries with
  | nil =>
    by_cases h : other = key
    · simp [place, find?, h]
    · simp [place, find?, h, Ne.symm h]
  | cons head rest ih =>
    obtain ⟨k, v⟩ := head
    unfold place
    by_cases hlt : key < k
    · by_cases h : other = key
      · simp [hlt, find?, h]
      · simp [hlt, find?, h, Ne.symm h]
    · by_cases heq : key = k
      · subst heq
        by_cases h : other = key
        · simp [find?, h]
        · simp [find?, h, Ne.symm h]
      · by_cases h : k = other
        · subst h
          simp [hlt, heq, find?, Ne.symm heq]
        · simp [hlt, heq, find?, h, ih]

/-- Setting a key gives it the new value and leaves every other key as it was. -/
@[simp] theorem get?_insert (d : Dictionary α) (key : String) (value : α) (other : String) :
    (d.insert key value).get? other = if other = key then some value else d.get? other :=
  find?_place key value d.entries other

theorem find?_filter (key : String) (entries : List (String × α)) (other : String) :
    find? other (entries.filter (fun e => e.1 ≠ key))
      = if other = key then none else find? other entries := by
  induction entries with
  | nil => simp [find?]
  | cons head rest ih =>
    obtain ⟨k, v⟩ := head
    by_cases hk : k = key
    · subst hk
      by_cases h : other = k
      · subst h
        simpa [List.filter_cons, find?] using ih
      · have h' : ¬ k = other := fun e => h e.symm
        simpa [List.filter_cons, find?, h, h'] using ih
    · by_cases h : k = other
      · subst h
        simp [find?, hk]
      · simpa [List.filter_cons, find?, hk, h] using ih

/-- Erasing a key takes its value and leaves every other key as it was. -/
@[simp] theorem get?_erase (d : Dictionary α) (key other : String) :
    (d.erase key).get? other = if other = key then none else d.get? other :=
  find?_filter key d.entries other

theorem contains_insert (d : Dictionary α) (key : String) (value : α) (other : String) :
    (d.insert key value).contains other = if other = key then true else d.contains other := by
  rw [contains, get?_insert]
  split <;> rfl

theorem contains_erase (d : Dictionary α) (key other : String) :
    (d.erase key).contains other = if other = key then false else d.contains other := by
  rw [contains, get?_erase]
  split <;> rfl

theorem find?_map (f : α → β) (entries : List (String × α)) (key : String) :
    find? key (entries.map (fun e => (e.1, f e.2))) = (find? key entries).map f := by
  induction entries with
  | nil => rfl
  | cons head rest ih =>
    obtain ⟨k, v⟩ := head
    by_cases h : k = key
    · simp [find?, h]
    · simp [find?, h, ih]

@[simp] theorem get?_map (f : α → β) (d : Dictionary α) (key : String) :
    (d.map f).get? key = (d.get? key).map f :=
  find?_map f d.entries key

theorem mem_iff_find? {entries : List (String × α)}
    (h : entries.Pairwise (fun a b => a.1 < b.1)) (key : String) (value : α) :
    (key, value) ∈ entries ↔ find? key entries = some value := by
  induction entries with
  | nil => simp [find?]
  | cons head rest ih =>
    obtain ⟨k, v⟩ := head
    rw [List.pairwise_cons] at h
    by_cases hk : k = key
    · subst hk
      have hrest : (k, value) ∉ rest := fun hm => String.lt_irrefl k (h.1 _ hm)
      constructor
      · intro hm
        rcases List.mem_cons.1 hm with e | hm
        · cases e; simp [find?]
        · exact absurd hm hrest
      · intro hf
        simp [find?] at hf
        subst hf
        exact List.mem_cons_self
    · have hne : (key, value) ≠ (k, v) := fun e => hk (congrArg Prod.fst e).symm
      rw [List.mem_cons, or_iff_right hne, ih h.2]
      simp [find?, hk]

/-- A pair is an entry exactly if the key has that value. -/
theorem mem_entries_iff (d : Dictionary α) (key : String) (value : α) :
    (key, value) ∈ d.entries ↔ d.get? key = some value :=
  mem_iff_find? d.sorted key value

theorem mem_values_iff (d : Dictionary α) (value : α) :
    value ∈ d.values ↔ ∃ key, d.get? key = some value := by
  simp only [values, List.mem_map, Prod.exists, ← mem_entries_iff]
  exact ⟨fun ⟨k, v, h, e⟩ => ⟨k, e ▸ h⟩, fun ⟨k, h⟩ => ⟨k, value, h, rfl⟩⟩

theorem eq_of_find? {a b : List (String × α)}
    (ha : a.Pairwise (fun x y => x.1 < y.1)) (hb : b.Pairwise (fun x y => x.1 < y.1))
    (h : ∀ key, find? key a = find? key b) : a = b := by
  induction a generalizing b with
  | nil =>
    cases b with
    | nil => rfl
    | cons head rest => simpa [find?] using h head.1
  | cons head rest ih =>
    obtain ⟨k, v⟩ := head
    cases b with
    | nil => simpa [find?] using h k
    | cons head' rest' =>
      obtain ⟨k', v'⟩ := head'
      rw [List.pairwise_cons] at ha hb
      have hk : k = k' := by
        apply Classical.byContradiction
        intro hne
        have h1 := h k
        have h2 := h k'
        simp only [find?, if_true, hne, Ne.symm hne, if_false] at h1 h2
        have m1 := (mem_iff_find? hb.2 k v).2 h1.symm
        have m2 := (mem_iff_find? ha.2 k' v').2 h2
        exact String.lt_asymm (hb.1 _ m1) (ha.1 _ m2)
      subst hk
      have hv : v = v' := by simpa [find?] using h k
      subst hv
      have hrest : ∀ key, find? key rest = find? key rest' := by
        intro key
        by_cases hk : k = key
        · subst hk
          rw [find?_eq_none_of_lt ha.1, find?_eq_none_of_lt hb.1]
        · simpa [find?, hk] using h key
      rw [ih ha.2 hb.2 hrest]

/-- Dictionaries that give the same value to every key are equal. -/
theorem ext_get? {a b : Dictionary α} (h : ∀ key, a.get? key = b.get? key) : a = b := by
  obtain ⟨ea, sa⟩ := a
  obtain ⟨eb, sb⟩ := b
  have : ea = eb := eq_of_find? sa sb h
  subst this
  rfl

end Dictionary

end MessageChannels
