import Mathlib.Data.List.Dedup
import Mathlib.Data.List.Induction
import MessageChannels.Registry

/-!
# What a registry holds

A registry is filled by calls one after the other. Each registers a channel, and some designate the
one they register to receive dead letters. What stands under a name is what the last call under it
left there, and the designation is a name: the channel that receives dead letters is whichever was
registered last under the name that was designated last. One call moves both (`lookup?_call`,
`deadLetterId_call`); `registers` says it of every sequence of calls.
-/

set_option autoImplicit false

namespace MessageChannels.Registry

/-- The channels of a registry are listed in the order of their names, each name once. -/
theorem sorted_toList (r : Registry) : r.toList.Pairwise fun a b => a.id < b.id := by
  refine List.pairwise_map.2 ((r.channels.sorted).imp_of_mem fun {a b} ha hb lt => ?_)
  have named {e : String × Channel} (mem : e ∈ r.channels.entries) : e.2.id = e.1 :=
    (r.keyed e.1 e.2 ((Dictionary.mem_entries_iff _ _ _).1 mem)).1
  rw [named ha, named hb]
  exact lt

/-- The channels before one in a registry's list are those with smaller names. -/
theorem mem_before {r : Registry} {before after : List Channel} {at_ other : Channel}
    (split : r.toList = before ++ at_ :: after) (mem : other ∈ r.toList)
    (smaller : other.id < at_.id) : other ∈ before := by
  have sorted := r.sorted_toList
  rw [split] at sorted mem
  rcases List.mem_append.1 mem with mem | mem
  · exact mem
  · rcases List.mem_cons.1 mem with rfl | mem
    · exact absurd smaller (String.lt_irrefl _)
    · have larger := (List.pairwise_cons.1 (List.pairwise_append.1 sorted).2.1).1 other mem
      exact absurd larger (String.lt_asymm smaller)

/-- The channels before one in a registry's list have smaller names. -/
theorem lt_of_mem_before {r : Registry} {before after : List Channel}
    {at_ other : Channel} (split : r.toList = before ++ at_ :: after) (mem : other ∈ before) :
    other.id < at_.id := by
  have sorted := r.sorted_toList
  rw [split] at sorted
  exact (List.pairwise_append.1 sorted).2.2 other mem at_ List.mem_cons_self

/-- A channel is listed exactly if it is found under its name. -/
theorem mem_toList_iff {r : Registry} {c : Channel} : c ∈ r.toList ↔ r.lookup? c.id = some c := by
  unfold toList lookup?
  rw [Dictionary.mem_values_iff]
  constructor
  · rintro ⟨id, found⟩
    rw [(r.keyed id c found).1]
    exact found
  · intro found
    exact ⟨c.id, found⟩

/-- There is a channel for dead letters as soon as one is designated. -/
theorem isSome_deadLetter? (r : Registry) : r.deadLetter?.isSome = r.deadLetterId.isSome := by
  unfold deadLetter?
  cases named : r.deadLetterId with
  | none => rfl
  | some id => exact r.designated id named

/-- A call that registers a channel. -/
inductive Call where
  | channel (c : Channel)
  /-- The channel receives dead letters from then on. -/
  | deadLetter (c : Channel)

namespace Call

/-- The channel of a call, under the name that it is registered by. -/
def named : Call → Channel
  | channel c => c
  | deadLetter c => if c.id = "" then { c with id := "dead-letter" } else c

/-- The channel that a call leaves in a registry: if it has no retry age, with one of two minutes. -/
def left (call : Call) : Channel :=
  { call.named with
    maxRetryAge :=
      if call.named.maxRetryAge = Span.zero then Span.ofSecs 120 else call.named.maxRetryAge }

/-- Whether a call designates its channel to receive dead letters. -/
def designates : Call → Bool
  | channel _ => false
  | deadLetter _ => true

theorem completed_named (call : Call) : call.named.completed = call.left := by
  unfold Channel.completed left
  split
  · rfl
  · rfl

theorem designates_iff {call : Call} : call.designates = true ↔ ∃ c, call = .deadLetter c := by
  cases call with
  | channel c => simp [designates]
  | deadLetter c => simp [designates]

end Call

/-- The registry after one more call. -/
def call (r : Registry) : Call → Registry
  | .channel c => r.add c
  | .deadLetter c => r.setDeadLetter c

/-- The registry that calls fill. -/
def after (calls : List Call) : Registry := calls.foldl call empty

/-- The last of the calls that registered a name. -/
def lastUnder? (id : String) (calls : List Call) : Option Call :=
  (calls.filter fun call => call.named.id = id).getLast?

/-- The last of the calls that designated a channel for dead letters. -/
def lastDesignation? (calls : List Call) : Option Call := (calls.filter Call.designates).getLast?

variable {calls : List Call} {id : String}

/-- A call shows under the name it registers and nowhere else. -/
theorem lookup?_call (r : Registry) (next : Call) (id : String) :
    (r.call next).lookup? id = if id = next.named.id then some next.left else r.lookup? id := by
  rw [← next.completed_named]
  cases next with
  | channel c => exact r.lookup?_add c id
  | deadLetter c => exact r.lookup?_add (deadLetterNamed c) id

theorem deadLetterId_call (r : Registry) (next : Call) :
    (r.call next).deadLetterId
      = if next.designates = true then some next.named.id else r.deadLetterId := by
  cases next with
  | channel c => rfl
  | deadLetter c => rfl

theorem after_snoc (calls : List Call) (next : Call) :
    after (calls ++ [next]) = (after calls).call next := by
  rw [after, List.foldl_append]
  rfl

theorem lastUnder?_snoc (id : String) (calls : List Call) (next : Call) :
    lastUnder? id (calls ++ [next])
      = if id = next.named.id then some next else lastUnder? id calls := by
  unfold lastUnder?
  rw [List.filter_append]
  by_cases same : next.named.id = id
  · simp [same]
  · simp [same, Ne.symm same]

theorem lastDesignation?_snoc (calls : List Call) (next : Call) :
    lastDesignation? (calls ++ [next])
      = if next.designates = true then some next else lastDesignation? calls := by
  unfold lastDesignation?
  rw [List.filter_append]
  by_cases designates : next.designates = true
  · simp [designates]
  · simp [designates]

/-- Under each name stands what the last call left there. -/
theorem lookup?_after (calls : List Call) (id : String) :
    (after calls).lookup? id = (lastUnder? id calls).map Call.left := by
  induction calls using List.reverseRecOn with
  | nil => rfl
  | append_singleton calls next ih =>
    rw [after_snoc, lookup?_call, lastUnder?_snoc]
    split
    · rfl
    · exact ih

/-- The name that receives dead letters is the one designated last. -/
theorem deadLetterId_after (calls : List Call) :
    (after calls).deadLetterId = (lastDesignation? calls).map fun call => call.named.id := by
  induction calls using List.reverseRecOn with
  | nil => rfl
  | append_singleton calls next ih =>
    rw [after_snoc, deadLetterId_call, lastDesignation?_snoc]
    split
    · rfl
    · exact ih

theorem isSome_lastUnder? : (lastUnder? id calls).isSome = true ↔ ∃ c ∈ calls, c.named.id = id := by
  simp [lastUnder?]

theorem isSome_lastDesignation? :
    (lastDesignation? calls).isSome = true ↔ ∃ c, .deadLetter c ∈ calls := by
  simp [lastDesignation?, Call.designates_iff]

theorem named_of_lastUnder? {last : Call} (found : lastUnder? id calls = some last) :
    last.named.id = id := by
  have kept := List.mem_of_getLast? found
  exact of_decide_eq_true (List.mem_filter.1 kept).2

theorem lookup_eq (r : Registry) (id : String) :
    r.lookup id = match r.lookup? id with
      | some c => .ok c
      | none => .error (.channelNotFound id) := rfl

theorem lookup_eq_ok_iff {r : Registry} {c : Channel} :
    r.lookup id = .ok c ↔ r.lookup? id = some c := by
  unfold lookup
  cases r.lookup? id with
  | none => simp
  | some found => simp

/-- The names that are listed are those that some call registered. -/
theorem mem_names_iff (calls : List Call) (id : String) :
    id ∈ (after calls).toList.map Channel.id ↔ ∃ call ∈ calls, call.named.id = id := by
  rw [← isSome_lastUnder?, List.mem_map]
  constructor
  · rintro ⟨c, listed, rfl⟩
    have found := mem_toList_iff.1 listed
    rw [lookup?_after] at found
    rw [← Option.isSome_map, found]
    rfl
  · intro registered
    obtain ⟨last, found⟩ := Option.isSome_iff_exists.1 registered
    have stands : (after calls).lookup? id = some last.left := by
      rw [lookup?_after, found, Option.map_some]
    have named : last.left.id = id := named_of_lastUnder? found
    refine ⟨last.left, mem_toList_iff.2 ?_, named⟩
    rw [named]
    exact stands

/-- What holds of a registry that calls filled, starting from the empty one. -/
structure Registers (calls : List Call) : Prop where
  /-- The last call under a name counts. -/
  lookup : ∀ id, (after calls).lookup id = match lastUnder? id calls with
    | some call => .ok call.left
    | none => .error (.channelNotFound id)
  increasing : ((after calls).toList.map Channel.id).Pairwise (· < ·)
  listed : ∀ id, id ∈ (after calls).toList.map Channel.id ↔ ∃ call ∈ calls, call.named.id = id
  found : ∀ c ∈ (after calls).toList, (after calls).lookup c.id = .ok c
  size : (after calls).size = (after calls).toList.length ∧
    (after calls).size = (calls.map fun call => call.named.id).dedup.length
  /-- There is a channel for dead letters exactly if one was ever designated. -/
  designated : (after calls).deadLetter?.isSome = true ↔ ∃ c, .deadLetter c ∈ calls
  /-- It is the one that now stands under the name designated last. -/
  receives : ∀ last, lastDesignation? calls = some last →
    ∃ c, (after calls).deadLetter? = some c ∧ (after calls).lookup last.named.id = .ok c
  keyed : ∀ entry ∈ (after calls).channels.entries,
    entry.2.id = entry.1 ∧ entry.2.maxRetryAge ≠ Span.zero

/-- **The last call under each name counts**, for every sequence of calls. -/
theorem registers (calls : List Call) : Registers calls where
  lookup := by
    intro id
    rw [lookup_eq, lookup?_after]
    cases lastUnder? id calls with
    | none => rfl
    | some last => rfl
  increasing := List.pairwise_map.2 (sorted_toList (after calls))
  listed := mem_names_iff calls
  found := by
    intro c listed
    exact lookup_eq_ok_iff.2 (mem_toList_iff.1 listed)
  size := by
    have length : (after calls).size = (after calls).toList.length := by
      unfold size Dictionary.size toList Dictionary.values
      rw [List.length_map]
    have distinct : ((after calls).toList.map Channel.id).Nodup := by
      apply List.pairwise_map.2
      apply (sorted_toList (after calls)).imp
      intro a b less same
      exact String.lt_irrefl b.id (same ▸ less)
    have same : ((after calls).toList.map Channel.id).Perm
        (calls.map fun call => call.named.id).dedup := by
      apply (List.perm_ext_iff_of_nodup distinct (List.nodup_dedup _)).2
      intro id
      rw [mem_names_iff, List.mem_dedup, List.mem_map]
    refine ⟨length, ?_⟩
    rw [length, ← same.length_eq, List.length_map]
  designated := by
    rw [isSome_deadLetter?, deadLetterId_after, Option.isSome_map]
    exact isSome_lastDesignation?
  receives := by
    intro last designated
    have named : (after calls).deadLetterId = some last.named.id := by
      rw [deadLetterId_after, designated, Option.map_some]
    obtain ⟨c, stands⟩ := Option.isSome_iff_exists.1 ((after calls).designated _ named)
    refine ⟨c, ?_, lookup_eq_ok_iff.2 stands⟩
    rw [deadLetter?, named, Option.bind_some]
    exact stands
  keyed := by
    intro entry listed
    exact (after calls).keyed _ _ ((Dictionary.mem_entries_iff _ _ _).1 listed)

/-- A channel for dead letters that is registered anew, as any other, is still the one. -/
example :
    (after [.deadLetter (.publishOnly "" "old"), .channel (.publishOnly "dead-letter" "new")]).deadLetter?
      = some ⟨"dead-letter", "new", none, Span.ofSecs 120⟩ := by
  decide

end MessageChannels.Registry
