import MessageChannels.Json.Shape
import MessageChannels.Proofs.Json.Scalars
import MessageChannels.Proofs.Dictionary

/-!
# Values read back from their compact text

A value of integers of 64 bits, texts, lists and objects, not nested too deep, is read back from its
compact text. What is read is the value with the members of every object in the order of their names
(`Json.ordered`), which is the form that readers keep: a value in that form comes back as it is.

The writer puts something between any two items, and a reader of an item stops there. So reading the
items of a list goes by induction on the list, for items that are read back before anything that may
stand after them.
-/

set_option autoImplicit false

namespace MessageChannels.Json

mutual

/-- A value with the members of every object in the order of their names. -/
def ordered : Json → Json
  | array items => array (orderedItems items)
  | object members => objectOfLast (orderedMembers members)
  | v => v

/-- The items of a list, each with ordered members. -/
def orderedItems : List Json → List Json
  | [] => []
  | v :: vs => v.ordered :: orderedItems vs

/-- The members of an object as they stand, each with ordered members. -/
def orderedMembers : List (String × Json) → List (String × Json)
  | [] => []
  | (k, v) :: ms => (k, v.ordered) :: orderedMembers ms

end

/-- A value without doubles, of integers of 64 bits, in which at most so many lists and objects are
open at once and no object has two members of one name. -/
inductive Fits : Nat → Json → Prop where
  | null {room : Nat} : Fits room null
  | bool {room : Nat} (b : Bool) : Fits room (bool b)
  | integer {room : Nat} {n : Int} (least : -2 ^ 63 ≤ n) (greatest : n ≤ 2 ^ 64 - 1) :
      Fits room (integer n)
  | text {room : Nat} (s : String) : Fits room (text s)
  | array {room : Nat} {items : List Json} (fits : ∀ v ∈ items, Fits room v) :
      Fits (room + 1) (array items)
  | object {room : Nat} {members : List (String × Json)}
      (distinct : (members.map Prod.fst).Nodup) (fits : ∀ m ∈ members, Fits room m.2) :
      Fits (room + 1) (object members)

/-! ## What stands between items -/

/-- What stands before an item that is the first or a later one. -/
def separator : Bool → List Char
  | true => []
  | false => [',']

/-- The items of a list that are still to be read, after none or after some, up to its end. -/
def itemsLeft (first : Bool) : List Json → List Char
  | [] => [']']
  | v :: vs => separator first ++ (v.chars ++ itemsLeft false vs)

theorem itemChars_eq (vs : List Json) : itemChars vs = itemsLeft true vs := by
  have later (v : Json) (vs : List Json) : itemChars (v :: vs) = v.chars ++ itemsLeft false vs := by
    induction vs generalizing v with
    | nil => rfl
    | cons w vs ih =>
      show v.chars ++ ',' :: itemChars (w :: vs) = _
      rw [ih]
      rfl
  cases vs with
  | nil => rfl
  | cons v vs => exact later v vs

/-- A member of an object. -/
def memberText (m : String × Json) : List Char := quotedText m.1 ++ ':' :: m.2.chars

/-- The members of an object that are still to be read, after none or after some, up to its end. -/
def membersLeft (first : Bool) : List (String × Json) → List Char
  | [] => ['\x7d']
  | m :: ms => separator first ++ (memberText m ++ membersLeft false ms)

theorem memberChars_eq (ms : List (String × Json)) : memberChars ms = membersLeft true ms := by
  have later (m : String × Json) (ms : List (String × Json)) :
      memberChars (m :: ms) = memberText m ++ membersLeft false ms := by
    induction ms generalizing m with
    | nil => simp [memberChars, memberText, membersLeft]
    | cons n ms ih => simp [memberChars, memberText, membersLeft, separator, ih n]
  cases ms with
  | nil => rfl
  | cons m ms => exact later m ms

/-- There are more bytes than items, so a reader that counts bytes down reaches the end. -/
theorem length_le_itemChars (vs : List Json) (more : List UInt8) :
    vs.length ≤ (bytes (itemChars vs) ++ more).length := by
  have later (vs : List Json) : vs.length < (bytes (itemsLeft false vs)).length := by
    induction vs with
    | nil => decide
    | cons v vs ih =>
      simp only [itemsLeft, bytes_append, List.length_append, List.length_cons]
      show _ < 1 + _
      omega
  rw [itemChars_eq]
  cases vs with
  | nil => exact Nat.zero_le _
  | cons v vs =>
    have := later vs
    simp only [itemsLeft, bytes_append, List.length_append, List.length_cons]
    omega

theorem length_le_memberChars (ms : List (String × Json)) (more : List UInt8) :
    ms.length ≤ (bytes (memberChars ms) ++ more).length := by
  have later (ms : List (String × Json)) :
      ms.length < (bytes (membersLeft false ms)).length := by
    induction ms with
    | nil => decide
    | cons m ms ih =>
      simp only [membersLeft, bytes_append, List.length_append, List.length_cons]
      show _ < 1 + _
      omega
  rw [memberChars_eq]
  cases ms with
  | nil => exact Nat.zero_le _
  | cons m ms =>
    have := later ms
    simp only [membersLeft, bytes_append, List.length_append, List.length_cons]
    omega

theorem delimited_nil : Delimited [] := ⟨rfl, rfl, by decide⟩

theorem delimited_cons {c : Char} (h : c = ',' ∨ c = ']' ∨ c = '\x7d') (more : List UInt8) :
    Delimited (c.toUInt8 :: more) := by
  refine ⟨?_, ?_, fun e => ?_⟩
  · rcases h with rfl | rfl | rfl <;> rfl
  · rcases h with rfl | rfl | rfl <;> rfl
  · have point := Option.some.inj e
    rcases h with rfl | rfl | rfl <;> exact absurd point (by decide)

/-- The end of a list, or the comma before its next item, ends whatever stands before it. -/
theorem delimited_itemsLeft (vs : List Json) (more : List UInt8) :
    Delimited (bytes (itemsLeft false vs) ++ more) := by
  cases vs with
  | nil => exact delimited_cons (Or.inr (Or.inl rfl)) _
  | cons v vs => exact delimited_cons (Or.inl rfl) (bytes (v.chars ++ itemsLeft false vs) ++ more)

theorem delimited_membersLeft (ms : List (String × Json)) (more : List UInt8) :
    Delimited (bytes (membersLeft false ms) ++ more) := by
  cases ms with
  | nil => exact delimited_cons (Or.inr (Or.inr rfl)) _
  | cons m ms =>
    exact delimited_cons (Or.inl rfl) (bytes (memberText m ++ membersLeft false ms) ++ more)

/-! ## The first byte of a value -/

/-- Bytes begin with something that is neither a blank nor the end of a list. -/
def BeginsItem (bs : List UInt8) : Prop :=
  ∃ b rest, bs = b :: rest ∧ isBlank b = false ∧ b ≠ ']'.toUInt8

/-- What begins a number begins nothing else. -/
theorem ne_of_beginsNumber {b c : UInt8} (number : beginsNumber b = true)
    (other : beginsNumber c = false) : b ≠ c := by
  rintro rfl
  exact absurd (number.symm.trans other) (by decide)

theorem isBlank_of_beginsNumber {b : UInt8} (number : beginsNumber b = true) :
    isBlank b = false := by
  have ne {c : UInt8} (other : beginsNumber c = false) : (b == c) = false :=
    beq_false_of_ne (ne_of_beginsNumber number other)
  rw [isBlank, ne (c := 0x20) (by decide), ne (c := 0x09) (by decide), ne (c := 0x0A) (by decide),
    ne (c := 0x0D) (by decide)]
  rfl

theorem bytes_integer (n : Int) :
    ∃ b rest, bytes (integer n).chars = b :: rest ∧ beginsNumber b = true := by
  show ∃ b rest, bytes (toString n).toList = b :: rest ∧ _
  cases n with
  | ofNat n =>
    obtain ⟨b, rest, written, digit⟩ := bytes_toString_nat n
    exact ⟨b, rest, written, by rw [beginsNumber, digit, Bool.or_true]⟩
  | negSucc n =>
    rw [Decimal.toList_toString_negSucc, bytes_cons]
    exact ⟨_, _, rfl, by decide⟩

theorem Fits.beginsItem {room : Nat} {v : Json} (fits : Fits room v) (more : List UInt8) :
    BeginsItem (bytes v.chars ++ more) := by
  cases fits with
  | null => exact ⟨_, _, rfl, by decide, by decide⟩
  | bool b => cases b <;> exact ⟨_, _, rfl, by decide, by decide⟩
  | @integer _ n least greatest =>
    obtain ⟨b, rest, written, number⟩ := bytes_integer n
    exact ⟨b, rest ++ more, by rw [written]; rfl, isBlank_of_beginsNumber number,
      ne_of_beginsNumber number (by decide)⟩
  | text s => exact ⟨_, _, rfl, by decide, by decide⟩
  | array fits => exact ⟨_, _, rfl, by decide, by decide⟩
  | object distinct fits => exact ⟨_, _, rfl, by decide, by decide⟩

/-! ## Lists and objects -/

/-- A reader reads a value back before anything that may stand after it. -/
def ReadsBack (read : Reader Json) (v : Json) : Prop :=
  ∀ more, Delimited more → read (bytes v.chars ++ more) = .ok (v.ordered, more)

variable {read : Reader Json}

theorem nextItem_separator {close : Char} (first : Bool) {b : UInt8} {rest : List UInt8}
    (blank : isBlank b = false) (opens : b ≠ close.toUInt8)
    (comma : ','.toUInt8 ≠ close.toUInt8) :
    nextItem close first (bytes (separator first) ++ b :: rest) = .ok (some (b :: rest)) := by
  have separates : isBlank ','.toUInt8 = false := by decide
  cases first with
  | true =>
    show nextItem close true (b :: rest) = _
    simp only [nextItem, skipBlanks, List.dropWhile_cons, blank, Bool.false_eq_true, if_false,
      if_neg opens, if_true]
  | false =>
    show nextItem close false (','.toUInt8 :: b :: rest) = _
    simp only [nextItem, skipBlanks, List.dropWhile_cons, separates, blank, Bool.false_eq_true,
      if_false, if_neg opens, if_neg comma, if_true]

/-- Items are read back up to the closing bracket, each before what is left after it. -/
theorem items_itemsLeft {vs : List Json}
    (begins : ∀ v ∈ vs, ∀ more, BeginsItem (bytes v.chars ++ more))
    (reads : ∀ v ∈ vs, ReadsBack read v) {fuel : Nat} (enough : vs.length < fuel) (first : Bool)
    (more : List UInt8) :
    items read fuel first (bytes (itemsLeft first vs) ++ more)
      = .ok (orderedItems vs, ']'.toUInt8 :: more) := by
  induction vs generalizing fuel first with
  | nil =>
    obtain ⟨fuel, rfl⟩ := Nat.exists_eq_succ_of_ne_zero (Nat.ne_of_gt enough)
    cases first <;> rfl
  | cons v vs ih =>
    obtain ⟨fuel, rfl⟩ := Nat.exists_eq_succ_of_ne_zero (Nat.ne_of_gt (Nat.zero_lt_of_lt enough))
    obtain ⟨readsFirst, readsRest⟩ := List.forall_mem_cons.1 reads
    obtain ⟨beginsFirst, beginsRest⟩ := List.forall_mem_cons.1 begins
    have item := readsFirst _ (delimited_itemsLeft vs more)
    have rest := ih beginsRest readsRest (Nat.lt_of_succ_lt_succ enough) false
    obtain ⟨b, after, begun, blank, opens⟩ := beginsFirst (bytes (itemsLeft false vs) ++ more)
    rw [itemsLeft, bytes_append, bytes_append, List.append_assoc, List.append_assoc, items, begun,
      nextItem_separator first blank opens (by decide), ← begun]
    simp only [bind, Except.bind, item, rest]
    rfl

/-- A list is read back from after its opening bracket. -/
theorem listBody_itemChars {vs : List Json}
    (begins : ∀ v ∈ vs, ∀ more, BeginsItem (bytes v.chars ++ more))
    (reads : ∀ v ∈ vs, ReadsBack read v) (more : List UInt8) :
    listBody read (bytes (itemChars vs) ++ more) = .ok (orderedItems vs, more) := by
  have enough := Nat.lt_succ_of_le (length_le_itemChars vs more)
  rw [itemChars_eq] at enough ⊢
  rw [listBody, items_itemsLeft begins reads enough]
  rfl

/-- The name of a member is read back, and the value after its colon. -/
theorem member_memberText {m : String × Json} (reads : ReadsBack read m.2) {more : List UInt8}
    (delimited : Delimited more) :
    ∃ rest after, memberName (bytes (memberText m) ++ more) = .ok (m.1, rest) ∧
      colon rest = .ok after ∧ read after = .ok (m.2.ordered, more) := by
  obtain ⟨rest, written, name⟩ := textBody_quotedText m.1 (bytes (':' :: m.2.chars) ++ more)
  refine ⟨bytes (':' :: m.2.chars) ++ more, _, ?_, rfl, reads more delimited⟩
  rw [memberText, bytes_append, List.append_assoc, written, memberName, if_pos rfl]
  exact name

theorem members_membersLeft {ms : List (String × Json)} (reads : ∀ m ∈ ms, ReadsBack read m.2)
    {fuel : Nat} (enough : ms.length < fuel) (first : Bool) (more : List UInt8) :
    members read fuel first (bytes (membersLeft first ms) ++ more)
      = .ok (orderedMembers ms, '\x7d'.toUInt8 :: more) := by
  induction ms generalizing fuel first with
  | nil =>
    obtain ⟨fuel, rfl⟩ := Nat.exists_eq_succ_of_ne_zero (Nat.ne_of_gt enough)
    cases first <;> rfl
  | cons m ms ih =>
    obtain ⟨fuel, rfl⟩ := Nat.exists_eq_succ_of_ne_zero (Nat.ne_of_gt (Nat.zero_lt_of_lt enough))
    obtain ⟨readsFirst, readsRest⟩ := List.forall_mem_cons.1 reads
    obtain ⟨rest, after, name, value, member⟩ :=
      member_memberText readsFirst (delimited_membersLeft ms more)
    have later := ih readsRest (Nat.lt_of_succ_lt_succ enough) false
    let left := bytes (memberText m) ++ (bytes (membersLeft false ms) ++ more)
    have next : nextItem '\x7d' first (bytes (separator first) ++ left) = .ok (some left) :=
      nextItem_separator first (b := '"'.toUInt8) (by decide) (by decide) (by decide)
    rw [membersLeft, bytes_append, bytes_append, List.append_assoc, List.append_assoc, members,
      next]
    simp only [left, bind, Except.bind, name, value, member, later]
    rfl

/-- An object is read back from after its opening brace. -/
theorem objectBody_memberChars {ms : List (String × Json)}
    (reads : ∀ m ∈ ms, ReadsBack read m.2) (more : List UInt8) :
    objectBody read (bytes (memberChars ms) ++ more) = .ok (orderedMembers ms, more) := by
  have enough := Nat.lt_succ_of_le (length_le_memberChars ms more)
  rw [memberChars_eq] at enough ⊢
  rw [objectBody, members_membersLeft reads enough]
  rfl

/-! ## Values -/

theorem valueWith_number (nested : Option (Reader Json)) {b : UInt8} {rest : List UInt8}
    (begins : beginsNumber b = true) :
    valueWith nested (b :: rest)
      = (number (b :: rest)).map (fun r => (r.1.toJson, r.2)) := by
  have ne {c : UInt8} (other : beginsNumber c = false) : ¬ b = c := ne_of_beginsNumber begins other
  simp only [valueWith, skipBlanks, List.dropWhile_cons, isBlank_of_beginsNumber begins,
    Bool.false_eq_true, if_false, begins, if_true,
    if_neg (ne (c := 'n'.toUInt8) (by decide)), if_neg (ne (c := 't'.toUInt8) (by decide)),
    if_neg (ne (c := 'f'.toUInt8) (by decide))]

/-- A value that fits is read back by the reader that has room for it. -/
theorem Fits.readsBack {room : Nat} {v : Json} (fits : Fits room v) :
    ReadsBack (value room) v := by
  induction fits with
  | @null room => intro more _; cases room <;> rfl
  | @bool room b => intro more _; cases room <;> cases b <;> rfl
  | @integer room n least greatest =>
    intro more delimited
    obtain ⟨b, rest, written, begins⟩ := bytes_integer n
    have number := number_toString least greatest delimited
    have written' : bytes (toString n).toList = b :: rest := written
    rw [written'] at number
    rw [written]
    cases room <;> exact (valueWith_number _ begins).trans number
  | @text room s =>
    intro more _
    obtain ⟨rest, written, body⟩ := textBody_quotedText s more
    have quoted : (valueWith · ('"'.toUInt8 :: rest)) = fun _ => .ok (Json.text s, more) := by
      funext nested
      show (textBody rest).map _ = _
      rw [body]
      rfl
    show value room (bytes (quotedText s) ++ more) = _
    rw [written]
    cases room <;> exact congrFun quoted _
  | @array room items fits ih =>
    intro more _
    have body := listBody_itemChars (fun v hv => (fits v hv).beginsItem) ih more
    show (listBody (value room) (bytes (itemChars items) ++ more)).map _ = _
    rw [body]
    rfl
  | @object room members distinct fits ih =>
    intro more _
    have body := objectBody_memberChars ih more
    show (objectBody (value room) (bytes (memberChars members) ++ more)).map _ = _
    rw [body]
    rfl

/-! ## The order of members -/

theorem orderedItems_eq (vs : List Json) : orderedItems vs = vs.map ordered := by
  induction vs with
  | nil => rfl
  | cons v vs ih => rw [orderedItems, ih, List.map_cons]

theorem orderedMembers_eq (ms : List (String × Json)) :
    orderedMembers ms = ms.map fun m => (m.1, m.2.ordered) := by
  induction ms with
  | nil => rfl
  | cons m ms ih => rw [orderedMembers, ih, List.map_cons]

/-- A value that lists the members of every object in the order of their names. -/
inductive Sorted : Json → Prop where
  | null : Sorted null
  | bool (b : Bool) : Sorted (bool b)
  | integer (n : Int) : Sorted (integer n)
  | float (x : Binary64) : Sorted (float x)
  | text (s : String) : Sorted (text s)
  | array {items : List Json} (sorted : ∀ v ∈ items, Sorted v) : Sorted (array items)
  | object {members : List (String × Json)}
      (increasing : members.Pairwise fun a b => a.1 < b.1) (sorted : ∀ m ∈ members, Sorted m.2) :
      Sorted (object members)

/-- A value in order is left as it is. -/
theorem Sorted.ordered_eq {v : Json} (sorted : Sorted v) : v.ordered = v := by
  induction sorted with
  | null => rfl
  | bool b => rfl
  | integer n => rfl
  | float x => rfl
  | text s => rfl
  | @array items sorted ih =>
    rw [ordered, orderedItems_eq, List.map_congr_left ih, List.map_id']
  | @object members increasing sorted ih =>
    have same : (members.map fun m => (m.1, m.2.ordered)) = members := by
      refine (List.map_congr_left fun m hm => ?_).trans (List.map_id members)
      rw [ih m hm]
      rfl
    rw [ordered, orderedMembers_eq, same, objectOfLast, Dictionary.entries_ofList increasing]

/-- **A value of integers of 64 bits that is not nested too deep is read back from its compact
text**, the members of its objects in the order of their names. -/
theorem ofBytes_compact {v : Json} (fits : Fits nestingLimit v) :
    ofBytes (Text.toBytes v.compact) = .ok v.ordered := by
  have read := fits.readsBack [] delimited_nil
  rw [List.append_nil] at read
  rw [compact, toBytes_ofList, ofBytes, read]
  rfl

end MessageChannels.Json
