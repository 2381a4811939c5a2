import MessageChannels.Proofs.Text.Fitting
import MessageChannels.Proofs.Text.Utf8

/-!
# Cutting a text by its bytes

A limit in bytes may fall inside a character. Where characters begin shows in the bytes alone: the
first byte of a character continues none, and all its other bytes do. So the search `boundary?` goes
back from the limit, byte by byte, to the first offset at which a character begins or the text ends.
`isBoundary_encode_iff` ties these offsets to the characters, so the search never runs past the
beginning of the text, and what it leaves is `Text.take`.
-/

set_option autoImplicit false

namespace MessageChannels.Text

/-- The UTF-8 form of characters. -/
def encode (cs : List Char) : List UInt8 := cs.flatMap String.utf8EncodeChar

/-- Whether bytes may be cut at an offset: at either end, and in front of a byte that continues no
character. -/
def isBoundary (bytes : List UInt8) (offset : Nat) : Bool :=
  offset == 0 || match bytes[offset]? with
    | none => offset == bytes.length
    | some b => (continuation? b).isNone

/-- The first boundary on the way back from an offset, byte by byte; none, if the way would lead
below zero. -/
def boundary? (bytes : List UInt8) : Nat → Option Nat
  | 0 => if isBoundary bytes 0 then some 0 else none
  | offset + 1 =>
    if isBoundary bytes (offset + 1) then some (offset + 1) else boundary? bytes offset

/-- A text of at most so many bytes: the text itself if it fits, else the text of its bytes up to the
boundary. -/
def cutBack? (text : String) (room : Nat) : Option String :=
  let bytes := toBytes text
  if bytes.length ≤ room then some text
  else (boundary? bytes room).bind fun offset => ofBytes? (bytes.take offset)

/-! ## Boundaries -/

theorem encode_cons (c : Char) (cs : List Char) :
    encode (c :: cs) = String.utf8EncodeChar c ++ encode cs :=
  List.flatMap_cons

theorem length_encode (cs : List Char) : (encode cs).length = byteCount cs := by
  have form : toBytes (String.ofList cs) = encode cs := congrArg encode String.toList_ofList
  rw [← form, length_toBytes, String.toList_ofList]

/-- A beginning has at most as many bytes. -/
theorem byteCount_le {before cs : List Char} (leading : before <+: cs) :
    byteCount before ≤ byteCount cs := by
  obtain ⟨rest, rfl⟩ := leading
  rw [byteCount, byteCount, List.map_append, List.sum_append]
  exact Nat.le_add_right _ _

theorem continuation?_eq_none {n : Nat} (byte : n < 256) (outside : n < 128 ∨ 192 ≤ n) :
    continuation? (UInt8.ofNat n) = none := by
  rw [continuation?, if_neg]
  rintro ⟨above, below⟩
  have below := (ofNat_lt_iff byte (by decide : 0xC0 < 256)).1 below
  have above : ¬ n < 0x80 := mt (ofNat_lt_iff byte (by decide)).2 (UInt8.not_lt.2 above)
  omega

/-- The form of a character is a byte that continues none, and bytes that do. -/
theorem encodeChar_cases (c : Char) :
    ∃ b rest, String.utf8EncodeChar c = b :: rest ∧ continuation? b = none ∧
      ∀ b' ∈ rest, (continuation? b').isSome = true := by
  have greatest := toNat_lt c
  have continues {n : Nat} : (continuation? (UInt8.ofNat (n % 64 + 128))).isSome = true := by
    rw [continuation?_ofNat (Nat.mod_lt n (by decide))]
    rfl
  rw [String.utf8EncodeChar.eq_1]
  split
  · refine ⟨_, [], rfl, continuation?_eq_none (by omega) (by omega), ?_⟩
    intro b' member
    cases member
  · split
    · refine ⟨_, _, rfl, continuation?_eq_none (by omega) (by omega), ?_⟩
      simp only [List.forall_mem_cons]
      exact ⟨continues, fun b' member => nomatch member⟩
    · split
      · refine ⟨_, _, rfl, continuation?_eq_none (by omega) (by omega), ?_⟩
        simp only [List.forall_mem_cons]
        exact ⟨continues, continues, fun b' member => nomatch member⟩
      · refine ⟨_, _, rfl, continuation?_eq_none (by omega) (by omega), ?_⟩
        simp only [List.forall_mem_cons]
        exact ⟨continues, continues, continues, fun b' member => nomatch member⟩

/-- Inside a character there is no boundary. -/
theorem isBoundary_inside {c : Char} {cs : List Char} {offset : Nat} (pos : 0 < offset)
    (inside : offset < c.utf8Size) : isBoundary (encode (c :: cs)) offset = false := by
  obtain ⟨b, rest, form, _, continues⟩ := encodeChar_cases c
  have size : rest.length + 1 = c.utf8Size := by
    rw [← String.length_utf8EncodeChar, form, List.length_cons]
  obtain ⟨k, rfl⟩ : ∃ k, offset = k + 1 := ⟨offset - 1, by omega⟩
  have short : k < rest.length := by omega
  have byte : (encode (c :: cs))[k + 1]? = some rest[k] := by
    rw [encode_cons, form, List.cons_append, List.getElem?_cons_succ,
      List.getElem?_append_left short, List.getElem?_eq_getElem short]
  have continued : (continuation? rest[k]).isNone = false :=
    Option.isNone_eq_false_iff.2 (continues rest[k] (List.getElem_mem short))
  simp only [isBoundary, byte, continued]
  rfl

/-- Past a character the boundaries are those of what follows it. -/
theorem isBoundary_past (c : Char) (cs : List Char) (offset : Nat) :
    isBoundary (encode (c :: cs)) (c.utf8Size + offset) = isBoundary (encode cs) offset := by
  have size := String.length_utf8EncodeChar c
  have pos := c.utf8Size_pos
  have byte : (encode (c :: cs))[c.utf8Size + offset]? = (encode cs)[offset]? := by
    rw [encode_cons, List.getElem?_append_right (by omega), size, Nat.add_sub_cancel_left]
  have length : (encode (c :: cs)).length = c.utf8Size + (encode cs).length := by
    rw [encode_cons, List.length_append, size]
  have end_ : (c.utf8Size + offset == c.utf8Size + (encode cs).length)
      = (offset == (encode cs).length) := by
    rw [Bool.eq_iff_iff, beq_iff_eq, beq_iff_eq, Nat.add_left_cancel_iff]
  have notZero : (c.utf8Size + offset == 0) = false := beq_eq_false_iff_ne.2 (by omega)
  simp only [isBoundary, byte, length, end_, notZero, Bool.false_or]
  cases offset with
  | succ offset => rfl
  | zero =>
    -- What follows begins with the first byte of a character, or not at all.
    cases cs with
    | nil => rfl
    | cons d ds =>
      obtain ⟨b, rest, form, first, _⟩ := encodeChar_cases d
      simp [encode_cons, form, first]

/-- A text may be cut exactly where some of its characters, from the first one on, end. -/
theorem isBoundary_encode_iff (cs : List Char) (offset : Nat) :
    isBoundary (encode cs) offset = true ↔ ∃ before, before <+: cs ∧ byteCount before = offset := by
  induction cs generalizing offset with
  | nil =>
    constructor
    · intro boundary
      have start : offset = 0 := by simpa [isBoundary, encode] using boundary
      exact ⟨[], List.nil_prefix, start.symm⟩
    · rintro ⟨before, leading, rfl⟩
      rw [List.prefix_nil.1 leading]
      rfl
  | cons c cs ih =>
    constructor
    · intro boundary
      rcases Nat.eq_zero_or_pos offset with rfl | pos
      · exact ⟨[], List.nil_prefix, rfl⟩
      · rcases Nat.lt_or_ge offset c.utf8Size with inside | past
        · rw [isBoundary_inside pos inside] at boundary
          cases boundary
        · obtain ⟨k, rfl⟩ := Nat.exists_eq_add_of_le past
          rw [isBoundary_past, ih] at boundary
          obtain ⟨before, leading, rfl⟩ := boundary
          exact ⟨c :: before, List.cons_prefix_cons.2 ⟨rfl, leading⟩, byteCount_cons c before⟩
    · rintro ⟨before, leading, rfl⟩
      cases before with
      | nil => rfl
      | cons d before =>
        obtain ⟨rfl, rest⟩ := List.cons_prefix_cons.1 leading
        rw [byteCount_cons, isBoundary_past, ih]
        exact ⟨before, rest, rfl⟩

/-! ## The search -/

/-- The search ends at the greatest boundary up to where it starts. -/
theorem boundary?_eq_some {bytes : List UInt8} {k : Nat} (boundary : isBoundary bytes k = true)
    (offset : Nat) (reached : k ≤ offset)
    (greatest : ∀ j, j ≤ offset → isBoundary bytes j = true → j ≤ k) :
    boundary? bytes offset = some k := by
  induction offset with
  | zero =>
    obtain rfl : k = 0 := Nat.le_zero.1 reached
    rw [boundary?, if_pos boundary]
  | succ offset ih =>
    rw [boundary?]
    by_cases here : isBoundary bytes (offset + 1) = true
    · have last := greatest (offset + 1) (Nat.le_refl _) here
      rw [if_pos here, Nat.le_antisymm reached last]
    · have before : k ≤ offset := by
        rcases Nat.lt_or_eq_of_le reached with before | rfl
        · exact Nat.le_of_lt_succ before
        · exact absurd boundary here
      rw [if_neg here]
      exact ih before fun j upTo => greatest j (Nat.le_succ_of_le upTo)

/-- The search ends behind the characters that fit. -/
theorem boundary?_encode (cs : List Char) (room : Nat) :
    boundary? (encode cs) room = some (byteCount (fitting room cs)) := by
  apply boundary?_eq_some
  · exact (isBoundary_encode_iff cs _).2 ⟨_, fitting_prefix room cs, rfl⟩
  · exact byteCount_fitting room cs
  · intro j fits boundary
    obtain ⟨before, leading, rfl⟩ := (isBoundary_encode_iff cs j).1 boundary
    exact byteCount_le (prefix_fitting leading fits)

theorem take_eq_self {text : String} {room : Nat} (fits : (toBytes text).length ≤ room) :
    take text room = text := by
  have part := isLongestPart_take text room
  have all := part.longest text (List.prefix_refl _) fits
  apply String.toList_inj.1
  exact List.IsPrefix.eq_of_length_le part.leading all.length_le

/-- The bytes up to the last character that fits are those of the part that is kept. -/
theorem take_toBytes (text : String) (room : Nat) :
    (toBytes text).take (byteCount (fitting room text.toList)) = toBytes (take text room) := by
  obtain ⟨rest, split⟩ := fitting_prefix room text.toList
  have bytes : toBytes text = encode (fitting room text.toList) ++ encode rest := by
    rw [encode, encode, ← List.flatMap_append, split, toBytes]
  rw [bytes, ← length_encode, List.take_left]
  exact congrArg encode String.toList_ofList.symm

/-- **Going back from the limit keeps the longest leading part that fits.** -/
theorem cutBack?_eq (text : String) (room : Nat) : cutBack? text room = some (take text room) := by
  unfold cutBack?
  by_cases fits : (toBytes text).length ≤ room
  · rw [if_pos fits, take_eq_self fits]
  · have found : boundary? (toBytes text) room = some (byteCount (fitting room text.toList)) :=
      boundary?_encode text.toList room
    rw [if_neg fits, found, Option.bind_some, take_toBytes, ofBytes?_toBytes]

/-! ## The longest leading part -/

/-- There is one longest leading part. -/
theorem IsLongestPart.unique {text part other : String} {room : Nat}
    (longest : IsLongestPart text room part) (alike : IsLongestPart text room other) :
    part = other := by
  have upTo := alike.longest part longest.leading longest.fits
  have back := longest.longest other alike.leading alike.fits
  apply String.toList_inj.1
  exact List.IsPrefix.eq_of_length_le upTo back.length_le

/-- The longest part of a longest part is that of the text for the smaller of the two limits. -/
theorem IsLongestPart.trans {text part other : String} {first second : Nat}
    (longest : IsLongestPart text first part) (again : IsLongestPart part second other) :
    IsLongestPart text (min first second) other where
  leading := again.leading.trans longest.leading
  fits := by
    have shorter : (toBytes other).length ≤ (toBytes part).length := by
      rw [length_toBytes, length_toBytes]
      exact byteCount_le again.leading
    exact Nat.le_min.2 ⟨Nat.le_trans shorter longest.fits, again.fits⟩
  longest := by
    intro third leading fits
    have both := Nat.le_min.1 fits
    apply again.longest third
    · exact longest.longest third leading both.1
    · exact both.2

/-- What holds of a text that is cut to so many bytes. -/
structure CutTo (text : String) (room : Nat) : Prop where
  /-- The search back from the limit ends, and with this part. -/
  searched : cutBack? text room = some (take text room)
  leading : (take text room).toList <+: text.toList
  fits : (toBytes (take text room)).length ≤ room
  /-- Every longer beginning, in whole characters, is too long. -/
  longer : ∀ other : String, other.toList <+: text.toList → (take text room).length < other.length →
    room < (toBytes other).length
  /-- To cut again is to cut once, to the smaller of the two limits. -/
  again : ∀ room', take (take text room) room' = take text (min room room')

/-- **A text is cut to the longest part that fits**, for every text and every limit. -/
theorem cutTo (text : String) (room : Nat) : CutTo text room where
  searched := cutBack?_eq text room
  leading := (isLongestPart_take text room).leading
  fits := (isLongestPart_take text room).fits
  longer := by
    intro other leading more
    rw [← String.length_toList, ← String.length_toList] at more
    apply Nat.not_le.1
    intro fits
    have kept := (isLongestPart_take text room).longest other leading fits
    exact Nat.not_le_of_lt more kept.length_le
  again := by
    intro room'
    have twice := (isLongestPart_take text room).trans (isLongestPart_take (take text room) room')
    exact twice.unique (isLongestPart_take text (min room room'))

/-- A limit inside a character of three bytes leaves it out. -/
example : take "日本語" 5 = "日" ∧ cutBack? "日本語" 5 = some "日" := by decide +kernel

end MessageChannels.Text
