import MessageChannels.Text.Utf8

/-!
# Texts read back from their bytes

The UTF-8 form of a text is read as that text. A character is read from the number of bytes that its
first byte announces, and what follows it is read on its own.
-/

set_option autoImplicit false

namespace MessageChannels.Text

theorem scalar?_toNat {least : Nat} {c : Char} (h : least ≤ c.val.toNat) :
    scalar? least c.val.toNat = some c := by
  have valid : c.val.toNat.isValidChar := c.valid
  rw [scalar?, dif_pos ⟨valid, h⟩]
  congr 1
  apply Char.ext
  exact UInt32.ofNat_toNat

theorem toNat_lt (c : Char) : c.val.toNat < 0x110000 := by
  have valid : c.val.toNat.isValidChar := c.valid
  simp only [Nat.isValidChar] at valid
  omega

theorem ofNat_lt_iff {n m : Nat} (hn : n < 256) (hm : m < 256) :
    UInt8.ofNat n < UInt8.ofNat m ↔ n < m := by
  rw [UInt8.lt_iff_toNat_lt, UInt8.toNat_ofNat', UInt8.toNat_ofNat', Nat.mod_eq_of_lt hn,
    Nat.mod_eq_of_lt hm]

/-- The six bits in a byte that continues a character. -/
theorem continuation?_ofNat {x : Nat} (h : x < 64) :
    continuation? (UInt8.ofNat (x + 128)) = some x := by
  have above : ¬ UInt8.ofNat (x + 128) < UInt8.ofNat 0x80 := by
    rw [ofNat_lt_iff (by omega) (by omega)]
    omega
  have below : UInt8.ofNat (x + 128) < UInt8.ofNat 0xC0 := by
    rw [ofNat_lt_iff (by omega) (by omega)]
    omega
  rw [continuation?, if_pos ⟨UInt8.not_lt.1 above, below⟩, UInt8.toNat_ofNat',
    Nat.mod_eq_of_lt (by omega), Nat.add_sub_cancel]

/-- A character in front of those that follow it. -/
theorem characters?_one {n : Nat} (h : n < 0x80) (rest : List UInt8) :
    characters? (UInt8.ofNat n :: rest)
      = (scalar? 0 n).bind fun c => (characters? rest).map (c :: ·) := by
  have ascii : UInt8.ofNat n < 0x80 := (ofNat_lt_iff (by omega) (by decide)).2 h
  rw [characters?.eq_def]
  simp only [if_pos ascii, UInt8.toNat_ofNat', Nat.mod_eq_of_lt (show n < 2 ^ 8 by omega)]
  cases scalar? 0 n <;> cases characters? rest <;> rfl

theorem characters?_two {a x : Nat} (least : 2 ≤ a) (ha : a < 32) (hx : x < 64)
    (rest : List UInt8) :
    characters? (UInt8.ofNat (a + 192) :: UInt8.ofNat (x + 128) :: rest)
      = (scalar? 0x80 (a * 64 + x)).bind fun c => (characters? rest).map (c :: ·) := by
  have lead (m : Nat) (hm : m < 256) : UInt8.ofNat (a + 192) < UInt8.ofNat m ↔ a + 192 < m :=
    ofNat_lt_iff (by omega) hm
  have not80 : ¬ UInt8.ofNat (a + 192) < 0x80 := mt (lead 0x80 (by decide)).1 (by omega)
  have notC2 : ¬ UInt8.ofNat (a + 192) < 0xC2 := mt (lead 0xC2 (by decide)).1 (by omega)
  have isE0 : UInt8.ofNat (a + 192) < 0xE0 := (lead 0xE0 (by decide)).2 (by omega)
  rw [characters?, if_neg not80, if_neg notC2, if_pos isE0]
  simp only [continuation?_ofNat hx, UInt8.toNat_ofNat',
    Nat.mod_eq_of_lt (show a + 192 < 2 ^ 8 by omega), Nat.add_sub_cancel, Option.bind_eq_bind,
    Option.bind_some]
  cases scalar? 0x80 (a * 64 + x) <;> cases characters? rest <;> rfl

theorem characters?_three {a x y : Nat} (ha : a < 16) (hx : x < 64) (hy : y < 64)
    (rest : List UInt8) :
    characters? (UInt8.ofNat (a + 224) :: UInt8.ofNat (x + 128) :: UInt8.ofNat (y + 128) :: rest)
      = (scalar? 0x800 ((a * 64 + x) * 64 + y)).bind fun c => (characters? rest).map (c :: ·) := by
  have lead (m : Nat) (hm : m < 256) : UInt8.ofNat (a + 224) < UInt8.ofNat m ↔ a + 224 < m :=
    ofNat_lt_iff (by omega) hm
  have not80 : ¬ UInt8.ofNat (a + 224) < 0x80 := mt (lead 0x80 (by decide)).1 (by omega)
  have notC2 : ¬ UInt8.ofNat (a + 224) < 0xC2 := mt (lead 0xC2 (by decide)).1 (by omega)
  have notE0 : ¬ UInt8.ofNat (a + 224) < 0xE0 := mt (lead 0xE0 (by decide)).1 (by omega)
  have isF0 : UInt8.ofNat (a + 224) < 0xF0 := (lead 0xF0 (by decide)).2 (by omega)
  rw [characters?, if_neg not80, if_neg notC2, if_neg notE0, if_pos isF0]
  simp only [continuation?_ofNat hx, continuation?_ofNat hy, UInt8.toNat_ofNat',
    Nat.mod_eq_of_lt (show a + 224 < 2 ^ 8 by omega), Nat.add_sub_cancel, Option.bind_eq_bind,
    Option.bind_some]
  cases scalar? 0x800 ((a * 64 + x) * 64 + y) <;> cases characters? rest <;> rfl

theorem characters?_four {a x y z : Nat} (ha : a < 8) (hx : x < 64) (hy : y < 64) (hz : z < 64)
    (rest : List UInt8) :
    characters? (UInt8.ofNat (a + 240) :: UInt8.ofNat (x + 128) :: UInt8.ofNat (y + 128) ::
        UInt8.ofNat (z + 128) :: rest)
      = (scalar? 0x10000 (((a * 64 + x) * 64 + y) * 64 + z)).bind
          fun c => (characters? rest).map (c :: ·) := by
  have lead (m : Nat) (hm : m < 256) : UInt8.ofNat (a + 240) < UInt8.ofNat m ↔ a + 240 < m :=
    ofNat_lt_iff (by omega) hm
  have not80 : ¬ UInt8.ofNat (a + 240) < 0x80 := mt (lead 0x80 (by decide)).1 (by omega)
  have notC2 : ¬ UInt8.ofNat (a + 240) < 0xC2 := mt (lead 0xC2 (by decide)).1 (by omega)
  have notE0 : ¬ UInt8.ofNat (a + 240) < 0xE0 := mt (lead 0xE0 (by decide)).1 (by omega)
  have notF0 : ¬ UInt8.ofNat (a + 240) < 0xF0 := mt (lead 0xF0 (by decide)).1 (by omega)
  have isF8 : UInt8.ofNat (a + 240) < 0xF8 := (lead 0xF8 (by decide)).2 (by omega)
  rw [characters?, if_neg not80, if_neg notC2, if_neg notE0, if_neg notF0, if_pos isF8]
  simp only [continuation?_ofNat hx, continuation?_ofNat hy, continuation?_ofNat hz,
    UInt8.toNat_ofNat', Nat.mod_eq_of_lt (show a + 240 < 2 ^ 8 by omega), Nat.add_sub_cancel,
    Option.bind_eq_bind, Option.bind_some]
  cases scalar? 0x10000 (((a * 64 + x) * 64 + y) * 64 + z) <;> cases characters? rest <;> rfl

/-- Bytes that begin with the form of a character are read from that character on. -/
theorem characters?_encode (c : Char) (rest : List UInt8) :
    characters? (String.utf8EncodeChar c ++ rest) = (characters? rest).map (c :: ·) := by
  have greatest := toNat_lt c
  rw [String.utf8EncodeChar.eq_1]
  split
  · show characters? (_ :: rest) = _
    rw [characters?_one (by omega), scalar?_toNat (by omega), Option.bind_some]
  · split
    · show characters? (_ :: _ :: rest) = _
      rw [characters?_two (by omega) (by omega) (by omega),
        show c.val.toNat / 64 % 32 * 64 + c.val.toNat % 64 = c.val.toNat by omega,
        scalar?_toNat (by omega), Option.bind_some]
    · split
      · show characters? (_ :: _ :: _ :: rest) = _
        rw [characters?_three (by omega) (by omega) (by omega),
          show (c.val.toNat / 4096 % 16 * 64 + c.val.toNat / 64 % 64) * 64 + c.val.toNat % 64
            = c.val.toNat by omega,
          scalar?_toNat (by omega), Option.bind_some]
      · show characters? (_ :: _ :: _ :: _ :: rest) = _
        rw [characters?_four (by omega) (by omega) (by omega) (by omega),
          show ((c.val.toNat / 262144 % 8 * 64 + c.val.toNat / 4096 % 64) * 64
              + c.val.toNat / 64 % 64) * 64 + c.val.toNat % 64 = c.val.toNat by omega,
          scalar?_toNat (by omega), Option.bind_some]

/-- **A text is read back from its bytes.** -/
theorem ofBytes?_toBytes (text : String) : ofBytes? (toBytes text) = some text := by
  have chars (cs : List Char) :
      characters? (cs.flatMap String.utf8EncodeChar) = some cs := by
    induction cs with
    | nil => rfl
    | cons c cs ih => rw [List.flatMap_cons, characters?_encode, ih, Option.map_some]
  rw [ofBytes?, toBytes, chars, Option.map_some, String.ofList_toList]

end MessageChannels.Text
