import MessageChannels.Text.Decimal

/-!
# Texts as bytes

The UTF-8 form of a text and back. `ofBytes?` takes exactly the shortest forms of Unicode scalar
values: no surrogates, nothing above U+10FFFF, no byte missing or out of place.
`take` keeps the longest run of whole characters from the start of a text that fits in a number of
bytes.
-/

set_option autoImplicit false

namespace MessageChannels.Text

/-- The UTF-8 form of a text. -/
def toBytes (text : String) : List UInt8 := text.toList.flatMap String.utf8EncodeChar

/-- The scalar value of a number, if it is one and at least `least`. -/
def scalar? (least n : Nat) : Option Char :=
  if h : n.isValidChar ∧ least ≤ n then some ⟨n.toUInt32, by
    have := h.1
    have hlt : n < 2 ^ 32 := by unfold Nat.isValidChar at this; omega
    rw [UInt32.isValidChar, Nat.toUInt32, UInt32.toNat_ofNat', Nat.mod_eq_of_lt hlt]
    exact this⟩
  else none

/-- The six bits of a byte that continues a character, if it is one. -/
def continuation? (b : UInt8) : Option Nat :=
  if 0x80 ≤ b ∧ b < 0xC0 then some (b.toNat - 0x80) else none

/-- The characters that bytes are the UTF-8 form of, if they are one. -/
def characters? : List UInt8 → Option (List Char)
  | [] => some []
  | a :: rest =>
    if a < 0x80 then do
      let c ← scalar? 0 a.toNat
      return c :: (← characters? rest)
    else if a < 0xC2 then none
    else if a < 0xE0 then
      match rest with
      | b :: rest => do
        let x ← continuation? b
        let c ← scalar? 0x80 ((a.toNat - 0xC0) * 64 + x)
        return c :: (← characters? rest)
      | [] => none
    else if a < 0xF0 then
      match rest with
      | b :: d :: rest => do
        let x ← continuation? b
        let y ← continuation? d
        let c ← scalar? 0x800 (((a.toNat - 0xE0) * 64 + x) * 64 + y)
        return c :: (← characters? rest)
      | _ => none
    else if a < 0xF8 then
      match rest with
      | b :: d :: e :: rest => do
        let x ← continuation? b
        let y ← continuation? d
        let z ← continuation? e
        let c ← scalar? 0x10000 ((((a.toNat - 0xF0) * 64 + x) * 64 + y) * 64 + z)
        return c :: (← characters? rest)
      | _ => none
    else none

/-- The text that bytes are the UTF-8 form of, if they are one. -/
def ofBytes? (bytes : List UInt8) : Option String := (characters? bytes).map String.ofList

/-- The longest run of leading characters whose UTF-8 form fits in a number of bytes. -/
def fitting : Nat → List Char → List Char
  | _, [] => []
  | room, c :: cs => if c.utf8Size ≤ room then c :: fitting (room - c.utf8Size) cs else []

/-- The longest leading part of a text, in whole characters, of at most so many bytes. -/
def take (text : String) (room : Nat) : String := String.ofList (fitting room text.toList)

end MessageChannels.Text
