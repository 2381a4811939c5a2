import Mathlib.Algebra.GroupWithZero.Nat
import MessageChannels.Text.Utf8

/-!
# The longest leading part of a text

`Text.take` cuts a text between two characters. What it keeps is determined by three facts: it is
the beginning of the text, its bytes fit, and no longer beginning of the text fits.
-/

set_option autoImplicit false

namespace MessageChannels.Text

/-- The number of bytes of characters. -/
def byteCount (cs : List Char) : Nat := (cs.map Char.utf8Size).sum

theorem length_toBytes (text : String) : (toBytes text).length = byteCount text.toList := by
  simp only [toBytes, List.length_flatMap, byteCount, String.length_utf8EncodeChar]

theorem byteCount_cons (c : Char) (cs : List Char) :
    byteCount (c :: cs) = c.utf8Size + byteCount cs := by
  rw [byteCount, List.map_cons, List.sum_cons, byteCount]

/-- A text is the longest beginning of another, in whole characters, of at most so many bytes. -/
structure IsLongestPart (text : String) (room : Nat) (part : String) : Prop where
  leading : part.toList <+: text.toList
  fits : (toBytes part).length ≤ room
  longest : ∀ other : String, other.toList <+: text.toList → (toBytes other).length ≤ room →
    other.toList <+: part.toList

theorem fitting_prefix (room : Nat) (cs : List Char) : fitting room cs <+: cs := by
  induction cs generalizing room with
  | nil => exact List.nil_prefix
  | cons c cs ih =>
    rw [fitting]
    split
    · exact List.cons_prefix_cons.2 ⟨rfl, ih _⟩
    · exact List.nil_prefix

theorem byteCount_fitting (room : Nat) (cs : List Char) : byteCount (fitting room cs) ≤ room := by
  induction cs generalizing room with
  | nil => exact Nat.zero_le _
  | cons c cs ih =>
    rw [fitting]
    split
    · have := ih (room - c.utf8Size)
      rw [byteCount_cons]
      omega
    · exact Nat.zero_le _

/-- Every beginning that fits is kept: the first character that is left out does not fit. -/
theorem prefix_fitting {room : Nat} {cs other : List Char} (leading : other <+: cs)
    (fits : byteCount other ≤ room) : other <+: fitting room cs := by
  induction other generalizing room cs with
  | nil => exact List.nil_prefix
  | cons c other ih =>
    obtain ⟨rest, rfl⟩ := leading
    rw [byteCount_cons] at fits
    rw [List.cons_append, fitting, if_pos (by omega)]
    exact List.cons_prefix_cons.2 ⟨rfl, ih (List.prefix_append other rest) (by omega)⟩

/-- **What is kept of a text is its longest beginning that fits.** -/
theorem isLongestPart_take (text : String) (room : Nat) :
    IsLongestPart text room (take text room) := by
  have kept : (take text room).toList = fitting room text.toList := String.toList_ofList
  refine ⟨?_, ?_, fun other leading fits => ?_⟩
  · rw [kept]
    exact fitting_prefix room text.toList
  · rw [length_toBytes, kept]
    exact byteCount_fitting room text.toList
  · rw [length_toBytes] at fits
    rw [kept]
    exact prefix_fitting leading fits

end MessageChannels.Text
