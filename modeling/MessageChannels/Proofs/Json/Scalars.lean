import Mathlib.Tactic.SplitIfs
import MessageChannels.Json.Reader
import MessageChannels.Proofs.Text.Decimal
import MessageChannels.Proofs.Text.Utf8

/-!
# Texts and integers read back from JSON

A text comes back from between its quotes with every escape resolved, whatever follows its closing
quote. An integer comes back from its digits if what follows cannot belong to a number. Only the
integers from -2^63 to 2^64-1 do: a reader takes all others for doubles.
-/

set_option autoImplicit false

namespace MessageChannels.Json

/-- The bytes of characters. -/
def bytes (cs : List Char) : List UInt8 := cs.flatMap String.utf8EncodeChar

@[simp] theorem bytes_nil : bytes [] = [] := rfl

theorem bytes_cons (c : Char) (cs : List Char) :
    bytes (c :: cs) = String.utf8EncodeChar c ++ bytes cs := List.flatMap_cons

theorem bytes_append (cs ds : List Char) : bytes (cs ++ ds) = bytes cs ++ bytes ds :=
  List.flatMap_append

theorem toBytes_ofList (cs : List Char) : Text.toBytes (String.ofList cs) = bytes cs := by
  rw [Text.toBytes, String.toList_ofList, bytes]

/-! ## Texts -/

theorem prepend_prepend (a b : List UInt8) (r : Except Fault (List UInt8 × List UInt8)) :
    prepend a (prepend b r) = prepend (a ++ b) r := by
  cases r with
  | error _ => rfl
  | ok p => simp [prepend, Except.map]

/-- A byte that stands for itself in a text. -/
def IsPlain (b : UInt8) : Prop := b ≠ '"'.toUInt8 ∧ b ≠ '\\'.toUInt8 ∧ ¬ b < 0x20

theorem textBytes_plain {bs : List UInt8} (plain : ∀ b ∈ bs, IsPlain b) (more : List UInt8) :
    textBytes (bs ++ more) = prepend bs (textBytes more) := by
  induction bs with
  | nil => cases h : textBytes more <;> simp [prepend, Except.map, h]
  | cons b bs ih =>
    obtain ⟨⟨quote, backslash, control⟩, rest⟩ := List.forall_mem_cons.1 plain
    rw [List.cons_append, textBytes.eq_def]
    simp only [if_neg quote, if_neg backslash, if_neg control]
    rw [ih rest, prepend_prepend, List.singleton_append]

theorem isPlain_ofNat {n : Nat} (h : n < 256) (visible : 0x20 ≤ n) (quote : n ≠ 0x22)
    (backslash : n ≠ 0x5c) : IsPlain (UInt8.ofNat n) := by
  have toNat : (UInt8.ofNat n).toNat = n := by
    rw [UInt8.toNat_ofNat', Nat.mod_eq_of_lt h]
  refine ⟨fun e => quote ?_, fun e => backslash ?_, fun e => ?_⟩
  · rw [← toNat, e]
    rfl
  · rw [← toNat, e]
    rfl
  · rw [UInt8.lt_iff_toNat_lt, toNat] at e
    exact absurd e (Nat.not_lt.2 visible)

/-- A character that is not escaped has no byte that means something else. -/
theorem isPlain_of_mem_encode {c : Char} (visible : 0x20 ≤ c.toNat) (quote : c ≠ '"')
    (backslash : c ≠ '\\') {b : UInt8} (hb : b ∈ String.utf8EncodeChar c) : IsPlain b := by
  have hquote : c.val.toNat ≠ 0x22 := fun e => quote (Char.ext (UInt32.toNat_inj.1 e))
  have hbackslash : c.val.toNat ≠ 0x5c := fun e => backslash (Char.ext (UInt32.toNat_inj.1 e))
  have hvisible : 0x20 ≤ c.val.toNat := visible
  rw [String.utf8EncodeChar.eq_1] at hb
  -- Beyond ASCII every byte is at least 0x80.
  split at hb
  · rw [List.mem_singleton.1 hb]
    exact isPlain_ofNat (by omega) hvisible hquote hbackslash
  · split at hb
    · simp only [List.mem_cons, List.not_mem_nil, or_false] at hb
      rcases hb with rfl | rfl <;> exact isPlain_ofNat (by omega) (by omega) (by omega) (by omega)
    · split at hb
      · simp only [List.mem_cons, List.not_mem_nil, or_false] at hb
        rcases hb with rfl | rfl | rfl <;>
          exact isPlain_ofNat (by omega) (by omega) (by omega) (by omega)
      · simp only [List.mem_cons, List.not_mem_nil, or_false] at hb
        rcases hb with rfl | rfl | rfl | rfl <;>
          exact isPlain_ofNat (by omega) (by omega) (by omega) (by omega)

theorem hexDigit?_hexDigit {n : Nat} (h : n < 16) :
    String.utf8EncodeChar (hexDigit n) = [(hexDigit n).toUInt8] ∧
      hexDigit? (hexDigit n).toUInt8 = some n := by
  revert n
  decide

/-- A control character is read back from the two digits of its code. -/
theorem textBytes_control {c : Char} (control : c.toNat < 0x20) (more : List UInt8) :
    textBytes
        (bytes ['\\', 'u', '0', '0', hexDigit (c.toNat / 16), hexDigit (c.toNat % 16)] ++ more)
      = prepend (String.utf8EncodeChar c) (textBytes more) := by
  obtain ⟨encodeHigh, high⟩ := hexDigit?_hexDigit (n := c.toNat / 16) (by omega)
  obtain ⟨encodeLow, low⟩ := hexDigit?_hexDigit (n := c.toNat % 16) (by omega)
  have unit : hexUnit? 0x30 0x30 (hexDigit (c.toNat / 16)).toUInt8 (hexDigit (c.toNat % 16)).toUInt8
      = some c.toNat := by
    rw [hexUnit?, high, low]
    show some (((0 * 16 + 0) * 16 + c.toNat / 16) * 16 + c.toNat % 16) = some c.toNat
    congr 1
    omega
  have form : bytes ['\\', 'u', '0', '0', hexDigit (c.toNat / 16), hexDigit (c.toNat % 16)]
      = [0x5c, 0x75, 0x30, 0x30, (hexDigit (c.toNat / 16)).toUInt8,
        (hexDigit (c.toNat % 16)).toUInt8] := by
    simp only [bytes_cons, encodeHigh, encodeLow, bytes_nil]
    rfl
  rw [form]
  show textBytes (0x5c :: 0x75 :: 0x30 :: 0x30 :: (hexDigit (c.toNat / 16)).toUInt8 ::
    (hexDigit (c.toNat % 16)).toUInt8 :: more) = _
  rw [textBytes.eq_def]
  have quote : ¬ (0x5c : UInt8) = '"'.toUInt8 := by decide
  have backslash : (0x5c : UInt8) = '\\'.toUInt8 := by decide
  have noLetter : escape? 0x75 = none := by decide
  have unicode : (0x75 : UInt8) = 'u'.toUInt8 := by decide
  have scalar : c.toNat < 0xD800 ∨ 0xDFFF < c.toNat := Or.inl (by omega)
  simp only [if_neg quote, if_pos backslash, noLetter, if_pos unicode, unit, if_pos scalar,
    codePointBytes, Char.ofNat_toNat]

/-- A character is read back from the form in which it stands in a text. -/
theorem textBytes_char (c : Char) (more : List UInt8) :
    textBytes (bytes (textChar c) ++ more) = prepend (String.utf8EncodeChar c) (textBytes more) := by
  -- An escape of two characters: the letter stands for the byte of the character.
  have escaped (letter byte : UInt8) (h : escape? letter = some byte) :
      textBytes (0x5c :: letter :: more) = prepend [byte] (textBytes more) := by
    have quote : ¬ (0x5c : UInt8) = '"'.toUInt8 := by decide
    have backslash : (0x5c : UInt8) = '\\'.toUInt8 := by decide
    rw [textBytes.eq_def]
    simp only [if_neg quote, if_pos backslash, h]
  unfold textChar
  split_ifs with quote backslash backspace tab newline feed carriage control
  · subst quote; exact escaped _ _ (by decide)
  · subst backslash; exact escaped _ _ (by decide)
  · subst backspace; exact escaped _ _ (by decide)
  · subst tab; exact escaped _ _ (by decide)
  · subst newline; exact escaped _ _ (by decide)
  · subst feed; exact escaped _ _ (by decide)
  · subst carriage; exact escaped _ _ (by decide)
  · exact textBytes_control control more
  · rw [bytes_cons, bytes_nil, List.append_nil]
    refine textBytes_plain (fun b hb => ?_) more
    exact isPlain_of_mem_encode (by omega) quote backslash hb

/-- **A text is read back from between its quotes.** -/
theorem textBody_quotedText (s : String) (more : List UInt8) :
    ∃ rest, bytes (quotedText s) ++ more = '"'.toUInt8 :: rest ∧ textBody rest = .ok (s, more) := by
  have body (cs : List Char) :
      textBytes (bytes (cs.flatMap textChar) ++ '"'.toUInt8 :: more) = .ok (bytes cs, more) := by
    induction cs with
    | nil =>
      show textBytes ('"'.toUInt8 :: more) = _
      rw [textBytes.eq_def]
      exact if_pos rfl
    | cons c cs ih =>
      rw [List.flatMap_cons, bytes_append, List.append_assoc, textBytes_char, ih, bytes_cons]
      rfl
  refine ⟨bytes (s.toList.flatMap textChar) ++ '"'.toUInt8 :: more, ?_, ?_⟩
  · rw [quotedText, bytes_append, bytes_cons, List.append_assoc, List.append_assoc]
    rfl
  · have whole : Text.ofBytes? (bytes s.toList) = some s := Text.ofBytes?_toBytes s
    simp only [textBody, body, whole, bind, Except.bind, pure, Except.pure]

/-! ## Integers -/

/-- What follows a number is nothing that could belong to it. -/
def Delimited (more : List UInt8) : Prop :=
  startsWithDigit more = false ∧ startsWithExponent more = false ∧
    more.head? ≠ some '.'.toUInt8

theorem encode_digit {c : Char} (h : c.isDigit = true) :
    String.utf8EncodeChar c = [c.toUInt8] ∧ digit? c.toUInt8 = some (c.toNat - '0'.toNat) := by
  have least : 48 ≤ c.val.toNat := (Decimal.toNat_of_isDigit h).1
  have greatest : c.val.toNat ≤ 57 := (Decimal.toNat_of_isDigit h).2
  have toNat : c.toUInt8.toNat = c.val.toNat := by
    show c.val.toUInt8.toNat = _
    rw [UInt32.toNat_toUInt8, Nat.mod_eq_of_lt (by omega)]
  constructor
  · rw [String.utf8EncodeChar.eq_1, if_pos (by omega)]
    rfl
  · rw [digit?, if_pos, toNat]
    · rfl
    · rw [UInt8.le_iff_toNat_le, UInt8.le_iff_toNat_le, toNat]
      exact ⟨least, greatest⟩

theorem bytes_toString_nat (n : Nat) :
    ∃ b bs, bytes (toString n).toList = b :: bs ∧ (digit? b).isSome = true := by
  obtain ⟨c, cs, written⟩ := List.exists_cons_of_ne_nil (Nat.toDigits_ne_nil (n := n) (b := 10))
  have digit : c.isDigit = true :=
    Nat.isDigit_of_mem_toDigits (by decide) (by decide) (written ▸ List.mem_cons_self)
  obtain ⟨encoded, value⟩ := encode_digit digit
  refine ⟨c.toUInt8, bytes cs, ?_, by rw [value]; rfl⟩
  rw [Decimal.toList_toString_nat, written, bytes_cons, encoded, List.singleton_append]

theorem le_ofDigitChars (cs : List Char) (n : Nat) : n ≤ Nat.ofDigitChars 10 cs n := by
  rw [Nat.ofDigitChars_eq_ofDigitChars_zero]
  have := Nat.le_mul_of_pos_left n (Nat.pow_pos (n := cs.length) (show 0 < 10 by decide))
  omega

/-- Digits are taken as long as what they denote stays within the limit. -/
theorem appendDigits_digits {limit : Nat} {cs : List Char} (digits : ∀ c ∈ cs, c.isDigit = true)
    {n : Nat} (within : Nat.ofDigitChars 10 cs n ≤ limit) (used : Nat) {more : List UInt8}
    (stops : startsWithDigit more = false) :
    appendDigits limit n used (bytes cs ++ more)
      = (Nat.ofDigitChars 10 cs n, used + cs.length, more) := by
  induction cs generalizing n used with
  | nil =>
    cases more with
    | nil => rfl
    | cons b more =>
      have none : digit? b = none := by
        simpa [startsWithDigit] using stops
      show appendDigits limit n used (b :: more) = _
      rw [appendDigits, none]
      rfl
  | cons c cs ih =>
    obtain ⟨hc, hcs⟩ := List.forall_mem_cons.1 digits
    obtain ⟨encoded, digit⟩ := encode_digit hc
    rw [Nat.ofDigitChars_cons] at within ⊢
    have next := le_ofDigitChars cs (10 * n + (c.toNat - '0'.toNat))
    rw [bytes_cons, encoded, List.append_assoc, List.singleton_append, appendDigits, digit]
    simp only [if_pos (Nat.le_trans next within)]
    rw [ih hcs within, List.length_cons, Nat.add_assoc, Nat.add_comm 1]

/-- The digits of a number are read to their end. -/
theorem unsignedNumber_digits {n : Nat} (within : n ≤ naturalLimit) (negative : Bool)
    {more : List UInt8} (delimited : Delimited more) :
    unsignedNumber negative (bytes (toString n).toList ++ more) = afterWhole negative n more := by
  have digits : ∀ c ∈ Nat.toDigits 10 n, c.isDigit = true :=
    fun c => Nat.isDigit_of_mem_toDigits (by decide) (by decide)
  have value : Nat.ofDigitChars 10 (Nat.toDigits 10 n) 0 = n := Nat.ofDigitChars_ten_toDigits
  rw [Decimal.toList_toString_nat]
  cases Nat.eq_zero_or_pos n with
  | inl zero =>
    subst zero
    show unsignedNumber negative (0x30 :: more) = _
    have digit : digit? 0x30 = some 0 := by decide
    rw [unsignedNumber, digit]
    exact if_neg (by rw [delimited.1]; decide)
  | inr positive =>
    have lead := Decimal.head?_toDigits_ne_zero positive
    cases written : Nat.toDigits 10 n with
    | nil => exact absurd written Nat.toDigits_ne_nil
    | cons c cs =>
      rw [written] at digits value lead
      obtain ⟨hc, hcs⟩ := List.forall_mem_cons.1 digits
      obtain ⟨encoded, digit⟩ := encode_digit hc
      rw [Nat.ofDigitChars_cons, Nat.mul_zero, Nat.zero_add] at value
      have nonzero : c.toNat - '0'.toNat ≠ 0 := by
        intro zero
        have least := (Decimal.toNat_of_isDigit hc).1
        have same : c.toNat = '0'.toNat := Nat.le_antisymm (Nat.sub_eq_zero_iff_le.1 zero) least
        exact lead (congrArg some (Char.toNat_inj.1 same))
      obtain ⟨d, hd⟩ := Nat.exists_eq_succ_of_ne_zero nonzero
      rw [hd] at digit value
      have taken := appendDigits_digits hcs (value ▸ within) 0 delimited.1
      rw [bytes_cons, encoded, List.append_assoc, List.singleton_append, unsignedNumber, digit]
      simp only [taken, value, delimited.1]
      rfl

/-- **An integer of 64 bits, signed or unsigned, is read back from its text.** -/
theorem number_toString {n : Int} (least : -2 ^ 63 ≤ n) (greatest : n ≤ 2 ^ 64 - 1)
    {more : List UInt8} (delimited : Delimited more) :
    (number (bytes (toString n).toList ++ more)).map (fun r => (r.1.toJson, r.2))
      = .ok (integer n, more) := by
  have ⟨_, exponent, point⟩ := delimited
  have whole (negative : Bool) (m : Nat) : afterWhole negative m more
      = if negative then
          if m = 0 ∨ 2 ^ 63 < m then .ok (.float (Binary64.ofNat m).neg, more)
          else .ok (.negative (-(m : Int)), more)
        else .ok (.natural m, more) := by
    rw [afterWhole, if_neg point, if_neg (by rw [exponent]; decide)]
    cases negative <;> split <;> rfl
  cases n with
  | ofNat n =>
    have natural : n ≤ naturalLimit := by
      have : naturalLimit = 2 ^ 64 - 1 := rfl
      have : (n : Int) ≤ 2 ^ 64 - 1 := greatest
      omega
    have unsigned : ¬ (bytes (toString n).toList ++ more).head? = some '-'.toUInt8 := by
      obtain ⟨b, bs, written, digit⟩ := bytes_toString_nat n
      rw [written]
      intro minus
      rw [Option.some.inj minus] at digit
      exact absurd digit (by decide)
    show (number (bytes (toString n).toList ++ more)).map _ = _
    rw [number, if_neg unsigned, unsignedNumber_digits natural false delimited, whole]
    rfl
  | negSucc n =>
    have natural : n + 1 ≤ naturalLimit := by
      have : naturalLimit = 2 ^ 64 - 1 := rfl
      omega
    have magnitude : ¬ (n + 1 = 0 ∨ 2 ^ 63 < n + 1) := by omega
    rw [Decimal.toList_toString_negSucc, bytes_cons]
    show (number ('-'.toUInt8 :: (bytes (toString (n + 1)).toList ++ more))).map _ = _
    rw [number, List.head?_cons, if_pos rfl, List.drop_one, List.tail_cons,
      unsignedNumber_digits natural true delimited, whole, if_pos rfl, if_neg magnitude]
    rfl

end MessageChannels.Json
