import MessageChannels.Json.Value
import MessageChannels.Text.Utf8

/-!
# Reading JSON from bytes

Reading goes through the bytes once and stops at the first problem, which is of one of three kinds
(`Json.Fault`). Every reader takes the bytes still to be read and returns what it read with the
bytes after it. Brackets and braces may be nested only so deep (`nestingLimit`); a reader's `room`
is the number that may still be opened.
-/

set_option autoImplicit false

namespace MessageChannels.Json

/-- Why bytes are not taken. -/
inductive Fault where
  /-- They are not JSON text. -/
  | malformed
  /-- They end before the value does. -/
  | truncated
  /-- They hold a value of another shape than the one wanted. -/
  | mismatched
  deriving DecidableEq

/-- What reads an `α` from the start of bytes. -/
abbrev Reader (α : Type) := List UInt8 → Except Fault (α × List UInt8)

/-- Whether a byte is a blank between the parts of a value. -/
def isBlank (b : UInt8) : Bool := b == 0x20 || b == 0x09 || b == 0x0A || b == 0x0D

/-- The bytes after the blanks at their start. -/
def skipBlanks (bytes : List UInt8) : List UInt8 := bytes.dropWhile isBlank

/-- The bytes after the given ones. -/
def expect : List Char → List UInt8 → Except Fault (List UInt8)
  | [], bytes => .ok bytes
  | _ :: _, [] => .error .truncated
  | c :: cs, b :: rest => if b = c.toUInt8 then expect cs rest else .error .malformed

/-! ## Numbers -/

/-- A number as it was written: a natural number of 64 bits, a negative one, or a double. -/
inductive Number where
  | natural (n : Nat)
  | negative (n : Int)
  | float (x : Binary64)

/-- The value of an ASCII digit. -/
def digit? (b : UInt8) : Option Nat :=
  if '0'.toUInt8 ≤ b ∧ b ≤ '9'.toUInt8 then some (b.toNat - 48) else none

/-- Digits appended to a number while it stays within a limit: the number, how many digits were
appended, and the bytes after them. -/
def appendDigits (limit : Nat) : Nat → Nat → List UInt8 → Nat × Nat × List UInt8
  | n, used, [] => (n, used, [])
  | n, used, b :: rest =>
    match digit? b with
    | some d => if 10 * n + d ≤ limit then appendDigits limit (10 * n + d) (used + 1) rest
      else (n, used, b :: rest)
    | none => (n, used, b :: rest)

/-- How many digits stand at the start of bytes, and the bytes after them. -/
def skipDigits (bytes : List UInt8) : Nat × List UInt8 :=
  let rest := bytes.dropWhile (fun b => (digit? b).isSome)
  (bytes.length - rest.length, rest)

/-- Whether bytes begin with a digit. -/
def startsWithDigit (bytes : List UInt8) : Bool := bytes.head?.any (fun b => (digit? b).isSome)

/-- Whether bytes begin with an exponent mark. -/
def startsWithExponent (bytes : List UInt8) : Bool :=
  bytes.head?.any (fun b => b == 'e'.toUInt8 || b == 'E'.toUInt8)

/-- The greatest natural number that is not read as a double. -/
def naturalLimit : Nat := 2 ^ 64 - 1

/-- The greatest exponent that is not taken for an infinite one. -/
def exponentLimit : Nat := 2 ^ 31 - 1

/-- A power of ten as a double. -/
def tenTo (n : Nat) : Binary64 := Binary64.ofNat (10 ^ n)

/-- A double over a power of ten, in steps of at most 308 places. -/
def divideByTenTo : Nat → Binary64 → Nat → Binary64
  | 0, x, _ => x
  | fuel + 1, x, places =>
    if places ≤ 308 then x.div (tenTo places)
    else if x.isZero then x
    else divideByTenTo fuel (x.div (tenTo 308)) (places - 308)

/-- Digits times a power of ten: the digits as a double, multiplied or divided by the power. -/
def scaled (negative : Bool) (significand : Nat) (exponent : Int) : Except Fault Binary64 :=
  let x := Binary64.ofNat significand
  let magnitude : Except Fault Binary64 :=
    if exponent < 0 then .ok (divideByTenTo 4 x exponent.natAbs)
    else if exponent ≤ 308 then
      let y := x.mul (tenTo exponent.toNat)
      if y.isInfinite then .error .malformed else .ok y
    else if x.isZero then .ok x
    else .error .malformed
  magnitude.map fun y => if negative then y.neg else y

/-- A number from its exponent mark on. -/
def exponentPart (negative : Bool) (significand : Nat) (places : Int) (bytes : List UInt8) :
    Except Fault (Binary64 × List UInt8) :=
  let signed := bytes.drop 1
  let down := signed.head? == some '-'.toUInt8
  let unsigned := if down || signed.head? == some '+'.toUInt8 then signed.drop 1 else signed
  match unsigned with
  | [] => .error .truncated
  | b :: rest =>
    match digit? b with
    | none => .error .malformed
    | some d =>
      let (exponent, _, rest) := appendDigits exponentLimit d 0 rest
      if startsWithDigit rest then
        if significand ≠ 0 ∧ !down then .error .malformed
        else do
          let zero ← scaled negative 0 0
          return (zero, (skipDigits rest).2)
      else do
        let places := if down then places - exponent else places + exponent
        let x ← scaled negative significand places
        return (x, rest)

/-- A number from the end of its digits on. -/
def afterDigits (negative : Bool) (significand : Nat) (places : Int) (bytes : List UInt8) :
    Except Fault (Binary64 × List UInt8) :=
  if startsWithExponent bytes then exponentPart negative significand places bytes
  else do
    let x ← scaled negative significand places
    return (x, bytes)

/-- A number from its decimal point on. Digits past the first ones that do not fit in 64 bits are
left out of account. -/
def fractionPart (negative : Bool) (significand : Nat) (places : Int) (bytes : List UInt8) :
    Except Fault (Binary64 × List UInt8) :=
  let (significand, used, rest) := appendDigits naturalLimit significand 0 (bytes.drop 1)
  if startsWithDigit rest then
    afterDigits negative significand (places - used) (skipDigits rest).2
  else if used = 0 then .error (if rest.isEmpty then .truncated else .malformed)
  else afterDigits negative significand (places - used) rest

/-- A number from the end of its whole part on. -/
def afterWhole (negative : Bool) (significand : Nat) (bytes : List UInt8) :
    Except Fault (Number × List UInt8) :=
  if bytes.head? = some '.'.toUInt8 then do
    let (x, rest) ← fractionPart negative significand 0 bytes
    return (.float x, rest)
  else if startsWithExponent bytes then do
    let (x, rest) ← exponentPart negative significand 0 bytes
    return (.float x, rest)
  else if negative then
    if significand = 0 ∨ 2 ^ 63 < significand then
      return (.float (Binary64.ofNat significand).neg, bytes)
    else return (.negative (-(significand : Int)), bytes)
  else return (.natural significand, bytes)

/-- A number of more digits than 64 bits hold, from the first that does not fit on. -/
def afterLongWhole (negative : Bool) (significand : Nat) (bytes : List UInt8) :
    Except Fault (Number × List UInt8) := do
  let (skipped, rest) := skipDigits bytes
  let (x, rest) ←
    if rest.head? = some '.'.toUInt8 then fractionPart negative significand skipped rest
    else afterDigits negative significand skipped rest
  return (.float x, rest)

/-- A number without its sign. -/
def unsignedNumber (negative : Bool) : List UInt8 → Except Fault (Number × List UInt8)
  | [] => .error .truncated
  | b :: rest =>
    match digit? b with
    | none => .error .malformed
    | some 0 => if startsWithDigit rest then .error .malformed else afterWhole negative 0 rest
    | some d =>
      let (significand, _, rest) := appendDigits naturalLimit d 0 rest
      if startsWithDigit rest then afterLongWhole negative significand rest
      else afterWhole negative significand rest

/-- Whether a byte can begin a number. -/
def beginsNumber (b : UInt8) : Bool := b == '-'.toUInt8 || (digit? b).isSome

/-- A number. -/
def number (bytes : List UInt8) : Except Fault (Number × List UInt8) :=
  if bytes.head? = some '-'.toUInt8 then unsignedNumber true (bytes.drop 1)
  else unsignedNumber false bytes

/-- A number as a value. -/
def Number.toJson : Number → Json
  | natural n => integer n
  | negative n => integer n
  | float x => Json.float x

/-! ## Texts -/

/-- The value of a hexadecimal digit. -/
def hexDigit? (b : UInt8) : Option Nat :=
  if '0'.toUInt8 ≤ b ∧ b ≤ '9'.toUInt8 then some (b.toNat - 48)
  else if 'a'.toUInt8 ≤ b ∧ b ≤ 'f'.toUInt8 then some (b.toNat - 87)
  else if 'A'.toUInt8 ≤ b ∧ b ≤ 'F'.toUInt8 then some (b.toNat - 55)
  else none

/-- The number of four hexadecimal digits. -/
def hexUnit? (a b c d : UInt8) : Option Nat := do
  let a ← hexDigit? a
  let b ← hexDigit? b
  let c ← hexDigit? c
  let d ← hexDigit? d
  return ((a * 16 + b) * 16 + c) * 16 + d

/-- The byte that a one-letter escape stands for. -/
def escape? (b : UInt8) : Option UInt8 :=
  if b = '"'.toUInt8 then some '"'.toUInt8
  else if b = '\\'.toUInt8 then some '\\'.toUInt8
  else if b = '/'.toUInt8 then some '/'.toUInt8
  else if b = 'b'.toUInt8 then some 0x08
  else if b = 'f'.toUInt8 then some 0x0C
  else if b = 'n'.toUInt8 then some 0x0A
  else if b = 'r'.toUInt8 then some 0x0D
  else if b = 't'.toUInt8 then some 0x09
  else none

/-- The UTF-8 form of a code point. -/
def codePointBytes (n : Nat) : List UInt8 := String.utf8EncodeChar (Char.ofNat n)

/-- Bytes put in front of what a reader read. -/
def prepend (bytes : List UInt8) (read : Except Fault (List UInt8 × List UInt8)) :
    Except Fault (List UInt8 × List UInt8) :=
  read.map fun r => (bytes ++ r.1, r.2)

/-- The bytes of a text from after its opening quote, escapes resolved. Code units of a pair must
come together and in order. -/
def textBytes : List UInt8 → Except Fault (List UInt8 × List UInt8)
  | [] => .error .truncated
  | b :: rest =>
    if b = '"'.toUInt8 then .ok ([], rest)
    else if b = '\\'.toUInt8 then
      match rest with
      | [] => .error .truncated
      | e :: rest =>
        match escape? e with
        | some c => prepend [c] (textBytes rest)
        | none =>
          if e = 'u'.toUInt8 then
            match rest with
            | h1 :: h2 :: h3 :: h4 :: rest =>
              match hexUnit? h1 h2 h3 h4 with
              | none => .error .malformed
              | some unit =>
                if unit < 0xD800 ∨ 0xDFFF < unit then
                  prepend (codePointBytes unit) (textBytes rest)
                else if 0xDC00 ≤ unit then .error .malformed
                else
                  match rest with
                  | [] => .error .truncated
                  | s :: rest =>
                    if s ≠ '\\'.toUInt8 then .error .malformed
                    else
                      match rest with
                      | [] => .error .truncated
                      | u :: rest =>
                        if u ≠ 'u'.toUInt8 then .error .malformed
                        else
                          match rest with
                          | g1 :: g2 :: g3 :: g4 :: rest =>
                            match hexUnit? g1 g2 g3 g4 with
                            | none => .error .malformed
                            | some low =>
                              if low < 0xDC00 ∨ 0xDFFF < low then .error .malformed
                              else
                                prepend (codePointBytes
                                  (0x10000 + (unit - 0xD800) * 0x400 + (low - 0xDC00)))
                                  (textBytes rest)
                          | _ => .error .truncated
            | _ => .error .truncated
          else .error .malformed
    else if b < 0x20 then .error .malformed
    else prepend [b] (textBytes rest)

/-- A text from after its opening quote; its bytes must be UTF-8. -/
def textBody (bytes : List UInt8) : Except Fault (String × List UInt8) := do
  let (body, rest) ← textBytes bytes
  match Text.ofBytes? body with
  | some s => return (s, rest)
  | none => .error .malformed

/-! ## Lists and objects -/

/-- The start of the next item of a list or object, if it is not closed: after the opening bracket
the item itself, later the item after a comma. -/
def nextItem (close : Char) (first : Bool) (bytes : List UInt8) :
    Except Fault (Option (List UInt8)) :=
  match skipBlanks bytes with
  | [] => .error .truncated
  | b :: rest =>
    if b = close.toUInt8 then .ok none
    else if first then .ok (some (b :: rest))
    else if b = ','.toUInt8 then
      match skipBlanks rest with
      | [] => .error .truncated
      | c :: more => if c = close.toUInt8 then .error .malformed else .ok (some (c :: more))
    else .error .malformed

/-- The items of a list up to its closing bracket, which is left to be read. -/
def items (item : Reader Json) :
    Nat → Bool → List UInt8 → Except Fault (List Json × List UInt8)
  | 0, _, _ => .error .malformed
  | fuel + 1, first, bytes => do
    match ← nextItem ']' first bytes with
    | none => return ([], skipBlanks bytes)
    | some bytes =>
      let (v, rest) ← item bytes
      let (vs, rest) ← items item fuel false rest
      return (v :: vs, rest)

/-- The name of a member and the bytes after its colon. -/
def memberName (bytes : List UInt8) : Except Fault (String × List UInt8) :=
  match bytes with
  | [] => .error .truncated
  | b :: rest => if b = '"'.toUInt8 then textBody rest else .error .malformed

/-- The bytes after a colon. -/
def colon (bytes : List UInt8) : Except Fault (List UInt8) :=
  match skipBlanks bytes with
  | [] => .error .truncated
  | b :: rest => if b = ':'.toUInt8 then .ok rest else .error .malformed

/-- The members of an object up to its closing brace, which is left to be read. -/
def members (value : Reader Json) :
    Nat → Bool → List UInt8 → Except Fault (List (String × Json) × List UInt8)
  | 0, _, _ => .error .malformed
  | fuel + 1, first, bytes => do
    match ← nextItem '\x7d' first bytes with
    | none => return ([], skipBlanks bytes)
    | some bytes =>
      let (k, rest) ← memberName bytes
      let (v, rest) ← value (← colon rest)
      let (ms, rest) ← members value fuel false rest
      return ((k, v) :: ms, rest)

/-- The bytes after the closing bracket of a list or object of which nothing more is wanted. -/
def closing (close : Char) (bytes : List UInt8) : Except Fault (List UInt8) :=
  match skipBlanks bytes with
  | [] => .error .truncated
  | b :: rest => if b = close.toUInt8 then .ok rest else .error .malformed

/-- A list from after its opening bracket. -/
def listBody (item : Reader Json) (bytes : List UInt8) :
    Except Fault (List Json × List UInt8) := do
  let (vs, rest) ← items item (bytes.length + 1) true bytes
  return (vs, ← closing ']' rest)

/-- An object from after its opening brace. -/
def objectBody (value : Reader Json) (bytes : List UInt8) :
    Except Fault (List (String × Json) × List UInt8) := do
  let (ms, rest) ← members value (bytes.length + 1) true bytes
  return (ms, ← closing '\x7d' rest)

/-! ## Values -/

/-- A value; its items and members are read by `nested`, which there is only with room for them. -/
def valueWith (nested : Option (Reader Json)) (bytes : List UInt8) :
    Except Fault (Json × List UInt8) :=
  match skipBlanks bytes with
  | [] => .error .truncated
  | b :: rest =>
    if b = 'n'.toUInt8 then (expect ['u', 'l', 'l'] rest).map fun r => (null, r)
    else if b = 't'.toUInt8 then (expect ['r', 'u', 'e'] rest).map fun r => (bool true, r)
    else if b = 'f'.toUInt8 then (expect ['a', 'l', 's', 'e'] rest).map fun r => (bool false, r)
    else if beginsNumber b then (number (b :: rest)).map fun r => (r.1.toJson, r.2)
    else if b = '"'.toUInt8 then (textBody rest).map fun r => (text r.1, r.2)
    else if b = '['.toUInt8 then
      match nested with
      | some item => (listBody item rest).map fun r => (array r.1, r.2)
      | none => .error .malformed
    else if b = '\x7b'.toUInt8 then
      match nested with
      | some value => (objectBody value rest).map fun r => (objectOfLast r.1, r.2)
      | none => .error .malformed
    else .error .malformed

/-- A value in which so many brackets and braces may be open at once. -/
def value : Nat → List UInt8 → Except Fault (Json × List UInt8)
  | 0 => valueWith none
  | room + 1 => valueWith (some (value room))

/-- How many brackets and braces may be open at once. -/
def nestingLimit : Nat := 127

/-- The value after which only blanks are left. -/
def whole {α : Type} (read : Except Fault (α × List UInt8)) : Except Fault α := do
  let (v, rest) ← read
  if skipBlanks rest = [] then return v else .error .malformed

/-- The value that bytes are the text of. -/
def ofBytes (bytes : List UInt8) : Except Fault Json := whole (value nestingLimit bytes)

end MessageChannels.Json
