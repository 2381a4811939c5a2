import MessageChannels.Json.Reader
import MessageChannels.Text.Decimal

/-!
# Reading JSON of a wanted shape

A `Shape` says what a receiver wants to find in a payload. Reading stops at the first byte that
shows a value of another shape: a wrong list or object at its bracket, a wrong scalar after it has
been read. A record is an object of its fields (other members are passed over, a field may come
once only) or a list of their values in order.
-/

set_option autoImplicit false

namespace MessageChannels.Json

/-- What a value is wanted to be. -/
inductive Shape where
  | any
  | text
  | boolean
  | integer (range : Decimal.Range)
  | optional (inner : Shape)
  | list (item : Shape)
  | table (value : Shape)
  | record (fields : List (String × Shape))

/-! ## Passing over a value -/

/-- What a place in nested lists and objects is followed by: a value, or the rest of the innermost
open one, in which a value has been read or not. -/
inductive Place where
  | value
  | inside (afterValue : Bool)

/-- The bytes after a text whose opening quote has been read. -/
def skipText : List UInt8 → Except Fault (List UInt8)
  | [] => .error .truncated
  | b :: rest =>
    if b = '"'.toUInt8 then .ok rest
    else if b = '\\'.toUInt8 then
      match rest with
      | [] => .error .truncated
      | e :: rest =>
        if (escape? e).isSome then skipText rest
        else if e = 'u'.toUInt8 then
          match rest with
          | h1 :: h2 :: h3 :: h4 :: rest =>
            if (hexUnit? h1 h2 h3 h4).isSome then skipText rest else .error .malformed
          | _ => .error .truncated
        else .error .malformed
    else if b < 0x20 then .error .malformed
    else skipText rest

/-- The bytes after an exponent. -/
def skipExponent (bytes : List UInt8) : Except Fault (List UInt8) :=
  let signed := bytes.drop 1
  let unsigned :=
    if signed.head? = some '-'.toUInt8 ∨ signed.head? = some '+'.toUInt8 then signed.drop 1
    else signed
  if startsWithDigit unsigned then .ok (skipDigits unsigned).2 else .error .malformed

/-- The bytes after a number without its sign. -/
def skipNumber (bytes : List UInt8) : Except Fault (List UInt8) :=
  let afterWhole := (skipDigits bytes).2
  if !startsWithDigit bytes then .error .malformed
  else if bytes.head? = some '0'.toUInt8 ∧ startsWithDigit (bytes.drop 1) then .error .malformed
  else if afterWhole.head? = some '.'.toUInt8 then
    let fraction := afterWhole.drop 1
    let rest := (skipDigits fraction).2
    if !startsWithDigit fraction then .error .malformed
    else if startsWithExponent rest then skipExponent rest
    else .ok rest
  else if startsWithExponent afterWhole then skipExponent afterWhole
  else .ok afterWhole

/-- The bytes after the name and colon of the next member, if the innermost open bracket is a brace
(`true`), or the bytes themselves. -/
def skipMemberName (brace : Bool) (bytes : List UInt8) : Except Fault (List UInt8) :=
  if !brace then .ok bytes
  else
    match skipBlanks bytes with
    | [] => .error .truncated
    | b :: rest => if b = '"'.toUInt8 then do colon (← skipText rest) else .error .malformed

/-- The bytes after a value of any depth. The open brackets, innermost first, are kept in a list,
`true` for a brace. -/
def skipFrom : Nat → Place → List Bool → List UInt8 → Except Fault (List UInt8)
  | 0, _, _, _ => .error .malformed
  | fuel + 1, .value, opened, bytes =>
    match skipBlanks bytes with
    | [] => .error .truncated
    | b :: rest =>
      let after (next : Except Fault (List UInt8)) : Except Fault (List UInt8) := do
        skipFrom fuel (.inside true) opened (← next)
      if b = 'n'.toUInt8 then after (expect ['u', 'l', 'l'] rest)
      else if b = 't'.toUInt8 then after (expect ['r', 'u', 'e'] rest)
      else if b = 'f'.toUInt8 then after (expect ['a', 'l', 's', 'e'] rest)
      else if b = '-'.toUInt8 then after (skipNumber rest)
      else if (digit? b).isSome then after (skipNumber (b :: rest))
      else if b = '"'.toUInt8 then after (skipText rest)
      else if b = '['.toUInt8 then skipFrom fuel (.inside false) (false :: opened) rest
      else if b = '\x7b'.toUInt8 then skipFrom fuel (.inside false) (true :: opened) rest
      else .error .malformed
  | _ + 1, .inside _, [], bytes => .ok bytes
  | fuel + 1, .inside afterValue, brace :: opened, bytes =>
    match skipBlanks bytes with
    | [] => .error .truncated
    | b :: rest =>
      if b = ','.toUInt8 ∧ afterValue then do
        skipFrom fuel .value (brace :: opened) (← skipMemberName brace rest)
      else if b = (if brace then '\x7d' else ']').toUInt8 then
        skipFrom fuel (.inside true) opened rest
      else if afterValue then .error .malformed
      else do skipFrom fuel .value (brace :: opened) (← skipMemberName brace (b :: rest))

/-- The bytes after a value of any depth. -/
def skipValue (bytes : List UInt8) : Except Fault (List UInt8) :=
  skipFrom (2 * bytes.length + 2) .value [] bytes

/-! ## Values of another shape -/

/-- The refusal of a value that is not of the wanted shape, or the fault found on the way through
it. -/
def refuse (bytes : List UInt8) : Fault :=
  let after {α : Type} (r : Except Fault α) : Fault :=
    match r with
    | .ok _ => .mismatched
    | .error f => f
  match skipBlanks bytes with
  | [] => .truncated
  | b :: rest =>
    if b = 'n'.toUInt8 then after (expect ['u', 'l', 'l'] rest)
    else if b = 't'.toUInt8 then after (expect ['r', 'u', 'e'] rest)
    else if b = 'f'.toUInt8 then after (expect ['a', 'l', 's', 'e'] rest)
    else if beginsNumber b then after (number (b :: rest))
    else if b = '"'.toUInt8 then after (textBody rest)
    else if b = '['.toUInt8 ∨ b = '\x7b'.toUInt8 then .mismatched
    else .malformed

/-- An integer of a range from a number. -/
def Number.inRange (range : Decimal.Range) : Number → Except Fault Json
  | .natural n =>
    if range.least ≤ (n : Int) ∧ (n : Int) ≤ range.greatest then .ok (.integer n)
    else .error .mismatched
  | .negative n =>
    if range.least ≤ n ∧ n ≤ range.greatest then .ok (.integer n) else .error .mismatched
  | .float _ => .error .mismatched

/-! ## Records -/

/-- A field reader: a name, and how its value is read. -/
abbrev FieldReader := String × Reader Json

/-- The values of a record written as an object, from after its opening brace up to its closing one.
The values found so far are given; a second value of a field is refused before it is read. -/
def recordMembers (fields : List FieldReader) :
    Nat → Bool → List (String × Json) → List UInt8 →
      Except Fault (List (String × Json) × List UInt8)
  | 0, _, _, _ => .error .malformed
  | fuel + 1, first, found, bytes => do
    match ← nextItem '\x7d' first bytes with
    | none => return (found, skipBlanks bytes)
    | some bytes =>
      let (k, rest) ← memberName bytes
      match fields.find? (fun f => f.1 = k) with
      | none =>
        let rest ← skipValue (← colon rest)
        recordMembers fields fuel false found rest
      | some field =>
        if found.any (fun m => m.1 = k) then .error .mismatched
        else
          let (v, rest) ← field.2 (← colon rest)
          recordMembers fields fuel false (found ++ [(k, v)]) rest

/-- The values of the fields in their order, if each was found. -/
def inFieldOrder (fields : List FieldReader) (found : List (String × Json)) :
    Except Fault (List (String × Json)) :=
  fields.mapM fun f =>
    match found.find? (fun m => m.1 = f.1) with
    | some m => .ok m
    | none => .error .mismatched

/-- The values of a record written as a list, from after its opening bracket on. -/
def recordItems :
    List FieldReader → Bool → List UInt8 → Except Fault (List (String × Json) × List UInt8)
  | [], _, bytes => .ok ([], bytes)
  | field :: fields, first, bytes => do
    match ← nextItem ']' first bytes with
    | none => .error .mismatched
    | some bytes =>
      let (v, rest) ← field.2 bytes
      let (vs, rest) ← recordItems fields false rest
      return ((field.1, v) :: vs, rest)

/-- A record from its opening bracket or brace on. -/
def recordBody (fields : List FieldReader) (bytes : List UInt8) :
    Except Fault (Json × List UInt8) :=
  match bytes with
  | [] => .error .truncated
  | b :: rest =>
    if b = '\x7b'.toUInt8 then do
      let (found, rest) ← recordMembers fields (rest.length + 1) true [] rest
      let values ← inFieldOrder fields found
      return (.object values, ← closing '\x7d' rest)
    else if b = '['.toUInt8 then do
      let (values, rest) ← recordItems fields true rest
      return (.object values, ← closing ']' rest)
    else .error (refuse bytes)

/-! ## Shapes -/

mutual

/-- A value of a shape, in which so many brackets and braces may be open at once. -/
def Shape.read : Shape → Nat → List UInt8 → Except Fault (Json × List UInt8)
  | .any, room, bytes => value room bytes
  | .text, _, bytes =>
    match skipBlanks bytes with
    | [] => .error .truncated
    | b :: rest =>
      if b = '"'.toUInt8 then (textBody rest).map fun r => (.text r.1, r.2)
      else .error (refuse (b :: rest))
  | .boolean, _, bytes =>
    match skipBlanks bytes with
    | [] => .error .truncated
    | b :: rest =>
      if b = 't'.toUInt8 then (expect ['r', 'u', 'e'] rest).map fun r => (.bool true, r)
      else if b = 'f'.toUInt8 then (expect ['a', 'l', 's', 'e'] rest).map fun r => (.bool false, r)
      else .error (refuse (b :: rest))
  | .integer range, _, bytes =>
    match skipBlanks bytes with
    | [] => .error .truncated
    | b :: rest =>
      if beginsNumber b then do
        let (n, rest) ← number (b :: rest)
        return (← n.inRange range, rest)
      else .error (refuse (b :: rest))
  | .optional inner, room, bytes =>
    match skipBlanks bytes with
    | [] => .error .truncated
    | b :: rest =>
      if b = 'n'.toUInt8 then (expect ['u', 'l', 'l'] rest).map fun r => (.null, r)
      else inner.read room (b :: rest)
  | .list item, room, bytes =>
    match skipBlanks bytes with
    | [] => .error .truncated
    | b :: rest =>
      if b = '['.toUInt8 then
        match room with
        | 0 => .error .malformed
        | room + 1 => (listBody (item.read room) rest).map fun r => (.array r.1, r.2)
      else .error (refuse (b :: rest))
  | .table inner, room, bytes =>
    match skipBlanks bytes with
    | [] => .error .truncated
    | b :: rest =>
      if b = '\x7b'.toUInt8 then
        match room with
        | 0 => .error .malformed
        | room + 1 => (objectBody (inner.read room) rest).map fun r => (objectOfLast r.1, r.2)
      else .error (refuse (b :: rest))
  | .record fields, room, bytes =>
    match skipBlanks bytes with
    | [] => .error .truncated
    | b :: rest =>
      if (b = '\x7b'.toUInt8 ∨ b = '['.toUInt8) ∧ room = 0 then .error .malformed
      else recordBody (Shape.fieldReaders fields (room - 1)) (b :: rest)

/-- How the fields of a record are read. -/
def Shape.fieldReaders : List (String × Shape) → Nat → List FieldReader
  | [], _ => []
  | (name, shape) :: rest, room => (name, shape.read room) :: Shape.fieldReaders rest room

end

/-- The value of a shape that bytes are the text of. -/
def Shape.ofBytes (shape : Shape) (bytes : List UInt8) : Except Fault Json :=
  whole (shape.read nestingLimit bytes)

end MessageChannels.Json
