import MessageChannels.Binary64.Shortest
import MessageChannels.Dictionary

/-!
# JSON values and their compact text

A JSON value, with integers apart from doubles and the members of an object in the order in which
they are written. `Json.compact` writes a value without blanks: the quotes, the backslash and the
control characters of a text are escaped, a double is written with the fewest digits that read
back, and a double that is not finite is written as `null`.
-/

set_option autoImplicit false

namespace MessageChannels

/-- A JSON value. -/
inductive Json where
  | null
  | bool (value : Bool)
  | integer (value : Int)
  | float (value : Binary64)
  | text (value : String)
  | array (items : List Json)
  | object (members : List (String × Json))

namespace Json

instance : Inhabited Json := ⟨null⟩

/-- The value of the last member of an object with a name. -/
def get? (key : String) : Json → Option Json
  | object members => (members.reverse.find? (fun m => m.1 = key)).map Prod.snd
  | _ => none

/-- The truth value that a value is, if it is one. -/
def bool? : Json → Option Bool
  | bool value => some value
  | _ => none

/-- An object whose members are ordered by name, where the last member of a name counts. -/
def objectOfLast (members : List (String × Json)) : Json :=
  object (Dictionary.ofList members).entries

/-- Numbers are written positionally from 0.00001 up to below 10^16; a tie goes to the even digit,
and an exponent that is not negative bears a plus sign. -/
def floatFormat : Binary64.FloatFormat := ⟨-5, 16, true, true⟩

/-- A hexadecimal digit. -/
def hexDigit (n : Nat) : Char := (Nat.digitChar n)

/-- A character as it stands inside a text. -/
def textChar (c : Char) : List Char :=
  if c = '"' then ['\\', '"']
  else if c = '\\' then ['\\', '\\']
  else if c = '\x08' then ['\\', 'b']
  else if c = '\t' then ['\\', 't']
  else if c = '\n' then ['\\', 'n']
  else if c = '\x0c' then ['\\', 'f']
  else if c = '\r' then ['\\', 'r']
  else if c.toNat < 0x20 then
    ['\\', 'u', '0', '0', hexDigit (c.toNat / 16), hexDigit (c.toNat % 16)]
  else [c]

/-- A text between quotes. -/
def quotedText (s : String) : List Char := '"' :: s.toList.flatMap textChar ++ ['"']

/-- A double as a JSON number, or `null` if it is not finite. -/
def floatText (x : Binary64) : List Char :=
  if x.isFinite then (x.text floatFormat).toList else ['n', 'u', 'l', 'l']

mutual

/-- The characters of a value's compact text. -/
def chars : Json → List Char
  | null => ['n', 'u', 'l', 'l']
  | bool true => ['t', 'r', 'u', 'e']
  | bool false => ['f', 'a', 'l', 's', 'e']
  | integer n => (toString n).toList
  | float x => floatText x
  | text s => quotedText s
  | array items => '[' :: itemChars items
  | object members => '\x7b' :: memberChars members

/-- The items of an array up to its closing bracket. -/
def itemChars : List Json → List Char
  | [] => [']']
  | [v] => chars v ++ [']']
  | v :: rest => chars v ++ ',' :: itemChars rest

/-- The members of an object up to its closing brace. -/
def memberChars : List (String × Json) → List Char
  | [] => ['\x7d']
  | [(k, v)] => quotedText k ++ ':' :: chars v ++ ['\x7d']
  | (k, v) :: rest => quotedText k ++ ':' :: chars v ++ ',' :: memberChars rest

end

/-- The compact text of a value. -/
def compact (v : Json) : String := String.ofList v.chars

end Json

end MessageChannels
