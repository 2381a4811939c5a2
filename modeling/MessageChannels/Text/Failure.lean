import MessageChannels.Text.Decimal

/-!
# Texts of failures

The text of a failure may end with where it happened, as in `bad value at line 3 column 7`. When
such a text is passed on, its numbers are written without leading zeros; line zero stands for no
place at all, which is left out. Any other text stays as it is.
-/

set_option autoImplicit false

namespace MessageChannels.Text

/-- Where something happened. -/
structure Position where
  line : Nat
  column : Nat
  deriving DecidableEq

/-- A place as it stands at the end of a text. -/
def Position.text (p : Position) : String :=
  " at line " ++ toString p.line ++ " column " ++ toString p.column

/-- The number of 64 bits at the end of a text, and what is before it; characters are given last
first. -/
def trailingNumber? (reversed : List Char) : Option (Nat × List Char) :=
  let digits := String.ofList (reversed.takeWhile Char.isDigit).reverse
  (Decimal.read? (.unsigned 64) digits).map fun n => (n.toNat, reversed.dropWhile Char.isDigit)

/-- What is before a word that ends a text; characters are given last first. -/
def beforeWord? (word : String) (reversed : List Char) : Option (List Char) :=
  word.toList.reverse.isPrefixOf? reversed

/-- A text that ends with a place, as what is before the place and the place. -/
def position? (text : String) : Option (String × Position) := do
  let (column, rest) ← trailingNumber? text.toList.reverse
  let rest ← beforeWord? " column " rest
  let (line, rest) ← trailingNumber? rest
  let rest ← beforeWord? " at line " rest
  return (String.ofList rest.reverse, ⟨line, column⟩)

/-- The text of a failure as it is passed on. -/
def failure (text : String) : String :=
  match position? text with
  | some (before, p) => if p.line = 0 then before else before ++ p.text
  | none => text

end MessageChannels.Text
