import MessageChannels.Json.Value
import MessageChannels.Text.Failure

/-!
# Objects from keyed values

Values under keys that are not texts. Integers and truth values are ordered as such and then written
as texts, and the last value of a key counts. Pairs cannot be keys.
-/

set_option autoImplicit false

namespace MessageChannels.Json

/-- Keyed values with one more placed where its key belongs, or with the value of a key replaced. -/
def placeKeyed {κ : Type} [DecidableEq κ] (before : κ → κ → Bool) (key : κ)
    (value : Json) : List (κ × Json) → List (κ × Json)
  | [] => [(key, value)]
  | (k, v) :: rest =>
    if key = k then (key, value) :: rest
    else if before key k then (key, value) :: (k, v) :: rest
    else (k, v) :: placeKeyed before key value rest

/-- The object of keyed values, with the text of each key as its name. -/
def ofKeyed {κ : Type} [DecidableEq κ] (before : κ → κ → Bool) (name : κ → String)
    (values : List (κ × Json)) : Json :=
  let ordered := values.foldl (fun m e => placeKeyed before e.1 e.2 m) []
  object (ordered.map fun e => (name e.1, e.2))

/-- The object of values under integers. -/
def ofIntegerKeyed (values : List (Int × Json)) : Json :=
  ofKeyed (fun a b => decide (a < b)) (fun n => toString n) values

/-- The object of values under truth values, `false` before `true`. -/
def ofBoolKeyed (values : List (Bool × Json)) : Json :=
  ofKeyed (fun a b => !a && b) (fun b => toString b) values

/-- Values under pairs have no JSON form, unless there are none. -/
def ofPairKeyed {α : Type} (values : List α) : Except String Json :=
  if values.isEmpty then .ok (object []) else .error "key must be a string"

/-- A value that refuses to be written, with a text of its own. -/
def refusal (text : String) : Except String Json := .error (Text.failure text)

/-- The list of bytes as numbers. -/
def ofByteList (bytes : List UInt8) : Json := array (bytes.map fun b => integer b.toNat)

end MessageChannels.Json
