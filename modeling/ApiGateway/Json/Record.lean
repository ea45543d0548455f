import ApiGateway.Json.Basic

/-!
# Records in JSON

A record is written as an object with named members or as an array with one item
a field, in the order of the fields. `fieldsOf?` finds the known fields of either
form; it refuses a repeated known name and an array that is too long.
-/

namespace ApiGateway.Json

/-- How a record was written, with the value of each known field where there is one. -/
structure Fields where
  positional : Bool
  values : List (Option Json)

/-- All values given for a name. -/
def valuesOf (name : String) (members : List (String × Json)) : List Json :=
  (members.filter fun member => member.1 == name).map (·.2)

/-- The known fields of a record in the order of `names`. -/
def fieldsOf? (names : List String) : Json → Option Fields
  | .object members => do
    let values ← names.mapM fun name =>
      match valuesOf name members with
      | [] => some none
      | [value] => some (some value)
      | _ => none
    return ⟨false, values⟩
  | .array items =>
    if items.length ≤ names.length then
      some ⟨true, (items.map some) ++ List.replicate (names.length - items.length) none⟩
    else none
  | _ => none

/-- A field with a default for its absence; `null` is not absence. -/
def fieldOr {α : Type} (default : α) (decode : Json → Option α) : Option Json → Option α
  | none => some default
  | some value => decode value

/-- An optional value: `null` is absence. -/
def optional {α : Type} (decode : Json → Option α) : Json → Option (Option α)
  | .null => some none
  | value => (decode value).map some

def decodeString : Json → Option String
  | .string text => some text
  | _ => none

/-- A natural number below a bound. -/
def decodeNatBelow (bound : Nat) : Json → Option Nat
  | .integer value => if 0 ≤ value ∧ value.toNat < bound then some value.toNat else none
  | _ => none

/-- Any number, as a double. -/
def decodeBinary64 : Json → Option Binary64
  | .integer value => some (.ofRatio (value < 0) value.natAbs 1)
  | .real value => some value
  | _ => none

def decodeList {α : Type} (decode : Json → Option α) : Json → Option (List α)
  | .array items => items.mapM decode
  | _ => none

/-- A choice among names: the name itself, or an object with that name and `null`. -/
def decodeChoice {α : Type} (read : String → Option α) : Json → Option α
  | .string text => read text
  | .object [(name, .null)] => read name
  | _ => none

end ApiGateway.Json
