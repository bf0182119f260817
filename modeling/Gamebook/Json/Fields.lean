import Gamebook.Json
import Gamebook.Json.Magnitude
import Gamebook.Text.Decimal

set_option autoImplicit false

namespace Gamebook.Json

def text? : Json → Option String
  | .string value => value
  | _ => none

def integerWithin? (lowest highest : Int) : Json → Option Int
  | .number (.integer value) => if lowest ≤ value ∧ value ≤ highest then some value else none
  | _ => none

def word? (value : Json) : Option Nat :=
  (value.integerWithin? 0 (Text.Decimal.wordBound - 1)).map Int.toNat

def int32? (value : Json) : Option Int32 :=
  (value.integerWithin? Int32.minValue.toInt Int32.maxValue.toInt).map Int32.ofInt

def int64? (value : Json) : Option Int :=
  value.integerWithin? Int64.minValue.toInt Int64.maxValue.toInt

def list? {α : Type} (read : Json → Option α) : Json → Option (List α)
  | .array items => items.mapM read
  | _ => none

def optional? {α : Type} (read : Json → Option α) : Json → Option (Option α)
  | .null => some none
  | value => (read value).map some

def member? (name : String) (members : List (Option String × Json)) : Option (Option Json) :=
  match members.filter (·.1 = some name) with
  | [] => some none
  | [(_, value)] => some (some value)
  | _ => none

def fields? (names : List String) (required : Nat) : Json → Option (List (Option Json))
  | .object members =>
    -- a name that is no text fails, even where the member would be passed over
    if members.all (·.1.isSome) then names.mapM fun name => member? name members else none
  | .array items =>
    if required ≤ items.length ∧ items.length ≤ names.length then
      some (items.map some ++ List.replicate (names.length - items.length) none)
    else none
  | _ => none

def allFields? (names : List String) (value : Json) : Option (List (Option Json)) :=
  value.fields? names names.length

mutual

def isSound : Json → Bool
  | .string value => value.isSome
  | .number value => value.isFinite
  | .array items => areSound items
  | .object members => areSoundMembers members
  | _ => true

def areSound : List Json → Bool
  | [] => true
  | first :: rest => isSound first && areSound rest

def areSoundMembers : List (Option String × Json) → Bool
  | [] => true
  | (name, first) :: rest => name.isSome && isSound first && areSoundMembers rest

end

def nestingLimit : Nat := 128

-- The kind of a value and the rest of it. An object tells its kind in a member of that name,
-- an array in its first item. The value lies inside `depth` others.
def tagged? (depth : Nat) (value : Json) : Option (String × Json) :=
  if depth + value.height < nestingLimit ∧ value.isSound then
    match value with
    | .object members =>
      match member? "kind" members with
      | some (some (.string (some kind))) =>
        some (kind, .object (members.filter (·.1 ≠ some "kind")))
      | _ => none
    | .array (.string (some kind) :: rest) => some (kind, .array rest)
    | _ => none
  else none

def isBare : Json → Bool
  | .object _ => true
  | .array items => items.isEmpty
  | _ => false

end Gamebook.Json
