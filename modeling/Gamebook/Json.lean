set_option autoImplicit false

namespace Gamebook

-- A number written as plain digits is an integer. Every other number, and minus zero, is a
-- sign, digits and a power of ten.
inductive JsonNumber where
  | integer (value : Int)
  | decimal (negative : Bool) (digits : Nat) (exponent : Int)
deriving DecidableEq

inductive Json where
  | null
  | bool (value : Bool)
  | number (value : JsonNumber)
  | string (value : Option String)
  | array (items : List Json)
  | object (members : List (Option String × Json))

namespace Json

def text (value : String) : Json := .string (some value)

def natural (value : Nat) : Json := .number (.integer value)

def integer (value : Int) : Json := .number (.integer value)

def record (members : List (String × Json)) : Json :=
  .object (members.map fun (name, value) => (some name, value))

mutual

def height : Json → Nat
  | .array items => heightOfItems items + 1
  | .object members => heightOfMembers members + 1
  | _ => 0

def heightOfItems : List Json → Nat
  | [] => 0
  | first :: rest => max (height first) (heightOfItems rest)

def heightOfMembers : List (Option String × Json) → Nat
  | [] => 0
  | (_, first) :: rest => max (height first) (heightOfMembers rest)

end

end Json

end Gamebook
