import Gamebook.Json
import Gamebook.Json.Quoted

set_option autoImplicit false

namespace Gamebook.Json

def isSpace (c : Char) : Bool := c = ' ' || c = '\t' || c = '\n' || c = '\r'

def skipSpace (text : List Char) : List Char := text.dropWhile isSpace

theorem skip_space_none (rest : List Char) (c : Char) (solid : isSpace c = false) :
    skipSpace (c :: rest) = c :: rest := by
  rw [skipSpace, List.dropWhile_cons, solid]
  rfl

def digits? (text : List Char) : Option (List Char × List Char) :=
  match text.takeWhile Char.isDigit with
  | [] => none
  | found => some (found, text.dropWhile Char.isDigit)

def whole? (text : List Char) : Option (List Char × List Char) :=
  match digits? text with
  | some ('0' :: _ :: _, _) => none
  | found => found

def fraction? : List Char → Option (List Char × List Char)
  | '.' :: rest => digits? rest
  | rest => some ([], rest)

def exponentOf (negative : Bool) (text : List Char) : Option (Option Int × List Char) :=
  (digits? text).map fun (found, rest) =>
    let size := Nat.ofDigitChars 10 found 0
    (some (if negative then -(size : Int) else size), rest)

def exponent? : List Char → Option (Option Int × List Char)
  | c :: rest =>
    if c = 'e' ∨ c = 'E' then
      match rest with
      | '-' :: rest => exponentOf true rest
      | '+' :: rest => exponentOf false rest
      | rest => exponentOf false rest
    else some (none, c :: rest)
  | [] => some (none, [])

def numberOf (negative : Bool) (whole fraction : List Char) (exponent : Option Int) :
    JsonNumber :=
  let size := Nat.ofDigitChars 10 (whole ++ fraction) 0
  if fraction = [] ∧ exponent = none ∧ ¬(negative ∧ size = 0) then
    .integer (if negative then -(size : Int) else size)
  else .decimal negative size (exponent.getD 0 - fraction.length)

def unsigned? (negative : Bool) (text : List Char) : Option (JsonNumber × List Char) := do
  let (whole, text) ← whole? text
  let (fraction, text) ← fraction? text
  let (exponent, text) ← exponent? text
  some (numberOf negative whole fraction exponent, text)

def number? : List Char → Option (JsonNumber × List Char)
  | '-' :: rest => unsigned? true rest
  | rest => unsigned? false rest

mutual

def value? : Nat → List Char → Option (Json × List Char)
  | 0, _ => none
  | fuel + 1, text =>
    match skipSpace text with
    | 'n' :: 'u' :: 'l' :: 'l' :: rest => some (.null, rest)
    | 't' :: 'r' :: 'u' :: 'e' :: rest => some (.bool true, rest)
    | 'f' :: 'a' :: 'l' :: 's' :: 'e' :: rest => some (.bool false, rest)
    | '"' :: rest => (unquote? rest).map fun (value, rest) => (.string value, rest)
    | '[' :: rest =>
      match skipSpace rest with
      | ']' :: rest => some (.array [], rest)
      | rest => (items? fuel rest).map fun (items, rest) => (.array items, rest)
    | '\x7b' :: rest =>
      match skipSpace rest with
      | '\x7d' :: rest => some (.object [], rest)
      | rest => (members? fuel rest).map fun (members, rest) => (.object members, rest)
    | rest => (number? rest).map fun (value, rest) => (.number value, rest)

def items? : Nat → List Char → Option (List Json × List Char)
  | 0, _ => none
  | fuel + 1, text =>
    match value? fuel text with
    | none => none
    | some (first, rest) =>
      match skipSpace rest with
      | ']' :: rest => some ([first], rest)
      | ',' :: rest => (items? fuel rest).map fun (others, rest) => (first :: others, rest)
      | _ => none

def members? : Nat → List Char → Option (List (Option String × Json) × List Char)
  | 0, _ => none
  | fuel + 1, text =>
    match skipSpace text with
    | '"' :: rest =>
      match unquote? rest with
      | none => none
      | some (name, rest) =>
        match skipSpace rest with
        | ':' :: rest =>
          match value? fuel rest with
          | none => none
          | some (first, rest) =>
            match skipSpace rest with
            | '\x7d' :: rest => some ([(name, first)], rest)
            | ',' :: rest =>
              (members? fuel rest).map fun (others, rest) => ((name, first) :: others, rest)
            | _ => none
        | _ => none
    | _ => none

end

theorem value_null (fuel : Nat) (rest : List Char) :
    value? (fuel + 1) ('n' :: 'u' :: 'l' :: 'l' :: rest) = some (.null, rest) := by
  rw [value?, skip_space_none _ 'n' (by decide)]
  rfl

-- The value a text holds. No value in it takes more than two steps for each character.
def parse? (text : List Char) : Option Json :=
  match value? (2 * text.length + 2) text with
  | some (value, rest) => if skipSpace rest = [] then some value else none
  | none => none

end Gamebook.Json
