import Gamebook.Json
import Gamebook.Json.Quoted

set_option autoImplicit false

namespace Gamebook.Json

def digits (value : Int) : List Char :=
  match value with
  | .ofNat natural => Nat.toDigits 10 natural
  | .negSucc natural => '-' :: Nat.toDigits 10 (natural + 1)

def writeNumber : JsonNumber → List Char
  | .integer value => digits value
  | .decimal negative value exponent =>
    (if negative then ['-'] else []) ++ Nat.toDigits 10 value ++ 'e' :: digits exponent

def writeString : Option String → List Char
  | some text => quote text.toList
  | none => ['"', '\\', 'u', 'd', '8', '0', '0', '"']

def writeWord : Bool → List Char
  | true => ['t', 'r', 'u', 'e']
  | false => ['f', 'a', 'l', 's', 'e']

mutual

def write : Json → List Char
  | .null => ['n', 'u', 'l', 'l']
  | .bool value => writeWord value
  | .number value => writeNumber value
  | .string value => writeString value
  | .array [] => ['[', ']']
  | .array (first :: rest) => '[' :: write first ++ writeItems rest
  | .object [] => ['\x7b', '\x7d']
  | .object ((name, first) :: rest) =>
    '\x7b' :: writeString name ++ ':' :: write first ++ writeMembers rest

def writeItems : List Json → List Char
  | [] => [']']
  | first :: rest => ',' :: write first ++ writeItems rest

def writeMembers : List (Option String × Json) → List Char
  | [] => ['\x7d']
  | (name, first) :: rest => ',' :: writeString name ++ ':' :: write first ++ writeMembers rest

end

def newLine (level : Nat) : List Char := '\n' :: List.replicate (2 * level) ' '

mutual

def layOut (level : Nat) : Json → List Char
  | .null => ['n', 'u', 'l', 'l']
  | .bool value => writeWord value
  | .number value => writeNumber value
  | .string value => writeString value
  | .array [] => ['[', ']']
  | .array (first :: rest) =>
    '[' :: newLine (level + 1) ++ layOut (level + 1) first ++ layOutItems level rest
  | .object [] => ['\x7b', '\x7d']
  | .object ((name, first) :: rest) =>
    '\x7b' :: newLine (level + 1) ++ writeString name ++ [':', ' '] ++ layOut (level + 1) first ++
      layOutMembers level rest

def layOutItems (level : Nat) : List Json → List Char
  | [] => newLine level ++ [']']
  | first :: rest =>
    ',' :: newLine (level + 1) ++ layOut (level + 1) first ++ layOutItems level rest

def layOutMembers (level : Nat) : List (Option String × Json) → List Char
  | [] => newLine level ++ ['\x7d']
  | (name, first) :: rest =>
    ',' :: newLine (level + 1) ++ writeString name ++ [':', ' '] ++ layOut (level + 1) first ++
      layOutMembers level rest

end

def compact (value : Json) : String := String.ofList (write value)

def pretty (value : Json) : String := String.ofList (layOut 0 value)

end Gamebook.Json
