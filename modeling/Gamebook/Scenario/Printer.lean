import Gamebook.Scenario

set_option autoImplicit false

namespace Gamebook

def targetText (target : Int32) : List Char :=
  match target.toInt with
  | .ofNat value => Nat.toDigits 10 value
  | .negSucc value => '-' :: Nat.toDigits 10 (value + 1)

def Choice.text (choice : Choice) : List Char :=
  choice.label.toList ++ ':' :: targetText choice.target

def branchLine (description : String) (choices : List (List Char)) : List Char :=
  if choices = [] then description.toList
  else description.toList ++ ['-', '>'] ++ [','].intercalate choices

def Branch.line (branch : Branch) : List Char :=
  branchLine branch.description (branch.choices.map Choice.text)

def terminated (terminator : List Char) (lines : List (List Char)) : List Char :=
  (lines.map (· ++ terminator)).flatten

def Scenario.text (scenario : Scenario) : List Char :=
  terminated ['\n'] (scenario.title.toList :: scenario.branches.map Branch.line)

end Gamebook
