import Gamebook.Scenario
import Gamebook.Diagnostic
import Gamebook.Text.Lines
import Gamebook.Text.Fragments
import Gamebook.Text.Decimal

set_option autoImplicit false

namespace Gamebook

def arrow : List Char := ['-', '>']

def comma : List Char := [',']

def colon : List Char := [':']

def Choice.ofFragment (fragment : List Char) : Except Diagnostic Choice :=
  match Text.fragments colon fragment with
  | [label, target] =>
    match Text.Decimal.int32? target with
    | some value => .ok ⟨String.ofList label, value⟩
    | none =>
      .error
        { kind := .malformedOption
          reason := "Invalid number format in options: " ++ String.ofList fragment }
  | _ =>
    .error
      { kind := .malformedOption
        reason := "Invalid option format: " ++ String.ofList fragment }

def Choice.put (choice : Choice) : List Choice → List Choice
  | [] => [choice]
  | first :: rest =>
    -- a label that is there keeps its place and takes the new target
    if first.label = choice.label then choice :: rest else first :: choice.put rest

def Choice.accepted (fragments : List (List Char)) : List Choice :=
  fragments.filterMap fun fragment =>
    match Choice.ofFragment fragment with
    | .ok choice => some choice
    | .error _ => none

def Choice.rejected (fragments : List (List Char)) : List Diagnostic :=
  fragments.filterMap fun fragment =>
    match Choice.ofFragment fragment with
    | .ok _ => none
    | .error diagnostic => some diagnostic

def Choice.ofText (text : List Char) : List Choice × List Diagnostic :=
  let fragments := Text.fragments comma text
  ((Choice.accepted fragments).foldl (fun choices choice => choice.put choices) [],
    Choice.rejected fragments)

def Branch.ofLine (line : List Char) : Option Branch × List Diagnostic :=
  match Text.fragments arrow line with
  | [] =>
    (none,
      [{ kind := .malformedLine
         reason := "Invalid line format: " ++ String.ofList line }])
  | [description] => (some ⟨String.ofList description, []⟩, [])
  | description :: text :: _ =>
    let (choices, diagnostics) := Choice.ofText text
    (some ⟨String.ofList description, choices⟩, diagnostics)

structure NoLines where
  source : Option String
deriving DecidableEq

def NoLines.failure (error : NoLines) : Failure where
  code := "PARSE_EMPTY_FILE"
  message :=
    match error.source with
    | some name => "Scenario file " ++ name ++ " is empty."
    | none => "Scenario source has no lines."

structure Reading where
  scenario : Scenario
  diagnostics : List Diagnostic
deriving DecidableEq

def Branch.ofLines (source : Option String) (number : Nat) :
    List (List Char) → List Branch × List Diagnostic
  | [] => ([], [])
  | line :: rest =>
    let (branch, diagnostics) := Branch.ofLine line
    let (branches, others) := Branch.ofLines source (number + 1) rest
    (branch.toList ++ branches,
      diagnostics.map (fun found => { found with file := source, line := some number }) ++ others)

def Scenario.ofLines (source : Option String) : List (List Char) → Except NoLines Reading
  | [] => .error ⟨source⟩
  | title :: body =>
    let (branches, diagnostics) := Branch.ofLines source 2 body
    .ok ⟨⟨String.ofList title, branches⟩, diagnostics⟩

def Scenario.ofText (source text : String) : Except NoLines Reading :=
  Scenario.ofLines (some source) (Text.lines text.toList)

end Gamebook
