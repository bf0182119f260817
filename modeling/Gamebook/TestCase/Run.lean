import Gamebook.Catalog
import Gamebook.TestCase

set_option autoImplicit false

namespace Gamebook

inductive TestCase.Error where
  | unreadable (path : FilePath)
  | notACase (path : FilePath)
  | schemaVersion (found : String)
  | scenarioLoad (path : FilePath) (reason : String)
  | engine (error : ChoiceError)
  | missingAction (event : Nat)
  | unusedActions (used total : Nat)
  | stepLimit
  | eventCount (expected : Nat) (observed : List TestCase.Event)
  | event (index : Nat) (expected observed : TestCase.Event)
  | diagnostics (expected observed : List Diagnostic.Kind)
deriving DecidableEq

structure TestCase.Report where
  events : List TestCase.Event
  diagnostics : List Diagnostic.Kind
  consumed : Nat
deriving DecidableEq

namespace TestCase

def stepLimit : Nat := 5000

def actionIndex : TestCase.Action → Nat
  | .choose index => index

-- The events of a run and the number of actions taken in it, from an engine that has already
-- shown `seen` events and taken `used` of `total` actions.
def runEngine (total : Nat) :
    Nat → Engine → List TestCase.Action → Nat → Nat →
      Except TestCase.Error (List TestCase.Event × Nat)
  | 0, _, _, _, _ => .error .stepLimit
  | steps + 1, engine, actions, seen, used =>
    match engine.next with
    | (.text text _, after) =>
      (runEngine total steps after actions (seen + 1) used).map fun (events, used) =>
        (.text text :: events, used)
    | (.menu items, after) =>
      match actions with
      | [] => .error (.missingAction seen)
      | action :: rest =>
        match after.choose (actionIndex action) with
        | .error error => .error (.engine error)
        | .ok chosen =>
          (runEngine total steps chosen rest (seen + 1) (used + 1)).map fun (events, used) =>
            (.choices (items.map (·.label)) :: events, used)
    | (.ending reason, _) =>
      if used = total then .ok ([.ending reason.code], used)
      else .error (.unusedActions used total)

def run (tree : FileTree) (directory : FilePath) (test : TestCase) :
    Except TestCase.Error TestCase.Report :=
  let path := FilePath.join directory (.ofText test.scenarioFile)
  match tree.loadScenario path with
  | .error diagnostic => .error (.scenarioLoad path diagnostic.reason)
  | .ok (loaded, diagnostics) =>
    match runEngine test.actions.length stepLimit (.start loaded.scenario) test.actions 0 0 with
    | .error error => .error error
    | .ok (events, used) => .ok ⟨events, diagnostics.map (·.kind), used⟩

def load (tree : FileTree) (path : FilePath) : Except TestCase.Error TestCase :=
  match tree.readText? path with
  | none => .error (.unreadable path)
  | some text =>
    match Wire.read? text with
    | none => .error (.notACase path)
    | some test =>
      if test.schemaVersion = currentSchema then .ok test
      else .error (.schemaVersion test.schemaVersion)

def firstDifference (index : Nat) :
    List TestCase.Event → List TestCase.Event → Option (Nat × TestCase.Event × TestCase.Event)
  | expected :: others, observed :: rest =>
    if expected = observed then firstDifference (index + 1) others rest
    else some (index, expected, observed)
  | _, _ => none

def compare (test : TestCase) (report : TestCase.Report) : Except TestCase.Error Unit :=
  if report.diagnostics ≠ test.expectedDiagnostics then
    .error (.diagnostics test.expectedDiagnostics report.diagnostics)
  else if report.events.length ≠ test.expectedEvents.length then
    .error (.eventCount test.expectedEvents.length report.events)
  else
    match firstDifference 0 test.expectedEvents report.events with
    | some (index, expected, observed) => .error (.event index expected observed)
    | none => .ok ()

def check (tree : FileTree) (directory path : FilePath) : Except TestCase.Error Unit := do
  let test ← load tree path
  let report ← run tree directory test
  test.compare report

end TestCase

def Diagnostic.Kind.heading : Diagnostic.Kind → String
  | .directoryNotFound => "DirectoryNotFound"
  | .emptyFile => "EmptyFile"
  | .readFailure => "ReadFailure"
  | .malformedLine => "MalformedLine"
  | .malformedOption => "MalformedOption"

def Diagnostic.Kind.listText (kinds : List Diagnostic.Kind) : String :=
  "[" ++ ", ".intercalate (kinds.map heading) ++ "]"

def TestCase.Error.message? : TestCase.Error → Option String
  | .unreadable _ => none
  | .notACase _ => none
  | .schemaVersion found =>
    some ("Invalid testcase schema version \"" ++ found ++ "\", expected \"" ++
      TestCase.currentSchema ++ "\".")
  | .scenarioLoad path reason =>
    some ("Scenario " ++ FilePath.display path ++ " did not load: " ++ reason)
  | .engine error => some ("Engine error: " ++ error.failure.display)
  | .missingAction index =>
    some ("Action missing at event index " ++ toString index ++ ": expected choose.")
  | .unusedActions used total =>
    some ("Unused actions: used " ++ toString used ++ " of " ++ toString total ++ ".")
  | .stepLimit => some ("Guard exceeded: max_steps=" ++ toString TestCase.stepLimit ++ ".")
  | .eventCount expected observed =>
    some ("Expected event count " ++ toString expected ++ ", actual " ++
      toString observed.length ++ ". observed=" ++ (Wire.encodeList observed).pretty)
  | .event index expected observed =>
    some ("Event mismatch at index " ++ toString index ++ ". expected=" ++ Wire.write expected ++
      " actual=" ++ Wire.write observed)
  | .diagnostics expected observed =>
    some ("Diagnostics mismatch. expected=" ++ Diagnostic.Kind.listText expected ++ " actual=" ++
      Diagnostic.Kind.listText observed)

end Gamebook
