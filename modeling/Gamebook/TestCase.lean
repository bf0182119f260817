import Gamebook.Wire

set_option autoImplicit false

namespace Gamebook

inductive TestCase.Action where
  | choose (index : Nat)
deriving DecidableEq

inductive TestCase.Event where
  | text (text : String)
  | choices (choices : List String)
  | ending (reason : String)
deriving DecidableEq

structure TestCase where
  schemaVersion : String
  scenarioFile : String := "scenario.txt"
  actions : List TestCase.Action := []
  expectedEvents : List TestCase.Event := []
  expectedDiagnostics : List Diagnostic.Kind := []
deriving DecidableEq

def TestCase.currentSchema : String := "sp-tool-case.v1"

namespace Wire

instance : Wire TestCase.Action where
  encode
    | .choose index => .record [("kind", .text "choose"), ("index", .natural index)]
  decode? depth value := do
    match ← value.tagged? depth with
    | ("choose", content) =>
      match ← content.allFields? ["index"] with
      | [some index] => some (.choose (← index.word?))
      | _ => none
    | _ => none

instance : Wire TestCase.Event where
  encode
    | .text text => .record [("kind", .text "text"), ("text", .text text)]
    | .choices choices =>
      .record [("kind", .text "choices"), ("choices", .array (choices.map Json.text))]
    | .ending reason => .record [("kind", .text "end"), ("reason", .text reason)]
  decode? depth value := do
    match ← value.tagged? depth with
    | ("text", content) =>
      match ← content.allFields? ["text"] with
      | [some text] => some (.text (← text.text?))
      | _ => none
    | ("choices", content) =>
      match ← content.allFields? ["choices"] with
      | [some choices] => some (.choices (← choices.list? Json.text?))
      | _ => none
    | ("end", content) =>
      match ← content.allFields? ["reason"] with
      | [some reason] => some (.ending (← reason.text?))
      | _ => none
    | _ => none

def fieldOr? {α : Type} (default : α) (read : Json → Option α) : Option Json → Option α
  | none => some default
  | some value => read value

def testCaseFields : List String :=
  ["schemaVersion", "scenarioFile", "actions", "expectedEvents", "expectedDiagnostics"]

instance : Wire TestCase where
  encode test :=
    .record
      [("schemaVersion", .text test.schemaVersion), ("scenarioFile", .text test.scenarioFile),
        ("actions", encodeList test.actions), ("expectedEvents", encodeList test.expectedEvents),
        ("expectedDiagnostics", encodeList test.expectedDiagnostics)]
  decode? depth value := do
    match ← value.fields? testCaseFields 1 with
    | [some version, file, actions, events, kinds] =>
      some
        { schemaVersion := ← version.text?
          scenarioFile := ← fieldOr? "scenario.txt" Json.text? file
          actions := ← fieldOr? [] (decodeList? (depth + 1)) actions
          expectedEvents := ← fieldOr? [] (decodeList? (depth + 1)) events
          expectedDiagnostics := ← fieldOr? [] (decodeList? (depth + 1)) kinds }
    | _ => none

end Wire

end Gamebook
