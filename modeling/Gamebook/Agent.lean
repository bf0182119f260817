import Gamebook.Boundary.Lines
import Gamebook.Catalog
import Gamebook.Wire

set_option autoImplicit false

namespace Gamebook.Agent

inductive Error where
  | noScenarios (directory : String)
  | noSuchScenario (number count : Nat)
  | unusedChoices (used total : Nat)
  | choiceZero
  | choice (error : ChoiceError)
deriving DecidableEq

def Error.failure : Error → Failure
  | .noScenarios directory => ⟨"CLI_NO_SCENARIOS", "No scenarios found in " ++ directory⟩
  | .noSuchScenario number count =>
    ⟨"CLI_SCENARIO_INDEX",
      "Scenario \"" ++ toString number ++ "\" is out of range (1-" ++ toString count ++ ")."⟩
  | .unusedChoices used total =>
    ⟨"CLI_UNUSED_CHOICES",
      "Scenario ended after " ++ toString used ++ " of " ++ toString total ++ " choices."⟩
  | .choiceZero => ⟨"CLI_CHOICE_INDEX", "Choices are numbered from 1."⟩
  | .choice error => error.failure

def warningLine (diagnostic : Diagnostic) : String := "WARNING_JSON:" ++ Wire.write diagnostic

def scenarioLine (number : Nat) (loaded : Story) : String :=
  "SCENARIO:" ++ toString number ++ "|" ++ Json.quoted loaded.fileName ++ "|" ++
    Json.quoted loaded.scenario.title ++ "|" ++ Json.quoted loaded.id

def list (catalog : Catalog) : List String :=
  [okLine] ++ catalog.diagnostics.map warningLine ++
    catalog.scenarios.zipIdx.map (fun (loaded, index) => scenarioLine (index + 1) loaded) ++
    ["SCENARIO_COUNT:" ++ toString catalog.scenarios.length]

def replayFrom (total : Nat) :
    Nat → Boundary → Engine → List Nat → Except Error (Boundary × Engine)
  | _, boundary, engine, [] => .ok (boundary, engine)
  | used, boundary, engine, choice :: rest =>
    if boundary.halt = .ended then .error (.unusedChoices used total)
    else
      match choice with
      | 0 => .error .choiceZero
      | index + 1 =>
        match engine.choose index with
        | .error error => .error (.choice error)
        | .ok chosen =>
          let (reached, after) := chosen.advance
          replayFrom total (used + 1) reached after rest

def replay (scenario : Scenario) (choices : List Nat) : Except Error (Boundary × Engine) :=
  let (boundary, engine) := (Engine.start scenario).advance
  replayFrom choices.length 0 boundary engine choices

def scenario? (catalog : Catalog) : Nat → Option Story
  | 0 => none
  | index + 1 => catalog.scenarios[index]?

def reportsOn (catalog : Catalog) (fileName : String) : List Diagnostic :=
  catalog.diagnostics.filter (·.file = some fileName)

def play (directory : String) (catalog : Catalog) (number : Nat) (choices : List Nat) :
    Except Error (List String) :=
  if catalog.isEmpty then .error (.noScenarios directory)
  else
    match scenario? catalog number with
    | none => .error (.noSuchScenario number catalog.scenarios.length)
    | some loaded =>
      match replay loaded.scenario choices with
      | .error error => .error error
      | .ok (boundary, engine) =>
        .ok ((reportsOn catalog loaded.fileName).map warningLine ++
          ["SCENARIO_ID:" ++ Json.quoted loaded.id] ++ boundary.lines engine.trail)

def failureLines (failure : Failure) : List String :=
  ["RESULT:ERROR", "ERROR_CODE:" ++ failure.code,
    "ERROR_MSG_JSON:" ++ Json.quoted failure.message]

end Gamebook.Agent
