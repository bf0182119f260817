import Gamebook.Scenario.Parser
import Gamebook.FileTree

set_option autoImplicit false

namespace Gamebook

structure Story where
  id : String
  fileName : String
  scenario : Scenario
deriving DecidableEq

structure Catalog where
  scenarios : List Story
  diagnostics : List Diagnostic
deriving DecidableEq

namespace Catalog

def empty : Catalog := ⟨[], []⟩

def titles (catalog : Catalog) : List String := catalog.scenarios.map (·.scenario.title)

def isEmpty (catalog : Catalog) : Bool := catalog.scenarios.isEmpty

def append (first second : Catalog) : Catalog :=
  ⟨first.scenarios ++ second.scenarios, first.diagnostics ++ second.diagnostics⟩

end Catalog

def FileTree.scenarioId (tree : FileTree) (path : FilePath) : String :=
  "scenario-file:" ++ FilePath.display ((tree.canonical? path).getD path)

def FileTree.loadScenario (tree : FileTree) (path : FilePath) :
    Except Diagnostic (Story × List Diagnostic) :=
  let fileName := FilePath.fileName path
  match tree.readText? path with
  | none =>
    .error
      { kind := .readFailure
        file := some fileName
        reason := "Failed to load scenario: " ++ fileName }
  | some text =>
    match Scenario.ofText fileName text with
    | .error error =>
      .error { kind := .emptyFile, file := some fileName, reason := error.failure.message }
    | .ok reading => .ok (⟨tree.scenarioId path, fileName, reading.scenario⟩, reading.diagnostics)

def FileTree.catalogOfFile (tree : FileTree) (path : FilePath) : Catalog :=
  match tree.loadScenario path with
  | .ok (loaded, diagnostics) => ⟨[loaded], diagnostics⟩
  | .error diagnostic => ⟨[], [diagnostic]⟩

def FileTree.catalogOfFiles (tree : FileTree) (paths : List FilePath) : Catalog :=
  (paths.map tree.catalogOfFile).foldl Catalog.append .empty

def scenarioSuffix : String := ".txt"

def FileTree.scenarioFiles (tree : FileTree) (directory : FilePath) : List FilePath :=
  (tree.entriesIn directory).filterMap fun (name, entry) =>
    let path := FilePath.join directory name
    let isCandidate := match entry with
      | .link _ => tree.isFile path
      | _ => entry.isRegular
    if isCandidate && scenarioSuffix.toList.isSuffixOf (FilePath.display name).toList then some path
    else none

def FileTree.catalogOfDirectory (tree : FileTree) (directory : FilePath) : Catalog :=
  if tree.isDirectory directory then tree.catalogOfFiles (tree.scenarioFiles directory)
  else
    ⟨[],
      [{ kind := .directoryNotFound
         file := some (FilePath.display directory)
         reason := "Scenarios directory not found." }]⟩

def Catalog.sorted (catalog : Catalog) : Catalog where
  scenarios := catalog.scenarios.mergeSort fun first second => first.fileName ≤ second.fileName
  diagnostics := catalog.diagnostics.mergeSort fun first second =>
    match first.file, second.file with
    | none, _ => true
    | some _, none => false
    | some one, some other => one ≤ other

end Gamebook
