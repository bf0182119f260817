import Gamebook.Catalog
import Gamebook.Proofs.FileTree.Directory
import Gamebook.Proofs.Scenario.LineByLine

set_option autoImplicit false

namespace Gamebook

def Diagnostic.ofEmptyFile (name : String) : Diagnostic where
  kind := .emptyFile
  file := some name
  reason := "Scenario file " ++ name ++ " is empty."

def Diagnostic.ofUnreadFile (name : String) : Diagnostic where
  kind := .readFailure
  file := some name
  reason := "Failed to load scenario: " ++ name

namespace FileTree

-- The content of the file that a path leads to. A path of 4096 bytes or more opens nothing.
def Contains (tree : FileTree) (path : FilePath) (content : ByteArray) : Prop :=
  path.length < 4096 ∧ ∃ goal, tree.PathLeads path goal ∧ tree.Holds goal (.file content)

-- What a file comes to alone: each report names the file, and those on lines name the line. The
-- id of a story is the absolute path of the file that was read.
structure LoadsAlone (tree : FileTree) (path : FilePath) (name : String) : Prop where
  empty : tree.loadScenario path = .error (.ofEmptyFile name) ↔
    ∃ content, tree.Contains path content ∧ content.size = 0
  unread : tree.loadScenario path = .error (.ofUnreadFile name) ↔
    (¬ ∃ content, tree.Contains path content) ∨
      ∃ content, tree.Contains path content ∧ ¬ content.IsValidUTF8
  refused : ∀ found, tree.loadScenario path = .error found →
    found = .ofEmptyFile name ∨ found = .ofUnreadFile name
  loaded : ∀ story reports, tree.loadScenario path = .ok (story, reports) →
    story.fileName = name ∧
      (∃ goal content text, tree.PathLeads path goal ∧ tree.Holds goal (.file content) ∧
        story.id = "scenario-file:" ++ FilePath.display (FilePath.ofPlace goal) ∧
        String.fromUTF8? content = some text ∧
        Scenario.ofText name text = .ok ⟨story.scenario, reports⟩) ∧
      ∀ found ∈ reports, (found.kind = .malformedLine ∨ found.kind = .malformedOption) ∧
        found.file = some name ∧ ∃ line, found.line = some line

variable (tree : FileTree) (path : FilePath)

section Placed

variable (placed : tree.Placed)
include placed

theorem text_read (text : String) :
    tree.readText? path = some text ↔
      ∃ content, tree.Contains path content ∧ String.fromUTF8? content = some text := by
  have contains (content : ByteArray) :
      tree.Contains path content ↔ tree.entry? path = some (.file content) :=
    (tree.entry_leads placed path (.file content)).symm
  simp only [contains]
  rw [readText?]
  cases tree.entry? path with
  | none => simp
  | some entry => cases entry <;> simp

theorem contains_once (content other : ByteArray) (held : tree.Contains path content)
    (alsoHeld : tree.Contains path other) : content = other := by
  have first := (tree.entry_leads placed path (.file content)).mpr held
  have second := (tree.entry_leads placed path (.file other)).mpr alsoHeld
  exact FileEntry.file.inj (Option.some.inj (first.symm.trans second))

theorem text_unread :
    tree.readText? path = none ↔
      (¬ ∃ content, tree.Contains path content) ∨
        ∃ content, tree.Contains path content ∧ ¬ content.IsValidUTF8 := by
  have unread : tree.readText? path = none ↔
      ∀ content, tree.Contains path content → ¬ content.IsValidUTF8 := by
    rw [Option.eq_none_iff_forall_ne_some]
    simp only [ne_eq, tree.text_read path placed]
    constructor
    · intro none content held valid
      exact none _ ⟨content, held, dif_pos valid⟩
    · rintro invalid text ⟨content, held, decoded⟩
      rw [String.fromUTF8?, dif_neg (invalid content held)] at decoded
      cases decoded
  rw [unread]
  constructor
  · intro invalid
    by_cases there : ∃ content, tree.Contains path content
    · obtain ⟨content, held⟩ := there
      exact .inr ⟨content, held, invalid content held⟩
    · exact .inl there
  · rintro (missing | ⟨content, held, invalid⟩) other alsoHeld
    · exact absurd ⟨other, alsoHeld⟩ missing
    · rwa [tree.contains_once path placed other content alsoHeld held]

theorem text_empty :
    tree.readText? path = some "" ↔
      ∃ content, tree.Contains path content ∧ content.size = 0 := by
  rw [tree.text_read path placed]
  refine exists_congr fun content => and_congr_right fun _ => ?_
  constructor
  · intro decoded
    rw [String.fromUTF8?] at decoded
    split at decoded
    · rename_i valid
      have empty := congrArg String.utf8ByteSize (Option.some.inj decoded)
      exact empty
    · cases decoded
  · intro empty
    obtain rfl := ByteArray.size_eq_zero_iff.mp empty
    rfl

end Placed

theorem load_unread (unread : tree.readText? path = none) :
    tree.loadScenario path = .error (.ofUnreadFile (FilePath.fileName path)) := by
  rw [loadScenario, unread]
  rfl

theorem load_empty (empty : tree.readText? path = some "") :
    tree.loadScenario path = .error (.ofEmptyFile (FilePath.fileName path)) := by
  rw [loadScenario, empty]
  rfl

theorem load_text (text : String) (read : tree.readText? path = some text) (full : text ≠ "") :
    ∃ title body reading, Text.lines text.toList = title :: body ∧
      Scenario.ofLines (some (FilePath.fileName path)) (title :: body) = .ok reading ∧
      tree.loadScenario path =
        .ok (⟨tree.scenarioId path, FilePath.fileName path, reading.scenario⟩,
          reading.diagnostics) := by
  obtain ⟨title, body, parted⟩ := Scenario.text_lines_full text full
  refine ⟨title, body, _, parted, rfl, ?_⟩
  rw [loadScenario, read]
  simp only [Scenario.ofText, parted]
  rfl

theorem line_reports (name : String) (title : List Char) (body : List (List Char))
    (reading : Reading) (reads : Scenario.ofLines (some name) (title :: body) = .ok reading) :
    ∀ found ∈ reading.diagnostics, (found.kind = .malformedLine ∨ found.kind = .malformedOption) ∧
      found.file = some name ∧ ∃ line, found.line = some line := by
  cases reads
  intro found member
  obtain ⟨offset, line, _, file, place, _⟩ := Branch.of_lines_placed _ _ _ found member
  exact ⟨Branch.of_lines_kinds _ _ _ found member, file, 2 + offset, place⟩

theorem scenario_id_placed (place : Place) (leads : tree.resolve? path = some place) :
    tree.scenarioId path = "scenario-file:" ++ FilePath.display (FilePath.ofPlace place) := by
  have whole : tree.scenarioId path =
      "scenario-file:" ++ FilePath.display ((tree.canonical? path).getD path) := rfl
  rw [whole, canonical?, leads, Option.map_some, Option.getD_some]

theorem loads_alone (placed : tree.Placed) : tree.LoadsAlone path (FilePath.fileName path) := by
  have apart : Diagnostic.ofEmptyFile (FilePath.fileName path) ≠
      .ofUnreadFile (FilePath.fileName path) := by
    simp [Diagnostic.ofEmptyFile, Diagnostic.ofUnreadFile]
  cases read : tree.readText? path with
  | none =>
    refine ⟨?_, ?_, ?_, ?_⟩ <;> rw [tree.load_unread path read]
    · rw [← tree.text_empty path placed, read, Except.error.injEq]
      exact iff_of_false apart.symm (Option.some_ne_none _).symm
    · rw [← tree.text_unread path placed, read]
      exact iff_of_true rfl rfl
    · rintro found ⟨⟩
      exact .inr rfl
    · rintro _ _ ⟨⟩
  | some text =>
    by_cases empty : text = ""
    · rw [empty] at read
      refine ⟨?_, ?_, ?_, ?_⟩ <;> rw [tree.load_empty path read]
      · rw [← tree.text_empty path placed, read]
        exact iff_of_true rfl rfl
      · rw [← tree.text_unread path placed, read, Except.error.injEq]
        exact iff_of_false apart (Option.some_ne_none _)
      · rintro found ⟨⟩
        exact .inl rfl
      · rintro _ _ ⟨⟩
    · obtain ⟨title, body, reading, parted, reads, result⟩ := tree.load_text path text read empty
      refine ⟨?_, ?_, ?_, ?_⟩ <;> rw [result]
      · rw [← tree.text_empty path placed, read]
        simp [empty]
      · rw [← tree.text_unread path placed, read]
        simp
      · rintro found ⟨⟩
      · rintro story reports ⟨⟩
        obtain ⟨content, held, decoded⟩ := (tree.text_read path placed text).mp read
        obtain ⟨_, goal, leads, file⟩ := held
        have place := (tree.resolve_leads placed path goal).mpr leads
        refine ⟨rfl, ⟨goal, content, text, leads, file, tree.scenario_id_placed path goal place,
          decoded, ?_⟩, line_reports _ title body reading reads⟩
        rw [Scenario.ofText, parted, reads]

theorem file_text (text : String) (held : tree.entry? path = some (.file text.toUTF8)) :
    tree.readText? path = some text := by
  rw [readText?, held]
  exact dif_pos text.isValidUTF8

theorem here_loads (name text : String) (named : FilePath.IsName (FilePath.ofText name))
    (there : tree.entryAt? tree.home = some .directory)
    (held : tree.entryAt? (tree.home ++ [FilePath.ofText name]) = some (.file text.toUTF8))
    (short : (FilePath.join FilePath.here (FilePath.ofText name)).length < pathLimit)
    (reading : Reading) (reads : Scenario.ofText name text = .ok reading) :
    tree.loadScenario (FilePath.join FilePath.here (FilePath.ofText name)) =
      .ok (⟨"scenario-file:" ++
          FilePath.display (FilePath.ofPlace (tree.home ++ [FilePath.ofText name])), name,
        reading.scenario⟩, reading.diagnostics) := by
  obtain ⟨place, entry⟩ := tree.here_file there (FilePath.ofText name) named text.toUTF8 held short
  rw [loadScenario, tree.file_text _ text entry]
  have called := FilePath.file_name_join FilePath.here _ (by decide) named
  simp only [called, FilePath.display_text, reads, tree.scenario_id_placed _ _ place]

theorem load_kept (other : FileTree) (entry : other.entry? path = tree.entry? path)
    (place : other.canonical? path = tree.canonical? path) :
    other.loadScenario path = tree.loadScenario path := by
  have id : other.scenarioId path = tree.scenarioId path :=
    congrArg (fun place : Option FilePath =>
      "scenario-file:" ++ FilePath.display (place.getD path)) place
  rw [loadScenario, loadScenario, readText?, readText?, id, entry]

end FileTree

end Gamebook
