import Gamebook.Proofs.Agent.Replay
import Gamebook.Proofs.Boundary.Legible
import Gamebook.Proofs.Catalog.Undisturbed
import Gamebook.Proofs.Json.Written

set_option autoImplicit false

namespace Gamebook

theorem Agent.warning_line_file (found other : Diagnostic)
    (same : warningLine found = warningLine other) : found.file = other.file := by
  have written : Wire.write found = Wire.write other := (String.append_right_inj _).mp same
  have chars := congrArg (fun text => Json.parse? text.toList) written
  simp only [Wire.write, Json.compact, String.toList_ofList, Json.parse_write,
    Option.some.injEq] at chars
  simp only [Wire.encode, Json.record, List.map_cons, Json.object.injEq, List.cons.injEq,
    Prod.mk.injEq, true_and] at chars
  obtain ⟨_, files, _⟩ := chars
  cases here : found.file <;> cases there : other.file <;> simp_all [Json.text]

theorem part_of_chosen {α β : Type} [DecidableEq α] (part : α → List β) (chosen : α)
    (items : List α) (once : items.Nodup) (listed : chosen ∈ items) :
    (items.flatMap fun item => if item = chosen then part item else []) = part chosen := by
  obtain ⟨before, after, rfl⟩ := List.append_of_mem listed
  have apart := (List.nodup_cons.mp (List.nodup_middle.mp once)).1
  rw [List.mem_append, not_or] at apart
  have others (items : List α) (without : chosen ∉ items) :
      (items.flatMap fun item => if item = chosen then part item else []) = [] := by
    rw [List.flatMap_eq_nil_iff]
    intro item member
    rw [if_neg]
    rintro rfl
    exact without member
  rw [List.flatMap_append, List.flatMap_cons, others before apart.1, others after apart.2,
    if_pos rfl, List.nil_append, List.append_nil]

namespace FileTree

variable (tree : FileTree) (directory : FilePath)

def TextNames : Prop :=
  ∀ name entry, (name, entry) ∈ tree.entriesIn directory → ∃ text, name = FilePath.ofText text

theorem candidate_text (text : tree.TextNames directory) (name : FileName)
    (candidate : name ∈ tree.candidates directory) : ∃ text, name = FilePath.ofText text := by
  obtain ⟨⟨found, entry⟩, member, rfl⟩ := List.mem_map.mp candidate
  exact text found entry (List.mem_filter.mp member).1

theorem candidates_shown (text : tree.TextNames directory) (name other : FileName)
    (candidate : name ∈ tree.candidates directory)
    (alsoCandidate : other ∈ tree.candidates directory)
    (same : FilePath.display name = FilePath.display other) : name = other := by
  obtain ⟨first, rfl⟩ := tree.candidate_text directory text name candidate
  obtain ⟨second, rfl⟩ := tree.candidate_text directory text other alsoCandidate
  rw [FilePath.display_text, FilePath.display_text] at same
  rw [same]

section Placed

variable (placed : tree.Placed)
include placed

theorem candidate_alone (name : FileName) (candidate : name ∈ tree.candidates directory) :
    tree.LoadsAlone (FilePath.join directory name) (FilePath.display name) := by
  obtain ⟨⟨found, entry⟩, member, rfl⟩ := List.mem_map.mp candidate
  cases resolved : tree.resolve? directory with
  | none => simp [entriesIn, resolved] at member
  | some place =>
    exact tree.candidate_loads directory place placed
      ((tree.resolve_leads placed directory place).mp resolved) found candidate

theorem candidate_reports (name : FileName) (candidate : name ∈ tree.candidates directory)
    (found : Diagnostic)
    (member : found ∈ Loading.reports (tree.loadScenario (FilePath.join directory name))) :
    found.file = some (FilePath.display name) := by
  have loads := tree.candidate_alone directory placed name candidate
  cases result : tree.loadScenario (FilePath.join directory name) with
  | error refused =>
    rw [result] at member
    obtain rfl := List.mem_singleton.mp member
    rcases loads.refused found result with rfl | rfl <;> rfl
  | ok loaded =>
    obtain ⟨story, reports⟩ := loaded
    rw [result] at member
    exact ((loads.loaded story reports result).2.2 found member).2.1

theorem reports_kept (text : tree.TextNames directory) (name other : FileName)
    (candidate : name ∈ tree.candidates directory)
    (alsoCandidate : other ∈ tree.candidates directory) :
    (Loading.reports (tree.loadScenario (FilePath.join directory other))).filter
        (·.file = some (FilePath.display name)) =
      if other = name then Loading.reports (tree.loadScenario (FilePath.join directory other))
      else [] := by
  have named := tree.candidate_reports directory placed other alsoCandidate
  by_cases same : other = name
  · rw [if_pos same, List.filter_eq_self]
    intro found member
    rw [named found member, same]
    exact decide_eq_true rfl
  · rw [if_neg same, List.filter_eq_nil_iff]
    intro found member
    rw [named found member, decide_eq_true_eq]
    intro shown
    exact same (tree.candidates_shown directory text other name alsoCandidate candidate
      (Option.some.inj shown))

variable (opens : tree.isDirectory directory = true)
include opens

theorem opened_gathered :
    tree.catalogOfDirectory directory = .ofLoadings (tree.loadings directory) := by
  obtain ⟨short, place, leads, there⟩ := (tree.is_directory_leads placed directory).mp opens
  exact tree.directory_gathered directory place placed leads there short

theorem opened_once : (tree.candidates directory).Nodup := by
  obtain ⟨_, place, leads, _⟩ := (tree.is_directory_leads placed directory).mp opens
  exact tree.candidates_once directory place placed leads

theorem directory_story (story : Story) :
    story ∈ (tree.catalogOfDirectory directory).scenarios ↔
      ∃ name ∈ tree.candidates directory, ∃ reports,
        tree.loadScenario (FilePath.join directory name) = .ok (story, reports) := by
  rw [tree.opened_gathered directory placed opens, Catalog.ofLoadings, loadings, List.mem_flatMap]
  constructor
  · rintro ⟨loading, member, told⟩
    obtain ⟨name, candidate, rfl⟩ := List.mem_map.mp member
    refine ⟨name, candidate, ?_⟩
    cases result : tree.loadScenario (FilePath.join directory name) with
    | error refused =>
      rw [result] at told
      cases told
    | ok loaded =>
      rw [result] at told
      obtain rfl := List.mem_singleton.mp told
      exact ⟨loaded.2, rfl⟩
  · rintro ⟨name, candidate, reports, result⟩
    refine ⟨_, List.mem_map_of_mem candidate, ?_⟩
    rw [result]
    exact List.mem_singleton.mpr rfl

theorem directory_reports_on (text : tree.TextNames directory) (name : FileName)
    (candidate : name ∈ tree.candidates directory) :
    Agent.reportsOn (tree.catalogOfDirectory directory) (FilePath.display name) =
      Loading.reports (tree.loadScenario (FilePath.join directory name)) := by
  have once := tree.opened_once directory placed opens
  have kept := fun other => tree.reports_kept directory placed text name other candidate
  rw [tree.opened_gathered directory placed opens, Agent.reportsOn, Catalog.ofLoadings, loadings]
  simp only [List.flatMap_map, List.filter_flatMap]
  rw [List.flatMap_congr kept]
  exact part_of_chosen _ name _ once candidate

end Placed

theorem story_there (story : Story)
    (listed : story ∈ (tree.catalogOfDirectory directory).scenarios) :
    tree.isDirectory directory = true := by
  refine Classical.byContradiction fun missing => ?_
  rw [catalogOfDirectory, if_neg missing] at listed
  cases listed

end FileTree

namespace Agent

section Arrival

variable (catalog : Catalog) (story : Story) (boundary : Boundary) (trail : List Nat)

theorem warning_one_line (found : Diagnostic) : Text.OneLine (warningLine found).toList := by
  rw [warning_line_chars]
  exact Text.one_line_append _ _ (by decide) (Json.compact_one_line _)

theorem arrival_one_line (line : String)
    (printed : line ∈ arrivalLines catalog story boundary trail) : Text.OneLine line.toList := by
  rw [arrivalLines, List.mem_append, List.mem_append] at printed
  rcases printed with (warned | named) | told
  · obtain ⟨found, _, rfl⟩ := List.mem_map.mp warned
    exact warning_one_line found
  · rw [List.mem_singleton.mp named, String.toList_append]
    exact Text.one_line_append _ _ (by decide) (Json.quoted_one_line story.id)
  · exact boundary.lines_one_line trail line told

theorem arrival_warnings :
    (arrivalLines catalog story boundary trail).filter
        (fun line => lineKind line = "WARNING_JSON".toList) =
      (reportsOn catalog story.fileName).map warningLine := by
  rw [arrivalLines, List.filter_append, List.filter_append, lines_of_kind,
    filter_of_kind _ "WARNING_JSON".toList, filter_of_kind _ "SCENARIO_ID".toList]
  · simp +decide
  · simpa using id_line_kind story.id
  · intro line warned
    obtain ⟨found, _, rfl⟩ := List.mem_map.mp warned
    exact warning_line_kind found

end Arrival

theorem play_printed (directory : String) (catalog : Catalog) (number : Nat) (choices : List Nat)
    (lines : List String) (printed : play directory catalog number choices = .ok lines) :
    ∃ index story boundary engine, number = index + 1 ∧ catalog.scenarios[index]? = some story ∧
      replay story.scenario choices = .ok (boundary, engine) := by
  cases number with
  | zero =>
    rw [play, scenario?] at printed
    split at printed <;> cases printed
  | succ index =>
    cases found : catalog.scenarios[index]? with
    | none =>
      simp only [play, scenario?, found] at printed
      split at printed <;> cases printed
    | some story =>
      obtain ⟨⟨boundary, engine⟩, replayed⟩ :=
        (play_succeeds directory catalog index story found choices).mp ⟨lines, printed⟩
      exact ⟨index, story, boundary, engine, rfl, found, replayed⟩

end Agent

namespace CommandLine

def printedLines (output : String) : List String :=
  (Text.lines output.toList).map String.ofList

def warningsIn (output : String) : List String :=
  (printedLines output).filter fun line => lineKind line = "WARNING_JSON".toList

structure WarnsOnly (tree : FileTree) (directory : FilePath) (name : FileName)
    (reports : List Diagnostic) (output : String) : Prop where
  own : warningsIn output = reports.map Agent.warningLine
  foreign : ∀ elsewhere ∈ tree.candidates directory, elsewhere ≠ name →
    ∀ found ∈ Loading.reports (tree.loadScenario (FilePath.join directory elsewhere)),
      Agent.warningLine found ∉ printedLines output

theorem warning_listed (output : String) (found : Diagnostic)
    (told : Agent.warningLine found ∈ printedLines output) :
    Agent.warningLine found ∈ warningsIn output :=
  List.mem_filter.mpr ⟨told, decide_eq_true (Agent.warning_line_kind found)⟩

theorem printed_unlines (lines : List String) (plain : ∀ line ∈ lines, Text.OneLine line.toList) :
    printedLines (unlines lines) = lines := by
  have chars : (unlines lines).toList = terminated ['\n'] (lines.map String.toList) := by
    simp [unlines, terminated, List.flatMap, Function.comp_def]
  rw [printedLines, chars, Text.lines_terminated _ _ (by decide) (by simpa using plain),
    List.map_map]
  simp [Function.comp_def]

structure Plays (tree : FileTree) (directory : String) (choices : List Nat) (index : Nat)
    (name : FileName) (story : Story) (reports : List Diagnostic) (boundary : Boundary)
    (engine : Engine) : Prop where
  found : (tree.catalogOfDirectory (.ofText directory)).scenarios[index]? = some story
  replayed : Agent.replay story.scenario choices = .ok (boundary, engine)
  candidate : name ∈ tree.candidates (.ofText directory)
  loaded : tree.loadScenario (FilePath.join (.ofText directory) name) = .ok (story, reports)

theorem answer_lines (tree : FileTree) (directory : String) (input : List UInt8)
    (choices : List Nat) (index : Nat) (story : Story) (boundary : Boundary) (engine : Engine)
    (found : (tree.catalogOfDirectory (.ofText directory)).scenarios[index]? = some story)
    (replayed : Agent.replay story.scenario choices = .ok (boundary, engine)) :
    answer tree input ⟨directory, .agentPlay (index + 1) choices⟩ =
      ⟨0, unlines (Agent.arrivalLines (tree.catalogOfDirectory (.ofText directory)) story boundary
        engine.trail)⟩ := by
  have lines := Agent.play_found directory _ index story found choices
  rw [replayed] at lines
  simp only [answer, lines]
  rfl

theorem answer_plays (tree : FileTree) (placed : tree.Placed) (directory : String)
    (input : List UInt8) (choices : List Nat) (number : Nat)
    (played : (answer tree input ⟨directory, .agentPlay number choices⟩).code = 0) :
    ∃ index name story reports boundary engine, number = index + 1 ∧
      Plays tree directory choices index name story reports boundary engine := by
  cases printed : Agent.play directory (tree.catalogOfDirectory (.ofText directory)) number
      choices with
  | error error =>
    simp only [answer, printed] at played
    cases played
  | ok lines =>
    obtain ⟨index, story, boundary, engine, counted, found, replayed⟩ :=
      Agent.play_printed directory _ number choices lines printed
    have listed := List.mem_of_getElem? found
    have opens := tree.story_there (.ofText directory) story listed
    obtain ⟨name, candidate, reports, loaded⟩ :=
      (tree.directory_story (.ofText directory) placed opens story).mp listed
    exact ⟨index, name, story, reports, boundary, engine, counted, found, replayed, candidate,
      loaded⟩

namespace Plays

variable {tree : FileTree} {directory : String} {choices : List Nat} {index : Nat}
  {name : FileName} {story : Story} {reports : List Diagnostic} {boundary : Boundary}
  {engine : Engine} (plays : Plays tree directory choices index name story reports boundary engine)
  (placed : tree.Placed) (text : tree.TextNames (.ofText directory)) (input : List UInt8)
include plays

theorem opens : tree.isDirectory (.ofText directory) = true :=
  tree.story_there _ story (List.mem_of_getElem? plays.found)

include placed

theorem named : story.fileName = FilePath.display name :=
  let alone := tree.candidate_alone _ placed name plays.candidate
  (alone.loaded story reports plays.loaded).1

section Reordered

variable (other : FileTree) (reordered : tree.Reordered other)
include reordered

theorem reordered_candidate : name ∈ other.candidates (.ofText directory) :=
  (tree.reordered_candidates _ placed other reordered).mem_iff.mpr plays.candidate

theorem reordered_loaded :
    other.loadScenario (FilePath.join (.ofText directory) name) = .ok (story, reports) :=
  (tree.reordered_load placed other reordered _).trans plays.loaded

theorem reordered_offers :
    ∃ again : Nat,
      (other.catalogOfDirectory (.ofText directory)).scenarios[again]? = some story := by
  have opens := (FileTree.is_directory_alike (FileTree.reordered_alike placed reordered)
    (.ofText directory)).trans plays.opens
  have listed := (other.directory_story _ (FileTree.reordered_placed placed reordered) opens
    story).mpr ⟨name, plays.reordered_candidate placed other reordered, reports,
      plays.reordered_loaded placed other reordered⟩
  exact List.mem_iff_getElem?.mp listed

end Reordered

include text

theorem reports_on :
    Agent.reportsOn (tree.catalogOfDirectory (.ofText directory)) story.fileName = reports := by
  rw [plays.named placed,
    tree.directory_reports_on _ placed plays.opens text name plays.candidate, plays.loaded]
  rfl

theorem warnings :
    warningsIn (answer tree input ⟨directory, .agentPlay (index + 1) choices⟩).output =
      reports.map Agent.warningLine := by
  rw [answer_lines tree directory input choices index story boundary engine plays.found
      plays.replayed, warningsIn,
    printed_unlines _ (Agent.arrival_one_line _ story boundary engine.trail),
    Agent.arrival_warnings, plays.reports_on placed text]

theorem warns_only :
    WarnsOnly tree (.ofText directory) name reports
      (answer tree input ⟨directory, .agentPlay (index + 1) choices⟩).output := by
  have own := plays.warnings placed text input
  refine ⟨own, ?_⟩
  intro elsewhere listed apart foreign member told
  have warned := warning_listed _ foreign told
  rw [own] at warned
  obtain ⟨mine, ours, same⟩ := List.mem_map.mp warned
  have here := tree.candidate_reports _ placed name plays.candidate mine (by rwa [plays.loaded])
  have away := tree.candidate_reports _ placed elsewhere listed foreign member
  have file := (here.symm.trans (Agent.warning_line_file mine foreign same)).trans away
  exact apart (tree.candidates_shown _ text name elsewhere plays.candidate listed
    (Option.some.inj file)).symm

theorem reordered_answer (other : FileTree) (reordered : tree.Reordered other) (again : Nat)
    (found : (other.catalogOfDirectory (.ofText directory)).scenarios[again]? = some story) :
    answer other input ⟨directory, .agentPlay (again + 1) choices⟩ =
      answer tree input ⟨directory, .agentPlay (index + 1) choices⟩ := by
  have alsoPlays : Plays other directory choices again name story reports boundary engine :=
    ⟨found, plays.replayed, plays.reordered_candidate placed other reordered,
      plays.reordered_loaded placed other reordered⟩
  have alsoPlaced := FileTree.reordered_placed placed reordered
  have alsoText : other.TextNames (.ofText directory) := fun name entry listed =>
    text name entry
      ((FileTree.reordered_entries_in placed reordered (.ofText directory)).mem_iff.mp listed)
  rw [answer_lines tree directory input choices index story boundary engine plays.found
      plays.replayed,
    answer_lines other directory input choices again story boundary engine found plays.replayed,
    Agent.arrivalLines, Agent.arrivalLines, plays.reports_on placed text,
    alsoPlays.reports_on alsoPlaced alsoText]

end Plays

theorem play_warns_of_its_file (tree : FileTree) (placed : tree.Placed) (directory : String)
    (text : ∀ name entry, (name, entry) ∈ tree.entriesIn (.ofText directory) →
      ∃ text, name = FilePath.ofText text) (input : List UInt8) (number : Nat) (choices : List Nat)
    (played : (answer tree input ⟨directory, .agentPlay number choices⟩).code = 0) :
    let result := answer tree input ⟨directory, .agentPlay number choices⟩
    ∃ name ∈ tree.candidates (.ofText directory), ∃ story reports,
      Agent.scenario? (tree.catalogOfDirectory (.ofText directory)) number = some story ∧
      tree.loadScenario (FilePath.join (.ofText directory) name) = .ok (story, reports) ∧
      name = FilePath.ofText story.fileName ∧
      WarnsOnly tree (.ofText directory) name reports result.output ∧
      ∀ other, tree.Reordered other →
        (∃ again,
          Agent.scenario? (other.catalogOfDirectory (.ofText directory)) again = some story) ∧
        ∀ again,
          Agent.scenario? (other.catalogOfDirectory (.ofText directory)) again = some story →
          answer other input ⟨directory, .agentPlay again choices⟩ = result := by
  intro result
  obtain ⟨index, name, story, reports, boundary, engine, rfl, plays⟩ :=
    answer_plays tree placed directory input choices number played
  have named : name = FilePath.ofText story.fileName := by
    obtain ⟨shown, same⟩ := tree.candidate_text _ text name plays.candidate
    rw [plays.named placed, same, FilePath.display_text]
  refine ⟨name, plays.candidate, story, reports, plays.found, plays.loaded, named,
    plays.warns_only placed text input, ?_⟩
  intro other reordered
  constructor
  · obtain ⟨again, found⟩ := plays.reordered_offers placed other reordered
    exact ⟨again + 1, found⟩
  · intro again chosen
    cases again with
    | zero => cases chosen
    | succ again => exact plays.reordered_answer placed text input other reordered again chosen

def roughText : String := "Rough\nStart->Go:1,Bad:x\nDone\n"

def roughFiles : FileTree where
  home := [FilePath.ofText "home"]
  entries :=
    [([FilePath.ofText "home"], .directory),
      ([FilePath.ofText "home", FilePath.ofText "blank.txt"], .file "".toUTF8),
      ([FilePath.ofText "home", FilePath.ofText "rough.txt"], .file roughText.toUTF8)]

def roughReading : Gamebook.Reading where
  scenario := ⟨"Rough", [⟨"Start", [⟨"Go", 1⟩]⟩, ⟨"Done", []⟩]⟩
  diagnostics :=
    [{ kind := .malformedOption, file := some "rough.txt", line := some 2,
       reason := "Invalid number format in options: Bad:x" }]

def roughStory : Story := ⟨"scenario-file:/home/rough.txt", "rough.txt", roughReading.scenario⟩

theorem rough_names : ∀ name ∈ [FilePath.ofText "blank.txt", FilePath.ofText "rough.txt"],
    FilePath.IsName name ∧ (FilePath.join FilePath.here name).length < FileTree.pathLimit := by
  decide

theorem rough_placed : roughFiles.Placed := by
  refine ⟨?_, ?_, ?_, ?_⟩ <;> decide

theorem rough_loads :
    roughFiles.loadScenario (FilePath.join FilePath.here (.ofText "rough.txt")) =
      .ok (roughStory, roughReading.diagnostics) := by
  obtain ⟨named, short⟩ := rough_names (FilePath.ofText "rough.txt") (by decide)
  have read : Scenario.ofText "rough.txt" roughText = .ok roughReading := by decide +kernel
  have id : "scenario-file:" ++ FilePath.display (FilePath.ofPlace
      (roughFiles.home ++ [FilePath.ofText "rough.txt"])) = roughStory.id := by
    decide
  rw [roughFiles.here_loads "rough.txt" roughText named rfl rfl short _ read, id]
  rfl

theorem rough_listed :
    roughFiles.entriesIn FilePath.here =
      [(FilePath.ofText "blank.txt", .file "".toUTF8),
        (FilePath.ofText "rough.txt", .file roughText.toUTF8)] := by
  rw [FileTree.entries_in_place roughFiles _ _ (roughFiles.here_resolved rfl)]
  rfl

theorem rough_story :
    (roughFiles.catalogOfDirectory FilePath.here).scenarios = [roughStory] := by
  have opens : roughFiles.isDirectory FilePath.here = true := by
    have short : FilePath.here.length < FileTree.pathLimit := by decide
    rw [FileTree.isDirectory, FileTree.entry?, if_pos short, roughFiles.here_resolved rfl]
    rfl
  have candidates : roughFiles.candidates FilePath.here =
      [FilePath.ofText "blank.txt", FilePath.ofText "rough.txt"] := by
    rw [FileTree.candidates, rough_listed, List.filter_cons_of_pos (by decide +kernel),
      List.filter_cons_of_pos (by decide +kernel)]
    rfl
  obtain ⟨refused, blank⟩ : ∃ refused,
      roughFiles.loadScenario (FilePath.join FilePath.here (.ofText "blank.txt")) =
        .error refused := by
    obtain ⟨named, short⟩ := rough_names (FilePath.ofText "blank.txt") (by decide)
    have held := (roughFiles.here_file rfl _ named _ rfl short).2
    exact ⟨_, roughFiles.load_empty _ (roughFiles.file_text _ "" held)⟩
  rw [roughFiles.opened_gathered FilePath.here rough_placed opens, FileTree.loadings, candidates,
    List.map_cons, List.map_cons, blank, rough_loads]
  rfl

theorem rough_warned :
    roughFiles.Placed ∧
      (∀ name entry, (name, entry) ∈ roughFiles.entriesIn (.ofText ".") →
        ∃ text, name = FilePath.ofText text) ∧
      (answer roughFiles [] ⟨".", .agentPlay 1 []⟩).code = 0 ∧
      warningsIn (answer roughFiles [] ⟨".", .agentPlay 1 []⟩).output =
        roughReading.diagnostics.map Agent.warningLine := by
  have here : FilePath.ofText "." = FilePath.here := by decide
  have found : (roughFiles.catalogOfDirectory (.ofText ".")).scenarios[0]? = some roughStory := by
    rw [here, rough_story]
    rfl
  have text : ∀ name entry, (name, entry) ∈ roughFiles.entriesIn (.ofText ".") →
      ∃ text, name = FilePath.ofText text := by
    rw [here, rough_listed]
    intro name entry listed
    simp only [List.mem_cons, Prod.mk.injEq, List.not_mem_nil, or_false] at listed
    rcases listed with ⟨rfl, _⟩ | ⟨rfl, _⟩
    · exact ⟨"blank.txt", rfl⟩
    · exact ⟨"rough.txt", rfl⟩
  have played : (answer roughFiles [] ⟨".", .agentPlay 1 []⟩).code = 0 := by
    rw [answer_lines roughFiles "." [] [] 0 roughStory _ _ found rfl]
  obtain ⟨name, _, story, reports, chosen, loaded, named, warnings, _⟩ :=
    play_warns_of_its_file roughFiles rough_placed "." text [] 1 [] played
  obtain rfl : roughStory = story := Option.some.inj (found.symm.trans chosen)
  rw [named, here] at loaded
  have same := rough_loads.symm.trans loaded
  rw [Except.ok.injEq, Prod.mk.injEq] at same
  exact ⟨rough_placed, text, played, same.2 ▸ warnings.own⟩

end CommandLine

end Gamebook
