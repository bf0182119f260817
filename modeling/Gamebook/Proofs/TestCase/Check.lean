import Gamebook.Proofs.Catalog.Undisturbed
import Gamebook.Proofs.TestCase.Run
import Gamebook.Proofs.Wire.RoundTrip

set_option autoImplicit false

namespace Gamebook.TestCase

structure PartsAt (first second : List TestCase.Event) (place : Nat)
    (one other : TestCase.Event) : Prop where
  left : first[place]? = some one
  right : second[place]? = some other
  apart : one ≠ other
  before : ∀ earlier < place, first[earlier]? = second[earlier]?

section FirstDifference

variable (head other : TestCase.Event) (first second : List TestCase.Event)

theorem parts_at_start (apart : head ≠ other) :
    PartsAt (head :: first) (other :: second) 0 head other :=
  ⟨rfl, rfl, apart, fun _ earlier => absurd earlier (Nat.not_lt_zero _)⟩

theorem parts_later (place : Nat) (one two : TestCase.Event)
    (parts : PartsAt first second place one two) :
    PartsAt (head :: first) (head :: second) (place + 1) one two := by
  refine ⟨parts.left, parts.right, parts.apart, ?_⟩
  intro earlier less
  cases earlier with
  | zero => rfl
  | succ earlier => exact parts.before earlier (Nat.lt_of_succ_lt_succ less)

theorem first_difference_parts (index place : Nat) (one two : TestCase.Event)
    (found : firstDifference index first second = some (place, one, two)) :
    ∃ offset, place = index + offset ∧ PartsAt first second offset one two := by
  induction first generalizing index second with
  | nil => cases found
  | cons head rest ih =>
    cases second with
    | nil => cases found
    | cons other others =>
      rw [firstDifference] at found
      by_cases same : head = other
      · subst same
        rw [if_pos rfl] at found
        obtain ⟨offset, rfl, parts⟩ := ih others (index + 1) found
        exact ⟨offset + 1, by omega, parts_later head rest others offset one two parts⟩
      · rw [if_neg same] at found
        cases found
        exact ⟨0, rfl, parts_at_start _ _ rest others same⟩

theorem parts_unique (place later : Nat) (one two three four : TestCase.Event)
    (here : PartsAt first second place one two) (there : PartsAt first second later three four) :
    place = later ∧ one = three ∧ two = four := by
  have parted : first[place]? ≠ second[place]? := by
    rw [here.left, here.right]
    exact fun same => here.apart (Option.some.inj same)
  have alsoParted : first[later]? ≠ second[later]? := by
    rw [there.left, there.right]
    exact fun same => there.apart (Option.some.inj same)
  obtain less | rfl | less := Nat.lt_trichotomy place later
  · exact absurd (there.before place less) parted
  · exact ⟨rfl, Option.some.inj (here.left.symm.trans there.left),
      Option.some.inj (here.right.symm.trans there.right)⟩
  · exact absurd (here.before later less) alsoParted

theorem first_difference_none (index : Nat) (length : second.length = first.length) :
    firstDifference index first second = none ↔ second = first := by
  induction first generalizing index second with
  | nil =>
    obtain rfl := List.eq_nil_of_length_eq_zero length
    exact ⟨fun _ => rfl, fun _ => rfl⟩
  | cons head rest ih =>
    cases second with
    | nil => cases length
    | cons other others =>
      rw [firstDifference]
      by_cases same : head = other
      · subst same
        rw [if_pos rfl, ih others (index + 1) (Nat.succ.inj length), List.cons.injEq]
        exact ⟨fun rest => ⟨rfl, rest⟩, And.right⟩
      · rw [if_neg same]
        refine ⟨fun found => absurd found (Option.some_ne_none _), ?_⟩
        intro equal
        exact absurd (List.cons.inj equal).1.symm same

end FirstDifference

structure Judged (test : TestCase) (report : TestCase.Report)
    (verdict : Except TestCase.Error Unit) : Prop where
  accepted : verdict = .ok () ↔
    report.diagnostics = test.expectedDiagnostics ∧ report.events = test.expectedEvents
  diagnostics : ∀ expected observed,
    verdict = .error (.diagnostics expected observed) ↔
      report.diagnostics ≠ test.expectedDiagnostics ∧
        expected = test.expectedDiagnostics ∧ observed = report.diagnostics
  eventCount : ∀ expected observed,
    verdict = .error (.eventCount expected observed) ↔
      report.diagnostics = test.expectedDiagnostics ∧
        report.events.length ≠ test.expectedEvents.length ∧
        expected = test.expectedEvents.length ∧ observed = report.events
  event : (∃ place expected observed, verdict = .error (.event place expected observed)) ↔
    report.diagnostics = test.expectedDiagnostics ∧
      report.events.length = test.expectedEvents.length ∧ report.events ≠ test.expectedEvents
  pointed : ∀ place expected observed, verdict = .error (.event place expected observed) →
    PartsAt test.expectedEvents report.events place expected observed

theorem compare_judges (test : TestCase) (report : TestCase.Report) :
    Judged test report (test.compare report) := by
  rw [compare]
  by_cases kinds : report.diagnostics = test.expectedDiagnostics
  · rw [if_neg (not_not_intro kinds)]
    by_cases length : report.events.length = test.expectedEvents.length
    · rw [if_neg (not_not_intro length)]
      have agree := first_difference_none test.expectedEvents report.events 0 length
      cases found : firstDifference 0 test.expectedEvents report.events with
      | none =>
        have same := agree.mp found
        constructor <;> simp [kinds, same]
      | some difference =>
        obtain ⟨place, expected, observed⟩ := difference
        have differ : report.events ≠ test.expectedEvents := by
          intro same
          rw [agree.mpr same] at found
          cases found
        obtain ⟨offset, rfl, parts⟩ := first_difference_parts _ _ 0 place expected observed found
        rw [Nat.zero_add]
        constructor
        case pointed =>
          intro place expected observed same
          cases same
          exact parts
        all_goals simp [kinds, length, differ]
    · rw [if_pos length]
      have differ : report.events ≠ test.expectedEvents := fun same => length (same ▸ rfl)
      constructor <;> simp [kinds, length, differ, eq_comm]
  · rw [if_pos kinds]
    constructor <;> simp [kinds, eq_comm]

def recorded (test : TestCase) (report : TestCase.Report) : TestCase :=
  { test with expectedEvents := report.events, expectedDiagnostics := report.diagnostics }

section Files

variable (tree : FileTree) (directory path : FilePath) (text : String) (test : TestCase)

theorem loaded_from (content : tree.readText? path = some text) (read : Wire.read? text = some test)
    (current : test.schemaVersion = currentSchema) : load tree path = .ok test := by
  simp only [load, content, read, if_pos current]

theorem check_loaded (loaded : load tree path = .ok test) :
    check tree directory path = (run tree directory test).bind test.compare := by
  rw [check, loaded]
  rfl

section Loaded

variable (loaded : load tree path = .ok test)
include loaded

theorem check_ran (report : TestCase.Report) (ran : run tree directory test = .ok report) :
    check tree directory path = test.compare report := by
  rw [check_loaded tree directory path test loaded, ran]
  rfl

theorem check_failed (error : TestCase.Error) (failed : run tree directory test = .error error) :
    check tree directory path = .error error := by
  rw [check_loaded tree directory path test loaded, failed]
  rfl

theorem check_accepts_iff :
    check tree directory path = .ok () ↔
      ∃ report, run tree directory test = .ok report ∧
        report.diagnostics = test.expectedDiagnostics ∧ report.events = test.expectedEvents := by
  cases ran : run tree directory test with
  | error error =>
    rw [check_failed tree directory path test loaded error ran]
    constructor
    · intro accepted
      cases accepted
    · rintro ⟨report, same, -⟩
      cases same
  | ok report =>
    rw [check_ran tree directory path test loaded report ran, (compare_judges test report).accepted]
    constructor
    · exact fun agree => ⟨report, rfl, agree⟩
    · rintro ⟨other, same, agree⟩
      cases same
      exact agree

end Loaded

theorem run_kept (other : FileTree)
    (kept : other.loadScenario (FilePath.join directory (.ofText test.scenarioFile)) =
      tree.loadScenario (FilePath.join directory (.ofText test.scenarioFile))) :
    run other directory test = run tree directory test := by
  delta run
  simp only [kept]

theorem recorded_accepted (report : TestCase.Report) :
    (test.recorded report).compare report = .ok () :=
  (compare_judges _ report).accepted.mpr ⟨rfl, rfl⟩

theorem saved_read (fits : test.Fits) : Wire.read? (Wire.write test) = some test :=
  (Wire.read_write test).trans (Wire.test_case_reads_back 0 test fits (by decide))

theorem saved_accepted (current : test.schemaVersion = currentSchema) (fits : test.Fits)
    (report : TestCase.Report) (ran : run tree directory test = .ok report) (saved : FileTree)
    (content : saved.readText? path = some (Wire.write (test.recorded report)))
    (kept : saved.loadScenario (FilePath.join directory (.ofText test.scenarioFile)) =
      tree.loadScenario (FilePath.join directory (.ofText test.scenarioFile))) :
    check saved directory path = .ok () := by
  have loaded := loaded_from saved path _ _ content (saved_read (test.recorded report) fits) current
  have rerun : run saved directory (test.recorded report) = .ok report :=
    (run_kept tree directory test saved kept).trans ran
  rw [check_ran saved directory path _ loaded report rerun]
  exact recorded_accepted test report

theorem overwritten_text (place : Place) (old : ByteArray) (written : String)
    (resolved : tree.resolve? path = some place) (held : tree.entry? path = some (.file old)) :
    (tree.overwrite place written.toUTF8).readText? path = some written := by
  unfold FileTree.entry? at held
  by_cases short : path.length < FileTree.pathLimit
  · rw [if_pos short, resolved, Option.bind_some] at held
    have alsoResolved := FileTree.resolve_alike (tree.overwritten_alike place written.toUTF8) path
    apply FileTree.file_text
    unfold FileTree.entry?
    rw [if_pos short, alsoResolved, resolved, Option.bind_some,
      tree.overwritten_file place written.toUTF8 old held]
  · rw [if_neg short] at held
    cases held

end Files

-- The indices of actions are machine words, as they are in every case that was read from a file.
theorem check_points_at_first_difference (tree : FileTree) (directory path : FilePath)
    (test : TestCase) (current : test.schemaVersion = currentSchema) :
    (∀ text, tree.readText? path = some text → Wire.read? text = some test →
      (check tree directory path = .ok () ↔
        ∃ report, run tree directory test = .ok report ∧
          report.diagnostics = test.expectedDiagnostics ∧ report.events = test.expectedEvents) ∧
      (∀ error, run tree directory test = .error error →
        check tree directory path = .error error) ∧
      ∀ report, run tree directory test = .ok report →
        Judged test report (check tree directory path)) ∧
    (test.Fits → ∀ report, run tree directory test = .ok report →
      (∀ saved : FileTree,
        saved.readText? path = some (Wire.write (test.recorded report)) →
        saved.loadScenario (FilePath.join directory (.ofText test.scenarioFile)) =
          tree.loadScenario (FilePath.join directory (.ofText test.scenarioFile)) →
        check saved directory path = .ok ()) ∧
      ∀ place old, tree.resolve? path = some place → tree.entry? path = some (.file old) →
        tree.resolve? (FilePath.join directory (.ofText test.scenarioFile)) ≠ some place →
        check (tree.overwrite place (Wire.write (test.recorded report)).toUTF8) directory path =
          .ok ()) := by
  constructor
  · intro text content read
    have loaded := loaded_from tree path text test content read current
    refine ⟨check_accepts_iff tree directory path test loaded,
      check_failed tree directory path test loaded, ?_⟩
    intro report ran
    rw [check_ran tree directory path test loaded report ran]
    exact compare_judges test report
  · intro fits report ran
    have accepted := saved_accepted tree directory path test current fits report ran
    refine ⟨accepted, ?_⟩
    intro place old resolved held elsewhere
    apply accepted
    · exact overwritten_text tree path place old _ resolved held
    · exact tree.overwritten_load place _ _ elsewhere

def misjudged : TestCase where
  schemaVersion := currentSchema
  scenarioFile := "manor.txt"
  actions := [.choose 1]
  expectedEvents :=
    [.text "Gate", .choices ["Enter", "Leave"], .text "Inside", .ending "TERMINAL_BRANCH"]

def misjudgedPlace : Place := [FilePath.ofText "home", FilePath.ofText "case.json"]

def misjudgedFiles : FileTree :=
  manorBeside [(misjudgedPlace, .file (Wire.write misjudged).toUTF8)]

def misjudgedPath : FilePath := FilePath.join FilePath.here (FilePath.ofText "case.json")

theorem misjudged_held :
    misjudgedFiles.resolve? misjudgedPath = some misjudgedPlace ∧
      misjudgedFiles.entry? misjudgedPath = some (.file (Wire.write misjudged).toUTF8) := by
  have named : FilePath.IsName (FilePath.ofText "case.json") := by decide
  have short : misjudgedPath.length < FileTree.pathLimit := by decide
  exact misjudgedFiles.here_file rfl _ named _ rfl short

def leavingEvents : List TestCase.Event :=
  [.text "Gate", .choices ["Enter", "Leave"], .text "Away", .ending "TERMINAL_BRANCH"]

theorem misjudged_ran :
    run misjudgedFiles FilePath.here misjudged = .ok ⟨leavingEvents, [], 1⟩ := by
  have loads : misjudgedFiles.loadScenario
      (FilePath.join FilePath.here (.ofText misjudged.scenarioFile)) = .ok (.manor, []) :=
    manor_beside_loads _
  have actions : misjudged.actions = [.choose 1] := rfl
  have engine : runEngine 1 stepLimit (.start Story.manor.scenario) [.choose 1] 0 0 =
      .ok (leavingEvents, 1) := by rfl
  rw [run_loaded misjudgedFiles FilePath.here misjudged .manor [] loads, actions,
    List.length_singleton, engine]
  rfl

theorem misjudged_fits : misjudged.Fits := by
  intro action listed
  obtain rfl := List.mem_singleton.mp listed
  exact (by decide : 1 < Text.Decimal.wordBound)

theorem misjudged_parts_inside :
    check misjudgedFiles FilePath.here misjudgedPath =
        .error (.event 2 (.text "Inside") (.text "Away")) ∧
      ∃ report, run misjudgedFiles FilePath.here misjudged = .ok report ∧
        check
          (misjudgedFiles.overwrite misjudgedPlace
            (Wire.write (misjudged.recorded report)).toUTF8) FilePath.here misjudgedPath =
          .ok () := by
  obtain ⟨place, held⟩ := misjudged_held
  obtain ⟨judge, accept⟩ :=
    check_points_at_first_difference misjudgedFiles FilePath.here misjudgedPath misjudged rfl
  constructor
  · have content := misjudgedFiles.file_text _ (Wire.write misjudged) held
    have judged := (judge _ content (saved_read misjudged misjudged_fits)).2.2 _ misjudged_ran
    obtain ⟨index, expected, observed, found⟩ := judged.event.mpr ⟨rfl, rfl, by decide⟩
    have inside :
        PartsAt misjudged.expectedEvents leavingEvents 2 (.text "Inside") (.text "Away") :=
      ⟨rfl, rfl, by decide, by decide⟩
    obtain ⟨rfl, rfl, rfl⟩ := parts_unique _ _ _ _ _ _ _ _ inside
      (judged.pointed index expected observed found)
    exact found
  · have elsewhere : misjudgedFiles.resolve?
        (FilePath.join FilePath.here (.ofText misjudged.scenarioFile)) ≠ some misjudgedPlace := by
      have there : misjudgedFiles.resolve?
          (FilePath.join FilePath.here (.ofText misjudged.scenarioFile)) =
            some [FilePath.ofText "home", FilePath.ofText "manor.txt"] := manor_beside_file _
      rw [there]
      decide
    exact ⟨_, misjudged_ran, (accept misjudged_fits _ misjudged_ran).2 _ _ place held elsewhere⟩

end Gamebook.TestCase
