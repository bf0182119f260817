import Mathlib.Data.List.Induction
import Gamebook.CommandLine
import Gamebook.Proofs.Boundary.Advance
import Gamebook.Proofs.Boundary.Lines

set_option autoImplicit false

namespace Gamebook

namespace Scenario

def Takes (scenario : Scenario) (position : Int) (number : Nat) : Prop :=
  ∃ branch, scenario.branch? position = some branch ∧ 1 ≤ number ∧ number ≤ branch.choices.length

def Offered (scenario : Scenario) (before : List Nat) (number : Nat) : Prop :=
  ∃ position, scenario.Reaches 0 (before.map (· - 1)) position ∧ scenario.Takes position number

def Playable (scenario : Scenario) (choices : List Nat) : Prop :=
  ∀ before number rest, choices = before ++ number :: rest → scenario.Offered before number

theorem takes_leads (scenario : Scenario) (position : Int) (number : Nat) :
    scenario.Takes position number ↔
      ∃ pick next, number = pick + 1 ∧ scenario.Leads position pick next := by
  constructor
  · rintro ⟨branch, found, counted, within⟩
    obtain ⟨pick, rfl⟩ := Nat.exists_eq_add_of_le' counted
    exact ⟨pick, _, rfl, branch, _, found, List.getElem?_eq_getElem within, rfl⟩
  · rintro ⟨pick, next, rfl, branch, choice, found, taken, _⟩
    have within := (List.getElem?_eq_some_iff.mp taken).1
    exact ⟨branch, found, Nat.le_add_left 1 pick, within⟩

theorem takes_listed (scenario : Scenario) (position : Int) (number : Nat) :
    scenario.Takes position number ↔
      ∃ index label, (index, label) ∈ (scenario.boundaryAt position).choices ∧
        number = index + 1 := by
  rw [takes_leads, boundaryAt]
  constructor
  · rintro ⟨pick, next, rfl, leads⟩
    rw [scenario.leads_on position pick next leads]
    obtain ⟨item, listed, _⟩ := (scenario.leads_menu position pick next).mp leads
    have place := menu_index scenario position pick item listed
    exact ⟨pick, item.label,
      List.mem_map.mpr ⟨item, List.mem_of_getElem? listed, by rw [place]⟩, rfl⟩
  · rintro ⟨index, label, offered, rfl⟩
    cases ends : scenario.endingAt position with
    | some reason => simp [ends, Boundary.ofEnding] at offered
    | none =>
      simp only [ends, Boundary.ofMenu, List.mem_map, Prod.mk.injEq] at offered
      obtain ⟨item, member, rfl, _⟩ := offered
      obtain ⟨pick, listed⟩ := List.mem_iff_getElem?.mp member
      rw [menu_index scenario position pick item listed]
      exact ⟨pick, _, rfl, (scenario.leads_menu position pick _).mpr ⟨item, listed, rfl⟩⟩

theorem picks_of_numbers (picks : List Nat) : (picks.map (· + 1)).map (· - 1) = picks := by
  rw [List.map_map]
  exact List.map_id picks

theorem reaches_playable (scenario : Scenario) (picks : List Nat) (position : Int)
    (reached : scenario.Reaches 0 picks position) : scenario.Playable (picks.map (· + 1)) := by
  induction reached with
  | start =>
    intro before number rest split
    simp at split
  | onward picks position pick next reached leads ih =>
    intro before number rest split
    rw [List.map_append] at split
    rcases List.eq_nil_or_concat rest with rfl | ⟨others, last, rfl⟩
    · obtain ⟨rfl, same⟩ := List.append_inj' split rfl
      obtain rfl : pick + 1 = number := by simpa using same
      refine ⟨position, ?_, (takes_leads scenario position _).mpr ⟨pick, next, rfl, leads⟩⟩
      rw [picks_of_numbers]
      exact reached
    · have joined : picks.map (· + 1) ++ [pick + 1] = (before ++ number :: others) ++ [last] := by
        simpa using split
      exact ih before number others (List.append_inj' joined rfl).1

-- Numbers that are all taken, as picks that lead to a position; or the first one that is not.
theorem numbers_decided (scenario : Scenario) (choices : List Nat) :
    (∃ picks position, choices = picks.map (· + 1) ∧ scenario.Reaches 0 picks position) ∨
      ∃ picks position number rest, choices = picks.map (· + 1) ++ number :: rest ∧
        scenario.Reaches 0 picks position ∧ ¬ scenario.Takes position number := by
  induction choices using List.reverseRecOn with
  | nil => exact .inl ⟨[], 0, rfl, .start⟩
  | append_singleton choices choice ih =>
    rcases ih with ⟨picks, position, rfl, reached⟩ | ⟨picks, position, number, rest, rfl, stopped⟩
    · by_cases taken : scenario.Takes position choice
      · obtain ⟨pick, next, rfl, leads⟩ := (takes_leads scenario position choice).mp taken
        exact .inl ⟨picks ++ [pick], next, by rw [List.map_append]; rfl,
          .onward picks position pick next reached leads⟩
      · exact .inr ⟨picks, position, choice, [], rfl, reached, taken⟩
    · exact .inr ⟨picks, position, number, rest ++ [choice], by simp, stopped⟩

theorem stopped_unoffered (scenario : Scenario) (picks : List Nat) (position : Int)
    (reached : scenario.Reaches 0 picks position) (number : Nat)
    (stopped : ¬ scenario.Takes position number) :
    ¬ scenario.Offered (picks.map (· + 1)) number := by
  rintro ⟨other, again, taken⟩
  rw [picks_of_numbers] at again
  obtain rfl := scenario.reaches_unique 0 picks position other reached again
  exact stopped taken

end Scenario

namespace Agent

-- Why a number is not taken: the story was over, or no menu begins at 0, or none goes so far.
def refusal (used total : Nat) : Option Ending → Nat → Error
  | some _, _ => .unusedChoices used total
  | none, 0 => .choiceZero
  | none, index + 1 => .choice (.outOfRange index)

inductive Refused (used total : Nat) : Option Ending → Nat → Failure → Prop where
  | over (reason : Ending) (number : Nat) :
      Refused used total (some reason) number
        ⟨"CLI_UNUSED_CHOICES",
          "Scenario ended after " ++ toString used ++ " of " ++ toString total ++ " choices."⟩
  | zero : Refused used total none 0 ⟨"CLI_CHOICE_INDEX", "Choices are numbered from 1."⟩
  | beyond (index : Nat) :
      Refused used total none (index + 1)
        ⟨"ENGINE_CHOICE_INDEX", "Choice index \"" ++ toString index ++ "\" is out of range."⟩

theorem refusal_refused (used total : Nat) (ends : Option Ending) (number : Nat) :
    Refused used total ends number (refusal used total ends number).failure := by
  match ends, number with
  | some reason, number => exact .over reason number
  | none, 0 => exact .zero
  | none, index + 1 => exact .beyond index

section Replay

variable (scenario : Scenario) (total used : Nat) (picks : List Nat) (position : Int)

theorem replay_led (pick : Nat) (next : Int) (rest : List Nat)
    (reached : scenario.Reaches 0 picks position) (leads : scenario.Leads position pick next) :
    replayFrom total used (scenario.boundaryAt position)
        (.settled scenario position (scenario.walk picks).visited) ((pick + 1) :: rest) =
      replayFrom total (used + 1) (scenario.boundaryAt next)
        (.settled scenario next (scenario.walk (picks ++ [pick])).visited) rest := by
  have goes := scenario.leads_on position pick next leads
  have waits := scenario.boundary_waits position goes
  have taken :=
    Engine.choose_settled scenario position (scenario.walk picks).visited pick next leads
  have onward := Engine.advance_chosen scenario picks position pick next reached leads
  rw [replayFrom.eq_def]
  simp only [if_neg waits, taken, onward]

theorem replay_refused (visited : List Nat) (number : Nat) (rest : List Nat)
    (stopped : ¬ scenario.Takes position number) :
    replayFrom total used (scenario.boundaryAt position) (.settled scenario position visited)
        (number :: rest) =
      .error (refusal used total (scenario.endingAt position) number) := by
  rw [replayFrom.eq_def]
  cases ends : scenario.endingAt position with
  | some reason => simp [Scenario.boundaryAt, ends, Boundary.ofEnding, refusal]
  | none =>
    simp only [if_neg (scenario.boundary_waits position ends)]
    cases number with
    | zero => rfl
    | succ index =>
      have absent : (scenario.menuAt position)[index]? = none := by
        cases listed : (scenario.menuAt position)[index]? with
        | none => rfl
        | some item =>
          have leads := (scenario.leads_menu position index _).mpr ⟨item, listed, rfl⟩
          exact absurd ((scenario.takes_leads position _).mpr ⟨index, _, rfl, leads⟩) stopped
      simp only [Engine.choose_unlisted scenario position visited index ends absent, refusal]

theorem replay_reached (reached : scenario.Reaches 0 picks position) (rest : List Nat) :
    replayFrom total 0 (scenario.boundaryAt 0) (.settled scenario 0 (scenario.walk []).visited)
        (picks.map (· + 1) ++ rest) =
      replayFrom total picks.length (scenario.boundaryAt position)
        (.settled scenario position (scenario.walk picks).visited) rest := by
  induction reached generalizing rest with
  | start => rfl
  | onward picks position pick next reached leads ih =>
    have split : (picks ++ [pick]).map (· + 1) ++ rest =
        picks.map (· + 1) ++ ((pick + 1) :: rest) := by simp
    have led := replay_led scenario total picks.length picks position pick next rest reached leads
    rw [split, ih, led, List.length_append, List.length_singleton]

theorem replay_taken (reached : scenario.Reaches 0 picks position) :
    replay scenario (picks.map (· + 1)) =
      .ok (scenario.boundaryAt position,
        .settled scenario position (scenario.walk picks).visited) := by
  have whole := replay_reached scenario (picks.map (· + 1)).length picks position reached []
  rw [List.append_nil] at whole
  rw [replay, Engine.advance_start]
  exact whole

theorem replay_stopped (reached : scenario.Reaches 0 picks position) (number : Nat)
    (rest : List Nat) (stopped : ¬ scenario.Takes position number) :
    replay scenario (picks.map (· + 1) ++ number :: rest) =
      .error (refusal picks.length (picks.map (· + 1) ++ number :: rest).length
        (scenario.endingAt position) number) := by
  rw [replay, Engine.advance_start]
  exact (replay_reached scenario _ picks position reached (number :: rest)).trans
    (replay_refused scenario _ picks.length position _ number rest stopped)

theorem replay_succeeds (choices : List Nat) :
    (∃ reached, replay scenario choices = .ok reached) ↔ scenario.Playable choices := by
  rcases scenario.numbers_decided choices with ⟨picks, position, rfl, reached⟩ |
    ⟨picks, position, number, rest, rfl, reached, stopped⟩
  · have played := scenario.reaches_playable picks position reached
    exact ⟨fun _ => played, fun _ => ⟨_, replay_taken scenario picks position reached⟩⟩
  · have unplayable := scenario.stopped_unoffered picks position reached number stopped
    constructor
    · rintro ⟨_, replayed⟩
      rw [replay_stopped scenario picks position reached number rest stopped] at replayed
      cases replayed
    · intro played
      exact absurd (played _ number rest rfl) unplayable

theorem replay_playable (choices : List Nat) (reached : Boundary × Engine)
    (replayed : replay scenario choices = .ok reached) :
    ∃ position, scenario.Reaches 0 (choices.map (· - 1)) position ∧
      choices = (choices.map (· - 1)).map (· + 1) := by
  rcases scenario.numbers_decided choices with ⟨picks, position, rfl, arrived⟩ |
    ⟨picks, position, number, rest, rfl, arrived, stopped⟩
  · rw [Scenario.picks_of_numbers]
    exact ⟨position, arrived, rfl⟩
  · rw [replay_stopped scenario picks position arrived number rest stopped] at replayed
    cases replayed

theorem replay_fails (choices : List Nat) (error : Error)
    (replayed : replay scenario choices = .error error) :
    ∃ before number rest position, choices = before ++ number :: rest ∧
      scenario.Playable before ∧ ¬ scenario.Offered before number ∧
      scenario.Reaches 0 (before.map (· - 1)) position ∧
      error = refusal before.length choices.length (scenario.endingAt position) number := by
  rcases scenario.numbers_decided choices with ⟨picks, position, rfl, reached⟩ |
    ⟨picks, position, number, rest, rfl, reached, stopped⟩
  · rw [replay_taken scenario picks position reached] at replayed
    cases replayed
  · rw [replay_stopped scenario picks position reached number rest stopped] at replayed
    refine ⟨picks.map (· + 1), number, rest, position, rfl,
      scenario.reaches_playable picks position reached,
      scenario.stopped_unoffered picks position reached number stopped, ?_, ?_⟩
    · rw [Scenario.picks_of_numbers]
      exact reached
    · rw [List.length_map]
      exact (Except.error.inj replayed).symm

theorem replay_more (reached : scenario.Reaches 0 picks position) (number : Nat) :
    (∃ more, replay scenario (picks.map (· + 1) ++ [number]) = .ok more) ↔
      scenario.Takes position number := by
  constructor
  · rintro ⟨more, replayed⟩
    refine Classical.byContradiction ?_
    intro stopped
    rw [replay_stopped scenario picks position reached number [] stopped] at replayed
    cases replayed
  · intro taken
    obtain ⟨pick, next, rfl, leads⟩ := (scenario.takes_leads position number).mp taken
    have onward := Scenario.Reaches.onward picks position pick next reached leads
    have taken := replay_taken scenario (picks ++ [pick]) next onward
    rw [List.map_append] at taken
    exact ⟨_, taken⟩

end Replay

def arrivalLines (catalog : Catalog) (story : Story) (boundary : Boundary) (trail : List Nat) :
    List String :=
  (reportsOn catalog story.fileName).map warningLine ++ ["SCENARIO_ID:" ++ Json.quoted story.id] ++
    boundary.lines trail

theorem warning_line_chars (found : Diagnostic) :
    (warningLine found).toList = "WARNING_JSON:".toList ++ (Wire.write found).toList :=
  String.toList_append

theorem warning_line_kind (found : Diagnostic) :
    lineKind (warningLine found) = "WARNING_JSON".toList :=
  kind_of_line _ (Wire.write found) (by decide) _ (by simp [warning_line_chars])

theorem id_line_kind (id : String) :
    lineKind ("SCENARIO_ID:" ++ Json.quoted id) = "SCENARIO_ID".toList :=
  kind_of_line _ (Json.quoted id) (by decide) _ (by simp)

theorem arrival_choice (catalog : Catalog) (story : Story) (boundary : Boundary) (trail : List Nat)
    (number : Nat) (text : String) :
    "CHOICE:" ++ toString number ++ "|" ++ text ∈ arrivalLines catalog story boundary trail ↔
      "CHOICE:" ++ toString number ++ "|" ++ text ∈ boundary.lines trail := by
  have kind := choice_line_kind number text
  rw [arrivalLines, List.mem_append, List.mem_append]
  constructor
  · rintro ((warned | named) | printed)
    · obtain ⟨report, _, same⟩ := List.mem_map.mp warned
      rw [← same, warning_line_kind] at kind
      exact absurd kind (by decide)
    · rw [List.mem_singleton.mp named, id_line_kind] at kind
      exact absurd kind (by decide)
    · exact printed
  · exact .inr

inductive Told (texts : List String) (trail : List Nat) : Boundary → List String → Prop where
  | choices (items : List MenuItem) :
      Told texts trail (.ofMenu texts items)
        (["RESULT:OK", "EVENT:CHOICES"] ++
          texts.map (fun text => "TEXT_JSON:" ++ Json.quoted text) ++
          items.map (fun item =>
            "CHOICE:" ++ toString (item.index + 1) ++ "|" ++ Json.quoted item.label) ++
          ["TRAIL:" ++ ",".intercalate (trail.map fun index => toString index)])
  | ending (reason : Ending) :
      Told texts trail (.ofEnding texts reason)
        (["RESULT:OK", "EVENT:END"] ++ texts.map (fun text => "TEXT_JSON:" ++ Json.quoted text) ++
          ["END_REASON:" ++
            match reason with
            | .terminalBranch _ => "TERMINAL_BRANCH"
            | .outOfRange _ => "OUT_OF_RANGE"
            | .noBranches => "NO_BRANCHES"] ++
          ["TRAIL:" ++ ",".intercalate (trail.map fun index => toString index)])

theorem menu_told (texts : List String) (items : List MenuItem) (trail : List Nat) :
    Told texts trail (.ofMenu texts items) ((Boundary.ofMenu texts items).lines trail) := by
  have told : Told texts trail (.ofMenu texts items) _ := .choices items
  simpa [Boundary.lines, Boundary.ofMenu, okLine, Halt.line, choiceLine, trailLine,
    Function.comp_def] using told

theorem ending_told (texts : List String) (reason : Ending) (trail : List Nat) :
    Told texts trail (.ofEnding texts reason) ((Boundary.ofEnding texts reason).lines trail) := by
  have told : Told texts trail (.ofEnding texts reason) _ := .ending reason
  cases reason <;> simpa [Boundary.lines, Boundary.ofEnding, okLine, Halt.line, trailLine,
    Ending.code] using told

theorem lines_told (scenario : Scenario) (position : Int) (trail : List Nat) :
    Told (scenario.boundaryAt position).texts trail (scenario.boundaryAt position)
      ((scenario.boundaryAt position).lines trail) := by
  rw [Scenario.boundary_texts, Scenario.boundaryAt]
  cases scenario.endingAt position with
  | none => exact menu_told _ _ trail
  | some reason => exact ending_told _ reason trail

structure Arrives (catalog : Catalog) (story : Story) (picks : List Nat) (lines : List String)
    (boundary : Boundary) (engine : Engine) : Prop where
  followed : Engine.follow story.scenario picks = .ok (boundary, engine)
  printed : ∃ told, Told boundary.texts engine.trail boundary told ∧
    lines = (catalog.diagnostics.filter (·.file = some story.fileName)).map
        (fun found => "WARNING_JSON:" ++ Wire.write found) ++
      ["SCENARIO_ID:" ++ Json.quoted story.id] ++ told
  halted : (∃ items, boundary = .ofMenu boundary.texts items ∧ engine.pending = some items) ∨
    ∃ reason, boundary = .ofEnding boundary.texts reason ∧
      (Script.play {} picks (Engine.start story.scenario)).result = .ok ⟨reason, engine.trail⟩
  texts : Script.told story.scenario picks =
    (if picks = [] then [] else Script.told story.scenario picks.dropLast) ++ boundary.texts
  trail : engine.trail = keepRecent 256 (story.scenario.walk picks).visited

section Play

variable (directory : String) (catalog : Catalog) (index : Nat) (story : Story)
  (found : catalog.scenarios[index]? = some story)

theorem arrives_reached (picks : List Nat) (position : Int)
    (reached : story.scenario.Reaches 0 picks position) :
    let engine := Engine.settled story.scenario position (story.scenario.walk picks).visited
    Arrives catalog story picks
      (arrivalLines catalog story (story.scenario.boundaryAt position) engine.trail)
      (story.scenario.boundaryAt position) engine where
  followed := Engine.follow_reached story.scenario picks position reached
  printed := ⟨_, lines_told story.scenario position _, rfl⟩
  halted := by
    cases ends : story.scenario.endingAt position with
    | none =>
      refine .inl ⟨story.scenario.menuAt position, ?_, ?_⟩
      · simp only [Scenario.boundaryAt, ends, Boundary.ofMenu]
      · exact Engine.settled_pending story.scenario position _ ends
    | some reason =>
      refine .inr ⟨reason, ?_, ?_⟩
      · simp only [Scenario.boundaryAt, ends, Boundary.ofEnding]
      · have stop := story.scenario.walk_stop 0 picks position reached
        simp only [Scenario.stopAt, ends] at stop
        rw [(Script.play_start story.scenario picks).2.2, Engine.settled_trail, Walk.result,
          Scenario.walk, stop, List.nil_append]
  texts := by
    rw [story.scenario.boundary_texts]
    exact story.scenario.told_reached picks position reached
  trail := by rw [Engine.settled_trail, Engine.trailLimit]

include found

theorem play_found (choices : List Nat) :
    play directory catalog (index + 1) choices =
      (replay story.scenario choices).map fun (boundary, engine) =>
        arrivalLines catalog story boundary engine.trail := by
  rw [play, catalog.listed_stocked index story found]
  simp only [scenario?, found, Bool.false_eq_true, if_false]
  cases replay story.scenario choices <;> rfl

theorem play_succeeds (choices : List Nat) :
    (∃ lines, play directory catalog (index + 1) choices = .ok lines) ↔
      ∃ reached, replay story.scenario choices = .ok reached := by
  rw [play_found directory catalog index story found]
  cases replay story.scenario choices <;> simp [Except.map]

theorem play_fails (choices : List Nat) (error : Error) :
    play directory catalog (index + 1) choices = .error error ↔
      replay story.scenario choices = .error error := by
  rw [play_found directory catalog index story found]
  cases replay story.scenario choices <;> simp [Except.map]

theorem play_reached (picks : List Nat) (position : Int)
    (reached : story.scenario.Reaches 0 picks position) (lines : List String)
    (printed : play directory catalog (index + 1) (picks.map (· + 1)) = .ok lines) :
    lines = arrivalLines catalog story (story.scenario.boundaryAt position)
      (Engine.settled story.scenario position (story.scenario.walk picks).visited).trail := by
  rw [play_found directory catalog index story found,
    replay_taken story.scenario picks position reached] at printed
  exact (Except.ok.inj printed).symm

end Play

theorem failure_printed (failure : Failure) :
    CommandLine.unlines (failureLines failure) =
      "RESULT:ERROR\nERROR_CODE:" ++ failure.code ++ "\nERROR_MSG_JSON:" ++
        Json.quoted failure.message ++ "\n" := by
  rw [← String.toList_inj]
  simp [CommandLine.unlines, failureLines]

theorem failure_line_apart (failure : Failure) (line : String)
    (printed : line ∈ failureLines failure) (boundary : Boundary) (trail : List Nat) :
    line ∉ boundary.lines trail := by
  simp only [failureLines, List.mem_cons, List.not_mem_nil, or_false] at printed
  rcases printed with rfl | rfl | rfl
  · intro told
    exact absurd (boundary_line_kind boundary trail _ told) (by decide +kernel)
  · have kind : lineKind ("ERROR_CODE:" ++ failure.code) = "ERROR_CODE".toList :=
      kind_of_line _ failure.code (by decide) _ (by simp)
    exact foreign_kind_apart boundary trail _ (by rw [kind]; decide +kernel)
  · have kind : lineKind ("ERROR_MSG_JSON:" ++ Json.quoted failure.message) =
        "ERROR_MSG_JSON".toList :=
      kind_of_line _ (Json.quoted failure.message) (by decide) _ (by simp)
    exact foreign_kind_apart boundary trail _ (by rw [kind]; decide +kernel)

theorem play_replays_picks (directory : String) (catalog : Catalog) (index : Nat) (story : Story)
    (choices : List Nat) (found : catalog.scenarios[index]? = some story) :
    ((∃ lines, play directory catalog (index + 1) choices = .ok lines) ↔
      story.scenario.Playable choices) ∧
    (∀ lines, play directory catalog (index + 1) choices = .ok lines →
      (∃ boundary engine, Arrives catalog story (choices.map (· - 1)) lines boundary engine) ∧
      (∀ next, (∃ more, play directory catalog (index + 1) (choices ++ [next]) = .ok more) ↔
        ∃ text, "CHOICE:" ++ toString next ++ "|" ++ text ∈ lines) ∧
      ∀ tree input, tree.catalogOfDirectory (.ofText directory) = catalog →
        CommandLine.answer tree input ⟨directory, .agentPlay (index + 1) choices⟩ =
          ⟨0, String.join (lines.map (· ++ "\n"))⟩) ∧
    ∀ error, play directory catalog (index + 1) choices = .error error →
      (∃ before number rest position, choices = before ++ number :: rest ∧
        story.scenario.Playable before ∧ ¬ story.scenario.Offered before number ∧
        story.scenario.Reaches 0 (before.map (· - 1)) position ∧
        error = refusal before.length choices.length (story.scenario.endingAt position) number ∧
        Refused before.length choices.length (story.scenario.endingAt position) number
          error.failure) ∧
      ∀ tree input, tree.catalogOfDirectory (.ofText directory) = catalog →
        CommandLine.answer tree input ⟨directory, .agentPlay (index + 1) choices⟩ =
            ⟨1, "RESULT:ERROR\nERROR_CODE:" ++ error.failure.code ++ "\nERROR_MSG_JSON:" ++
              Json.quoted error.failure.message ++ "\n"⟩ ∧
          ∀ line ∈ failureLines error.failure, ∀ boundary trail,
            line ∉ Boundary.lines boundary trail := by
  have succeeds := play_succeeds directory catalog index story found
  refine ⟨(succeeds choices).trans (replay_succeeds story.scenario choices), ?_, ?_⟩
  · intro lines printed
    obtain ⟨_, replayed⟩ := (succeeds choices).mp ⟨lines, printed⟩
    obtain ⟨position, reached, numbers⟩ := replay_playable story.scenario choices _ replayed
    generalize choices.map (· - 1) = picks at reached numbers ⊢
    subst numbers
    have lines_reached :=
      play_reached directory catalog index story found picks position reached lines printed
    refine ⟨?_, ?_, ?_⟩
    · rw [lines_reached]
      exact ⟨_, _, arrives_reached catalog story picks position reached⟩
    · intro next
      rw [succeeds, replay_more story.scenario picks position reached, Scenario.takes_listed,
        lines_reached]
      simp only [arrival_choice]
      exact (choice_line_offers _ _ next).symm
    · rintro tree input rfl
      simp only [CommandLine.answer, printed]
      rfl
  · intro error refused
    have replayed := (play_fails directory catalog index story found choices error).mp refused
    obtain ⟨before, number, rest, position, split, playable, unoffered, reached, rfl⟩ :=
      replay_fails story.scenario choices error replayed
    refine ⟨⟨before, number, rest, position, split, playable, unoffered, reached, rfl,
      refusal_refused _ _ _ _⟩, ?_⟩
    rintro tree input rfl
    refine ⟨?_, ?_⟩
    · simp only [CommandLine.answer, refused, failure_printed]
    · intro line printed boundary trail
      exact failure_line_apart _ line printed boundary trail

theorem manor_left_by_number :
    let catalog : Catalog := ⟨[.manor], []⟩
    let lines := ["SCENARIO_ID:\"scenario-file:/home/manor.txt\"", "RESULT:OK", "EVENT:END",
      "TEXT_JSON:\"Away\"", "END_REASON:TERMINAL_BRANCH", "TRAIL:0,2"]
    play "tales" catalog 1 [2] = .ok lines ∧ Story.manor.scenario.Playable [2] ∧
      (∃ boundary engine, Arrives catalog .manor [1] lines boundary engine) ∧
      ∀ next, (∃ more, play "tales" catalog 1 [2, next] = .ok more) ↔
        ∃ text, "CHOICE:" ++ toString next ++ "|" ++ text ∈ lines := by
  intro catalog lines
  have printed : play "tales" catalog 1 [2] = .ok lines := by decide +kernel
  obtain ⟨succeeds, replays, _⟩ := play_replays_picks "tales" catalog 0 .manor [2] rfl
  obtain ⟨arrives, offers, _⟩ := replays lines printed
  exact ⟨printed, succeeds.mp ⟨lines, printed⟩, arrives, offers⟩

end Agent

end Gamebook
