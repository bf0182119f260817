import Gamebook.Agent
import Gamebook.Proofs.Boundary.Lines
import Gamebook.Proofs.Json.Quoted
import Gamebook.Proofs.Json.Visible
import Gamebook.Proofs.Scenario.Written

set_option autoImplicit false

namespace Gamebook

namespace Json

-- The closing quote of a text is the first one that is not escaped.
theorem quoted_ended (text other : String) (rest later : List Char)
    (same : (quoted text).toList ++ rest = (quoted other).toList ++ later) :
    text = other ∧ rest = later := by
  have bodies : text.toList.flatMap escape ++ '"' :: rest =
      other.toList.flatMap escape ++ '"' :: later := by
    simpa [quoted, quote] using same
  have read := congrArg unquote? bodies
  rw [unquote_text, unquote_text] at read
  simpa using read

theorem quoted_injective (text other : String) (same : quoted text = quoted other) :
    text = other := by
  refine (quoted_ended text other [] [] ?_).1
  rw [same]

end Json

theorem digits_one_line (number : Nat) : Text.OneLine (Nat.toDigits 10 number) :=
  ⟨digits_lack number '\n' (by decide), digits_lack number '\r' (by decide)⟩

theorem choice_line_ended (index next : Nat) (label other : String)
    (same : choiceLine index label = choiceLine next other) : index = next ∧ label = other := by
  have chars : Nat.toDigits 10 (index + 1) ++ '|' :: (Json.quoted label).toList =
      Nat.toDigits 10 (next + 1) ++ '|' :: (Json.quoted other).toList := by
    simpa [choiceLine, number_chars] using congrArg String.toList same
  obtain ⟨numbers, texts⟩ := number_ended _ _ '|' (by decide) _ _ chars
  exact ⟨Nat.succ.inj numbers, Json.quoted_injective _ _ (String.toList_inj.mp texts)⟩

def numberList (trail : List Nat) : List Char :=
  comma.intercalate (trail.map fun index => Nat.toDigits 10 index)

theorem trail_line_chars (trail : List Nat) :
    (trailLine trail).toList = "TRAIL:".toList ++ numberList trail := by
  simp [trailLine, numberList, comma, String.toList_intercalate, Function.comp_def]

theorem number_list_parts (trail : List Nat) (visited : trail ≠ []) :
    (numberList trail).splitOn ',' = trail.map fun index => Nat.toDigits 10 index := by
  refine List.splitOn_intercalate ',' ?_ (mt List.map_eq_nil_iff.mp visited)
  intro digits member
  obtain ⟨index, _, rfl⟩ := List.mem_map.mp member
  exact digits_lack index ',' (by decide)

theorem number_list_full (trail : List Nat) (visited : trail ≠ []) : numberList trail ≠ [] := by
  apply joined_full _ (mt List.map_eq_nil_iff.mp visited)
  intro digits member
  obtain ⟨index, _, rfl⟩ := List.mem_map.mp member
  exact Nat.toDigits_ne_nil

theorem number_list_one_line (trail : List Nat) : Text.OneLine (numberList trail) := by
  apply joined_one_line
  intro digits member
  obtain ⟨index, _, rfl⟩ := List.mem_map.mp member
  exact digits_one_line index

theorem trail_line_injective (trail other : List Nat) (same : trailLine trail = trailLine other) :
    trail = other := by
  have numbers : numberList trail = numberList other := by
    have chars := congrArg String.toList same
    rw [trail_line_chars, trail_line_chars] at chars
    exact List.append_cancel_left chars
  by_cases visited : trail = []
  · by_cases further : other = []
    · rw [visited, further]
    · rw [visited] at numbers
      exact absurd numbers.symm (number_list_full other further)
  · have further : other ≠ [] := by
      rintro rfl
      exact number_list_full trail visited numbers
    have parts := congrArg (List.splitOn ',') numbers
    rw [number_list_parts trail visited, number_list_parts other further] at parts
    exact (List.map_inj_right digits_injective).mp parts

section Kinds

variable (kind own : List Char) (lines : List String)

theorem filter_of_kind (alike : ∀ line ∈ lines, lineKind line = own) :
    lines.filter (fun line => lineKind line = kind) = if own = kind then lines else [] := by
  by_cases same : own = kind
  · rw [if_pos same, List.filter_eq_self]
    intro line member
    exact decide_eq_true ((alike line member).trans same)
  · rw [if_neg same, List.filter_eq_nil_iff]
    intro line member
    rw [alike line member]
    simpa using same

theorem ok_line_kind : lineKind okLine = "RESULT".toList := by
  decide

theorem lines_of_kind (boundary : Boundary) (trail : List Nat) :
    (boundary.lines trail).filter (fun line => lineKind line = kind) =
      (if "RESULT".toList = kind then [okLine] else []) ++
      (if "EVENT".toList = kind then [boundary.halt.line] else []) ++
      (if "TEXT_JSON".toList = kind then
        boundary.texts.map fun text => "TEXT_JSON:" ++ Json.quoted text else []) ++
      (if "CHOICE".toList = kind then
        boundary.choices.map fun (index, label) => choiceLine index label else []) ++
      (if "END_REASON".toList = kind then
        (boundary.ending.map fun reason => "END_REASON:" ++ reason.code).toList else []) ++
      (if "TRAIL".toList = kind then [trailLine trail] else []) := by
  have first : [okLine, boundary.halt.line] = [okLine] ++ [boundary.halt.line] := rfl
  rw [Boundary.lines, first]
  simp only [List.filter_append]
  rw [filter_of_kind kind "RESULT".toList, filter_of_kind kind "EVENT".toList,
    filter_of_kind kind "TEXT_JSON".toList, filter_of_kind kind "CHOICE".toList,
    filter_of_kind kind "END_REASON".toList, filter_of_kind kind "TRAIL".toList]
  · simp only [List.mem_singleton, forall_eq, trail_line_kind]
  · simp only [Option.mem_toList, Option.map_eq_some_iff]
    rintro line ⟨reason, _, rfl⟩
    exact reason_line_kind reason.code
  · simp only [List.mem_map, Prod.exists]
    rintro line ⟨index, label, _, rfl⟩
    exact choice_line_kind (index + 1) (Json.quoted label)
  · simp only [List.mem_map]
    rintro line ⟨text, _, rfl⟩
    exact text_line_kind (Json.quoted text)
  · simp only [List.mem_singleton, forall_eq, halt_line_kind]
  · simp only [List.mem_singleton, forall_eq, ok_line_kind]

end Kinds

section Parts

variable (boundary : Boundary) (trail : List Nat)

theorem halt_of_lines :
    (boundary.lines trail).filter (fun line => lineKind line = "EVENT".toList) =
      [boundary.halt.line] := by
  rw [lines_of_kind]
  simp +decide

theorem texts_of_lines :
    (boundary.lines trail).filter (fun line => lineKind line = "TEXT_JSON".toList) =
      boundary.texts.map fun text => "TEXT_JSON:" ++ Json.quoted text := by
  rw [lines_of_kind]
  simp +decide

theorem choices_of_lines :
    (boundary.lines trail).filter (fun line => lineKind line = "CHOICE".toList) =
      boundary.choices.map fun (index, label) => choiceLine index label := by
  rw [lines_of_kind]
  simp +decide

theorem ending_of_lines :
    (boundary.lines trail).filter (fun line => lineKind line = "END_REASON".toList) =
      ((boundary.ending.map Ending.code).map fun code => "END_REASON:" ++ code).toList := by
  rw [lines_of_kind]
  simp +decide [Function.comp_def]

theorem trail_of_lines :
    (boundary.lines trail).filter (fun line => lineKind line = "TRAIL".toList) =
      [trailLine trail] := by
  rw [lines_of_kind]
  simp +decide

end Parts

theorem halt_line_injective (halt other : Halt) (same : halt.line = other.line) : halt = other := by
  cases halt <;> cases other <;> simp [Halt.line] at same ⊢

theorem numbered_one_line (heading : String) (plain : Text.OneLine heading.toList) (number : Nat)
    (rest : String) (later : Text.OneLine rest.toList) :
    Text.OneLine (heading ++ toString number ++ "|" ++ rest).toList := by
  rw [String.toList_append, String.toList_append, String.toList_append, number_chars]
  have numbered := Text.one_line_append _ _ plain (digits_one_line number)
  exact Text.one_line_append _ _ (Text.one_line_append _ _ numbered (by decide)) later

theorem code_one_line (reason : Ending) : Text.OneLine reason.code.toList := by
  cases reason <;> rw [Ending.code] <;> decide

namespace Boundary

theorem lines_one_line (boundary : Boundary) (trail : List Nat) (line : String)
    (printed : line ∈ boundary.lines trail) : Text.OneLine line.toList := by
  rcases (boundary_line boundary trail line).mp printed with rfl | rfl | ⟨text, _, rfl⟩ |
    ⟨index, label, _, rfl⟩ | ⟨reason, _, rfl⟩ | rfl
  · decide
  · cases boundary.halt <;> decide
  · rw [String.toList_append]
    exact Text.one_line_append _ _ (by decide) (Json.quoted_one_line text)
  · exact numbered_one_line "CHOICE:" (by decide) (index + 1) _ (Json.quoted_one_line label)
  · rw [String.toList_append]
    exact Text.one_line_append _ _ (by decide) (code_one_line reason)
  · rw [trail_line_chars]
    exact Text.one_line_append _ _ (by decide) (number_list_one_line trail)

theorem lines_determine (boundary other : Boundary) (trail retrail : List Nat)
    (same : boundary.lines trail = other.lines retrail) :
    boundary.halt = other.halt ∧ boundary.texts = other.texts ∧
      boundary.choices = other.choices ∧
      boundary.ending.map Ending.code = other.ending.map Ending.code ∧ trail = retrail := by
  have kinds : ∀ kind, (boundary.lines trail).filter (fun line => lineKind line = kind) =
      (other.lines retrail).filter (fun line => lineKind line = kind) :=
    fun kind => congrArg (List.filter fun line => lineKind line = kind) same
  have halts := kinds "EVENT".toList
  have texts := kinds "TEXT_JSON".toList
  have choices := kinds "CHOICE".toList
  have endings := kinds "END_REASON".toList
  have trails := kinds "TRAIL".toList
  rw [halt_of_lines, halt_of_lines] at halts
  rw [texts_of_lines, texts_of_lines] at texts
  rw [choices_of_lines, choices_of_lines] at choices
  rw [ending_of_lines, ending_of_lines] at endings
  rw [trail_of_lines, trail_of_lines] at trails
  refine ⟨halt_line_injective _ _ (List.singleton_inj.mp halts), ?_, ?_, ?_,
    trail_line_injective _ _ (List.singleton_inj.mp trails)⟩
  · refine (List.map_inj_right ?_).mp texts
    intro text told alike
    exact Json.quoted_injective text told ((String.append_right_inj "TEXT_JSON:").mp alike)
  · refine (List.map_inj_right ?_).mp choices
    rintro ⟨index, label⟩ ⟨next, told⟩ alike
    obtain ⟨rfl, rfl⟩ := choice_line_ended index next label told alike
    rfl
  · have reasons := congrArg List.head? endings
    rw [Option.head?_toList, Option.head?_toList] at reasons
    refine (Option.map_inj_right ?_).mp reasons
    intro code other alike
    exact (String.append_right_inj "END_REASON:").mp alike

theorem lines_agree (boundary other : Boundary) (trail : List Nat)
    (halts : boundary.halt = other.halt) (texts : boundary.texts = other.texts)
    (choices : boundary.choices = other.choices)
    (endings : boundary.ending.map Ending.code = other.ending.map Ending.code) :
    boundary.lines trail = other.lines trail := by
  have reasons := congrArg (Option.map fun code => "END_REASON:" ++ code) endings
  rw [Option.map_map, Option.map_map] at reasons
  simp only [Function.comp_def] at reasons
  rw [lines, lines, halts, texts, choices, reasons]

end Boundary

namespace Agent

theorem scenario_line_chars (number : Nat) (story : Story) :
    (scenarioLine number story).toList =
      "SCENARIO:".toList ++ (Nat.toDigits 10 number ++
        '|' :: ((Json.quoted story.fileName).toList ++
          '|' :: ((Json.quoted story.scenario.title).toList ++
            '|' :: (Json.quoted story.id).toList))) := by
  have whole : scenarioLine number story =
      "SCENARIO:" ++ toString number ++ "|" ++ Json.quoted story.fileName ++ "|" ++
        Json.quoted story.scenario.title ++ "|" ++ Json.quoted story.id := rfl
  simp [whole]

theorem scenario_line_agrees (number : Nat) (story other : Story)
    (fileNames : story.fileName = other.fileName)
    (titles : story.scenario.title = other.scenario.title) (ids : story.id = other.id) :
    scenarioLine number story = scenarioLine number other := by
  rw [← String.toList_inj, scenario_line_chars, scenario_line_chars, fileNames, titles, ids]

theorem scenario_line_one_line (number : Nat) (story : Story) :
    Text.OneLine (scenarioLine number story).toList := by
  have barred : ∀ text rest, Text.OneLine rest →
      Text.OneLine ((Json.quoted text).toList ++ '|' :: rest) := by
    intro text rest later
    have behind := (Text.one_line_cons '|' rest).mpr ⟨by decide, by decide, later⟩
    exact Text.one_line_append _ _ (Json.quoted_one_line text) behind
  have names := barred story.fileName _ (barred story.scenario.title _
    (Json.quoted_one_line story.id))
  have behind := (Text.one_line_cons '|' _).mpr ⟨by decide, by decide, names⟩
  rw [scenario_line_chars]
  exact Text.one_line_append _ _ (by decide)
    (Text.one_line_append _ _ (digits_one_line number) behind)

theorem scenario_line_ended (number next : Nat) (story other : Story)
    (same : scenarioLine number story = scenarioLine next other) :
    number = next ∧ story.fileName = other.fileName ∧
      story.scenario.title = other.scenario.title ∧ story.id = other.id := by
  have chars := congrArg String.toList same
  rw [scenario_line_chars, scenario_line_chars] at chars
  obtain ⟨numbers, afterNumber⟩ :=
    number_ended number next '|' (by decide) _ _ (List.append_cancel_left chars)
  obtain ⟨fileNames, afterName⟩ := Json.quoted_ended _ _ _ _ afterNumber
  obtain ⟨titles, afterTitle⟩ := Json.quoted_ended _ _ _ _ (List.cons.inj afterName).2
  have ids := String.toList_inj.mp (List.cons.inj afterTitle).2
  exact ⟨numbers, fileNames, titles, Json.quoted_injective _ _ ids⟩

end Agent

theorem Boundary.lines_say_everything :
    (∀ (boundary : Boundary) trail, ∀ line ∈ boundary.lines trail, Text.OneLine line.toList) ∧
    (∀ (boundary other : Boundary) trail retrail,
      boundary.lines trail = other.lines retrail ↔
        boundary.halt = other.halt ∧ boundary.texts = other.texts ∧
          boundary.choices = other.choices ∧
          boundary.ending.map Ending.code = other.ending.map Ending.code ∧ trail = retrail) ∧
    (∀ number story, Text.OneLine (Agent.scenarioLine number story).toList) ∧
    ∀ number next story other,
      Agent.scenarioLine number story = Agent.scenarioLine next other ↔
        number = next ∧ story.fileName = other.fileName ∧
          story.scenario.title = other.scenario.title ∧ story.id = other.id := by
  refine ⟨lines_one_line, ?_, Agent.scenario_line_one_line, ?_⟩
  · intro boundary other trail retrail
    constructor
    · exact lines_determine boundary other trail retrail
    · rintro ⟨halts, texts, choices, endings, rfl⟩
      exact lines_agree boundary other trail halts texts choices endings
  · intro number next story other
    constructor
    · exact Agent.scenario_line_ended number next story other
    · rintro ⟨rfl, fileNames, titles, ids⟩
      exact Agent.scenario_line_agrees number story other fileNames titles ids

end Gamebook
