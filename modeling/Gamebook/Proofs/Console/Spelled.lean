import Gamebook.Proofs.Console.Input
import Gamebook.Proofs.Console.Story
import Gamebook.Proofs.Text.Decimal

set_option autoImplicit false

namespace Gamebook.Console

-- The first line of an input, up to its line feed, which is 10, and what follows it.
inductive FirstLine : List UInt8 → List UInt8 → List UInt8 → Prop where
  | ended (front rest : List UInt8) (plain : 10 ∉ front) :
      FirstLine (front ++ 10 :: rest) (front ++ [10]) rest
  | last (line : List UInt8) (full : line ≠ []) (plain : 10 ∉ line) : FirstLine line line []

-- The words of an input and what is met behind them: its lines one after another, up to the first
-- that is not UTF-8.
inductive Heard : List UInt8 → List String → InputFault → Prop where
  | closed : Heard [] [] .closed
  | notText (input line rest : List UInt8) (first : FirstLine input line rest)
      (invalid : ¬ line.toByteArray.IsValidUTF8) : Heard input [] .notText
  | line (input line rest : List UInt8) (text : String) (spoken words : List String)
      (fault : InputFault) (first : FirstLine input line rest)
      (decoded : String.fromUTF8? line.toByteArray = some text)
      (worded : Text.Worded text.toList (spoken.map String.toList))
      (onward : Heard rest words fault) : Heard input (spoken ++ words) fault

def faultText : InputFault → String
  | .closed => "Input ended before a selection was made."
  | .notText => "stream did not contain valid UTF-8"

def itemLines (number : Nat) : List String → String
  | [] => ""
  | label :: rest => toString number ++ ": " ++ label ++ "\n" ++ itemLines (number + 1) rest

-- A question that some words are given to: what is written, and the item that is named, counted
-- from 0, with the words behind the one that names it.
inductive Asked (prompt beyond unreadable : String) (count : Nat) :
    List String → String → Option (Nat × List String) → Prop where
  | unanswered : Asked prompt beyond unreadable count [] prompt none
  | named (word : String) (rest : List String) (number : Int32) (index : Nat)
      (reads : Text.Decimal.Spells word.toList number.toInt)
      (counted : number.toInt = index + 1) (within : index < count) :
      Asked prompt beyond unreadable count (word :: rest) prompt (some (index, rest))
  | beyond (word : String) (rest : List String) (text : String)
      (answer : Option (Nat × List String)) (number : Int32)
      (reads : Text.Decimal.Spells word.toList number.toInt)
      (outside : number.toInt < 1 ∨ count < number.toInt)
      (again : Asked prompt beyond unreadable count rest text answer) :
      Asked prompt beyond unreadable count (word :: rest) (prompt ++ beyond ++ "\n" ++ text) answer
  | unreadable (word : String) (rest : List String) (text : String)
      (answer : Option (Nat × List String))
      (fails : ∀ number : Int32, ¬ Text.Decimal.Spells word.toList number.toInt)
      (again : Asked prompt beyond unreadable count rest text answer) :
      Asked prompt beyond unreadable count (word :: rest) (prompt ++ unreadable ++ "\n" ++ text)
        answer

-- A story told in calls: the picks that the words come to at its menus, and what is written.
inductive Shown : List Call → List Nat → List String → String → Prop where
  | described (text : String) (calls : List Call) (picks : List Nat) (words : List String)
      (rest : String) (onward : Shown calls picks words rest) :
      Shown (.describe text :: calls) picks words (text ++ "\n" ++ rest)
  | answered (labels : List String) (calls : List Call) (pick : Nat) (picks : List Nat)
      (words left : List String) (menu rest : String)
      (asked : Asked (itemLines 1 labels ++ "Your choice: ") "Invalid choice. Try again."
        "Please enter a valid number." labels.length words menu (some (pick, left)))
      (onward : Shown calls picks left rest) :
      Shown (.offer labels :: calls) (pick :: picks) words (menu ++ rest)
  | unanswered (labels words : List String) (menu : String)
      (asked : Asked (itemLines 1 labels ++ "Your choice: ") "Invalid choice. Try again."
        "Please enter a valid number." labels.length words menu none) :
      Shown [.offer labels] [] words menu
  | ended (index : Nat) (words : List String) :
      Shown [.announce (.terminalBranch index)] [] words "End of scenario. Exiting application.\n"
  | lost (reason : Ending) (words : List String)
      (outside : ∀ index, reason ≠ .terminalBranch index) :
      Shown [.announce reason] [] words ""

theorem first_line (input : List UInt8) (full : input ≠ []) :
    ∃ line rest, FirstLine input line rest ∧
      Text.feedLines 10 input = line :: Text.feedLines 10 rest ∧ rest.length < input.length := by
  by_cases broken : 10 ∈ input
  · obtain ⟨front, rest, rfl, plain⟩ := List.eq_append_cons_of_mem broken
    refine ⟨_, rest, .ended front rest plain, Text.feed_lines_first 10 front rest plain, ?_⟩
    rw [List.length_append, List.length_cons]
    omega
  · exact ⟨input, [], .last input full broken, Text.feed_lines_only 10 input full broken,
      List.length_pos_iff.mpr full⟩

-- The recursion is on the lines of the input.
theorem input_heard (input : List UInt8) :
    Heard input (Answers.ofBytes input).words (Answers.ofBytes input).fault := by
  rw [Answers.ofBytes, Answers.words, Answers.fault, Answers.lineFeed, List.nil_append]
  by_cases empty : input = []
  · rw [empty]
    exact .closed
  · obtain ⟨line, rest, first, lines, shorter⟩ := first_line input empty
    rw [lines, Answers.wordsOn, Answers.faultOn, Answers.wordsIn?]
    cases decoded : String.fromUTF8? line.toByteArray with
    | none =>
      refine .notText input line rest first fun valid => ?_
      rw [String.fromUTF8?, dif_pos valid] at decoded
      cases decoded
    | some text =>
      have worded := Text.words_worded text.toList
      rw [← List.map_id (Text.words text.toList), ← String.toList_comp_ofList, ← List.map_map]
        at worded
      exact .line input line rest text _ _ _ first decoded worded (input_heard rest)
termination_by input.length

theorem message_spelled (fault : InputFault) : fault.message = faultText fault := by
  cases fault <;> rfl

theorem item_lines_from (labels : List String) (before : Nat) :
    String.join ((labels.zipIdx before).map fun (label, index) =>
      toString (index + 1) ++ ": " ++ label ++ "\n") = itemLines (before + 1) labels := by
  induction labels generalizing before with
  | nil => rfl
  | cons label rest ih => rw [List.zipIdx_cons, List.map_cons, String.join_cons, ih, itemLines]

theorem menu_item_lines (labels : List String) : numbered labels = itemLines 1 labels :=
  item_lines_from labels 0

theorem item_named_spelled (count : Nat) (word : String) (index : Nat)
    (named : itemNamed count word = some index) :
    ∃ number : Int32, Text.Decimal.Spells word.toList number.toInt ∧ number.toInt = index + 1 := by
  rw [itemNamed] at named
  split at named
  · cases named
  · rename_i number read
    split at named
    · rename_i within
      cases named
      refine ⟨number, (Text.Decimal.int32_spells _ number).mp read, ?_⟩
      omega
    · cases named

theorem unnamed_spelled (question : Question) (word : String)
    (unnamed : itemNamed question.count word = none) :
    (question.complaint word = question.outOfRange ∧ ∃ number : Int32,
      Text.Decimal.Spells word.toList number.toInt ∧
        (number.toInt < 1 ∨ question.count < number.toInt)) ∨
    (question.complaint word = question.notANumber ∧
      ∀ number : Int32, ¬ Text.Decimal.Spells word.toList number.toInt) := by
  rw [itemNamed] at unnamed
  cases read : Text.Decimal.int32? word.toList with
  | none =>
    refine .inr ⟨?_, fun number spells => ?_⟩
    · simp [Question.complaint, read]
    · rw [← Text.Decimal.int32_spells, read] at spells
      cases spells
  | some number =>
    have outside : ¬ (1 ≤ number.toInt ∧ number.toInt ≤ question.count) := by
      intro within
      simp only [read, if_pos within] at unnamed
      cases unnamed
    refine .inl ⟨?_, number, (Text.Decimal.int32_spells _ number).mp read, by omega⟩
    simp [Question.complaint, read]

-- The induction is on the words; each one that is refused is written one complaint for.
theorem dialogue_asked (question : Question) (words : List String) :
    Asked question.ask question.outOfRange question.notANumber question.count words
      (question.dialogue words)
      ((question.answer words).map fun index => (index, question.left words)) := by
  induction words with
  | nil => exact String.append_empty (s := question.ask) ▸ .unanswered
  | cons word rest ih =>
    cases named : itemNamed question.count word with
    | some index =>
      obtain ⟨answer, left, dialogue⟩ := Question.named_first question word rest index named
      obtain ⟨number, reads, counted⟩ := item_named_spelled question.count word index named
      rw [answer, left, dialogue]
      exact .named word rest number index reads counted
        (named_within question.count word index named)
    | none =>
      obtain ⟨answer, left, dialogue⟩ := Question.refused_first question word rest named
      rw [answer, left, dialogue, ← String.append_assoc]
      rcases unnamed_spelled question word named with ⟨told, number, reads, outside⟩ | ⟨told, fails⟩
      · rw [told]
        exact .beyond word rest _ _ number reads outside ih
      · rw [told]
        exact .unreadable word rest _ _ fails ih

section Story

variable (scenario : Scenario) (words : List String)

theorem menu_asked (labels : List String) :
    Asked (itemLines 1 labels ++ "Your choice: ") "Invalid choice. Try again."
      "Please enter a valid number." labels.length words ((Question.choice labels).dialogue words)
      (((Question.choice labels).answer words).map fun index =>
        (index, (Question.choice labels).left words)) := by
  rw [← menu_item_lines]
  exact dialogue_asked (.choice labels) words

theorem picks_nowhere (position : Int) (bare : scenario.menuAt position = []) :
    scenario.picksOf position words = [] := by
  apply Scenario.picks_unanswered
  cases answered : (scenario.questionAt position).answer words with
  | none => rfl
  | some index =>
    have within := Question.answer_within _ words index answered
    rw [Scenario.questionAt, bare] at within
    exact absurd within (Nat.not_lt_zero index)

end Story

-- The recursion is on the words; every menu that is answered uses up one of them.
theorem story_shown (scenario : Scenario) (fault : InputFault) (position : Int)
    (words : List String) :
    Shown (scenario.heardFrom position words).calls (scenario.picksOf position words) words
      (tellFrom scenario fault position words).text := by
  cases found : scenario.branch? position with
  | none =>
    have bare : scenario.menuAt position = [] := by rw [Scenario.menuAt, found]
    rw [tell_lost scenario fault words position found, Scenario.heardFrom,
      Scenario.walk_lost scenario position _ found, picks_nowhere scenario words position bare]
    refine .lost _ words fun index => ?_
    rw [Scenario.outside]
    split <;> exact Ending.noConfusion
  | some branch =>
    obtain ⟨index, rfl, here⟩ := (branch_found _ _ _).mp found
    by_cases terminal : branch.choices = []
    · have bare : scenario.menuAt index = [] := by
        rw [Scenario.menu_at_branch scenario branch index here, Branch.menu, terminal]
        rfl
      rw [tell_ended scenario fault words branch index here terminal, Scenario.heardFrom,
        Scenario.walk_ended scenario branch index _ here terminal,
        picks_nowhere scenario words index bare]
      exact .described _ _ _ words _ (.ended index words)
    · have asked := menu_asked words (branch.choices.map (·.label))
      rw [← Scenario.question_at_branch scenario branch index here] at asked
      cases answered : (scenario.questionAt index).answer words with
      | none =>
        rw [answered] at asked
        have none := Scenario.picks_unanswered scenario index words answered
        rw [tell_unanswered scenario fault words branch index here terminal answered,
          Scenario.heardFrom, none, Scenario.walk_exhausted scenario branch index here terminal]
        exact .described _ _ _ words _ (.unanswered _ words _ asked)
      | some pick =>
        rw [answered] at asked
        obtain ⟨item, listed, picks⟩ := Scenario.picks_answered scenario index words pick answered
        obtain ⟨choice, taken, told⟩ :=
          tell_answered scenario fault words branch index here pick answered
        have target : item.target = choice.target := by
          rw [Scenario.menu_at_branch scenario branch index here, menu_item, taken] at listed
          cases listed
          rfl
        have fewer := Question.left_fewer (scenario.questionAt index) words pick answered
        have onward := story_shown scenario fault choice.target.toInt
          ((scenario.questionAt index).left words)
        rw [told, Scenario.heardFrom, picks,
          Scenario.walk_onward scenario branch index _ pick choice here taken, target,
          Telling.after, String.append_assoc]
        exact .described _ _ _ words _ (.answered _ _ pick _ words _ _ _ asked onward)
termination_by words.length

end Gamebook.Console
