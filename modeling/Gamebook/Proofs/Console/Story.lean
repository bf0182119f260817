import Gamebook.Proofs.Boundary.Advance
import Gamebook.Proofs.Console.Dialogue

set_option autoImplicit false

namespace Gamebook

namespace Scenario

def questionAt (scenario : Scenario) (position : Int) : Question :=
  .choice ((scenario.menuAt position).map (·.label))

def itemFor (scenario : Scenario) (position : Int) (word : String) : Option MenuItem :=
  (itemNamed (scenario.menuAt position).length word).bind fun index =>
    (scenario.menuAt position)[index]?

-- The picks that the words name, each at the menu that the picks before it lead to. A word that
-- names no item of the menu is passed over.
def picksOf (scenario : Scenario) (position : Int) : List String → List Nat
  | [] => []
  | word :: rest =>
    match scenario.itemFor position word with
    | some item => item.index :: scenario.picksOf item.target.toInt rest
    | none => scenario.picksOf position rest

def heardFrom (scenario : Scenario) (position : Int) (words : List String) : Walk :=
  scenario.walkFrom position (scenario.picksOf position words)

variable (scenario : Scenario) (position : Int)

theorem item_named (word : String) (index : Nat)
    (named : itemNamed (scenario.questionAt position).count word = some index) :
    ∃ item, scenario.itemFor position word = some item ∧ item.index = index ∧
      (scenario.menuAt position)[index]? = some item := by
  have within := named_within _ word index named
  rw [questionAt, Question.choice, List.length_map] at named within
  have listed := List.getElem?_eq_getElem within
  refine ⟨_, ?_, menu_index scenario position index _ listed, listed⟩
  rw [itemFor, named, Option.bind_some, listed]

theorem item_unnamed (word : String)
    (unnamed : itemNamed (scenario.questionAt position).count word = none) :
    scenario.itemFor position word = none := by
  rw [questionAt, Question.choice, List.length_map] at unnamed
  rw [itemFor, unnamed, Option.bind_none]

theorem picks_answered (words : List String) (index : Nat)
    (answered : (scenario.questionAt position).answer words = some index) :
    ∃ item, (scenario.menuAt position)[index]? = some item ∧
      scenario.picksOf position words =
        index :: scenario.picksOf item.target.toInt ((scenario.questionAt position).left words) := by
  induction words with
  | nil => cases answered
  | cons word rest ih =>
    cases named : itemNamed (scenario.questionAt position).count word with
    | some first =>
      obtain ⟨same, left, _⟩ := Question.named_first (scenario.questionAt position) word rest first named
      obtain rfl : first = index := Option.some.inj (same.symm.trans answered)
      obtain ⟨item, found, place, listed⟩ := item_named scenario position word first named
      refine ⟨item, listed, ?_⟩
      rw [left, picksOf, found, ← place]
    | none =>
      obtain ⟨later, left, _⟩ := Question.refused_first (scenario.questionAt position) word rest named
      rw [later] at answered
      rw [left, picksOf, item_unnamed scenario position word named]
      exact ih answered

theorem picks_unanswered (words : List String)
    (unanswered : (scenario.questionAt position).answer words = none) :
    scenario.picksOf position words = [] := by
  induction words with
  | nil => rfl
  | cons word rest ih =>
    cases named : itemNamed (scenario.questionAt position).count word with
    | some first =>
      rw [(Question.named_first (scenario.questionAt position) word rest first named).1] at unanswered
      cases unanswered
    | none =>
      rw [(Question.refused_first (scenario.questionAt position) word rest named).1] at unanswered
      rw [picksOf, item_unnamed scenario position word named]
      exact ih unanswered

theorem reaches_cons (pick : Nat) (picks : List Nat) (next final : Int)
    (leads : scenario.Leads position pick next) (reached : scenario.Reaches next picks final) :
    scenario.Reaches position (pick :: picks) final := by
  induction reached with
  | start => exact .onward [] position pick next .start leads
  | onward picks before last final _ onward ih =>
    exact .onward (pick :: picks) before last final ih onward

theorem picks_reach (words : List String) :
    ∃ final, scenario.Reaches position (scenario.picksOf position words) final := by
  induction words generalizing position with
  | nil => exact ⟨position, .start⟩
  | cons word rest ih =>
    rw [picksOf]
    cases found : scenario.itemFor position word with
    | none => exact ih position
    | some item =>
      rw [itemFor, Option.bind_eq_some_iff] at found
      obtain ⟨index, _, listed⟩ := found
      have leads := (leads_menu scenario position index _).mpr ⟨item, listed, rfl⟩
      rw [← menu_index scenario position index item listed] at leads
      obtain ⟨final, reached⟩ := ih item.target.toInt
      exact ⟨final, reaches_cons scenario position item.index _ _ final leads reached⟩

theorem menu_at_branch (branch : Branch) (index : Nat)
    (here : scenario.branches[index]? = some branch) : scenario.menuAt index = branch.menu := by
  rw [menuAt, branch_at_index, here]

theorem question_at_branch (branch : Branch) (index : Nat)
    (here : scenario.branches[index]? = some branch) :
    scenario.questionAt index = .choice (branch.choices.map (·.label)) := by
  rw [questionAt, menu_at_branch scenario branch index here, menu_labels]

end Scenario

namespace Console

def written : List Call → List String → String
  | [], _ => ""
  | .describe text :: calls, words => text ++ "\n" ++ written calls words
  | .offer labels :: calls, words =>
    (Question.choice labels).dialogue words ++ written calls ((Question.choice labels).left words)
  | .announce _ :: calls, words => written calls words

def farewell : WalkStop → String
  | .ended (.terminalBranch _) => endMessage ++ "\n"
  | _ => ""

def breakAt (fault : InputFault) : WalkStop → Option Break
  | .ended _ => none
  | .exhausted => some (.playing (.shell fault))
  | .noSuchChoice index => some (.playing (.engine (.outOfRange index)))

structure Telling where
  broken : Option Break
  text : String

def Telling.after (told : String) (telling : Telling) : Telling :=
  { telling with text := told ++ telling.text }

def tellFrom (scenario : Scenario) (fault : InputFault) (position : Int) (words : List String) :
    Telling :=
  let walk := scenario.heardFrom position words
  ⟨breakAt fault walk.stop, written walk.calls words ++ farewell walk.stop⟩

section Telling

variable (scenario : Scenario) (fault : InputFault) (words : List String)

theorem tell_lost (position : Int) (missing : scenario.branch? position = none) :
    tellFrom scenario fault position words = ⟨none, ""⟩ := by
  rw [tellFrom, Scenario.heardFrom, Scenario.walk_lost scenario position _ missing,
    Scenario.outside]
  split <;> rfl

section AtBranch

variable (branch : Branch) (index : Nat) (here : scenario.branches[index]? = some branch)

include here

theorem tell_ended (terminal : branch.choices = []) :
    tellFrom scenario fault index words =
      ⟨none, branch.description ++ "\n" ++ (endMessage ++ "\n")⟩ := by
  rw [tellFrom, Scenario.heardFrom, Scenario.walk_ended scenario branch index _ here terminal]
  simp only [breakAt, written, farewell, String.append_empty]

theorem tell_unanswered (onward : branch.choices ≠ [])
    (unanswered : (scenario.questionAt index).answer words = none) :
    tellFrom scenario fault index words =
      ⟨some (.playing (.shell fault)),
        branch.description ++ "\n" ++ (scenario.questionAt index).dialogue words⟩ := by
  have none := Scenario.picks_unanswered scenario index words unanswered
  rw [tellFrom, Scenario.heardFrom, none, Scenario.walk_exhausted scenario branch index here onward,
    Scenario.question_at_branch scenario branch index here]
  simp only [breakAt, written, farewell, String.append_empty]

theorem tell_answered (pick : Nat) (answered : (scenario.questionAt index).answer words = some pick) :
    ∃ choice, branch.choices[pick]? = some choice ∧
      tellFrom scenario fault index words =
        (tellFrom scenario fault choice.target.toInt ((scenario.questionAt index).left words)).after
          (branch.description ++ "\n" ++ (scenario.questionAt index).dialogue words) := by
  obtain ⟨item, listed, picks⟩ := Scenario.picks_answered scenario index words pick answered
  rw [Scenario.menu_at_branch scenario branch index here, menu_item, Option.map_eq_some_iff] at listed
  obtain ⟨choice, taken, rfl⟩ := listed
  refine ⟨choice, taken, ?_⟩
  rw [tellFrom, Scenario.heardFrom, picks,
    Scenario.walk_onward scenario branch index _ pick choice here taken,
    Scenario.question_at_branch scenario branch index here]
  simp only [written, tellFrom, Scenario.heardFrom, Telling.after, String.append_assoc]

end AtBranch

end Telling

def breakOf : Except (Stop InputFault) Outcome → Option Break
  | .ok _ => none
  | .error stop => some (.playing stop)

theorem describe_said (text : String) (console : Console) :
    shell.describe text console = (.ok (), console.say text) := rfl

theorem end_announced (index : Nat) (console : Console) :
    shell.announce (.terminalBranch index) console = (.ok (), console.say endMessage) := rfl

theorem outside_silent (scenario : Scenario) (position : Int) (console : Console) :
    shell.announce (scenario.outside position) console = (.ok (), console) := by
  rw [Scenario.outside]
  split <;> rfl

theorem offer_asks (scenario : Scenario) (branch : Branch) (index : Nat) (console : Console)
    (here : scenario.branches[index]? = some branch) :
    shell.offer (branch.choices.map (·.label)) console =
      console.ask (scenario.questionAt index) := by
  rw [Scenario.question_at_branch scenario branch index here]
  rfl

-- The induction is on the words; every menu that is answered uses up one of them.
theorem play_tells (scenario : Scenario) (words : List String) (position : Int) (trail : List Nat)
    (console : Console) (limit : Nat) (grounded : scenario.branches = [] → position = 0)
    (coming : console.answers.words = words) (enough : 2 * words.length + 2 ≤ limit) :
    ∃ result engine left,
      shell.play? limit (.arriving scenario position trail) console =
        some ⟨result, engine, ⟨left, console.output ++
          (tellFrom scenario console.answers.fault position words).text⟩⟩ ∧
      breakOf result = (tellFrom scenario console.answers.fault position words).broken := by
  obtain ⟨rest, rfl⟩ : ∃ rest, limit = rest + 2 := ⟨limit - 2, by omega⟩
  cases found : scenario.branch? position with
  | none =>
    obtain ⟨engine, played⟩ := Shell.play_at_loss shell scenario trail (rest + 1) console console
      position grounded found (outside_silent scenario position console)
    rw [played, tell_lost scenario _ words position found]
    exact ⟨.ok ⟨scenario.outside position, trail⟩, engine, console.answers, by simp, rfl⟩
  | some branch =>
    obtain ⟨index, rfl, here⟩ := (branch_found _ _ _).mp found
    have offers := offer_asks scenario branch index (console.say branch.description) here
    rw [Shell.play_at_arrival shell scenario trail (rest + 1) console _ branch index here
      (describe_said _ console)]
    by_cases terminal : branch.choices = []
    · obtain ⟨engine, played⟩ := Shell.play_at_end shell scenario _ rest _ _ branch index here
        terminal (end_announced index (console.say branch.description))
      rw [played, tell_ended scenario _ words branch index here terminal]
      exact ⟨.ok ⟨.terminalBranch index, keepRecent Engine.trailLimit (trail ++ [index])⟩, engine,
        console.answers, by simp [say, write, String.append_assoc], rfl⟩
    · cases answered : (scenario.questionAt index).answer words with
      | none =>
        obtain ⟨left, asked⟩ := ask_unanswered (scenario.questionAt index)
          (console.say branch.description) words coming answered
        obtain ⟨engine, played⟩ := Shell.play_at_refusal shell scenario _ rest _ _ branch index here
          terminal _ (offers.trans asked)
        rw [played, tell_unanswered scenario _ words branch index here terminal answered]
        exact ⟨.error (.shell console.answers.fault), engine, left,
          by simp [say, write, String.append_assoc], rfl⟩
      | some pick =>
        obtain ⟨left, asked, remain, fault⟩ := ask_answered (scenario.questionAt index)
          (console.say branch.description) words pick coming answered
        obtain ⟨choice, taken, tells⟩ := tell_answered scenario console.answers.fault words branch
          index here pick answered
        have fewer := Question.left_fewer (scenario.questionAt index) words pick answered
        have peopled : scenario.branches ≠ [] := List.ne_nil_of_mem (List.mem_of_getElem? here)
        obtain ⟨result, engine, last, played, broken⟩ := play_tells scenario
          ((scenario.questionAt index).left words) choice.target.toInt _ ⟨left, _⟩ rest
          (fun empty => absurd empty peopled) remain (by omega)
        have same : left.fault = console.answers.fault := fault
        simp only [same] at played broken
        rw [Shell.play_at_choice shell scenario _ rest _ _ branch index here pick choice taken
          (offers.trans asked), played, tells]
        exact ⟨result, engine, last, by simp [say, write, Telling.after, String.append_assoc],
          broken⟩
termination_by words.length

end Console

end Gamebook
