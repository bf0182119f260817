import Gamebook.Catalog
import Gamebook.Console.Answers
import Gamebook.Playthrough

set_option autoImplicit false

namespace Gamebook

structure Console where
  answers : Answers
  output : String := ""
deriving DecidableEq

structure Question where
  ask : String
  count : Nat
  outOfRange : String
  notANumber : String

def numbered (labels : List String) : String :=
  String.join (labels.zipIdx.map fun (label, index) =>
    toString (index + 1) ++ ": " ++ label ++ "\n")

namespace Question

def scenario (titles : List String) : Question where
  ask := "Select a scenario: "
  count := titles.length
  outOfRange := "Invalid selection. Try again."
  notANumber := "Invalid input. Please enter a number."

def choice (labels : List String) : Question where
  ask := numbered labels ++ "Your choice: "
  count := labels.length
  outOfRange := "Invalid choice. Try again."
  notANumber := "Please enter a valid number."

end Question

namespace Console

def write (text : String) (console : Console) : Console :=
  { console with output := console.output ++ text }

def say (line : String) (console : Console) : Console := console.write (line ++ "\n")

def ask (question : Question) (console : Console) : Except InputFault Nat × Console :=
  match _heard : console.answers.next with
  | (.error fault, answers) => (.error fault, ({ console with answers }).write question.ask)
  | (.ok word, answers) =>
    match Answer.ofWord question.count word with
    | .item index => (.ok index, ({ console with answers }).write question.ask)
    | .outOfRange =>
      ask question ((({ console with answers }).write question.ask).say question.outOfRange)
    | .notANumber =>
      ask question ((({ console with answers }).write question.ask).say question.notANumber)
termination_by console.answers.words.length
decreasing_by all_goals exact Answers.next_fewer _ _ _ _heard

theorem ask_fewer (question : Question) (console after : Console) (index : Nat)
    (answered : console.ask question = (.ok index, after)) :
    after.answers.words.length < console.answers.words.length := by
  fun_induction ask question console with
  | case1 console fault answers heard => simp at answered
  | case2 console word answers heard index named =>
    cases answered
    exact Answers.next_fewer _ _ _ heard
  | case3 console word answers heard refused ih | case4 console word answers heard refused ih =>
    exact Nat.lt_trans (ih answered) (Answers.next_fewer _ _ _ heard)

def endMessage : String := "End of scenario. Exiting application."

def shell : Shell Console InputFault where
  describe text console := (.ok (), console.say text)
  offer labels console := console.ask (.choice labels)
  announce reason console :=
    match reason with
    | .terminalBranch _ => (.ok (), console.say endMessage)
    | _ => (.ok (), console)

-- Every menu that is answered uses up a word.
def patience : Shell.Patience shell where
  left console := console.answers.words.length
  describe_le _ _ := Nat.le_refl _
  offer_lt labels console index next offered := ask_fewer (.choice labels) console next index offered

inductive Break where
  | selecting (fault : InputFault)
  | playing (stop : Stop InputFault)
deriving DecidableEq

def stopMessage : Stop InputFault → String
  | .shell fault => fault.message
  | .engine error => error.failure.message

def Break.report : Break → String
  | .selecting fault => "An unexpected error occurred: " ++ fault.message
  | .playing stop => "An error occurred while processing the scenario: " ++ stopMessage stop

inductive Exit where
  | returned (status : Nat)
  | crashed (index : Nat)
deriving DecidableEq

def Exit.status : Exit → Nat
  | .returned status => status
  | .crashed _ => 101

structure Transcript where
  exit : Exit
  broken : Option Break
  output : String
deriving DecidableEq

def finish (console : Console) : Transcript := ⟨.returned 0, none, console.output⟩

def breakOff (reason : Break) (console : Console) : Transcript :=
  ⟨.returned 0, some reason, (console.say reason.report).output⟩

def playScenario (scenario : Scenario) (console : Console) : Transcript :=
  let played := Shell.play patience (.start scenario) console
  match played.result with
  | .ok _ => played.shell.finish
  | .error stop => played.shell.breakOff (.playing stop)

def showTitles (titles : List String) (console : Console) : Console :=
  (console.say "Available scenarios:").write (numbered titles)

def selectAndPlay (catalog : Catalog) (console : Console) : Transcript :=
  match (console.showTitles catalog.titles).ask (.scenario catalog.titles) with
  | (.error fault, after) => after.breakOff (.selecting fault)
  | (.ok index, after) =>
    match catalog.scenarios[index]? with
    | some loaded => after.playScenario loaded.scenario
    | none => ⟨.crashed index, none, after.output⟩

def session (catalog : Catalog) (answers : Answers) : Transcript :=
  let reported := catalog.diagnostics.foldl (fun console found => console.say found.reason)
    ({ answers } : Console)
  if catalog.isEmpty then (reported.say "No scenarios found.").finish
  else reported.selectAndPlay catalog

end Console

end Gamebook
