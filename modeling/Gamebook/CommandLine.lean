import Gamebook.Agent
import Gamebook.Console

/-!
The command line. A directory of scenarios may be named before or after any command; of two names
the one after the later command counts, and one command takes no more than one.

  [line | tui]                                         a session at the console
  agent list                                           the scenarios
  agent play --scenario N [--choices A,B,...]...       a replay
-/

set_option autoImplicit false

namespace Gamebook.CommandLine

inductive Command where
  | line
  | tui
  | agentList
  | agentPlay (scenario : Nat) (choices : List Nat)
deriving DecidableEq

structure Request where
  directory : String
  command : Command
deriving DecidableEq

inductive Refusal where
  | help
  | missingValue (option : String)
  | repeated (option : String)
  | notANumber (text : String)
  | unexpected (argument : String)
  | missingOption (option : String)
  | missingCommand
deriving DecidableEq

def Refusal.exitCode : Refusal → Nat
  | .help => 0
  | _ => 2

inductive Level where
  | program
  | line
  | tui
  | agent
  | list
  | play
deriving DecidableEq

structure Reading where
  level : Level := .program
  directory : Option String := none
  outer : Option String := none
  scenario : Option Nat := none
  choices : List Nat := []
deriving DecidableEq

inductive Flag where
  | directory
  | scenario
  | choices
deriving DecidableEq

def Flag.name : Flag → String
  | .directory => "--scenarios-dir"
  | .scenario => "--scenario"
  | .choices => "--choices"

def flag? (level : Level) (name : String) : Option Flag :=
  if name = Flag.directory.name then some .directory
  else if level = .play ∧ name = Flag.scenario.name then some .scenario
  else if level = .play ∧ name = Flag.choices.name then some .choices
  else none

def enter? : Level → String → Option Level
  | .program, "line" => some .line
  | .program, "tui" => some .tui
  | .program, "agent" => some .agent
  | .agent, "list" => some .list
  | .agent, "play" => some .play
  | _, _ => none

def isValue (argument : String) : Bool :=
  match argument.toList with
  | '-' :: _ :: _ => false
  | _ => true

def numbers (text : String) : Except Refusal (List Nat) :=
  (text.toList.splitOn ',').mapM fun piece =>
    match Text.Decimal.word? piece with
    | some number => .ok number
    | none => .error (.notANumber text)

def assign (reading : Reading) (value : String) : Flag → Except Refusal Reading
  | .directory =>
    if reading.directory.isSome then .error (.repeated Flag.directory.name)
    else .ok { reading with directory := some value }
  | .scenario =>
    if reading.scenario.isSome then .error (.repeated Flag.scenario.name)
    else
      match Text.Decimal.word? value.toList with
      | some number => .ok { reading with scenario := some number }
      | none => .error (.notANumber value)
  | .choices => do
    let more ← numbers value
    .ok { reading with choices := reading.choices ++ more }

def splitFlag (argument : String) : String × Option String :=
  let characters := argument.toList
  let name := characters.takeWhile (· ≠ '=')
  match characters.dropWhile (· ≠ '=') with
  | [] => (argument, none)
  | _ :: value => (String.ofList name, some (String.ofList value))

def isHelp (argument : String) : Bool := argument = "--help" || argument = "-h"

def helpOn (level : Level) : List String → Refusal
  | [] => .help
  | name :: rest =>
    match enter? level name with
    | some inner => helpOn inner rest
    | none => .unexpected name

def Level.hasCommands : Level → Bool
  | .program | .agent => true
  | _ => false

def Reading.enter (level : Level) (reading : Reading) : Reading :=
  { reading with
    level := level
    directory := none
    outer := reading.directory.or reading.outer }

def readFrom (reading : Reading) : List String → Except Refusal Reading
  | [] => .ok reading
  | argument :: rest =>
    if isHelp argument then .error .help
    else
      let (name, attached) := splitFlag argument
      match flag? reading.level name, attached with
      | some flag, some value =>
        match assign reading value flag with
        | .ok next => readFrom next rest
        | .error refusal => .error refusal
      | some flag, none =>
        match rest with
        | [] => .error (.missingValue name)
        | value :: others =>
          if isValue value then
            match assign reading value flag with
            | .ok next => readFrom next others
            | .error refusal => .error refusal
          else .error (.missingValue name)
      | none, _ =>
        -- nothing may follow the mark that ends the options, since there are no plain arguments
        if argument = "--" ∧ rest = [] then .ok reading
        else if argument = "help" ∧ reading.level.hasCommands then
          .error (helpOn reading.level rest)
        else
          match enter? reading.level argument with
          | some level => readFrom (reading.enter level) rest
          | none => .error (.unexpected argument)

def defaultDirectory : String := "scenarios"

def finish (reading : Reading) : Except Refusal Request :=
  let directory := (reading.directory.or reading.outer).getD defaultDirectory
  match reading.level with
  | .program | .line => .ok ⟨directory, .line⟩
  | .tui => .ok ⟨directory, .tui⟩
  | .agent => .error .missingCommand
  | .list => .ok ⟨directory, .agentList⟩
  | .play =>
    match reading.scenario with
    | some scenario => .ok ⟨directory, .agentPlay scenario reading.choices⟩
    | none => .error (.missingOption Flag.scenario.name)

def read (arguments : List String) : Except Refusal Request :=
  match readFrom {} arguments with
  | .ok reading => finish reading
  | .error refusal => .error refusal

structure Result where
  code : Nat
  output : String
deriving DecidableEq

def unlines (lines : List String) : String := String.join (lines.map (· ++ "\n"))

def answer (tree : FileTree) (input : List UInt8) (request : Request) : Result :=
  let catalog := tree.catalogOfDirectory (.ofText request.directory)
  match request.command with
  -- without a terminal the full-screen player is the console
  | .line | .tui =>
    let transcript := Console.session catalog (Answers.ofBytes input)
    ⟨transcript.exit.status, transcript.output⟩
  | .agentList => ⟨0, unlines (Agent.list catalog)⟩
  | .agentPlay number choices =>
    match Agent.play request.directory catalog number choices with
    | .ok lines => ⟨0, unlines lines⟩
    | .error error => ⟨1, unlines (Agent.failureLines error.failure)⟩

def run (tree : FileTree) (input : List UInt8) (arguments : List String) : Result :=
  match read arguments with
  | .ok request => answer tree input request
  | .error refusal => ⟨refusal.exitCode, ""⟩

end Gamebook.CommandLine
