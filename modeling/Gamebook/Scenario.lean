set_option autoImplicit false

namespace Gamebook

structure Choice where
  label : String
  target : Int32
deriving DecidableEq

structure Branch where
  description : String
  choices : List Choice
deriving DecidableEq

def Branch.isTerminal (branch : Branch) : Bool := branch.choices.isEmpty

structure Scenario where
  title : String
  branches : List Branch
deriving DecidableEq

def Scenario.branch? (scenario : Scenario) : Int → Option Branch
  | .ofNat index => scenario.branches[index]?
  | .negSucc _ => none

structure MenuItem where
  index : Nat
  label : String
  target : Int32
deriving DecidableEq

def Branch.menu (branch : Branch) : List MenuItem :=
  branch.choices.zipIdx.map fun (choice, index) => ⟨index, choice.label, choice.target⟩

inductive Ending where
  | terminalBranch (index : Nat)
  | outOfRange (index : Int)
  | noBranches
deriving DecidableEq

def Ending.code : Ending → String
  | .terminalBranch _ => "TERMINAL_BRANCH"
  | .outOfRange _ => "OUT_OF_RANGE"
  | .noBranches => "NO_BRANCHES"

end Gamebook
