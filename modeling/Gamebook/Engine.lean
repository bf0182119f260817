import Gamebook.Scenario
import Gamebook.Diagnostic
import Gamebook.Recent

/-!
The engine walks one scenario, an output at a time. It starts at branch 0. Each branch is first
described; then it offers its menu and waits for a choice, or ends the story. A jump to a branch
that is not there ends the story as well, at the next output.
-/

set_option autoImplicit false

namespace Gamebook

inductive Phase where
  | describe
  | decide
deriving DecidableEq

structure Engine where
  scenario : Scenario
  current : Int
  phase : Phase
  pending : Option (List MenuItem)
  ending : Option Ending
  trail : List Nat
deriving DecidableEq

inductive Output where
  | text (text : String) (branch : Nat)
  | menu (items : List MenuItem)
  | ending (reason : Ending)
deriving DecidableEq

inductive ChoiceError where
  | nothingPending
  | outOfRange (index : Nat)
deriving DecidableEq

def ChoiceError.failure : ChoiceError → Failure
  | .nothingPending => ⟨"ENGINE_NO_PENDING_CHOICE", "No pending choice is available."⟩
  | .outOfRange index =>
    ⟨"ENGINE_CHOICE_INDEX", "Choice index \"" ++ toString index ++ "\" is out of range."⟩

namespace Engine

def trailLimit : Nat := 256

def start (scenario : Scenario) : Engine where
  scenario := scenario
  current := 0
  phase := .describe
  pending := none
  ending := none
  trail := []

def restart (engine : Engine) : Engine := start engine.scenario

def isWaiting (engine : Engine) : Bool := engine.pending.isSome

def isEnded (engine : Engine) : Bool := engine.ending.isSome

def missingBranch (engine : Engine) : Ending :=
  if engine.scenario.branches = [] ∧ engine.current = 0 then .noBranches
  else .outOfRange engine.current

def finish (reason : Ending) (engine : Engine) : Output × Engine :=
  (.ending reason, { engine with ending := some reason, pending := none })

def visit (branch : Branch) (engine : Engine) : Output × Engine :=
  let index := engine.current.toNat
  match engine.phase with
  | .describe =>
    (.text branch.description index,
      { engine with
        phase := .decide
        trail := keepRecent trailLimit (engine.trail ++ [index]) })
  | .decide =>
    if branch.isTerminal then engine.finish (.terminalBranch index)
    else (.menu branch.menu, { engine with pending := some branch.menu })

def next (engine : Engine) : Output × Engine :=
  -- an end, and a menu that waits for its choice, are given again
  match engine.ending, engine.pending with
  | some reason, _ => (.ending reason, engine)
  | none, some items => (.menu items, engine)
  | none, none =>
    match engine.scenario.branch? engine.current with
    | none => engine.finish engine.missingBranch
    | some branch => engine.visit branch

def choose (index : Nat) (engine : Engine) : Except ChoiceError Engine :=
  match engine.pending with
  | none => .error .nothingPending
  | some items =>
    match items[index]? with
    | none => .error (.outOfRange index)
    | some item =>
      .ok { engine with current := item.target.toInt, phase := .describe, pending := none }

def phaseRank : Phase → Nat
  | .describe => 1
  | .decide => 0

theorem next_text {engine after : Engine} {text : String} {branch : Nat}
    (told : engine.next = (.text text branch, after)) :
    engine.phase = .describe ∧ after.phase = .decide := by
  unfold next at told
  split at told
  · simp at told
  · simp at told
  · split at told
    · simp [finish] at told
    · unfold visit at told
      split at told
      · rename_i phase
        simp only [Prod.mk.injEq] at told
        exact ⟨phase, by rw [← told.2]⟩
      · split at told <;> simp [finish] at told

theorem phaseRank_next_text {engine after : Engine} {text : String} {branch : Nat}
    (told : engine.next = (.text text branch, after)) :
    phaseRank after.phase < phaseRank engine.phase := by
  have phases := next_text told
  rw [phases.1, phases.2]
  decide

end Engine

end Gamebook
