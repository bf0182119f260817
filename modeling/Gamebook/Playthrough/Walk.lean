import Gamebook.Playthrough.Script

set_option autoImplicit false

namespace Gamebook

inductive WalkStop where
  | ended (reason : Ending)
  | exhausted
  | noSuchChoice (index : Nat)
deriving DecidableEq

structure Walk where
  calls : List Call
  visited : List Nat
  stop : WalkStop
deriving DecidableEq

namespace Scenario

def outside (scenario : Scenario) (position : Int) : Ending :=
  if scenario.branches = [] then .noBranches else .outOfRange position

def walkFrom (scenario : Scenario) (position : Int) (picks : List Nat) : Walk :=
  match scenario.branch? position with
  | none =>
    let reason := scenario.outside position
    ⟨[.announce reason], [], .ended reason⟩
  | some branch =>
    let index := position.toNat
    let described := Call.describe branch.description
    if branch.isTerminal then
      let reason := Ending.terminalBranch index
      ⟨[described, .announce reason], [index], .ended reason⟩
    else
      let offered := Call.offer (branch.choices.map (·.label))
      match picks with
      | [] => ⟨[described, offered], [index], .exhausted⟩
      | pick :: rest =>
        match branch.choices[pick]? with
        | none => ⟨[described, offered], [index], .noSuchChoice pick⟩
        | some choice =>
          let onward := scenario.walkFrom choice.target.toInt rest
          ⟨described :: offered :: onward.calls, index :: onward.visited, onward.stop⟩

def walk (scenario : Scenario) (picks : List Nat) : Walk := scenario.walkFrom 0 picks

end Scenario

end Gamebook
