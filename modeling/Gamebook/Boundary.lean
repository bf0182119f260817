import Gamebook.Engine

set_option autoImplicit false

namespace Gamebook

inductive Halt where
  | waiting
  | ended
deriving DecidableEq

structure Boundary where
  halt : Halt
  texts : List String
  choices : List (Nat × String)
  ending : Option Ending
deriving DecidableEq

namespace Boundary

def ofMenu (texts : List String) (items : List MenuItem) : Boundary where
  halt := .waiting
  texts := texts
  choices := items.map fun item => (item.index, item.label)
  ending := none

def ofEnding (texts : List String) (reason : Ending) : Boundary where
  halt := .ended
  texts := texts
  choices := []
  ending := some reason

end Boundary

namespace Engine

def advanceFrom (texts : List String) (engine : Engine) : Boundary × Engine :=
  match told : engine.next with
  | (.text text _, after) =>
    have := phaseRank_next_text told
    after.advanceFrom (texts ++ [text])
  | (.menu items, after) => (.ofMenu texts items, after)
  | (.ending reason, after) => (.ofEnding texts reason, after)
termination_by phaseRank engine.phase
decreasing_by assumption

def advance (engine : Engine) : Boundary × Engine := engine.advanceFrom []

end Engine

end Gamebook
