set_option autoImplicit false

namespace Gamebook

structure Viewport where
  selected : Nat := 0
  offset : Nat := 0
deriving DecidableEq

inductive Move where
  | up
  | down
deriving DecidableEq

namespace Viewport

def rows : Nat := 5

def step (length : Nat) (move : Move) (viewport : Viewport) : Viewport :=
  match move with
  | .down =>
    let selected := min (viewport.selected + 1) (length - 1)
    ⟨selected,
      if rows < length ∧ viewport.offset + rows ≤ selected then selected - rows + 1
      else viewport.offset⟩
  | .up =>
    let selected := viewport.selected - 1
    ⟨selected, if selected < viewport.offset then selected else viewport.offset⟩

end Viewport

end Gamebook
