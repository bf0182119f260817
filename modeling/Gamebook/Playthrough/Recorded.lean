import Gamebook.Playthrough.Script

set_option autoImplicit false

namespace Gamebook.Shell

variable {σ ε : Type}

def recorded (shell : Shell σ ε) : Shell (σ × List Call) ε where
  describe text state :=
    let (answer, next) := shell.describe text state.1
    (answer, next, state.2 ++ [.describe text])
  offer labels state :=
    let (answer, next) := shell.offer labels state.1
    (answer, next, state.2 ++ [.offer labels])
  announce reason state :=
    let (answer, next) := shell.announce reason state.1
    (answer, next, state.2 ++ [.announce reason])

def failing (error : ε) (shell : Shell σ ε) : Shell (σ × Nat) ε where
  describe text state :=
    match state.2 with
    | 0 => (.error error, state)
    | left + 1 =>
      let (answer, next) := shell.describe text state.1
      (answer, next, left)
  offer labels state :=
    match state.2 with
    | 0 => (.error error, state)
    | left + 1 =>
      let (answer, next) := shell.offer labels state.1
      (answer, next, left)
  announce reason state :=
    match state.2 with
    | 0 => (.error error, state)
    | left + 1 =>
      let (answer, next) := shell.announce reason state.1
      (answer, next, left)

end Gamebook.Shell
