import Gamebook.Boundary
import Gamebook.Catalog
import Gamebook.Player.Typewriter
import Gamebook.Player.Viewport

set_option autoImplicit false

namespace Gamebook

inductive Screen where
  | picker
  | playback
deriving DecidableEq

structure Player where
  screen : Screen := .picker
  picker : Viewport := {}
  active : Option Nat := none
  typewriter : Typewriter := {}
  choices : List (Nat × String) := []
  choice : Viewport := {}
  ending : Option Ending := none
  helpVisible : Bool := false
  status : String := ""
deriving DecidableEq

namespace Player

def isEnded (player : Player) : Bool := player.ending.isSome

def comeTo (boundary : Boundary) (player : Player) : Player :=
  match boundary.halt with
  | .waiting => { player with choices := boundary.choices, ending := none, choice := {} }
  | .ended => { player with choices := [], ending := boundary.ending, choice := {} }

def goOnTo (boundary : Boundary) (player : Player) : Player :=
  { player with typewriter := player.typewriter.enqueue boundary.texts }.comeTo boundary

def startAt (boundary : Boundary) (player : Player) : Player :=
  { player with typewriter := .fresh boundary.texts }.comeTo boundary

def begin (index : Nat) (boundary : Boundary) (player : Player) : Player :=
  { player with screen := .playback, active := some index }.startAt boundary

def leave (player : Player) : Player :=
  { player with
    screen := .picker
    active := none
    typewriter := {}
    choices := []
    choice := {}
    ending := none }

def tick (player : Player) : Bool × Player :=
  let (moved, writer) := player.typewriter.tick
  (moved, { player with typewriter := writer })

def flush (player : Player) : Player := { player with typewriter := player.typewriter.flush }

def say (status : String) (player : Player) : Player := { player with status := status }

end Player

structure Session where
  player : Player := {}
  engine : Option Engine := none
deriving DecidableEq

end Gamebook
