import Gamebook.Boundary
import Gamebook.Json.Quoted

set_option autoImplicit false

namespace Gamebook

def okLine : String := "RESULT:OK"

def Halt.line : Halt → String
  | .waiting => "EVENT:CHOICES"
  | .ended => "EVENT:END"

def choiceLine (index : Nat) (label : String) : String :=
  "CHOICE:" ++ toString (index + 1) ++ "|" ++ Json.quoted label

def trailLine (trail : List Nat) : String :=
  "TRAIL:" ++ ",".intercalate (trail.map fun index => toString index)

def Boundary.lines (boundary : Boundary) (trail : List Nat) : List String :=
  [okLine, boundary.halt.line] ++
    boundary.texts.map (fun text => "TEXT_JSON:" ++ Json.quoted text) ++
    boundary.choices.map (fun (index, label) => choiceLine index label) ++
    (boundary.ending.map fun reason => "END_REASON:" ++ reason.code).toList ++
    [trailLine trail]

end Gamebook
