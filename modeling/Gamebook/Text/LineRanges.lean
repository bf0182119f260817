set_option autoImplicit false

namespace Gamebook.Text

def lineRangesFrom (start position : Nat) : List UInt8 → List (Nat × Nat)
  | [] => if start < position then [(start, position)] else []
  | 10 :: rest => (start, position) :: lineRangesFrom (position + 1) (position + 1) rest
  | 13 :: 10 :: rest => (start, position) :: lineRangesFrom (position + 2) (position + 2) rest
  | 13 :: rest => (start, position) :: lineRangesFrom (position + 1) (position + 1) rest
  | _ :: rest => lineRangesFrom start (position + 1) rest

def lineRanges (bytes : List UInt8) : List (Nat × Nat) := lineRangesFrom 0 0 bytes

def sliceLines (text : String) : List (Option String) :=
  (lineRanges text.toByteArray.data.toList).map fun (start, stop) =>
    String.fromUTF8? (text.toByteArray.extract start stop)

end Gamebook.Text
