import Gamebook.Player.Layout
import Gamebook.Text.Blank

/-!
The frame: the rows of a screen in a grid of characters. Rows past the bottom are cut off. A row
of nothing but blanks breaks in front of them, and so takes two lines of the grid.
-/

set_option autoImplicit false

namespace Gamebook.Frame

def line (width : Nat) (text : String) : String :=
  text ++ String.ofList (List.replicate (width - text.length) ' ')

def isBreak (c : Char) : Bool := Text.isBlank c && c ≠ '\u00a0'

def linesOfRow (width : Nat) (row : Row) : List String :=
  if row.text ≠ "" ∧ row.text.toList.all isBreak then [line width "", line width row.text]
  else [line width row.text]

def ofRows (width height : Nat) (rows : List Row) : List String :=
  let drawn := (rows.flatMap (linesOfRow width)).take height
  drawn ++ List.replicate (height - drawn.length) (line width "")

def draw (player : Player) (catalog : Catalog) (width height : Nat) : List String :=
  ofRows width height (Layout.rows player catalog width height)

end Gamebook.Frame
