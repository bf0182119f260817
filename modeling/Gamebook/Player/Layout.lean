import Gamebook.Console
import Gamebook.Player
import Gamebook.Text.Columns
import Gamebook.Text.Lines

set_option autoImplicit false

namespace Gamebook

inductive Colour where
  | gray
  | yellow
  | cyan
  | green
  | magenta
deriving DecidableEq

structure Span where
  text : String
  colour : Option Colour := none
deriving DecidableEq

abbrev Row := List Span

namespace Row

def coloured (colour : Colour) (text : String) : Row := [⟨text, some colour⟩]

def plain (text : String) : Row :=
  (Text.feedLines '\n' text.toList).map fun line => ⟨String.ofList (Text.chomp line), none⟩

def text (row : Row) : String := String.join (row.map (·.text))

end Row

namespace Layout

def textWidth (width : Nat) : Nat := max (width - 2) 16

def rule (width : Nat) : Row := .coloured .gray (String.ofList (List.replicate width '─'))

def statusRow (width : Nat) (player : Player) : Row :=
  .coloured .gray (Text.truncate width ("status: " ++ player.status))

def itemRow (width number : Nat) (text : String) (selected : Bool) : Row :=
  let shown := Text.truncate (max (width - 2) 8) (toString number ++ ": " ++ text)
  if selected then .coloured .green ("> " ++ shown) else [⟨"  " ++ shown, none⟩]

def windowRow (width : Nat) (viewport : Viewport) (length : Nat) : Row :=
  let last := min (viewport.offset + Viewport.rows) length
  .coloured .gray
    (Text.truncate width
      ("window " ++ toString (viewport.offset + 1) ++ "-" ++ toString last ++ " / " ++
        toString length))

def helpRow (width : Nat) : Row :=
  .coloured .magenta
    (Text.truncate width
      "enter or space shows streaming text at once. options jumping outside the scenario end it.")

def visibleItems {α : Type} (viewport : Viewport) (items : List α) : List (Nat × α) :=
  ((items.drop viewport.offset).take Viewport.rows).zipIdx.map fun (item, row) =>
    (viewport.offset + row, item)

def itemRows (width : Nat) (viewport : Viewport) (texts : List String) : List Row :=
  (visibleItems viewport texts).map fun (index, text) =>
    itemRow width (index + 1) text (index = viewport.selected)

def windowRows (width : Nat) (viewport : Viewport) (length : Nat) : List Row :=
  if Viewport.rows < length then [windowRow width viewport length] else []

def helpRows (width : Nat) (player : Player) : List Row :=
  if player.helpVisible then [helpRow width] else []

def warningRows (width height : Nat) (catalog : Catalog) : List Row :=
  (catalog.diagnostics.take (height - (Viewport.rows + 6))).map fun found =>
    .coloured .yellow (Text.truncate width ("! " ++ found.reason))

def pickerRows (player : Player) (catalog : Catalog) (terminalWidth height : Nat) : List Row :=
  let width := textWidth terminalWidth
  [.plain (Text.truncate width "Available scenarios:"), statusRow width player] ++
    warningRows width height catalog ++
    [rule width] ++
    (if catalog.isEmpty then [.plain "No scenarios found."] else []) ++
    itemRows width player.picker catalog.titles ++
    windowRows width player.picker catalog.scenarios.length ++
    [.coloured .yellow
      (Text.truncate width "keys: up/down move | enter play | h help | q quit")] ++
    helpRows width player

def endingText : Option Ending → String
  | some (.terminalBranch _) => "[end] " ++ Console.endMessage
  | some (.outOfRange index) => "[end] no branch " ++ toString index
  | some .noBranches => "[end] scenario has no branches"
  | none => "[end]"

def storyRows (width : Nat) (player : Player) : List String :=
  player.typewriter.visible.flatMap (Text.fold width)

def choicesVisible (player : Player) : Bool :=
  !player.typewriter.isBusy && !player.choices.isEmpty

def endVisible (player : Player) : Bool := !player.typewriter.isBusy && player.isEnded

def reservedRows (player : Player) : Nat :=
  2 + 1 + Viewport.rows + 1 + 1 +
    (if choicesVisible player || endVisible player then 1 else 0) +
    (if player.helpVisible then 1 else 0)

def storyHeight (player : Player) (height : Nat) : Nat := max (height - reservedRows player) 1

def playbackTitle (player : Player) (catalog : Catalog) : String :=
  match player.active.bind (catalog.scenarios[·]?) with
  | some loaded => loaded.fileName ++ " | " ++ loaded.scenario.title
  | none => ""

def menuRows (width : Nat) (player : Player) : List Row :=
  let items := itemRows width player.choice (player.choices.map (·.2))
  [.coloured .cyan (Text.truncate width "choices (up/down + enter):")] ++ items ++
    List.replicate (Viewport.rows - items.length) (.plain " ") ++
    windowRows width player.choice player.choices.length

def playbackRows (player : Player) (catalog : Catalog) (terminalWidth height : Nat) : List Row :=
  let width := textWidth terminalWidth
  let story := storyRows width player
  [.plain (Text.truncate width (playbackTitle player catalog)), statusRow width player] ++
    (story.drop (story.length - storyHeight player height)).map .plain ++
    [rule width] ++
    (if choicesVisible player then menuRows width player else []) ++
    (if endVisible player then
      [.coloured .green (Text.truncate width (endingText player.ending))] else []) ++
    [.coloured .yellow
      (Text.truncate width
        "keys: up/down move | enter choose/skip | r restart | b back | h help | q quit")] ++
    helpRows width player

def rows (player : Player) (catalog : Catalog) (width height : Nat) : List Row :=
  match player.screen with
  | .picker => pickerRows player catalog width height
  | .playback => playbackRows player catalog width height

end Layout

end Gamebook
