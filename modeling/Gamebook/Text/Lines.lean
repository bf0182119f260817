/-!
Lines of a text. A line ends at a line feed, at a carriage return, or at the two together, and
a terminator at the very end opens no further line.
-/

set_option autoImplicit false

namespace Gamebook.Text

def extendFirst {α : Type} (head : α) : List (List α) → List (List α)
  | [] => [[head]]
  | first :: rest => (head :: first) :: rest

def lines : List Char → List (List Char)
  | [] => []
  | '\n' :: rest => [] :: lines rest
  | '\r' :: '\n' :: rest => [] :: lines rest
  | '\r' :: rest => [] :: lines rest
  | head :: rest => extendFirst head (lines rest)

-- A line as it is delivered by a reader that ends lines at line feeds only, the line feed
-- included; the last line may lack it.
def feedLines {α : Type} [DecidableEq α] (feed : α) : List α → List (List α)
  | [] => []
  | head :: rest =>
    if head = feed then [head] :: feedLines feed rest
    else extendFirst head (feedLines feed rest)

def chomp (line : List Char) : List Char :=
  match line.reverse with
  | '\n' :: '\r' :: rest => rest.reverse
  | '\n' :: rest => rest.reverse
  | _ => line

end Gamebook.Text
