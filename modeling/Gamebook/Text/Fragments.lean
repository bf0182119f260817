import Gamebook.Text.Lines

set_option autoImplicit false

namespace Gamebook.Text

theorem length_drop_pred_lt (separator rest : List Char) (head : Char) :
    (rest.drop (separator.length - 1)).length < (head :: rest).length := by
  simp only [List.length_drop, List.length_cons]
  omega

def pieces (separator : List Char) : List Char → List (List Char)
  | [] => [[]]
  | head :: rest =>
    if separator.isPrefixOf (head :: rest) then
      -- the first character of the copy is gone with the head
      [] :: pieces separator (rest.drop (separator.length - 1))
    else extendFirst head (pieces separator rest)
termination_by text => text.length
decreasing_by
  · exact length_drop_pred_lt separator rest head
  · simp

def dropTrailingEmpty (parts : List (List Char)) : List (List Char) :=
  (parts.reverse.dropWhile List.isEmpty).reverse

def fragments (separator text : List Char) : List (List Char) :=
  match pieces separator text with
  | [whole] => [whole]
  | parts => dropTrailingEmpty parts

end Gamebook.Text
