set_option autoImplicit false

namespace Gamebook.Text

def ellipsis : Char := '…'

def truncate (width : Nat) (text : String) : String :=
  if width = 0 then ""
  else if text.length ≤ width then text
  else String.ofList (text.toList.take (width - 1) ++ [ellipsis])

def chunks (width : Nat) (text : List Char) : List (List Char) :=
  if width = 0 ∨ text.drop width = [] then [text]
  else text.take width :: chunks width (text.drop width)
termination_by text.length
decreasing_by
  rename_i room
  simp only [List.drop_eq_nil_iff, not_or] at room
  simp only [List.length_drop]
  omega

def fold (width : Nat) (text : String) : List String :=
  if width = 0 then [""] else (chunks width text.toList).map String.ofList

end Gamebook.Text
