import Gamebook.Text.Lossy

set_option autoImplicit false

namespace Gamebook

abbrev FileName := List UInt8

abbrev FilePath := List UInt8

abbrev Place := List FileName

namespace FilePath

def slash : UInt8 := 47

def here : FileName := [46]

def up : FileName := [46, 46]

def ofText (text : String) : FilePath := text.toUTF8.data.toList

def display (path : FilePath) : String := Text.lossy path

def ofPlace (place : Place) : FilePath :=
  if place = [] then [slash] else place.flatMap fun name => slash :: name

def parts (path : FilePath) : List FileName := path.splitOn slash

def isAbsolute (path : FilePath) : Bool := path.head? = some slash

def names (path : FilePath) : List FileName :=
  (parts path).filter fun part => part ≠ [] ∧ part ≠ here

-- The last name of a path; there is none if the path goes up at its end or names nothing.
def fileName? (path : FilePath) : Option FileName := (names path).getLast?.filter (· ≠ up)

def fileName (path : FilePath) : String := display ((fileName? path).getD path)

def join (directory path : FilePath) : FilePath :=
  if isAbsolute path ∨ directory = [] then path
  else if directory.getLast? = some slash then directory ++ path
  else directory ++ slash :: path

end FilePath

end Gamebook
