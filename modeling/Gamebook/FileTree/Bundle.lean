import Gamebook.FileTree
import Gamebook.Json.Fields
import Gamebook.Json.Reader

set_option autoImplicit false

namespace Gamebook.FileTree

def entryOf? (value : Json) : Option (FilePath × FileEntry) := do
  match ← value.allFields? ["path", "text", "link"] with
  | [some path, text, target] =>
    let path := FilePath.ofText (← path.text?)
    match ← (text.getD .null).optional? Json.text?, ← (target.getD .null).optional? Json.text? with
    | some text, none => some (path, .file text.toUTF8)
    | none, some target => some (path, .link (.ofText target))
    | none, none => some (path, .directory)
    | some _, some _ => none
  | _ => none

def ofBundle? (home : Place) (text : List Char) : Option FileTree := do
  let value ← Json.parse? text
  let entries ← value.list? entryOf?
  some (.ofEntries home entries)

end Gamebook.FileTree
