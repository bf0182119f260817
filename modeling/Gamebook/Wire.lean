import Gamebook.Scenario
import Gamebook.Diagnostic
import Gamebook.Engine
import Gamebook.Json.Fields
import Gamebook.Json.Writer
import Gamebook.Json.Reader

set_option autoImplicit false

namespace Gamebook

class Wire (α : Type) where
  encode : α → Json
  decode? : Nat → Json → Option α

namespace Wire

variable {α : Type} [Wire α]

def write (value : α) : String := (encode value).compact

def read? (text : String) : Option α := (Json.parse? text.toList).bind (decode? 0)

def encodeList (values : List α) : Json := .array (values.map encode)

def decodeList? (depth : Nat) (value : Json) : Option (List α) :=
  value.list? (decode? (depth + 1))

instance : Wire Choice where
  encode choice :=
    .record [("label", .text choice.label), ("target", .integer choice.target.toInt)]
  decode? _ value := do
    match ← value.allFields? ["label", "target"] with
    | [some label, some target] => some ⟨← label.text?, ← target.int32?⟩
    | _ => none

instance : Wire Branch where
  encode branch :=
    .record [("description", .text branch.description), ("options", encodeList branch.choices)]
  decode? depth value := do
    match ← value.allFields? ["description", "options"] with
    | [some description, some choices] =>
      some ⟨← description.text?, ← decodeList? (depth + 1) choices⟩
    | _ => none

instance : Wire Scenario where
  encode scenario :=
    .record [("title", .text scenario.title), ("branches", encodeList scenario.branches)]
  decode? depth value := do
    match ← value.allFields? ["title", "branches"] with
    | [some title, some branches] => some ⟨← title.text?, ← decodeList? (depth + 1) branches⟩
    | _ => none

instance : Wire MenuItem where
  encode item :=
    .record
      [("index", .natural item.index), ("label", .text item.label),
        ("target", .integer item.target.toInt)]
  decode? _ value := do
    match ← value.allFields? ["index", "label", "target"] with
    | [some index, some label, some target] =>
      some ⟨← index.word?, ← label.text?, ← target.int32?⟩
    | _ => none

instance : Wire Ending where
  encode
    | .terminalBranch index =>
      .record [("kind", .text "terminalBranch"), ("index", .natural index)]
    | .outOfRange index => .record [("kind", .text "outOfRange"), ("index", .integer index)]
    | .noBranches => .record [("kind", .text "noBranches")]
  decode? depth value := do
    match ← value.tagged? depth with
    | ("terminalBranch", content) =>
      match ← content.allFields? ["index"] with
      | [some index] => some (.terminalBranch (← index.word?))
      | _ => none
    | ("outOfRange", content) =>
      match ← content.allFields? ["index"] with
      | [some index] => some (.outOfRange (← index.int64?))
      | _ => none
    | ("noBranches", content) => if content.isBare then some .noBranches else none
    | _ => none

instance : Wire Output where
  encode
    | .text text branch =>
      .record
        [("text", .record [("text", .text text), ("branch_index", .natural branch)])]
    | .menu items => .record [("choices", .record [("items", encodeList items)])]
    | .ending reason => .record [("end", .record [("reason", encode reason)])]
  decode? depth
    | .object [(some "text", content)] => do
      match ← content.allFields? ["text", "branch_index"] with
      | [some text, some branch] => some (.text (← text.text?) (← branch.word?))
      | _ => none
    | .object [(some "choices", content)] => do
      match ← content.allFields? ["items"] with
      | [some items] => some (.menu (← decodeList? (depth + 2) items))
      | _ => none
    | .object [(some "end", content)] => do
      match ← content.allFields? ["reason"] with
      | [some reason] => some (.ending (← decode? (depth + 2) reason))
      | _ => none
    | _ => none

end Wire

namespace Diagnostic.Kind

def name : Diagnostic.Kind → String
  | .directoryNotFound => "directoryNotFound"
  | .emptyFile => "emptyFile"
  | .readFailure => "readFailure"
  | .malformedLine => "malformedLine"
  | .malformedOption => "malformedOption"

def ofName? : String → Option Diagnostic.Kind
  | "directoryNotFound" => some .directoryNotFound
  | "emptyFile" => some .emptyFile
  | "readFailure" => some .readFailure
  | "malformedLine" => some .malformedLine
  | "malformedOption" => some .malformedOption
  | _ => none

end Diagnostic.Kind

namespace Wire

instance : Wire Diagnostic.Kind where
  encode kind := .text kind.name
  decode? _
    | .string (some name) => Diagnostic.Kind.ofName? name
    | .object [(some name, .null)] => Diagnostic.Kind.ofName? name
    | _ => none

instance : Wire Diagnostic where
  encode diagnostic :=
    .record
      [("kind", encode diagnostic.kind),
        ("file", (diagnostic.file.map Json.text).getD .null),
        ("line", (diagnostic.line.map Json.natural).getD .null),
        ("reason", .text diagnostic.reason)]
  decode? depth value := do
    match ← value.allFields? ["kind", "file", "line", "reason"] with
    | [some kind, file, line, some reason] =>
      some
        { kind := ← decode? (depth + 1) kind
          file := ← (file.getD .null).optional? Json.text?
          line := ← (line.getD .null).optional? Json.word?
          reason := ← reason.text? }
    | _ => none

end Wire

end Gamebook
