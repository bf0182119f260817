set_option autoImplicit false

namespace Gamebook

inductive Diagnostic.Kind where
  | directoryNotFound
  | emptyFile
  | readFailure
  | malformedLine
  | malformedOption
deriving DecidableEq

def Diagnostic.Kind.code : Diagnostic.Kind → String
  | .directoryNotFound => "DIRECTORY_NOT_FOUND"
  | .emptyFile => "EMPTY_FILE"
  | .readFailure => "READ_FAILURE"
  | .malformedLine => "MALFORMED_LINE"
  | .malformedOption => "MALFORMED_OPTION"

structure Diagnostic where
  kind : Diagnostic.Kind
  file : Option String := none
  line : Option Nat := none
  reason : String
deriving DecidableEq

namespace Diagnostic

def location (diagnostic : Diagnostic) : String :=
  match diagnostic.file, diagnostic.line with
  | some file, some line => file ++ ":" ++ toString line
  | some file, none => file
  | none, some line => "line " ++ toString line
  | none, none => "-"

def display (diagnostic : Diagnostic) : String :=
  diagnostic.kind.code ++ " " ++ diagnostic.location ++ ": " ++ diagnostic.reason

end Diagnostic

structure Failure where
  code : String
  message : String
deriving DecidableEq

def Failure.display (failure : Failure) : String := failure.code ++ ": " ++ failure.message

end Gamebook
