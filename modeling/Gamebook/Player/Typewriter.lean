import Gamebook.Recent

set_option autoImplicit false

namespace Gamebook

structure Typewriter where
  shown : List String := []
  typing : Option String := none
  typed : Nat := 0
  queue : List String := []
deriving DecidableEq

namespace Typewriter

def limit : Nat := 500

def isBusy (writer : Typewriter) : Bool := writer.typing.isSome || !writer.queue.isEmpty

def enqueue (lines : List String) (writer : Typewriter) : Typewriter :=
  { writer with queue := writer.queue ++ lines }

def fresh (lines : List String) : Typewriter := { queue := lines }

def complete (lines : List String) (writer : Typewriter) : Typewriter :=
  { writer with shown := keepRecent limit (writer.shown ++ lines) }

def tick (writer : Typewriter) : Bool × Typewriter :=
  match writer.typing, writer.queue with
  | none, [] => (false, writer)
  | none, next :: rest =>
    if next = "" then (true, { writer.complete [next] with queue := rest })
    else (true, { writer with typing := some next, typed := 1, queue := rest })
  | some line, _ =>
    if line.length ≤ writer.typed then
      (true, { writer.complete [line] with typing := none, typed := 0 })
    else (true, { writer with typed := writer.typed + 1 })

def flush (writer : Typewriter) : Typewriter :=
  { writer.complete (writer.typing.toList ++ writer.queue) with
    typing := none
    typed := 0
    queue := [] }

def unfinished? (writer : Typewriter) : Option String :=
  writer.typing.map fun line => String.ofList (line.toList.take writer.typed)

def visible (writer : Typewriter) : List String := writer.shown ++ writer.unfinished?.toList

end Typewriter

end Gamebook
