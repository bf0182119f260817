import Gamebook.CommandLine
import Gamebook.FileTree.Bundle

set_option autoImplicit false

namespace Gamebook

def bundleHome : Place := [FilePath.ofText "bundle"]

partial def readAll (input : IO.FS.Stream) (found : ByteArray) : IO ByteArray := do
  let chunk ← input.read 65536
  if chunk.isEmpty then return found else readAll input (found ++ chunk)

end Gamebook

open Gamebook

def main (arguments : List String) : IO UInt32 := do
  let input := (← readAll (← IO.getStdin) .empty).toList
  let lines := Text.feedLines Answers.lineFeed input
  let bundle := (lines.head?.bind fun line => String.fromUTF8? line.toByteArray).getD ""
  match FileTree.ofBundle? bundleHome bundle.toList with
  | none => return 2
  | some tree =>
    let result := CommandLine.run tree lines.tail.flatten arguments
    (← IO.getStdout).putStr result.output
    return UInt32.ofNat result.code
