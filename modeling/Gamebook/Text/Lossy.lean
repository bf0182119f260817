/-!
Bytes shown as text. What is UTF-8 in them is decoded. The start of a character that the next byte
does not go on with gives one replacement character, and so does a byte that starts no character.
-/

set_option autoImplicit false

namespace Gamebook.Text

def replacement : Char := '\uFFFD'

-- A character that some bytes have started: how many it still lacks, the range of the next one,
-- and the value of those that are there.
structure Unfinished where
  lacks : Nat
  low : Nat := 0x80
  high : Nat := 0xBF
  value : Nat
deriving DecidableEq

def startChar (byte : Nat) : List Char × Option Unfinished :=
  if byte < 0x80 then ([Char.ofNat byte], none)
  else if byte < 0xC2 then ([replacement], none)
  else if byte < 0xE0 then ([], some { lacks := 1, value := byte - 0xC0 })
  else if byte < 0xF0 then
    -- neither a longer form of a character than it needs, nor half of a surrogate pair
    let low := if byte = 0xE0 then 0xA0 else 0x80
    let high := if byte = 0xED then 0x9F else 0xBF
    ([], some { lacks := 2, low, high, value := byte - 0xE0 })
  else if byte < 0xF5 then
    let low := if byte = 0xF0 then 0x90 else 0x80
    let high := if byte = 0xF4 then 0x8F else 0xBF
    ([], some { lacks := 3, low, high, value := byte - 0xF0 })
  else ([replacement], none)

def readByte (byte : Nat) : Option Unfinished → List Char × Option Unfinished
  | none => startChar byte
  | some char =>
    if char.low ≤ byte ∧ byte ≤ char.high then
      let value := char.value * 64 + (byte - 0x80)
      if char.lacks = 1 then ([Char.ofNat value], none)
      else ([], some { lacks := char.lacks - 1, value })
    else
      let (shown, next) := startChar byte
      (replacement :: shown, next)

def lossyFrom (char : Option Unfinished) : List UInt8 → List Char
  | [] => if char.isSome then [replacement] else []
  | byte :: rest =>
    let (shown, next) := readByte byte.toNat char
    shown ++ lossyFrom next rest

def lossy (bytes : List UInt8) : String := String.ofList (lossyFrom none bytes)

end Gamebook.Text
