import Gamebook.Text.Blank
import Gamebook.Text.Decimal
import Gamebook.Text.Lines

/-!
What a reader types at the console: words with blanks between them, on any number of lines. A line
is read only when no word of the line before is left. The input ends, or fails at the first line
that is not UTF-8.
-/

set_option autoImplicit false

namespace Gamebook

inductive InputFault where
  | closed
  | notText
deriving DecidableEq

def InputFault.message : InputFault → String
  | .closed => "Input ended before a selection was made."
  | .notText => "stream did not contain valid UTF-8"

structure Answers where
  queued : List String
  unread : List (List UInt8)
deriving DecidableEq

namespace Answers

def lineFeed : UInt8 := 10

def ofBytes (input : List UInt8) : Answers := ⟨[], Text.feedLines lineFeed input⟩

def wordsIn? (line : List UInt8) : Option (List String) :=
  (String.fromUTF8? line.toByteArray).map fun text => (Text.words text.toList).map String.ofList

def readOn : List (List UInt8) → Except InputFault String × Answers
  | [] => (.error .closed, ⟨[], []⟩)
  | line :: unread =>
    match wordsIn? line with
    | none => (.error .notText, ⟨[], unread⟩)
    | some [] => readOn unread
    | some (word :: queued) => (.ok word, ⟨queued, unread⟩)

def next (answers : Answers) : Except InputFault String × Answers :=
  match answers.queued with
  | word :: queued => (.ok word, ⟨queued, answers.unread⟩)
  | [] => readOn answers.unread

def wordsOn : List (List UInt8) → List String
  | [] => []
  | line :: unread =>
    match wordsIn? line with
    | none => []
    | some words => words ++ wordsOn unread

def faultOn : List (List UInt8) → InputFault
  | [] => .closed
  | line :: unread =>
    match wordsIn? line with
    | none => .notText
    | some _ => faultOn unread

def words (answers : Answers) : List String := answers.queued ++ wordsOn answers.unread

def fault (answers : Answers) : InputFault := faultOn answers.unread

-- Whether it comes from the queue or from a line further on, the next word is the first of those
-- still to come.
theorem read_on_gives (unread : List (List UInt8)) :
    match wordsOn unread with
    | [] => ∃ after, readOn unread = (.error (faultOn unread), after)
    | word :: rest => ∃ after, readOn unread = (.ok word, after) ∧ after.words = rest ∧
        after.fault = faultOn unread := by
  induction unread with
  | nil => exact ⟨_, rfl⟩
  | cons line unread ih =>
    rw [wordsOn, readOn, faultOn]
    cases wordsIn? line with
    | none => exact ⟨_, rfl⟩
    | some words =>
      cases words with
      | nil => exact ih
      | cons word queued => exact ⟨_, rfl, rfl, rfl⟩

theorem next_word (answers : Answers) (word : String) (rest : List String)
    (coming : answers.words = word :: rest) :
    ∃ after, answers.next = (.ok word, after) ∧ after.words = rest ∧
      after.fault = answers.fault := by
  obtain ⟨queued, unread⟩ := answers
  cases queued with
  | cons first others =>
    obtain ⟨rfl, rfl⟩ := List.cons.inj coming
    exact ⟨_, rfl, rfl, rfl⟩
  | nil =>
    have gives := read_on_gives unread
    rw [show wordsOn unread = word :: rest from coming] at gives
    exact gives

theorem next_fault (answers : Answers) (used : answers.words = []) :
    ∃ after, answers.next = (.error answers.fault, after) := by
  obtain ⟨queued, unread⟩ := answers
  obtain ⟨rfl, none⟩ := List.append_eq_nil_iff.mp used
  have gives := read_on_gives unread
  rw [none] at gives
  exact gives

theorem next_fewer (answers after : Answers) (word : String)
    (heard : answers.next = (.ok word, after)) : after.words.length < answers.words.length := by
  cases coming : answers.words with
  | nil =>
    obtain ⟨other, faulty⟩ := next_fault answers coming
    rw [heard] at faulty
    cases faulty
  | cons first rest =>
    obtain ⟨other, same, left, _⟩ := next_word answers first rest coming
    rw [heard] at same
    cases same
    rw [left]
    exact Nat.lt_succ_self _

end Answers

inductive Answer where
  | item (index : Nat)
  | outOfRange
  | notANumber
deriving DecidableEq

def Answer.ofWord (count : Nat) (word : String) : Answer :=
  match Text.Decimal.int32? word.toList with
  | none => .notANumber
  | some number =>
    match number.toInt - 1 with
    | .ofNat index => if index < count then .item index else .outOfRange
    | .negSucc _ => .outOfRange

end Gamebook
