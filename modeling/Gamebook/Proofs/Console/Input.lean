import Gamebook.Console.Answers
import Gamebook.Proofs.Text.Utf8

set_option autoImplicit false

namespace Gamebook

namespace Text

theorem words_apart (first rest : List Char) (c : Char) (blank : isBlank c = true) :
    words (first ++ c :: rest) = words first ++ words rest := by
  rw [words, List.splitOnP_append_cons first rest blank, List.filter_append]
  rfl

theorem words_line (line : List Char) : words (line ++ ['\n']) = words line := by
  rw [words_apart line [] '\n' (by decide)]
  exact List.append_nil _

-- The characters with the Unicode property White_Space.
def Blank (c : Char) : Prop :=
  c.toNat ∈ [0x9, 0xA, 0xB, 0xC, 0xD, 0x20, 0x85, 0xA0, 0x1680, 0x2000, 0x2001, 0x2002, 0x2003,
    0x2004, 0x2005, 0x2006, 0x2007, 0x2008, 0x2009, 0x200A, 0x2028, 0x2029, 0x202F, 0x205F, 0x3000]

theorem blank_iff (c : Char) : isBlank c = true ↔ Blank c := by
  simp only [isBlank, Blank, Bool.or_eq_true, Bool.and_eq_true, decide_eq_true_eq, beq_iff_eq,
    List.mem_cons, List.not_mem_nil, or_false]
  omega

-- The words of a text: what stands between its blanks, as long as it goes on.
inductive Worded : List Char → List (List Char) → Prop where
  | nothing : Worded [] []
  | blank (c : Char) (rest : List Char) (words : List (List Char)) (blank : Blank c)
      (onward : Worded rest words) : Worded (c :: rest) words
  | word (word rest : List Char) (words : List (List Char)) (full : word ≠ [])
      (solid : ∀ c ∈ word, ¬ Blank c) (ends : ∀ c ∈ rest.head?, Blank c)
      (onward : Worded rest words) : Worded (word ++ rest) (word :: words)

theorem words_blank (c : Char) (rest : List Char) (blank : isBlank c = true) :
    words (c :: rest) = words rest :=
  words_apart [] rest c blank

theorem words_solid (word : List Char) (full : word ≠ [])
    (solid : ∀ c ∈ word, isBlank c = false) : words word = [word] := by
  rw [words, List.splitOnP_eq_singleton fun c there => by simp [solid c there]]
  simp [full]

theorem words_first (word rest : List Char) (full : word ≠ [])
    (solid : ∀ c ∈ word, isBlank c = false) (ends : ∀ c ∈ rest.head?, isBlank c = true) :
    words (word ++ rest) = word :: words rest := by
  cases rest with
  | nil =>
    rw [List.append_nil, words_solid word full solid]
    rfl
  | cons c rest =>
    have blank := ends c rfl
    rw [words_apart word rest c blank, words_solid word full solid, words_blank c rest blank]
    rfl

theorem first_word (c : Char) (rest : List Char) (solid : isBlank c = false) :
    ∃ word left, c :: rest = word ++ left ∧ word ≠ [] ∧ (∀ d ∈ word, isBlank d = false) ∧
      (∀ d ∈ left.head?, isBlank d = true) ∧ left.length ≤ rest.length := by
  induction rest generalizing c with
  | nil => exact ⟨[c], [], rfl, by simp, by simpa using solid, by simp, Nat.le_refl _⟩
  | cons d rest ih =>
    cases blank : isBlank d with
    | true => exact ⟨[c], d :: rest, rfl, by simp, by simpa using solid, by simpa using blank,
        Nat.le_refl _⟩
    | false =>
      obtain ⟨word, left, parted, _, within, ends, shorter⟩ := ih d blank
      refine ⟨c :: word, left, by rw [parted]; rfl, by simp, ?_, ends, Nat.le_succ_of_le shorter⟩
      exact List.forall_mem_cons.mpr ⟨solid, within⟩

-- The recursion is on the text: over a blank, or over a word.
theorem words_worded (text : List Char) : Worded text (words text) := by
  cases text with
  | nil => exact .nothing
  | cons c rest =>
    cases blank : isBlank c with
    | true =>
      rw [words_blank c rest blank]
      exact .blank c rest _ ((blank_iff c).mp blank) (words_worded rest)
    | false =>
      obtain ⟨word, left, parted, full, within, ends, shorter⟩ := first_word c rest blank
      rw [parted, words_first word left full within ends]
      refine .word word left _ full ?_ (fun d there => (blank_iff d).mp (ends d there))
        (words_worded left)
      intro d there blank
      rw [← blank_iff, within d there] at blank
      cases blank
termination_by text.length

-- The recursion is on the lines: up to the first line feed, and then what follows it.
theorem words_of_lines (text : List Char) : words text = (feedLines '\n' text).flatMap words := by
  by_cases broken : '\n' ∈ text
  · obtain ⟨first, rest, parted, plain⟩ := List.eq_append_cons_of_mem broken
    have shorter : rest.length < text.length := by
      rw [parted, List.length_append, List.length_cons]
      omega
    rw [parted, words_apart first rest '\n' (by decide), feed_lines_first '\n' first rest plain,
      List.flatMap_cons, words_line, words_of_lines rest]
  · by_cases empty : text = []
    · rw [empty]
      rfl
    · rw [feed_lines_only '\n' text empty broken, List.flatMap_singleton]
termination_by text.length

end Text

namespace Answers

theorem words_in_text (line : List Char) :
    wordsIn? (Text.utf8 line) = some ((Text.words line).map String.ofList) := by
  rw [wordsIn?, Text.utf8_read, Option.map_some, String.toList_ofList]

theorem words_on_texts (lines : List (List Char)) :
    wordsOn (lines.map Text.utf8) = (lines.flatMap Text.words).map String.ofList ∧
      faultOn (lines.map Text.utf8) = .closed := by
  induction lines with
  | nil => exact ⟨rfl, rfl⟩
  | cons line rest ih =>
    rw [List.map_cons, wordsOn, faultOn, words_in_text, List.flatMap_cons, List.map_append]
    exact ⟨congrArg (_ ++ ·) ih.1, ih.2⟩

theorem typed_words (typed : String) :
    (ofBytes typed.toUTF8.data.toList).words = (Text.words typed.toList).map String.ofList := by
  rw [ofBytes, words, Text.utf8_string, lineFeed, Text.feed_lines_utf8, (words_on_texts _).1,
    ← Text.words_of_lines]
  rfl

theorem typed_fault (typed : String) : (ofBytes typed.toUTF8.data.toList).fault = .closed := by
  rw [ofBytes, fault, Text.utf8_string, lineFeed, Text.feed_lines_utf8]
  exact (words_on_texts _).2

theorem fault_closed (input : List UInt8) :
    (ofBytes input).fault = .closed ↔ ∀ line ∈ Text.feedLines lineFeed input,
      (String.fromUTF8? line.toByteArray).isSome := by
  rw [ofBytes, fault]
  induction Text.feedLines lineFeed input with
  | nil => simp [faultOn]
  | cons line rest ih =>
    rw [faultOn, List.forall_mem_cons]
    cases read : String.fromUTF8? line.toByteArray with
    | none => simp [wordsIn?, read]
    | some text => simpa [wordsIn?, read] using ih

end Answers

end Gamebook
