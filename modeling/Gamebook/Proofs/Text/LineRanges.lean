import Gamebook.Text.LineRanges
import Gamebook.Proofs.Text.Utf8
import Mathlib.Data.List.Forall2

set_option autoImplicit false

namespace Gamebook.Text

def Cuts (text : List Char) (range : Nat × Nat) (line : List Char) : Prop :=
  ∃ before after, text = before ++ line ++ after ∧
    range = ((utf8 before).length, (utf8 (before ++ line)).length)

theorem utf8_return (rest : List Char) : utf8 ('\r' :: rest) = 13 :: utf8 rest := by
  have one : String.utf8EncodeChar '\r' = [13] := by decide
  rw [utf8_cons, one]
  rfl

theorem utf8_head (rest : List Char) (other : rest.head? ≠ some '\n') :
    (utf8 rest).head? ≠ some 10 := by
  cases rest with
  | nil => simp [utf8]
  | cons head tail =>
    have feed : head ≠ '\n' := fun same => other (congrArg some same)
    rw [utf8_cons, List.head?_append_of_ne_nil _ String.utf8EncodeChar_ne_nil]
    intro first
    exact encoded_lacks head '\n' 10 (by decide) rfl feed (List.mem_of_mem_head? first)

section Scan

variable (start position : Nat)

theorem ranges_feed (bytes : List UInt8) :
    lineRangesFrom start position (10 :: bytes) =
      (start, position) :: lineRangesFrom (position + 1) (position + 1) bytes := by
  rw [lineRangesFrom]

theorem ranges_both (bytes : List UInt8) :
    lineRangesFrom start position (13 :: 10 :: bytes) =
      (start, position) :: lineRangesFrom (position + 2) (position + 2) bytes := by
  rw [lineRangesFrom]

theorem ranges_return (bytes : List UInt8) (other : bytes.head? ≠ some 10) :
    lineRangesFrom start position (13 :: bytes) =
      (start, position) :: lineRangesFrom (position + 1) (position + 1) bytes := by
  rw [lineRangesFrom]
  intro later same
  rw [same] at other
  exact other rfl

theorem ranges_plain (bytes rest : List UInt8) (feed : 10 ∉ bytes) (carriage : 13 ∉ bytes) :
    lineRangesFrom start position (bytes ++ rest) =
      lineRangesFrom start (position + bytes.length) rest := by
  induction bytes generalizing position with
  | nil => rfl
  | cons byte tail ih =>
    obtain ⟨noFeed, feeds⟩ := not_or.mp (mt List.mem_cons.mpr feed)
    obtain ⟨noReturn, returns⟩ := not_or.mp (mt List.mem_cons.mpr carriage)
    rw [List.cons_append, lineRangesFrom, ih (position + 1) feeds returns, List.length_cons]
    · congr 1
      omega
    · exact Ne.symm noFeed
    · intro later same
      exact absurd same.symm noReturn
    · exact Ne.symm noReturn

end Scan

theorem cuts_onward (before line terminator rest : List Char) (size : Nat)
    (wide : (utf8 terminator).length = size)
    (next : List.Forall₂ (Cuts (before ++ (line ++ terminator) ++ ([] ++ rest)))
      (lineRangesFrom (utf8 (before ++ (line ++ terminator))).length
        (utf8 (before ++ (line ++ terminator) ++ [])).length (utf8 rest))
      (lines ([] ++ rest))) :
    List.Forall₂ (Cuts (before ++ (line ++ (terminator ++ rest))))
      (((utf8 before).length, (utf8 (before ++ line)).length) ::
        lineRangesFrom ((utf8 (before ++ line)).length + size)
          ((utf8 (before ++ line)).length + size) (utf8 rest))
      (line :: lines rest) := by
  have past : (utf8 (before ++ line)).length + size =
      (utf8 (before ++ (line ++ terminator))).length := by
    rw [← wide, ← List.append_assoc, utf8_append (before ++ line), List.length_append]
  have whole : before ++ (line ++ terminator) ++ rest =
      before ++ (line ++ (terminator ++ rest)) := by
    rw [List.append_assoc, List.append_assoc]
  rw [List.append_nil, List.nil_append, whole] at next
  rw [past]
  exact .cons ⟨before, terminator ++ rest, (List.append_assoc before line _).symm, rfl⟩ next

-- The scan stands behind the characters of the line it is in. The induction is on the rest of the
-- text, read as the lines read it.
theorem ranges_cut (before line rest : List Char) (plain : OneLine line) :
    List.Forall₂ (Cuts (before ++ (line ++ rest)))
      (lineRangesFrom (utf8 before).length (utf8 (before ++ line)).length (utf8 rest))
      (lines (line ++ rest)) := by
  fun_induction lines rest generalizing before line with
  | case1 =>
    have nothing : utf8 [] = [] := rfl
    rw [nothing, lineRangesFrom, utf8_append, List.length_append, List.append_nil]
    by_cases empty : line = []
    · rw [empty, nothing]
      simp [lines]
    · have wide : (utf8 line).length ≠ 0 :=
        mt List.length_eq_zero_iff.mp (mt (utf8_empty line).mp empty)
      rw [if_pos (by omega), lines_whole line plain empty]
      refine .cons ⟨before, [], (List.append_nil _).symm, ?_⟩ .nil
      rw [utf8_append, List.length_append]
  | case2 rest ih =>
    rw [lines_line line _ _ plain (lines_feed rest), utf8_feed, ranges_feed]
    exact cuts_onward before line ['\n'] rest 1 rfl (ih _ [] one_line_nil)
  | case3 rest ih =>
    rw [lines_line line _ _ plain (lines_both rest), utf8_return, utf8_feed, ranges_both]
    exact cuts_onward before line ['\r', '\n'] rest 2 rfl (ih _ [] one_line_nil)
  | case4 rest other ih =>
    have lone : rest.head? ≠ some '\n' := by
      intro first
      obtain ⟨later, same⟩ := List.head?_eq_some_iff.mp first
      exact other later same
    rw [lines_line line _ _ plain (lines_return rest lone), utf8_return,
      ranges_return _ _ _ (utf8_head rest lone)]
    exact cuts_onward before line ['\r'] rest 1 rfl (ih _ [] one_line_nil)
  | case5 head rest feed both carriage ih =>
    have noFeed := encoded_lacks head '\n' 10 (by decide) rfl feed
    have noReturn := encoded_lacks head '\r' 13 (by decide) rfl carriage
    have longer : OneLine (line ++ [head]) :=
      one_line_append line [head] plain ((one_line_cons head []).mpr ⟨feed, carriage, one_line_nil⟩)
    have further : (utf8 (before ++ line)).length + (String.utf8EncodeChar head).length =
        (utf8 (before ++ (line ++ [head]))).length := by
      rw [← List.append_assoc, utf8_append (before ++ line), utf8_cons, List.length_append,
        List.length_append]
      rfl
    have next := ih before (line ++ [head]) longer
    rw [List.append_assoc, List.singleton_append] at next
    rw [utf8_cons, ranges_plain _ _ _ _ noFeed noReturn, further]
    exact next

theorem line_ranges_cut (text : List Char) :
    List.Forall₂ (Cuts text) (lineRanges (utf8 text)) (lines text) :=
  ranges_cut [] [] text one_line_nil

theorem text_ranges_cut (text : String) :
    List.Forall₂ (Cuts text.toList) (lineRanges text.toByteArray.data.toList)
      (lines text.toList) := by
  rw [← String.toUTF8_eq_toByteArray, utf8_string]
  exact line_ranges_cut text.toList

theorem cut_bytes (before line after : List Char) :
    (utf8 (before ++ line ++ after)).extract (utf8 before).length (utf8 (before ++ line)).length =
      utf8 line := by
  rw [List.extract_eq_take_drop, utf8_append (before ++ line), utf8_append before,
    List.append_assoc, List.drop_left, List.length_append, Nat.add_sub_cancel_left, List.take_left]

theorem cut_read (text : String) (range : Nat × Nat) (line : List Char)
    (cuts : Cuts text.toList range line) :
    String.fromUTF8? (text.toByteArray.extract range.1 range.2) = some (String.ofList line) := by
  obtain ⟨before, after, whole, rfl⟩ := cuts
  have bytes : text.toByteArray.data.toList = utf8 text.toList := by
    rw [← String.toUTF8_eq_toByteArray, utf8_string]
  have held : text.toByteArray.extract (utf8 before).length (utf8 (before ++ line)).length =
      (utf8 line).toByteArray := by
    apply ByteArray.ext
    apply Array.ext'
    rw [ByteArray.data_extract, Array.toList_extract, bytes, whole, cut_bytes,
      List.toList_data_toByteArray]
  rw [held, utf8_read]

theorem slice_lines (text : String) :
    sliceLines text = (lines text.toList).map fun line => some (String.ofList line) := by
  rw [sliceLines, ← List.forall₂_eq_eq_eq, List.forall₂_map_left_iff, List.forall₂_map_right_iff]
  exact (text_ranges_cut text).imp (cut_read text)

-- A range of bytes that can be cut from a text without cutting a character, and what it holds.
structure Slices (text : String) (range : Nat × Nat) (line : List Char) : Prop where
  starts : (String.Pos.Raw.mk range.1).IsValid text
  stops : (String.Pos.Raw.mk range.2).IsValid text
  ordered : range.1 ≤ range.2
  within : range.2 ≤ text.utf8ByteSize
  reads : String.fromUTF8? (text.toByteArray.extract range.1 range.2) = some (String.ofList line)

theorem valid_between (text : String) (before after : List Char)
    (whole : text.toList = before ++ after) :
    (String.Pos.Raw.mk (utf8 before).length).IsValid text := by
  refine String.Pos.Raw.isValid_iff_exists_append.mpr
    ⟨String.ofList before, String.ofList after, ?_, ?_⟩
  · rw [← String.ofList_append, ← whole, String.ofList_toList]
  · rw [utf8_size]
    rfl

theorem cut_slices (text : String) (range : Nat × Nat) (line : List Char)
    (cuts : Cuts text.toList range line) : Slices text range line := by
  have reads := cut_read text range line cuts
  obtain ⟨before, after, whole, rfl⟩ := cuts
  have starts := valid_between text before (line ++ after) (whole.trans (List.append_assoc _ _ _))
  have stops := valid_between text (before ++ line) after whole
  refine ⟨starts, stops, ?_, stops.le_rawEndPos, reads⟩
  rw [utf8_append, List.length_append]
  exact Nat.le_add_right _ _

theorem ranges_never_cut_characters (text : String) :
    List.Forall₂ (Slices text) (lineRanges text.toByteArray.data.toList) (lines text.toList) ∧
      sliceLines text = (lines text.toList).map fun line => some (String.ofList line) :=
  ⟨(text_ranges_cut text).imp (cut_slices text), slice_lines text⟩

example : lineRanges (utf8 "né\r\n€\r".toList) = [(0, 3), (5, 8)] := by decide

end Gamebook.Text
