import Gamebook.Text.Columns

set_option autoImplicit false

namespace Gamebook.Text

-- A text that fits stays whole. One that does not keeps what stands in front of its last column,
-- which goes to the ellipsis.
inductive Cut (width : Nat) (text : String) : String → Prop where
  | blank (none : width = 0) : Cut width text ""
  | whole (room : 0 < width) (fits : text.length ≤ width) : Cut width text text
  | short (front rest : List Char) (parted : text.toList = front ++ rest)
      (full : front.length + 1 = width) (longer : width < text.length) :
      Cut width text (String.ofList (front ++ ['…']))

theorem cut_iff (width : Nat) (text shown : String) :
    Cut width text shown ↔ truncate width text = shown := by
  rw [truncate]
  constructor
  · intro cut
    cases cut with
    | blank none => rw [if_pos none]
    | whole room fits => rw [if_neg (Nat.pos_iff_ne_zero.mp room), if_pos fits]
    | short front rest parted full longer =>
      have kept : text.toList.take (width - 1) = front := by
        rw [parted, ← full, Nat.add_sub_cancel, List.take_left]
      rw [if_neg (by omega), if_neg (Nat.not_le_of_gt longer), kept]
      rfl
  · rintro rfl
    by_cases none : width = 0
    · rw [if_pos none]
      exact .blank none
    · rw [if_neg none]
      by_cases fits : text.length ≤ width
      · rw [if_pos fits]
        exact .whole (Nat.pos_of_ne_zero none) fits
      · rw [if_neg fits]
        have longer := Nat.lt_of_not_le fits
        refine .short _ _ (List.take_append_drop (width - 1) text.toList).symm ?_ longer
        rw [List.length_take, String.length_toList]
        omega

theorem truncate_cut (width : Nat) (text : String) : Cut width text (truncate width text) :=
  (cut_iff width text _).mpr rfl

theorem truncate_length (width : Nat) (text : String) : (truncate width text).length ≤ width := by
  have cut := truncate_cut width text
  generalize truncate width text = shown at cut ⊢
  cases cut with
  | blank none => exact Nat.zero_le width
  | whole room fits => exact fits
  | short front rest parted full longer =>
    rw [String.length_ofList, List.length_append, List.length_singleton]
    exact Nat.le_of_eq full

theorem truncate_mem (width : Nat) (text : String) (room : width ≠ 0) :
    truncate width text = text ∨ ellipsis ∈ (truncate width text).toList := by
  have cut := truncate_cut width text
  generalize truncate width text = shown at cut ⊢
  cases cut with
  | blank none => exact absurd none room
  | whole room fits => exact .inl rfl
  | short front rest parted full longer =>
    rw [String.toList_ofList]
    exact .inr (List.mem_append_right _ List.mem_cons_self)

theorem chunk_length (width : Nat) (text chunk : List Char) (room : width ≠ 0)
    (member : chunk ∈ chunks width text) : chunk.length ≤ width := by
  fun_induction chunks width text with
  | case1 text short =>
    rw [List.mem_singleton.mp member]
    rcases short with none | short
    · exact absurd none room
    · exact List.drop_eq_nil_iff.mp short
  | case2 text long ih =>
    rcases List.mem_cons.mp member with rfl | later
    · rw [List.length_take]
      exact Nat.min_le_left _ _
    · exact ih later

theorem fold_length (width : Nat) (text line : String) (room : width ≠ 0)
    (member : line ∈ fold width text) : line.length ≤ width := by
  rw [fold, if_neg room] at member
  obtain ⟨chunk, there, rfl⟩ := List.mem_map.mp member
  rw [String.length_ofList]
  exact chunk_length width text.toList chunk room there

-- The rows of a line: all as long as there is room, but for the last, which may be shorter. It is
-- empty only where the line is.
structure Folded (width : Nat) (line : String) (rows : List String) : Prop where
  joined : String.join rows = line
  full : ∀ row ∈ rows.dropLast, row.length = width
  last : ∃ row, rows.getLast? = some row ∧ row.length ≤ width ∧ (row = "" → line = "")

theorem chunks_joined (width : Nat) (text : List Char) : (chunks width text).flatten = text := by
  fun_induction chunks width text with
  | case1 text short => exact List.flatten_singleton
  | case2 text long ih => rw [List.flatten_cons, ih, List.take_append_drop]

theorem chunks_some (width : Nat) (text : List Char) : chunks width text ≠ [] := by
  fun_cases chunks width text <;> exact List.cons_ne_nil _ _

theorem chunks_full (width : Nat) (text : List Char) :
    ∀ chunk ∈ (chunks width text).dropLast, chunk.length = width := by
  fun_induction chunks width text with
  | case1 text short => simp
  | case2 text long ih =>
    have beyond : width < text.length := by
      rw [not_or, List.drop_eq_nil_iff] at long
      exact Nat.lt_of_not_le long.2
    rw [List.dropLast_cons_of_ne_nil (chunks_some width _)]
    intro chunk member
    rcases List.mem_cons.mp member with rfl | later
    · exact List.length_take_of_le (Nat.le_of_lt beyond)
    · exact ih chunk later

theorem chunks_last (width : Nat) (text : List Char) :
    ∃ chunk, (chunks width text).getLast? = some chunk ∧ (chunk = [] → text = []) := by
  fun_induction chunks width text with
  | case1 text short => exact ⟨text, rfl, id⟩
  | case2 text long ih =>
    obtain ⟨chunk, last, full⟩ := ih
    refine ⟨chunk, ?_, fun empty => absurd (.inr (full empty)) long⟩
    rw [List.getLast?_cons, last]
    rfl

theorem fold_folded (width : Nat) (line : String) (room : width ≠ 0) :
    Folded width line (fold width line) where
  joined := by
    rw [fold, if_neg room, ← String.toList_inj, String.toList_join, List.flatMap_map]
    simp only [String.toList_ofList, List.flatMap_id']
    exact chunks_joined width line.toList
  full := by
    rw [fold, if_neg room, ← List.map_dropLast]
    intro row member
    obtain ⟨chunk, there, rfl⟩ := List.mem_map.mp member
    rw [String.length_ofList]
    exact chunks_full width line.toList chunk there
  last := by
    obtain ⟨chunk, last, full⟩ := chunks_last width line.toList
    have member := List.mem_of_getLast? last
    refine ⟨String.ofList chunk, ?_, ?_, ?_⟩
    · rw [fold, if_neg room, List.getLast?_map, last]
      rfl
    · rw [String.length_ofList]
      exact chunk_length width line.toList chunk room member
    · intro empty
      exact String.toList_eq_nil_iff.mp (full (String.ofList_eq_empty_iff.mp empty))

theorem folded_single (width : Nat) (line row : String) (folded : Folded width line [row]) :
    line = row ∧ row.length ≤ width := by
  obtain ⟨last, found, short, _⟩ := folded.last
  obtain rfl : row = last := by simpa using found
  exact ⟨by simpa using folded.joined.symm, short⟩

theorem folded_more (width : Nat) (line first second : String) (rest : List String)
    (room : width ≠ 0) (folded : Folded width line (first :: second :: rest)) :
    ∃ left, line = first ++ left ∧ first.length = width ∧ left ≠ "" ∧
      Folded width left (second :: rest) := by
  obtain ⟨last, found, short, full⟩ := folded.last
  have filled : first.length = width := folded.full first (by simp)
  have begins : line = first ++ String.join (second :: rest) := by
    rw [← folded.joined, String.join_cons]
  have more : last ≠ "" := by
    intro none
    rw [full none] at begins
    obtain ⟨rfl, _⟩ := String.append_eq_empty_iff.mp begins.symm
    exact room filled.symm
  have later : (second :: rest).getLast? = some last := by simpa using found
  refine ⟨String.join (second :: rest), begins, filled, ?_, ?_⟩
  · intro none
    have parts := congrArg String.toList none
    rw [String.toList_join, String.toList_empty, List.flatMap_eq_nil_iff] at parts
    exact more (String.toList_eq_nil_iff.mp (parts last (List.mem_of_getLast? later)))
  · exact
      { joined := rfl
        full := fun row member => folded.full row (List.mem_cons_of_mem _ member)
        last := ⟨last, later, short, fun none => absurd none more⟩ }

theorem folded_chunks (width : Nat) (line : String) (rows : List String) (room : width ≠ 0)
    (folded : Folded width line rows) : rows.map String.toList = chunks width line.toList := by
  induction rows generalizing line with
  | nil =>
    obtain ⟨_, found, _⟩ := folded.last
    cases found
  | cons first rest ih =>
    cases rest with
    | nil =>
      obtain ⟨rfl, short⟩ := folded_single width line first folded
      rw [chunks, if_pos (.inr (List.drop_eq_nil_of_le short))]
      rfl
    | cons second others =>
      obtain ⟨left, rfl, filled, more, later⟩ :=
        folded_more width line first second others room folded
      have rest : (first ++ left).toList.drop width = left.toList := by
        rw [String.toList_append, List.drop_left' filled]
      have front : (first ++ left).toList.take width = first.toList := by
        rw [String.toList_append, List.take_left' filled]
      have beyond : ¬(width = 0 ∨ left.toList = []) :=
        not_or.mpr ⟨room, fun none => more (String.toList_eq_nil_iff.mp none)⟩
      rw [chunks, rest, front, if_neg beyond, List.map_cons, ih left later]

theorem folded_iff (width : Nat) (line : String) (rows : List String) (room : width ≠ 0) :
    Folded width line rows ↔ rows = fold width line := by
  constructor
  · intro folded
    rw [fold, if_neg room, ← folded_chunks width line rows room folded, List.map_map]
    simp
  · rintro rfl
    exact fold_folded width line room

end Gamebook.Text
