import Gamebook.Player.Frame
import Gamebook.Proofs.Player.Highlight
import Gamebook.Proofs.Text.Columns
import Gamebook.Proofs.Text.Lines

set_option autoImplicit false

namespace Gamebook

namespace Row

theorem coloured_text (colour : Colour) (text : String) : (coloured colour text).text = text := by
  simp [coloured, Row.text]

theorem plain_text (text : String) :
    (plain text).text.toList = (Text.feedLines '\n' text.toList).flatMap Text.chomp := by
  rw [Row.text, plain, List.map_map, String.toList_join, List.flatMap_map]
  simp only [Function.comp_apply, String.toList_ofList]

theorem plain_sublist (text : String) : (plain text).text.toList.Sublist text.toList := by
  rw [plain_text]
  conv => rhs; rw [← Text.feed_lines_flatten '\n' text.toList]
  induction Text.feedLines '\n' text.toList with
  | nil => exact List.Sublist.slnil
  | cons line rest ih =>
    obtain ⟨terminator, whole, _⟩ := Text.chomp_parts line
    have front : (Text.chomp line).Sublist line := by
      conv => rhs; rw [whole]
      exact List.sublist_append_left _ _
    exact front.append ih

theorem plain_length (text : String) : (plain text).text.length ≤ text.length := by
  rw [← String.length_toList, ← String.length_toList]
  exact (plain_sublist text).length_le

theorem plain_mem (text : String) (c : Char) (member : c ∈ text.toList) (feed : c ≠ '\n')
    (carriage : c ≠ '\r') : c ∈ (plain text).text.toList := by
  rw [← Text.feed_lines_flatten '\n' text.toList] at member
  obtain ⟨line, listed, there⟩ := List.mem_flatten.mp member
  rw [plain_text]
  refine List.mem_flatMap.mpr ⟨line, listed, ?_⟩
  obtain ⟨terminator, whole, ends⟩ := Text.chomp_parts line
  rw [whole] at there
  rcases List.mem_append.mp there with kept | dropped
  · exact kept
  · rcases ends c dropped with rfl | rfl
    · exact absurd rfl carriage
    · exact absurd rfl feed

end Row

namespace Frame

def isDoubled (row : Row) : Bool := row.text ≠ "" && row.text.toList.all isBreak

def Solid (text : String) : Prop := ∃ c ∈ text.toList, isBreak c = false

theorem solid_before (first second : String) (solid : Solid first) : Solid (first ++ second) := by
  obtain ⟨c, there, apart⟩ := solid
  exact ⟨c, by rw [String.toList_append]; exact List.mem_append_left _ there, apart⟩

theorem solid_after (first second : String) (solid : Solid second) : Solid (first ++ second) := by
  obtain ⟨c, there, apart⟩ := solid
  exact ⟨c, by rw [String.toList_append]; exact List.mem_append_right _ there, apart⟩

theorem solid_truncated (width : Nat) (text : String) (room : width ≠ 0) (solid : Solid text) :
    Solid (Text.truncate width text) := by
  rcases Text.truncate_mem width text room with whole | cut
  · rw [whole]
    exact solid
  · exact ⟨Text.ellipsis, cut, by decide⟩

theorem solid_plain (text : String) (solid : Solid text) : Solid (Row.plain text).text := by
  obtain ⟨c, there, apart⟩ := solid
  refine ⟨c, Row.plain_mem text c there ?_ ?_, apart⟩
  · rintro rfl
    simp [isBreak, Text.isBlank] at apart
  · rintro rfl
    simp [isBreak, Text.isBlank] at apart

theorem solid_single (row : Row) (solid : Solid row.text) : isDoubled row = false := by
  obtain ⟨c, there, apart⟩ := solid
  have mixed : row.text.toList.all isBreak = false := by
    rw [List.all_eq_false]
    exact ⟨c, there, Bool.eq_false_iff.mp apart⟩
  rw [isDoubled, mixed, Bool.and_false]

theorem lines_of_row (width : Nat) (row : Row) :
    linesOfRow width row =
      if isDoubled row then [line width "", line width row.text] else [line width row.text] := by
  simp only [linesOfRow, isDoubled, Bool.and_eq_true, decide_eq_true_eq]

theorem blank_line (width : Nat) (c : Char) (there : c ∈ (line width "").toList) : c = ' ' := by
  rw [line, String.empty_append, String.toList_ofList] at there
  exact List.eq_of_mem_replicate there

theorem solid_line (width : Nat) (text : String) (solid : Solid text) :
    line width text ≠ line width "" := by
  obtain ⟨c, there, apart⟩ := solid
  intro same
  have shown : c ∈ (line width text).toList := by
    rw [line, String.toList_append]
    exact List.mem_append_left _ there
  rw [same] at shown
  rw [blank_line width c shown] at apart
  cases apart

section Grid

variable (width height : Nat) (rows : List Row)

theorem lines_length :
    (rows.flatMap (linesOfRow width)).length = rows.length + rows.countP isDoubled := by
  induction rows with
  | nil => rfl
  | cons row rest ih =>
    rw [List.flatMap_cons, List.length_append, ih, lines_of_row, List.length_cons,
      List.countP_cons]
    by_cases doubled : isDoubled row = true
    · rw [if_pos doubled, if_pos doubled]
      simp only [List.length_cons, List.length_nil]
      omega
    · rw [if_neg doubled, if_neg doubled]
      simp only [List.length_cons, List.length_nil]
      omega

theorem rows_among_lines :
    (rows.map fun row => line width row.text).Sublist (rows.flatMap (linesOfRow width)) := by
  induction rows with
  | nil => exact List.Sublist.slnil
  | cons row rest ih =>
    have own : [line width row.text].Sublist (linesOfRow width row) := by
      rw [lines_of_row]
      split
      · exact List.sublist_append_right [line width ""] _
      · exact List.Sublist.refl _
    exact own.append ih

-- A second line adds nothing but a blank one.
theorem lines_apart :
    (rows.flatMap (linesOfRow width)).filter (· ≠ line width "") =
      (rows.map fun row => line width row.text).filter (· ≠ line width "") := by
  induction rows with
  | nil => rfl
  | cons row rest ih =>
    have own : (linesOfRow width row).filter (· ≠ line width "") =
        [line width row.text].filter (· ≠ line width "") := by
      rw [lines_of_row]
      split
      · exact List.filter_cons_of_neg (by simp)
      · rfl
    rw [List.flatMap_cons, List.filter_append, own, ih, List.map_cons, ← List.filter_append,
      List.singleton_append]

theorem grid_height : (ofRows width height rows).length = height := by
  simp only [ofRows, List.length_append, List.length_replicate, List.length_take]
  omega

theorem rows_shown (room : rows.length + rows.countP isDoubled ≤ height) :
    (rows.map fun row => line width row.text).Sublist (ofRows width height rows) := by
  rw [← lines_length width rows] at room
  rw [ofRows, List.take_of_length_le room]
  exact (rows_among_lines width rows).trans (List.sublist_append_left _ _)

theorem rows_cut (front : List Row) (last : Row) (solid : Solid last.text)
    (whole : rows = front ++ [last]) (tight : height < rows.length + rows.countP isDoubled) :
    ¬(rows.map fun row => line width row.text).Sublist (ofRows width height rows) := by
  have total := lines_length width rows
  have grid : ofRows width height rows = (rows.flatMap (linesOfRow width)).take height := by
    rw [ofRows, List.length_take, Nat.min_eq_left (by omega), Nat.sub_self, List.replicate_zero,
      List.append_nil]
  have ends : rows.flatMap (linesOfRow width) =
      front.flatMap (linesOfRow width) ++ [line width last.text] := by
    have single : linesOfRow width last = [line width last.text] := by
      rw [lines_of_row, solid_single last solid]
      rfl
    rw [whole, List.flatMap_append, List.flatMap_singleton, single]
  intro within
  rw [grid] at within
  have kept : (rows.flatMap (linesOfRow width)).take height =
      (front.flatMap (linesOfRow width)).take height := by
    rw [ends, List.length_append, List.length_singleton] at total
    rw [ends, List.take_append_of_le_length (by omega)]
  have fewer := (within.filter (· ≠ line width "")).length_le
  have above := ((List.take_sublist height
    (front.flatMap (linesOfRow width))).filter (· ≠ line width "")).length_le
  rw [← lines_apart, kept, ends, List.filter_append, List.length_append] at fewer
  have told : ([line width last.text].filter (· ≠ line width "")).length = 1 := by
    rw [List.filter_cons_of_pos (by simpa using solid_line width last.text solid)]
    rfl
  omega

end Grid

end Frame

end Gamebook
