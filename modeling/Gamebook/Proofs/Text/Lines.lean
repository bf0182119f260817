import Gamebook.Text.Lines
import Gamebook.Scenario.Printer

set_option autoImplicit false

namespace Gamebook.Text

def OneLine (text : List Char) : Prop := '\n' ∉ text ∧ '\r' ∉ text

instance (text : List Char) : Decidable (OneLine text) :=
  inferInstanceAs (Decidable ('\n' ∉ text ∧ '\r' ∉ text))

def terminators : List (List Char) := [['\n'], ['\r', '\n'], ['\r']]

theorem one_line_nil : OneLine [] := ⟨List.not_mem_nil, List.not_mem_nil⟩

theorem one_line_cons (head : Char) (rest : List Char) :
    OneLine (head :: rest) ↔ head ≠ '\n' ∧ head ≠ '\r' ∧ OneLine rest := by
  simp only [OneLine, List.mem_cons, not_or, ne_eq, eq_comm (a := head)]
  constructor
  · rintro ⟨⟨feed, feeds⟩, carriage, carriages⟩
    exact ⟨feed, carriage, feeds, carriages⟩
  · rintro ⟨feed, carriage, feeds, carriages⟩
    exact ⟨⟨feed, feeds⟩, carriage, carriages⟩

theorem one_line_append (first second : List Char) (firstLine : OneLine first)
    (secondLine : OneLine second) : OneLine (first ++ second) := by
  simp only [OneLine, List.mem_append, not_or]
  exact ⟨⟨firstLine.1, secondLine.1⟩, firstLine.2, secondLine.2⟩

theorem one_line_within (part text : List Char) (within : part <:+: text) (whole : OneLine text) :
    OneLine part :=
  ⟨fun feed => whole.1 (within.mem feed), fun carriage => whole.2 (within.mem carriage)⟩

theorem lines_feed (rest : List Char) : lines ('\n' :: rest) = [] :: lines rest := by
  rw [lines]

theorem lines_both (rest : List Char) : lines ('\r' :: '\n' :: rest) = [] :: lines rest := by
  rw [lines]

theorem lines_return (rest : List Char) (other : rest.head? ≠ some '\n') :
    lines ('\r' :: rest) = [] :: lines rest := by
  rw [lines]
  intro later same
  rw [same] at other
  exact other rfl

theorem lines_other (head : Char) (rest : List Char) (feed : head ≠ '\n') (carriage : head ≠ '\r') :
    lines (head :: rest) = extendFirst head (lines rest) := by
  rw [lines]
  · exact feed
  · intro later same
    exact absurd same carriage
  · exact carriage

theorem lines_empty (text : List Char) : lines text = [] ↔ text = [] := by
  fun_cases lines text with
  | case1 => simp
  | case2 | case3 | case4 => simp
  | case5 head rest => cases lines rest <;> simp [extendFirst]

theorem lines_line (line rest : List Char) (others : List (List Char)) (plain : OneLine line)
    (next : lines rest = [] :: others) : lines (line ++ rest) = line :: others := by
  induction line with
  | nil => exact next
  | cons head tail ih =>
    obtain ⟨feed, carriage, later⟩ := (one_line_cons head tail).mp plain
    rw [List.cons_append, lines_other head _ feed carriage, ih later]
    rfl

theorem lines_whole (line : List Char) (plain : OneLine line) (full : line ≠ []) :
    lines line = [line] := by
  induction line with
  | nil => exact absurd rfl full
  | cons head tail ih =>
    obtain ⟨feed, carriage, later⟩ := (one_line_cons head tail).mp plain
    rw [lines_other head tail feed carriage]
    by_cases last : tail = []
    · rw [last]
      rfl
    · rw [ih later last]
      rfl

theorem lines_one_line (text line : List Char) (member : line ∈ lines text) : OneLine line := by
  fun_induction lines text generalizing line with
  | case1 => cases member
  | case2 rest ih | case3 rest ih | case4 rest other ih =>
    rcases List.mem_cons.mp member with empty | later
    · exact empty ▸ one_line_nil
    · exact ih line later
  | case5 head rest feed both carriage ih =>
    have extended : ∀ first, OneLine first → OneLine (head :: first) :=
      fun first plain => (one_line_cons head first).mpr ⟨feed, carriage, plain⟩
    cases found : lines rest with
    | nil =>
      rw [found] at member
      exact List.mem_singleton.mp member ▸ extended [] one_line_nil
    | cons first others =>
      rw [found] at member ih
      rcases List.mem_cons.mp member with same | later
      · exact same ▸ extended first (ih first (by simp))
      · exact ih line (List.mem_cons_of_mem first later)

theorem terminated_cons (terminator line : List Char) (rest : List (List Char)) :
    terminated terminator (line :: rest) = line ++ (terminator ++ terminated terminator rest) := by
  rw [terminated, List.map_cons, List.flatten_cons, List.append_assoc]
  rfl

theorem terminated_head (rest : List (List Char)) (plain : ∀ line ∈ rest, OneLine line) :
    (terminated ['\r'] rest).head? ≠ some '\n' := by
  cases rest with
  | nil => simp [terminated]
  | cons line others =>
    rw [terminated_cons]
    cases line with
    | nil => simp
    | cons head tail =>
      obtain ⟨feed, _⟩ := (one_line_cons head tail).mp (plain (head :: tail) (by simp))
      simpa using feed

theorem lines_terminator (terminator : List Char) (rest : List (List Char))
    (ends : terminator ∈ terminators) (plain : ∀ line ∈ rest, OneLine line) :
    lines (terminator ++ terminated terminator rest) =
      [] :: lines (terminated terminator rest) := by
  simp only [terminators, List.mem_cons, List.not_mem_nil, or_false] at ends
  rcases ends with rfl | rfl | rfl
  · exact lines_feed _
  · exact lines_both _
  · exact lines_return _ (terminated_head rest plain)

theorem lines_terminated (terminator : List Char) (written : List (List Char))
    (ends : terminator ∈ terminators) (plain : ∀ line ∈ written, OneLine line) :
    lines (terminated terminator written) = written := by
  induction written with
  | nil => rfl
  | cons line rest ih =>
    have restPlain : ∀ other ∈ rest, OneLine other :=
      fun other member => plain other (List.mem_cons_of_mem line member)
    have next := lines_terminator terminator rest ends restPlain
    rw [terminated_cons, lines_line line _ _ (plain line (by simp)) next, ih restPlain]

theorem feed_lines_apart {α : Type} [DecidableEq α] (feed : α) (first rest : List α)
    (plain : feed ∉ first) :
    feedLines feed (first ++ rest) = first.foldr extendFirst (feedLines feed rest) := by
  induction first with
  | nil => rfl
  | cons head tail ih =>
    obtain ⟨other, later⟩ := not_or.mp (mt List.mem_cons.mpr plain)
    rw [List.cons_append, feedLines, if_neg (Ne.symm other), ih later, List.foldr_cons]

theorem extend_all {α : Type} (heads : List α) (full : heads ≠ []) (parts : List (List α)) :
    heads.foldr extendFirst parts =
      match parts with
      | [] => [heads]
      | first :: rest => (heads ++ first) :: rest := by
  induction heads with
  | nil => exact absurd rfl full
  | cons head tail ih =>
    cases tail with
    | nil => cases parts <;> rfl
    | cons next others =>
      rw [List.foldr_cons, ih (List.cons_ne_nil next others)]
      cases parts <;> rfl

theorem feed_lines_first {α : Type} [DecidableEq α] (feed : α) (first rest : List α)
    (plain : feed ∉ first) :
    feedLines feed (first ++ feed :: rest) = (first ++ [feed]) :: feedLines feed rest := by
  rw [feed_lines_apart feed first _ plain, feedLines, if_pos rfl]
  by_cases empty : first = []
  · rw [empty]
    rfl
  · rw [extend_all first empty]

theorem feed_lines_only {α : Type} [DecidableEq α] (feed : α) (text : List α) (full : text ≠ [])
    (plain : feed ∉ text) : feedLines feed text = [text] := by
  have apart := feed_lines_apart feed text [] plain
  rw [List.append_nil, feedLines, extend_all text full] at apart
  exact apart

theorem chomp_parts (line : List Char) :
    ∃ terminator, line = chomp line ++ terminator ∧ ∀ c ∈ terminator, c = '\r' ∨ c = '\n' := by
  fun_cases chomp line with
  | case1 rest ends =>
    refine ⟨['\r', '\n'], ?_, by simp⟩
    rw [← List.reverse_reverse line, ends]
    simp
  | case2 rest other ends =>
    refine ⟨['\n'], ?_, by simp⟩
    rw [← List.reverse_reverse line, ends]
    simp
  | case3 => exact ⟨[], (List.append_nil line).symm, by simp⟩

theorem extend_first_flatten {α : Type} (head : α) (parts : List (List α)) :
    (extendFirst head parts).flatten = head :: parts.flatten := by
  cases parts <;> rfl

theorem feed_lines_flatten {α : Type} [DecidableEq α] (feed : α) (text : List α) :
    (feedLines feed text).flatten = text := by
  induction text with
  | nil => rfl
  | cons head rest ih =>
    rw [feedLines]
    by_cases same : head = feed
    · rw [if_pos same, List.flatten_cons, ih]
      rfl
    · rw [if_neg same, extend_first_flatten, ih]

end Gamebook.Text
