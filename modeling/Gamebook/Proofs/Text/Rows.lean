import Gamebook.Scenario.Parser
import Gamebook.Proofs.Text.LineRanges
import Mathlib.Data.List.Chain

set_option autoImplicit false

namespace Gamebook.Text

structure Row where
  line : List Char
  ending : List Char
deriving DecidableEq

def joined (parts : List Row) : List Char := parts.flatMap fun row => row.line ++ row.ending

-- A carriage return and a line feed that follows it at once are one terminator, not two.
def Apart (row next : Row) : Prop :=
  row.ending = ['\r'] → next.line = [] → next.ending.head? ≠ some '\n'

structure Ruled (parts : List Row) : Prop where
  plain : ∀ row ∈ parts, OneLine row.line
  ended : ∀ row ∈ parts.dropLast, row.ending ∈ terminators
  closed : ∀ row ∈ parts.getLast?, row.ending ∈ terminators ∨ row.ending = [] ∧ row.line ≠ []
  apart : parts.IsChain Apart

def lengthen (head : Char) : List Row → List Row
  | [] => [⟨[head], []⟩]
  | first :: rest => ⟨head :: first.line, first.ending⟩ :: rest

def rows : List Char → List Row
  | [] => []
  | '\n' :: rest => ⟨[], ['\n']⟩ :: rows rest
  | '\r' :: '\n' :: rest => ⟨[], ['\r', '\n']⟩ :: rows rest
  | '\r' :: rest => ⟨[], ['\r']⟩ :: rows rest
  | head :: rest => lengthen head (rows rest)

theorem joined_cons (row : Row) (rest : List Row) :
    joined (row :: rest) = row.line ++ (row.ending ++ joined rest) := by
  rw [joined, List.flatMap_cons, List.append_assoc]
  rfl

theorem ruled_nil : Ruled [] where
  plain := by simp
  ended := by simp
  closed := by simp
  apart := .nil

theorem ruled_single (row : Row) :
    Ruled [row] ↔
      OneLine row.line ∧ (row.ending ∈ terminators ∨ row.ending = [] ∧ row.line ≠ []) := by
  constructor
  · intro ruled
    exact ⟨ruled.plain row (by simp), ruled.closed row (by simp)⟩
  · intro ⟨plain, closed⟩
    exact
      { plain := by simpa using plain
        ended := by simp
        closed := by simpa using closed
        apart := .singleton row }

theorem ruled_more (row next : Row) (rest : List Row) :
    Ruled (row :: next :: rest) ↔
      OneLine row.line ∧ row.ending ∈ terminators ∧ Apart row next ∧ Ruled (next :: rest) := by
  constructor
  · intro ruled
    obtain ⟨apart, later⟩ := List.isChain_cons_cons.mp ruled.apart
    refine ⟨ruled.plain row (by simp), ruled.ended row (by simp), apart, ?_⟩
    exact
      { plain := fun other member => ruled.plain other (List.mem_cons_of_mem row member)
        ended := fun other member => ruled.ended other (by simp [member])
        closed := fun other last => ruled.closed other (by simpa using last)
        apart := later }
  · intro ⟨plain, ended, apart, later⟩
    exact
      { plain := List.forall_mem_cons.mpr ⟨plain, later.plain⟩
        ended := List.forall_mem_cons.mpr ⟨ended, later.ended⟩
        closed := fun other last => later.closed other (by simpa using last)
        apart := List.isChain_cons_cons.mpr ⟨apart, later.apart⟩ }

theorem ruled_cons (row : Row) (rest : List Row) :
    Ruled (row :: rest) ↔ OneLine row.line ∧
      (row.ending ∈ terminators ∨ row.ending = [] ∧ row.line ≠ [] ∧ rest = []) ∧
      (∀ next ∈ rest.head?, Apart row next) ∧ Ruled rest := by
  cases rest with
  | nil => simp [ruled_single, ruled_nil]
  | cons next others => simp [ruled_more]

theorem lengthen_ruled (head : Char) (parts : List Row) (feed : head ≠ '\n')
    (carriage : head ≠ '\r') (ruled : Ruled parts) : Ruled (lengthen head parts) := by
  cases parts with
  | nil =>
    rw [lengthen, ruled_single]
    exact ⟨(one_line_cons head []).mpr ⟨feed, carriage, one_line_nil⟩, .inr ⟨rfl, by simp⟩⟩
  | cons first rest =>
    obtain ⟨plain, ended, apart, later⟩ := (ruled_cons first rest).mp ruled
    rw [lengthen, ruled_cons]
    refine ⟨(one_line_cons head _).mpr ⟨feed, carriage, plain⟩, ?_, apart, later⟩
    rcases ended with ends | ⟨lacking, _, last⟩
    · exact .inl ends
    · exact .inr ⟨lacking, by simp, last⟩

theorem lengthen_joined (head : Char) (parts : List Row) :
    joined (lengthen head parts) = head :: joined parts := by
  cases parts with
  | nil => rfl
  | cons first rest => rw [lengthen, joined_cons, joined_cons, List.cons_append]

theorem rows_joined (text : List Char) : joined (rows text) = text := by
  fun_induction rows text with
  | case1 => rfl
  | case2 rest ih | case3 rest ih | case4 rest other ih => rw [joined_cons, ih]; rfl
  | case5 head rest feed both carriage ih => rw [lengthen_joined, ih]

theorem rows_lines (text : List Char) : (rows text).map Row.line = lines text := by
  fun_induction rows text with
  | case1 => rfl
  | case2 rest ih => rw [List.map_cons, ih, lines_feed]
  | case3 rest ih => rw [List.map_cons, ih, lines_both]
  | case4 rest other ih =>
    rw [List.map_cons, ih, lines]
    exact other
  | case5 head rest feed both carriage ih =>
    rw [lines_other head rest feed carriage, ← ih]
    cases rows rest <;> rfl

theorem joined_head (parts : List Row) (ruled : Ruled parts) :
    (joined parts).head? = some '\n' ↔
      ∃ next ∈ parts.head?, next.line = [] ∧ next.ending.head? = some '\n' := by
  cases parts with
  | nil => simp [joined]
  | cons first rest =>
    obtain ⟨plain, ended, _, _⟩ := (ruled_cons first rest).mp ruled
    rw [joined_cons]
    cases line : first.line with
    | nil =>
      have full : first.ending ≠ [] := by
        rcases ended with ends | ⟨_, lacking, _⟩
        · intro empty
          rw [empty] at ends
          exact absurd ends (by decide)
        · exact absurd line lacking
      rw [List.nil_append, List.head?_append_of_ne_nil _ full]
      simp [line]
    | cons head tail =>
      rw [line] at plain
      obtain ⟨feed, _, _⟩ := (one_line_cons head tail).mp plain
      simp [line, feed]

theorem rows_ruled (text : List Char) : Ruled (rows text) := by
  fun_induction rows text with
  | case1 => exact ruled_nil
  | case2 rest ih | case3 rest ih =>
    refine (ruled_cons _ _).mpr ⟨one_line_nil, .inl (by decide), ?_, ih⟩
    intro next _ lone
    cases lone
  | case4 rest other ih =>
    refine (ruled_cons _ _).mpr ⟨one_line_nil, .inl (by decide), ?_, ih⟩
    intro next first _ empty feed
    have head := (joined_head (rows rest) ih).mpr ⟨next, first, empty, feed⟩
    rw [rows_joined] at head
    obtain ⟨later, same⟩ := List.head?_eq_some_iff.mp head
    exact other later same
  | case5 head rest feed both carriage ih => exact lengthen_ruled head _ feed carriage ih

theorem rows_terminator (terminator more : List Char) (ends : terminator ∈ terminators)
    (lone : terminator = ['\r'] → more.head? ≠ some '\n') :
    rows (terminator ++ more) = ⟨[], terminator⟩ :: rows more := by
  simp only [terminators, List.mem_cons, List.not_mem_nil, or_false] at ends
  rcases ends with rfl | rfl | rfl
  · rw [List.singleton_append, rows]
  · rw [List.cons_append, List.singleton_append, rows]
  · rw [List.singleton_append, rows]
    intro later same
    rw [same] at lone
    exact lone rfl rfl

theorem rows_other (head : Char) (rest : List Char) (feed : head ≠ '\n') (carriage : head ≠ '\r') :
    rows (head :: rest) = lengthen head (rows rest) := by
  rw [rows]
  · exact feed
  · intro later same
    exact absurd same carriage
  · exact carriage

theorem rows_line (line more ending : List Char) (others : List Row) (plain : OneLine line)
    (next : rows more = ⟨[], ending⟩ :: others) :
    rows (line ++ more) = ⟨line, ending⟩ :: others := by
  induction line with
  | nil => exact next
  | cons head tail ih =>
    obtain ⟨feed, carriage, later⟩ := (one_line_cons head tail).mp plain
    rw [List.cons_append, rows_other head _ feed carriage, ih later]
    rfl

theorem rows_open (line : List Char) (plain : OneLine line) (full : line ≠ []) :
    rows line = [⟨line, []⟩] := by
  induction line with
  | nil => exact absurd rfl full
  | cons head tail ih =>
    obtain ⟨feed, carriage, later⟩ := (one_line_cons head tail).mp plain
    rw [rows_other head tail feed carriage]
    by_cases last : tail = []
    · rw [last]
      rfl
    · rw [ih later last]
      rfl

theorem joined_rows (parts : List Row) (ruled : Ruled parts) : rows (joined parts) = parts := by
  induction parts with
  | nil => rfl
  | cons row rest ih =>
    obtain ⟨plain, ended, apart, later⟩ := (ruled_cons row rest).mp ruled
    rw [joined_cons]
    rcases ended with ends | ⟨lacking, full, last⟩
    · have lone : row.ending = ['\r'] → (joined rest).head? ≠ some '\n' := by
        intro carriage feed
        obtain ⟨next, first, empty, follows⟩ := (joined_head rest later).mp feed
        exact apart next first carriage empty follows
      have next := rows_terminator row.ending (joined rest) ends lone
      rw [rows_line row.line _ row.ending _ plain next, ih later]
    · have nothing : joined [] = [] := rfl
      rw [lacking, last, nothing, List.append_nil, List.append_nil, rows_open row.line plain full,
        ← lacking]

theorem rows_unique (text : List Char) (parts : List Row) :
    rows text = parts ↔ Ruled parts ∧ joined parts = text := by
  constructor
  · intro same
    rw [← same]
    exact ⟨rows_ruled text, rows_joined text⟩
  · intro ⟨ruled, same⟩
    rw [← same, joined_rows parts ruled]

def feedsOnly : List Char → List Char
  | [] => []
  | '\r' :: '\n' :: rest => '\n' :: feedsOnly rest
  | '\r' :: rest => '\n' :: feedsOnly rest
  | head :: rest => head :: feedsOnly rest

theorem lines_feeds_only (text : List Char) : lines (feedsOnly text) = lines text := by
  fun_induction feedsOnly text with
  | case1 => rfl
  | case2 rest ih => rw [lines_feed, lines_both, ih]
  | case3 rest other ih =>
    rw [lines_feed, ih, lines]
    exact other
  | case4 head rest both carriage ih =>
    by_cases feed : head = '\n'
    · rw [feed, lines_feed, lines_feed, ih]
    · rw [lines_other head _ feed carriage, lines_other head _ feed carriage, ih]

theorem lines_alike_cons (head : Char) (first second : List Char)
    (same : lines first = lines second) (alike : first.head? = second.head?) :
    lines (head :: first) = lines (head :: second) := by
  by_cases feed : head = '\n'
  · rw [feed, lines_feed, lines_feed, same]
  · by_cases carriage : head = '\r'
    · subst carriage
      by_cases both : first.head? = some '\n'
      · obtain ⟨rest, rfl⟩ := List.head?_eq_some_iff.mp both
        obtain ⟨other, rfl⟩ := List.head?_eq_some_iff.mp (alike.symm.trans both)
        rw [lines_feed, lines_feed] at same
        rw [lines_both, lines_both, same]
      · rw [lines_return first both, lines_return second (alike ▸ both), same]
    · rw [lines_other head _ feed carriage, lines_other head _ feed carriage, same]

theorem lines_alike (front first second : List Char) (same : lines first = lines second)
    (alike : first.head? = second.head?) : lines (front ++ first) = lines (front ++ second) := by
  induction front with
  | nil => exact same
  | cons head rest ih =>
    refine lines_alike_cons head _ _ ih ?_
    cases rest with
    | nil => exact alike
    | cons next _ => rfl

theorem lines_closed (text line terminator : List Char) (plain : OneLine line) (full : line ≠ [])
    (ends : terminator ∈ terminators) :
    lines (text ++ (line ++ terminator)) = lines (text ++ line) := by
  apply lines_alike
  · have written := lines_terminated terminator [line] ends (by simpa using plain)
    rw [terminated_cons] at written
    rw [lines_whole line plain full, ← written]
    simp [terminated]
  · rw [List.head?_append_of_ne_nil _ full]

-- Two texts that come to the same lines, also where these are cut from the bytes, and so to the
-- same scenario with the same reports.
def ReadsAs (first second : String) : Prop :=
  lines first.toList = lines second.toList ∧ sliceLines first = sliceLines second ∧
    ∀ name, Scenario.ofText name first = Scenario.ofText name second

theorem reads_as_lines (first second : String)
    (same : lines first.toList = lines second.toList) : ReadsAs first second := by
  refine ⟨same, ?_, ?_⟩
  · rw [slice_lines, slice_lines, same]
  · intro name
    rw [Scenario.ofText, Scenario.ofText, same]

theorem every_text_parts_one_way (text : String) :
    (∃ parts, Ruled parts ∧ joined parts = text.toList ∧
      (∀ others, Ruled others → joined others = text.toList → others = parts) ∧
      lines text.toList = parts.map Row.line ∧
      sliceLines text = parts.map fun row => some (String.ofList row.line)) ∧
    ReadsAs (String.ofList (feedsOnly text.toList)) text ∧
    ∀ line terminator, OneLine line → line ≠ [] → terminator ∈ terminators →
      ReadsAs (text ++ String.ofList (line ++ terminator)) (text ++ String.ofList line) := by
  have whole := rows_lines text.toList
  refine ⟨⟨rows text.toList, rows_ruled _, rows_joined _, ?_, whole.symm, ?_⟩, ?_, ?_⟩
  · intro others ruled same
    exact ((rows_unique _ others).mpr ⟨ruled, same⟩).symm
  · rw [slice_lines, ← whole, List.map_map]
    rfl
  · apply reads_as_lines
    rw [String.toList_ofList, lines_feeds_only]
  · intro line terminator plain full ends
    apply reads_as_lines
    rw [String.toList_append, String.toList_append, String.toList_ofList, String.toList_ofList]
    exact lines_closed _ line terminator plain full ends

theorem shore_parts_one_way :
    let text := "Lake\r\n\n\rShore->Row:1\r"
    let line := ['E', 'n', 'd']
    (∃ parts, Ruled parts ∧ joined parts = text.toList ∧
      sliceLines text = [some "Lake", some "", some "", some "Shore->Row:1"] ∧
      parts.map Row.ending = [['\r', '\n'], ['\n'], ['\r'], ['\r']]) ∧
    OneLine line ∧ line ≠ [] ∧ ['\n'] ∈ terminators ∧
      ReadsAs (text ++ String.ofList (line ++ ['\n'])) (text ++ String.ofList line) := by
  intro text line
  obtain ⟨⟨parts, ruled, same, only, _, sliced⟩, _, closed⟩ := every_text_parts_one_way text
  have found : rows text.toList = parts := only _ (rows_ruled _) (rows_joined _)
  have endings : (rows text.toList).map Row.ending = [['\r', '\n'], ['\n'], ['\r'], ['\r']] := by
    decide
  have held : (rows text.toList).map (fun row => some (String.ofList row.line)) =
      [some "Lake", some "", some "", some "Shore->Row:1"] := by decide
  refine ⟨⟨parts, ruled, same, ?_, ?_⟩, by decide, by decide, by decide, ?_⟩
  · rw [sliced, ← found, held]
  · rw [← found, endings]
  · exact closed line ['\n'] (by decide) (by decide) (by decide)

end Gamebook.Text
