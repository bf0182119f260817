import Gamebook.Text.Fragments
import Mathlib.Data.List.DropRight
import Mathlib.Data.List.Infix
import Mathlib.Data.List.TakeWhile

set_option autoImplicit false

namespace Gamebook.Text

-- A copy of the separator cannot begin inside another copy.
structure Separates (separator : List Char) : Prop where
  nonempty : separator ≠ []
  unbordered : ∀ first second, separator = first ++ second → first ≠ [] → second ≠ [] →
    ¬ second <+: separator

theorem single_separates (c : Char) : Separates [c] where
  nonempty := List.cons_ne_nil c []
  unbordered := by
    intro first second parted firstFull secondFull
    have lengths := congrArg List.length parted
    have firstLength := List.length_pos_of_ne_nil firstFull
    have secondLength := List.length_pos_of_ne_nil secondFull
    simp only [List.length_singleton, List.length_append] at lengths
    omega

theorem pair_separates (a b : Char) (different : a ≠ b) : Separates [a, b] where
  nonempty := List.cons_ne_nil a [b]
  unbordered := by
    intro first second parted firstFull secondFull overlap
    obtain ⟨head, tail, rfl⟩ := List.exists_cons_of_ne_nil firstFull
    obtain ⟨c, rest, rfl⟩ := List.exists_cons_of_ne_nil secondFull
    have same : c = a := (List.cons_prefix_cons.mp overlap).1
    have tails : [b] = tail ++ c :: rest := (List.cons.inj parted).2
    have member : c ∈ [b] := by
      rw [tails]
      simp
    exact different (same.symm.trans (List.mem_singleton.mp member))

section Pieces

variable {separator : List Char}

theorem pieces_nil : pieces separator [] = [[]] := by
  rw [pieces]

theorem pieces_copy (separates : Separates separator) (rest : List Char) :
    pieces separator (separator ++ rest) = [] :: pieces separator rest := by
  obtain ⟨first, others, rfl⟩ := List.exists_cons_of_ne_nil separates.nonempty
  have copy : (first :: others).isPrefixOf (first :: (others ++ rest)) = true :=
    List.isPrefixOf_iff_prefix.mpr ⟨rest, rfl⟩
  rw [List.cons_append, pieces, if_pos copy, List.length_cons, Nat.add_sub_cancel,
    List.drop_left]

theorem pieces_other (head : Char) (rest : List Char) (other : ¬ separator <+: head :: rest) :
    pieces separator (head :: rest) = extendFirst head (pieces separator rest) := by
  rw [pieces, if_neg (mt List.isPrefixOf_iff_prefix.mp other)]

theorem pieces_whole (text : List Char) (absent : ¬ separator <:+: text) :
    pieces separator text = [text] := by
  induction text with
  | nil => exact pieces_nil
  | cons head rest ih =>
    have other : ¬ separator <+: head :: rest := fun copy => absent copy.isInfix
    have later : ¬ separator <:+: rest := fun copy => absent (List.infix_cons copy)
    rw [pieces_other head rest other, ih later]
    rfl

-- A copy that began in the text before a separator would run into that separator.
theorem no_copy_before (separates : Separates separator) (first rest : List Char)
    (full : first ≠ []) (absent : ¬ separator <:+: first) :
    ¬ separator <+: first ++ (separator ++ rest) := by
  intro copy
  rcases List.prefix_or_prefix_of_prefix copy (List.prefix_append first _) with within | begins
  · exact absent within.isInfix
  · obtain ⟨second, parted⟩ := begins
    rw [← parted] at copy absent
    have beyond := (List.prefix_append_right_inj first).mp copy
    have secondFull : second ≠ [] := by
      intro empty
      rw [empty, List.append_nil] at absent
      exact absent List.infix_rfl
    have short : second.length ≤ separator.length := by
      rw [← parted, List.length_append]
      omega
    rw [parted] at beyond
    exact separates.unbordered first second parted.symm full secondFull
      (List.prefix_of_prefix_length_le beyond (List.prefix_append separator rest) short)

theorem pieces_append (separates : Separates separator) (first rest : List Char)
    (absent : ¬ separator <:+: first) :
    pieces separator (first ++ (separator ++ rest)) = first :: pieces separator rest := by
  induction first with
  | nil => exact pieces_copy separates rest
  | cons head tail ih =>
    have other := no_copy_before separates (head :: tail) rest (List.cons_ne_nil head tail) absent
    have later : ¬ separator <:+: tail := fun copy => absent (List.infix_cons copy)
    rw [List.cons_append] at other ⊢
    rw [pieces_other head _ other, ih later]
    rfl

theorem pieces_intercalate (separates : Separates separator) (parts : List (List Char))
    (nonempty : parts ≠ []) (absent : ∀ part ∈ parts, ¬ separator <:+: part) :
    pieces separator (separator.intercalate parts) = parts := by
  induction parts with
  | nil => exact absurd rfl nonempty
  | cons first rest ih =>
    have firstLacks : ¬ separator <:+: first := absent first (by simp)
    cases rest with
    | nil => rw [List.intercalate_singleton, pieces_whole first firstLacks]
    | cons second others =>
      have restLack : ∀ part ∈ second :: others, ¬ separator <:+: part :=
        fun part member => absent part (List.mem_cons_of_mem first member)
      rw [List.intercalate_cons_cons, List.append_assoc,
        pieces_append separates first _ firstLacks, ih (List.cons_ne_nil second others) restLack]

theorem pieces_first (separator text : List Char) :
    ∃ first others, pieces separator text = first :: others ∧ first <+: text := by
  induction text with
  | nil => exact ⟨[], [], pieces_nil, List.prefix_rfl⟩
  | cons head rest ih =>
    by_cases copy : separator.isPrefixOf (head :: rest) = true
    · rw [pieces, if_pos copy]
      exact ⟨[], _, rfl, List.nil_prefix⟩
    · obtain ⟨first, others, parted, begins⟩ := ih
      rw [pieces, if_neg copy, parted]
      exact ⟨head :: first, others, rfl, List.cons_prefix_cons.mpr ⟨rfl, begins⟩⟩

theorem pieces_lack (separates : Separates separator) (text piece : List Char)
    (member : piece ∈ pieces separator text) : ¬ separator <:+: piece := by
  fun_induction pieces separator text generalizing piece with
  | case1 =>
    rw [List.mem_singleton.mp member, List.infix_nil]
    exact separates.nonempty
  | case2 head rest copy ih =>
    rcases List.mem_cons.mp member with empty | later
    · rw [empty, List.infix_nil]
      exact separates.nonempty
    · exact ih piece later
  | case3 head rest other ih =>
    obtain ⟨first, others, parted, begins⟩ := pieces_first separator rest
    rw [parted] at member ih
    rcases List.mem_cons.mp member with extended | later
    · intro copy
      rw [extended] at copy
      rcases List.infix_cons_iff.mp copy with starts | inside
      · have before : separator <+: head :: rest :=
          starts.trans (List.cons_prefix_cons.mpr ⟨rfl, begins⟩)
        exact other (List.isPrefixOf_iff_prefix.mpr before)
      · exact ih first (by simp) inside
    · exact ih piece (List.mem_cons_of_mem first later)

theorem pieces_within (text piece : List Char) (member : piece ∈ pieces separator text) :
    piece <:+: text := by
  fun_induction pieces separator text generalizing piece with
  | case1 =>
    exact List.mem_singleton.mp member ▸ List.infix_rfl
  | case2 head rest copy ih =>
    rcases List.mem_cons.mp member with empty | later
    · rw [empty]
      exact List.nil_infix
    · exact List.infix_cons ((ih piece later).trans (List.drop_suffix _ rest).isInfix)
  | case3 head rest other ih =>
    obtain ⟨first, others, parted, begins⟩ := pieces_first separator rest
    rw [parted] at member ih
    rcases List.mem_cons.mp member with extended | later
    · rw [extended]
      exact (List.cons_prefix_cons.mpr ⟨rfl, begins⟩).isInfix
    · exact List.infix_cons (ih piece (List.mem_cons_of_mem first later))

end Pieces

section Fragments

variable {separator : List Char}

theorem drop_trailing_while (parts : List (List Char)) :
    dropTrailingEmpty parts = parts.rdropWhile List.isEmpty := rfl

theorem drop_trailing_mem (parts : List (List Char)) (part : List Char)
    (member : part ∈ dropTrailingEmpty parts) : part ∈ parts := by
  rw [drop_trailing_while] at member
  exact (List.rdropWhile_prefix List.isEmpty parts).mem member

theorem drop_trailing_full (parts : List (List Char)) (last : List Char) (full : last ≠ []) :
    dropTrailingEmpty (parts ++ [last]) = parts ++ [last] := by
  rw [drop_trailing_while]
  exact List.rdropWhile_concat_neg List.isEmpty parts last (mt List.isEmpty_iff.mp full)

theorem fragments_pieces (text part : List Char) (member : part ∈ fragments separator text) :
    part ∈ pieces separator text := by
  rw [fragments] at member
  split at member
  · rename_i whole single
    rw [single]
    exact member
  · exact drop_trailing_mem _ part member

theorem fragments_lack (separates : Separates separator) (text part : List Char)
    (member : part ∈ fragments separator text) : ¬ separator <:+: part :=
  pieces_lack separates text part (fragments_pieces text part member)

theorem fragments_within (text part : List Char) (member : part ∈ fragments separator text) :
    part <:+: text :=
  pieces_within text part (fragments_pieces text part member)

theorem fragments_whole (text : List Char) (absent : ¬ separator <:+: text) :
    fragments separator text = [text] := by
  rw [fragments, pieces_whole text absent]

theorem fragments_intercalate (separates : Separates separator) (parts : List (List Char))
    (last : List Char) (absent : ∀ part ∈ parts ++ [last], ¬ separator <:+: part)
    (full : last ≠ []) :
    fragments separator (separator.intercalate (parts ++ [last])) = parts ++ [last] := by
  rw [fragments, pieces_intercalate separates (parts ++ [last]) (by simp) absent]
  split
  · rename_i whole single
    rw [single]
  · exact drop_trailing_full parts last full

theorem fragments_pair (separates : Separates separator) (first last : List Char)
    (firstLacks : ¬ separator <:+: first) (lastLacks : ¬ separator <:+: last) (full : last ≠ []) :
    fragments separator (first ++ (separator ++ last)) = [first, last] := by
  have absent : ∀ part ∈ [first] ++ [last], ¬ separator <:+: part := by
    intro part member
    rcases List.mem_append.mp member with one | other
    · exact List.mem_singleton.mp one ▸ firstLacks
    · exact List.mem_singleton.mp other ▸ lastLacks
  have joined : separator.intercalate ([first] ++ [last]) = first ++ (separator ++ last) := by
    rw [List.singleton_append, List.intercalate_cons_cons, List.intercalate_singleton,
      List.append_assoc]
  rw [← joined, fragments_intercalate separates [first] last absent full]
  rfl

end Fragments

section Copies

variable {separator : List Char}

def copies (separator : List Char) (count : Nat) : List Char :=
  (List.replicate count separator).flatten

theorem copies_next (separator : List Char) (count : Nat) :
    copies separator (count + 1) = separator ++ copies separator count := by
  rw [copies, List.replicate_succ, List.flatten_cons]
  rfl

theorem pieces_copies (separates : Separates separator) (count : Nat) :
    pieces separator (copies separator count) = List.replicate (count + 1) [] := by
  induction count with
  | zero => exact pieces_nil
  | succ count ih =>
    rw [copies_next, pieces_copy separates, ih]
    rfl

theorem pieces_join (nonempty : separator ≠ []) (text : List Char) :
    separator.intercalate (pieces separator text) = text := by
  fun_induction pieces separator text with
  | case1 => exact List.intercalate_singleton
  | case2 head rest copy ih =>
    obtain ⟨first, others, parted, _⟩ :=
      pieces_first separator (rest.drop (separator.length - 1))
    obtain ⟨later, whole⟩ := List.isPrefixOf_iff_prefix.mp copy
    obtain ⟨c, tail, rfl⟩ := List.exists_cons_of_ne_nil nonempty
    rw [List.cons_append] at whole
    obtain ⟨rfl, rfl⟩ := List.cons.inj whole
    rw [parted] at ih ⊢
    rw [List.intercalate_cons_cons, ih]
    simp
  | case3 head rest other ih =>
    obtain ⟨first, others, parted, _⟩ := pieces_first separator rest
    rw [parted] at ih ⊢
    rw [extendFirst]
    cases others with
    | nil =>
      rw [List.intercalate_singleton] at ih ⊢
      rw [ih]
    | cons second more =>
      rw [List.intercalate_cons_cons] at ih ⊢
      rw [List.cons_append, List.cons_append, ih]

theorem intercalate_empty (separator : List Char) (count : Nat) :
    separator.intercalate (List.replicate (count + 1) []) = copies separator count := by
  induction count with
  | zero => exact List.intercalate_singleton
  | succ count ih =>
    rw [List.replicate_succ, List.replicate_succ, List.intercalate_cons_cons,
      ← List.replicate_succ, ih, copies_next]
    rfl

theorem drop_trailing_empty (parts : List (List Char)) :
    dropTrailingEmpty parts = [] ↔ ∀ part ∈ parts, part = [] := by
  rw [drop_trailing_while, List.rdropWhile_eq_nil_iff]
  simp only [List.isEmpty_iff]

theorem fragments_empty (separates : Separates separator) (text : List Char) :
    fragments separator text = [] ↔ ∃ count, 0 < count ∧ text = copies separator count := by
  constructor
  · intro none
    rw [fragments] at none
    split at none
    · cases none
    · rename_i several
      have empty := (drop_trailing_empty _).mp none
      obtain ⟨first, others, parted, _⟩ := pieces_first separator text
      have blank := List.eq_replicate_iff.mpr ⟨rfl, empty⟩
      have joined := pieces_join separates.nonempty text
      rw [parted] at blank
      rw [parted, blank, List.length_cons, intercalate_empty] at joined
      refine ⟨others.length, List.length_pos_iff.mpr ?_, joined.symm⟩
      intro alone
      rw [alone] at parted
      exact several first parted
  · rintro ⟨count, positive, rfl⟩
    have parted := pieces_copies separates count
    obtain ⟨more, rfl⟩ := Nat.exists_eq_succ_of_ne_zero (Nat.ne_of_gt positive)
    rw [fragments]
    split
    · rename_i single
      rw [parted] at single
      cases single
    · rw [parted, drop_trailing_empty]
      intro part member
      exact List.eq_of_mem_replicate member

end Copies

section Marks

def partsAt (mark : Char) (text : List Char) : List (List Char) :=
  if mark ∈ text then (text.splitOn mark).rdropWhile List.isEmpty else [text]

variable (mark : Char) (text : List Char)

theorem pieces_unmarked (piece : List Char) (member : piece ∈ pieces [mark] text) :
    mark ∉ piece := by
  intro within
  exact pieces_lack (single_separates mark) text piece member
    ((List.singleton_infix_iff mark piece).mpr within)

theorem split_pieces : text.splitOn mark = pieces [mark] text := by
  obtain ⟨first, others, parted, _⟩ := pieces_first [mark] text
  have split := List.splitOn_intercalate mark (pieces_unmarked mark text)
    (by rw [parted]; exact List.cons_ne_nil first others)
  rw [pieces_join (List.cons_ne_nil mark [])] at split
  exact split

theorem fragments_parts : fragments [mark] text = partsAt mark text := by
  by_cases marked : mark ∈ text
  · rw [partsAt, if_pos marked, split_pieces, fragments]
    split
    · rename_i whole single
      -- the only piece of a text is the text itself, and no piece holds the mark
      have joined := pieces_join (List.cons_ne_nil mark []) text
      rw [single, List.intercalate_singleton] at joined
      have lacks := pieces_unmarked mark text whole (by rw [single]; exact List.mem_singleton_self _)
      rw [joined] at lacks
      exact absurd marked lacks
    · rfl
  · rw [partsAt, if_neg marked]
    exact fragments_whole text (mt (List.singleton_infix_iff mark text).mp marked)

theorem parts_intercalate (parts : List (List Char)) (last : List Char)
    (lack : ∀ part ∈ parts ++ [last], mark ∉ part) (full : last ≠ []) :
    partsAt mark ([mark].intercalate (parts ++ [last])) = parts ++ [last] := by
  rw [← fragments_parts]
  refine fragments_intercalate (single_separates mark) parts last ?_ full
  intro part member
  exact mt (List.singleton_infix_iff mark part).mp (lack part member)

theorem parts_lack (part : List Char) (member : part ∈ partsAt mark text) : mark ∉ part := by
  rw [← fragments_parts] at member
  exact pieces_unmarked mark text part (fragments_pieces text part member)

end Marks

end Gamebook.Text
