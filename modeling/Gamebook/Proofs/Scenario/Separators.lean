import Gamebook.Proofs.Scenario.Written

set_option autoImplicit false

namespace Gamebook

def separators : List (List Char) := [arrow, comma, colon]

namespace Text

-- A text as parts with a copy of the separator between any two, and any number of copies behind
-- the last.
structure Decomposes (separator text : List Char) (parts : List (List Char)) : Prop where
  lack : ∀ part ∈ parts, ¬ separator <:+: part
  full : text ≠ [] → ∀ last ∈ parts.getLast?, last ≠ []
  whole : text = [] → parts = [[]]
  joined : ∃ count, text = separator.intercalate parts ++ copies separator count
  none : parts = [] ↔ ∃ count, 0 < count ∧ text = copies separator count

theorem separators_separate (separator : List Char) (known : separator ∈ separators) :
    Separates separator := by
  simp only [separators, List.mem_cons, List.not_mem_nil, or_false] at known
  rcases known with rfl | rfl | rfl
  · exact arrow_separates
  · exact single_separates ','
  · exact single_separates ':'

section Trailing

variable (parts : List (List Char)) (count : Nat)

theorem drop_trailing_split :
    ∃ count, parts = dropTrailingEmpty parts ++ List.replicate count [] := by
  refine ⟨(parts.rtakeWhile List.isEmpty).length, ?_⟩
  have blank : parts.rtakeWhile List.isEmpty =
      List.replicate (parts.rtakeWhile List.isEmpty).length [] := by
    refine List.eq_replicate_iff.mpr ⟨rfl, fun part member => ?_⟩
    exact List.isEmpty_iff.mp (List.mem_rtakeWhile_imp member)
  rw [← blank, drop_trailing_while, List.rdropWhile_append_rtakeWhile]

theorem drop_trailing_last (last : List Char)
    (ends : last ∈ (dropTrailingEmpty parts).getLast?) : last ≠ [] := by
  obtain ⟨nonempty, rfl⟩ := List.mem_getLast?_eq_getLast ends
  exact mt List.isEmpty_iff.mpr (List.rdropWhile_last_not List.isEmpty parts nonempty)

theorem drop_trailing_more :
    dropTrailingEmpty (parts ++ List.replicate count []) = dropTrailingEmpty parts := by
  induction count with
  | zero => rw [List.replicate_zero, List.append_nil]
  | succ count ih =>
    rw [List.replicate_succ', ← List.append_assoc, drop_trailing_while,
      List.rdropWhile_concat_pos List.isEmpty _ [] rfl]
    exact ih

theorem intercalate_append (separator : List Char) (more : List (List Char))
    (nonempty : parts ≠ []) (others : more ≠ []) :
    separator.intercalate (parts ++ more) =
      separator.intercalate parts ++ separator ++ separator.intercalate more := by
  induction parts with
  | nil => exact absurd rfl nonempty
  | cons first rest ih =>
    by_cases last : rest = []
    · rw [last, List.singleton_append, List.intercalate_cons_of_ne_nil others,
        List.intercalate_singleton]
    · have longer : rest ++ more ≠ [] := List.append_ne_nil_of_left_ne_nil last more
      rw [List.cons_append, List.intercalate_cons_of_ne_nil longer,
        List.intercalate_cons_of_ne_nil last, ih last]
      simp only [List.append_assoc]

theorem intercalate_more (separator : List Char) (nonempty : parts ≠ []) :
    separator.intercalate (parts ++ List.replicate count []) =
      separator.intercalate parts ++ copies separator count := by
  cases count with
  | zero => simp [copies]
  | succ count =>
    rw [intercalate_append parts separator _ nonempty (by simp), intercalate_empty, copies_next,
      List.append_assoc]

end Trailing

section Decomposition

variable {separator : List Char} (separates : Separates separator) (text : List Char)

include separates

theorem fragments_nil : fragments separator [] = [[]] :=
  fragments_whole [] (mt List.infix_nil.mp separates.nonempty)

theorem fragments_dropped (full : text ≠ []) :
    fragments separator text = dropTrailingEmpty (pieces separator text) := by
  rw [fragments]
  split
  · rename_i whole single
    have same := pieces_join separates.nonempty text
    rw [single, List.intercalate_singleton] at same
    rw [single]
    exact (drop_trailing_full [] whole (same ▸ full)).symm
  · rfl

theorem fragments_last (full : text ≠ []) (last : List Char)
    (ends : last ∈ (fragments separator text).getLast?) : last ≠ [] := by
  rw [fragments_dropped separates text full] at ends
  exact drop_trailing_last _ last ends

theorem fragments_joined :
    ∃ count, text =
      separator.intercalate (fragments separator text) ++ copies separator count := by
  by_cases empty : text = []
  · refine ⟨0, ?_⟩
    rw [empty, fragments_nil separates, List.intercalate_singleton]
    rfl
  · by_cases none : fragments separator text = []
    · obtain ⟨count, _, same⟩ := (fragments_empty separates text).mp none
      refine ⟨count, ?_⟩
      rw [none, List.intercalate_nil, List.nil_append]
      exact same
    · obtain ⟨count, trailing⟩ := drop_trailing_split (pieces separator text)
      rw [← fragments_dropped separates text empty] at trailing
      refine ⟨count, ?_⟩
      rw [← intercalate_more _ count separator none, ← trailing,
        pieces_join separates.nonempty]

theorem fragments_decompose : Decomposes separator text (fragments separator text) where
  lack := fragments_lack separates text
  full := fragments_last separates text
  whole := fun empty => empty ▸ fragments_nil separates
  joined := fragments_joined separates text
  none := fragments_empty separates text

theorem pieces_more (parts : List (List Char)) (count : Nat) (nonempty : parts ≠ [])
    (lack : ∀ part ∈ parts, ¬ separator <:+: part) :
    pieces separator (separator.intercalate parts ++ copies separator count) =
      parts ++ List.replicate count [] := by
  rw [← intercalate_more parts count separator nonempty]
  refine pieces_intercalate separates _ (List.append_ne_nil_of_left_ne_nil nonempty _) ?_
  intro part member
  rcases List.mem_append.mp member with inside | behind
  · exact lack part inside
  · rw [List.eq_of_mem_replicate behind, List.infix_nil]
    exact separates.nonempty

theorem decomposition_unique (parts : List (List Char))
    (decomposes : Decomposes separator text parts) : fragments separator text = parts := by
  by_cases empty : text = []
  · rw [decomposes.whole empty, empty, fragments_nil separates]
  · by_cases none : parts = []
    · rw [none]
      exact (fragments_empty separates text).mpr (decomposes.none.mp none)
    · obtain ⟨count, same⟩ := decomposes.joined
      have kept : dropTrailingEmpty parts = parts := by
        refine List.rdropWhile_eq_self_iff.mpr fun some => ?_
        have last := decomposes.full empty _ (List.getLast_mem_getLast? some)
        exact mt List.isEmpty_iff.mp last
      have parted := pieces_more separates parts count none decomposes.lack
      rw [← same] at parted
      rw [fragments_dropped separates text empty, parted, drop_trailing_more, kept]

end Decomposition

theorem fragments_unique (separator text : List Char) (parts : List (List Char))
    (known : separator ∈ separators) :
    fragments separator text = parts ↔ Decomposes separator text parts := by
  have separates := separators_separate separator known
  constructor
  · intro same
    exact same ▸ fragments_decompose separates text
  · exact decomposition_unique separates text parts

theorem dashes_and_arrows_decompose :
    let text := "a-->->b->->".toList
    let parts := ["a-".toList, [], "b".toList]
    arrow ∈ separators ∧ Decomposes arrow text parts ∧ fragments arrow text = parts := by
  intro text parts
  have decomposes : Decomposes arrow text parts :=
    { lack := by decide
      full := by decide
      whole := by decide
      joined := ⟨2, by decide⟩
      none := by
        refine ⟨fun empty => absurd empty (by decide), fun ⟨count, _, same⟩ => ?_⟩
        have held : 'a' ∈ copies arrow count := same ▸ by decide
        simp [copies, arrow] at held }
  exact ⟨by decide, decomposes, (fragments_unique arrow text parts (by decide)).mpr decomposes⟩

end Text

end Gamebook
