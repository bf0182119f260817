import Gamebook.Proofs.Scenario.Choices
import Gamebook.Proofs.Text.Decimal
import Gamebook.Proofs.Text.Fragments
import Mathlib.Data.List.Induction

set_option autoImplicit false

namespace Gamebook

namespace Choice

def spelled? (fragment : List Char) : Option Choice :=
  match Text.partsAt ':' fragment with
  | [label, target] => (Text.Decimal.int32? target).map fun value => ⟨String.ofList label, value⟩
  | _ => none

def unreadable (fragment : List Char) : Diagnostic where
  kind := .malformedOption
  reason :=
    (if (Text.partsAt ':' fragment).length = 2 then "Invalid number format in options: "
      else "Invalid option format: ") ++ String.ofList fragment

theorem spelled_parts (fragment : List Char) (choice : Choice) :
    spelled? fragment = some choice ↔
      ∃ label target, Text.partsAt ':' fragment = [label, target] ∧
        choice.label = String.ofList label ∧ Text.Decimal.int32? target = some choice.target := by
  rw [spelled?]
  constructor
  · intro spells
    split at spells
    · rename_i label target parts
      obtain ⟨value, read, rfl⟩ := Option.map_eq_some_iff.mp spells
      exact ⟨label, target, parts, rfl, read⟩
    · cases spells
  · rintro ⟨label, target, parts, same, read⟩
    rw [parts]
    simp only [read, Option.map_some, ← same]

theorem of_fragment_spelled (fragment : List Char) (choice : Choice)
    (spells : spelled? fragment = some choice) : ofFragment fragment = .ok choice := by
  obtain ⟨label, target, parts, same, read⟩ := (spelled_parts fragment choice).mp spells
  rw [of_fragment_pair fragment label target choice.target
    ((Text.fragments_parts ':' fragment).trans parts) read, ← same]

theorem of_fragment_unreadable (fragment : List Char) (spells : spelled? fragment = none) :
    ofFragment fragment = .error (unreadable fragment) := by
  have parts : Text.fragments colon fragment = Text.partsAt ':' fragment :=
    Text.fragments_parts ':' fragment
  by_cases pair : ∃ label target, Text.partsAt ':' fragment = [label, target]
  · obtain ⟨label, target, pair⟩ := pair
    have unread : Text.Decimal.int32? target = none := by
      rw [spelled?, pair] at spells
      exact Option.map_eq_none_iff.mp spells
    rw [ofFragment, parts, unreadable, pair]
    simp only [unread, List.length_cons, List.length_nil, if_true]
  · have several : (Text.partsAt ':' fragment).length ≠ 2 :=
      fun two => pair (List.length_eq_two.mp two)
    rw [ofFragment, parts, unreadable, if_neg several]
    split
    · rename_i label target found
      exact absurd ⟨label, target, found⟩ pair
    · rfl

theorem accepted_spelled (fragments : List (List Char)) :
    accepted fragments = fragments.filterMap spelled? := by
  rw [accepted]
  congr 1
  funext fragment
  cases spells : spelled? fragment with
  | none => rw [of_fragment_unreadable fragment spells]
  | some choice => rw [of_fragment_spelled fragment choice spells]

theorem rejected_unreadable (fragments : List (List Char)) :
    rejected fragments = (fragments.filter fun fragment => (spelled? fragment).isNone).map
      unreadable := by
  rw [rejected, ← List.filterMap_eq_map, List.filterMap_filter]
  congr 1
  funext fragment
  cases spells : spelled? fragment with
  | none => rw [of_fragment_unreadable fragment spells]; rfl
  | some choice => rw [of_fragment_spelled fragment choice spells]; rfl

section PutAll

variable (added : List Choice) (choice : Choice)

theorem put_all_concat :
    putAll [] (added ++ [choice]) = choice.put (putAll [] added) := by
  rw [putAll, List.foldl_append]
  rfl

theorem put_all_labels : labels (putAll [] added) = (labels added).eraseDups := by
  induction added using List.reverseRecOn with
  | nil => rfl
  | append_singleton before choice ih =>
    have last : labels (before ++ [choice]) = labels before ++ [choice.label] := by
      rw [labels, List.map_append]
      rfl
    rw [put_all_concat, put_labels, ih, last, List.eraseDups_append]
    by_cases known : choice.label ∈ labels before
    · rw [if_pos (List.mem_eraseDups.mpr known)]
      simp [List.removeAll, known]
    · rw [if_neg (mt List.mem_eraseDups.mp known)]
      simp [List.removeAll, known, List.eraseDups_cons]

theorem put_kept (choices : List Choice) (distinct : (labels choices).Nodup) (other : Choice)
    (member : other ∈ choice.put choices) :
    other = choice ∨ other ∈ choices ∧ other.label ≠ choice.label := by
  induction choices with
  | nil => exact .inl (List.mem_singleton.mp member)
  | cons first rest ih =>
    rw [labels, List.map_cons, List.nodup_cons] at distinct
    by_cases same : first.label = choice.label
    · rw [put, if_pos same] at member
      rcases List.mem_cons.mp member with new | later
      · exact .inl new
      · refine .inr ⟨List.mem_cons_of_mem first later, ?_⟩
        intro again
        exact distinct.1 (List.mem_map.mpr ⟨other, later, again.trans same.symm⟩)
    · rw [put, if_neg same] at member
      rcases List.mem_cons.mp member with old | later
      · exact .inr ⟨old ▸ List.mem_cons_self, old ▸ same⟩
      · rcases ih distinct.2 later with new | ⟨old, different⟩
        · exact .inl new
        · exact .inr ⟨List.mem_cons_of_mem first old, different⟩

theorem put_all_last (other : Choice) (member : other ∈ putAll [] added) :
    (added.filter fun found => found.label = other.label).getLast? = some other := by
  induction added using List.reverseRecOn with
  | nil => cases member
  | append_singleton before choice ih =>
    rw [put_all_concat] at member
    have distinct := put_all_distinct [] before List.nodup_nil
    rw [List.filter_append]
    rcases put_kept choice _ distinct other member with rfl | ⟨old, different⟩
    · rw [List.filter_cons_of_pos (by simp), List.filter_nil, List.getLast?_concat]
    · rw [List.filter_cons_of_neg (by simpa using Ne.symm different), List.filter_nil,
        List.append_nil]
      exact ih old

end PutAll

theorem spelled_full (fragment : List Char) (choice : Choice)
    (spells : spelled? fragment = some choice) : fragment ≠ [] := by
  rintro rfl
  obtain ⟨label, target, parts, _⟩ := (spelled_parts [] choice).mp spells
  simp [Text.partsAt] at parts

def readable (text : List Char) : List (List Char) :=
  (Text.partsAt ',' text).filter fun fragment => (spelled? fragment).isSome

def cleaned (text : List Char) : List Char := comma.intercalate (readable text)

theorem readable_mem (text fragment : List Char) (member : fragment ∈ readable text) :
    ',' ∉ fragment ∧ fragment ≠ [] := by
  obtain ⟨part, spells⟩ := List.mem_filter.mp member
  obtain ⟨choice, spells⟩ := Option.isSome_iff_exists.mp spells
  exact ⟨Text.parts_lack ',' text fragment part, spelled_full fragment choice spells⟩

theorem cleaned_parts (text : List Char) (spoken : readable text ≠ []) :
    Text.partsAt ',' (cleaned text) = readable text := by
  obtain ⟨parts, last, kept⟩ := (List.eq_nil_or_concat _).resolve_left spoken
  rw [List.concat_eq_append] at kept
  have pieces := readable_mem text
  rw [kept] at pieces
  rw [cleaned, kept]
  exact Text.parts_intercalate ',' parts last (fun part member => (pieces part member).1)
    (pieces last (List.mem_append_right parts List.mem_cons_self)).2

theorem readable_empty (text : List Char) :
    readable text = [] ↔ (Text.partsAt ',' text).filterMap spelled? = [] := by
  simp [readable, List.filter_eq_nil_iff, List.filterMap_eq_nil_iff]

theorem of_text_parts (text : List Char) :
    (ofText text).1 = putAll [] ((Text.partsAt ',' text).filterMap spelled?) ∧
      (ofText text).2 =
        ((Text.partsAt ',' text).filter fun fragment => (spelled? fragment).isNone).map
          unreadable := by
  have parts : Text.fragments comma text = Text.partsAt ',' text := Text.fragments_parts ',' text
  rw [of_text_choices, of_text_reports, parts, accepted_spelled, rejected_unreadable]
  exact ⟨rfl, rfl⟩

theorem cleaned_choices (text : List Char) :
    (ofText (cleaned text)).1 = (ofText text).1 ∧
      (ofText (cleaned text)).2 =
        if (Text.partsAt ',' text).filterMap spelled? = [] then [unreadable []] else [] := by
  rw [(of_text_parts text).1, (of_text_parts (cleaned text)).1, (of_text_parts (cleaned text)).2]
  by_cases bare : readable text = []
  · have blank : cleaned text = [] := by rw [cleaned, bare, List.intercalate_nil]
    rw [blank, (readable_empty text).mp bare, if_pos rfl]
    exact ⟨rfl, rfl⟩
  · have same : (readable text).filterMap spelled? = (Text.partsAt ',' text).filterMap spelled? := by
      rw [readable, List.filterMap_filter]
      congr 1
      funext fragment
      cases spelled? fragment <;> rfl
    have clean : (readable text).filter (fun fragment => (spelled? fragment).isNone) = [] := by
      rw [List.filter_eq_nil_iff]
      intro fragment member
      have spells := (List.mem_filter.mp member).2
      simpa using Option.isSome_iff_ne_none.mp spells
    rw [cleaned_parts text bare, same, clean, if_neg (mt (readable_empty text).mpr bare)]
    exact ⟨rfl, rfl⟩

-- Fragments are the parts at commas. One that spells a choice has two parts at its colons, and a
-- number for the second.
theorem every_fragment_spelled_or_reported :
    (∀ fragment choice, spelled? fragment = some choice ↔
      ∃ label target, Text.partsAt ':' fragment = [label, target] ∧
        choice.label = String.ofList label ∧ Text.Decimal.int32? target = some choice.target) ∧
    (∀ target value, Text.Decimal.int32? target = some value ↔
      Text.Decimal.Spells target value.toInt) ∧
    ∀ text,
      let fragments := Text.partsAt ',' text
      let spelled := fragments.filterMap spelled?
      labels (ofText text).1 = (labels spelled).eraseDups ∧
      (∀ choice ∈ (ofText text).1,
        (spelled.filter fun found => found.label = choice.label).getLast? = some choice) ∧
      (ofText text).2 =
        (fragments.filter fun fragment => (spelled? fragment).isNone).map unreadable ∧
      (ofText (cleaned text)).1 = (ofText text).1 ∧
      (ofText (cleaned text)).2 = if spelled = [] then [unreadable []] else [] := by
  refine ⟨spelled_parts, Text.Decimal.int32_spells, ?_⟩
  intro text fragments spelled
  obtain ⟨choices, reports⟩ := of_text_parts text
  refine ⟨?_, ?_, reports, cleaned_choices text⟩
  · rw [choices]
    exact put_all_labels spelled
  · rw [choices]
    exact put_all_last spelled

end Choice

end Gamebook
