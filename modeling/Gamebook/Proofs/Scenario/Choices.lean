import Gamebook.Scenario.Parser

set_option autoImplicit false

namespace Gamebook.Choice

def labels (choices : List Choice) : List String := choices.map (·.label)

theorem put_fresh (choice : Choice) (choices : List Choice)
    (fresh : choice.label ∉ labels choices) : choice.put choices = choices ++ [choice] := by
  induction choices with
  | nil => rfl
  | cons first rest ih =>
    rw [labels, List.map_cons, List.mem_cons, not_or] at fresh
    rw [put, if_neg (Ne.symm fresh.1), ih fresh.2]
    rfl

theorem put_labels (choice : Choice) (choices : List Choice) :
    labels (choice.put choices) =
      if choice.label ∈ labels choices then labels choices
      else labels choices ++ [choice.label] := by
  induction choices with
  | nil => rfl
  | cons first rest ih =>
    by_cases same : first.label = choice.label
    · simp [put, labels, same]
    · rw [put, if_neg same]
      have skip : choice.label ∈ labels (first :: rest) ↔ choice.label ∈ labels rest := by
        simp [labels, Ne.symm same]
      have consLabels : ∀ others, labels (first :: others) = first.label :: labels others :=
        fun _ => rfl
      rw [consLabels, ih]
      by_cases known : choice.label ∈ labels rest
      · rw [if_pos known, if_pos (skip.mpr known), consLabels]
      · rw [if_neg known, if_neg (mt skip.mp known), consLabels, List.cons_append]

theorem put_distinct (choice : Choice) (choices : List Choice)
    (distinct : (labels choices).Nodup) : (labels (choice.put choices)).Nodup := by
  rw [put_labels]
  by_cases known : choice.label ∈ labels choices
  · rw [if_pos known]
    exact distinct
  · rw [if_neg known, List.nodup_append]
    refine ⟨distinct, by simp, ?_⟩
    intro label member other single same
    rw [List.mem_singleton.mp single] at same
    exact known (same ▸ member)

theorem put_mem (choice other : Choice) (choices : List Choice)
    (member : other ∈ choice.put choices) : other = choice ∨ other ∈ choices := by
  induction choices with
  | nil => exact .inl (List.mem_singleton.mp member)
  | cons first rest ih =>
    by_cases same : first.label = choice.label
    · rw [put, if_pos same] at member
      rcases List.mem_cons.mp member with new | old
      · exact .inl new
      · exact .inr (List.mem_cons_of_mem first old)
    · rw [put, if_neg same] at member
      rcases List.mem_cons.mp member with old | later
      · exact .inr (old ▸ List.mem_cons_self)
      · rcases ih later with new | old
        · exact .inl new
        · exact .inr (List.mem_cons_of_mem first old)

def putAll (before added : List Choice) : List Choice :=
  added.foldl (fun choices choice => choice.put choices) before

theorem put_all_distinct (before added : List Choice) (distinct : (labels before).Nodup) :
    (labels (putAll before added)).Nodup := by
  induction added generalizing before with
  | nil => exact distinct
  | cons choice rest ih => exact ih (choice.put before) (put_distinct choice before distinct)

theorem put_all_mem (before added : List Choice) (other : Choice)
    (member : other ∈ putAll before added) : other ∈ before ∨ other ∈ added := by
  induction added generalizing before with
  | nil => exact .inl member
  | cons choice rest ih =>
    rcases ih (choice.put before) member with put | later
    · rcases put_mem choice other before put with same | old
      · exact .inr (same ▸ List.mem_cons_self)
      · exact .inl old
    · exact .inr (List.mem_cons_of_mem choice later)

theorem put_all_fresh (before added : List Choice)
    (distinct : (labels (before ++ added)).Nodup) : putAll before added = before ++ added := by
  induction added generalizing before with
  | nil => exact (List.append_nil before).symm
  | cons choice rest ih =>
    have fresh : choice.label ∉ labels before := by
      intro known
      rw [labels, List.map_append, List.nodup_append] at distinct
      exact distinct.2.2 choice.label known choice.label (by simp) rfl
    have joined : before ++ choice :: rest = (before ++ [choice]) ++ rest := by simp
    rw [joined] at distinct ⊢
    rw [← ih (before ++ [choice]) distinct, ← put_fresh choice before fresh]
    rfl

theorem of_text_choices (text : List Char) :
    (ofText text).1 = putAll [] (accepted (Text.fragments comma text)) := rfl

theorem of_text_reports (text : List Char) :
    (ofText text).2 = rejected (Text.fragments comma text) := rfl

theorem of_fragment_pair (fragment label target : List Char) (value : Int32)
    (parts : Text.fragments colon fragment = [label, target])
    (read : Text.Decimal.int32? target = some value) :
    ofFragment fragment = .ok ⟨String.ofList label, value⟩ := by
  simp only [ofFragment, parts, read]

theorem of_fragment_parts (fragment : List Char) (choice : Choice)
    (read : ofFragment fragment = .ok choice) :
    ∃ label target, Text.fragments colon fragment = [label, target] ∧
      Text.Decimal.int32? target = some choice.target ∧ choice.label = String.ofList label := by
  rw [ofFragment] at read
  split at read
  · rename_i label target parts
    cases found : Text.Decimal.int32? target with
    | none =>
      rw [found] at read
      cases read
    | some value =>
      rw [found] at read
      cases read
      exact ⟨label, target, parts, found, rfl⟩
  · cases read

theorem accepted_mem (fragments : List (List Char)) (choice : Choice)
    (member : choice ∈ accepted fragments) :
    ∃ fragment ∈ fragments, ofFragment fragment = .ok choice := by
  obtain ⟨fragment, listed, kept⟩ := List.mem_filterMap.mp member
  refine ⟨fragment, listed, ?_⟩
  cases read : ofFragment fragment with
  | ok other =>
    rw [read] at kept
    exact congrArg Except.ok (Option.some.inj kept)
  | error diagnostic =>
    rw [read] at kept
    cases kept

end Gamebook.Choice
