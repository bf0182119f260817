import Gamebook.Proofs.Scenario.Written

set_option autoImplicit false

namespace Gamebook

theorem Choice.of_fragment_plain (fragment : List Char) (choice : Choice)
    (oneLine : Text.OneLine fragment) (noArrow : ¬ arrow <:+: fragment) (noComma : ',' ∉ fragment)
    (read : ofFragment fragment = .ok choice) : choice.Plain := by
  obtain ⟨label, target, parts, _, named⟩ := of_fragment_parts fragment choice read
  have member : label ∈ Text.fragments colon fragment := by
    rw [parts]
    exact List.mem_cons_self
  have within := Text.fragments_within fragment label member
  have noColon := Text.fragments_lack (Text.single_separates ':') fragment label member
  have characters : choice.label.toList = label := by rw [named, String.toList_ofList]
  rw [← characters] at within noColon
  exact
    { oneLine := Text.one_line_within _ fragment within oneLine
      noArrow := fun copy => noArrow (copy.trans within)
      noComma := fun listed => noComma (within.mem listed)
      noColon := mt (List.singleton_infix_iff ':' _).mpr noColon }

theorem Choice.of_text_plain (text : List Char) (choice : Choice) (oneLine : Text.OneLine text)
    (noArrow : ¬ arrow <:+: text) (member : choice ∈ (ofText text).1) : choice.Plain := by
  rw [of_text_choices] at member
  rcases put_all_mem [] _ choice member with none | added
  · exact absurd none List.not_mem_nil
  · obtain ⟨fragment, listed, read⟩ := accepted_mem _ choice added
    have within := Text.fragments_within text fragment listed
    have noComma := Text.fragments_lack (Text.single_separates ',') text fragment listed
    exact of_fragment_plain fragment choice (Text.one_line_within _ text within oneLine)
      (fun copy => noArrow (copy.trans within))
      (mt (List.singleton_infix_iff ',' fragment).mpr noComma) read

theorem Choice.of_text_distinct (text : List Char) : (labels (ofText text).1).Nodup := by
  rw [of_text_choices]
  exact put_all_distinct [] _ List.nodup_nil

namespace Branch

theorem of_line_parts (line : List Char) (branch : Branch)
    (read : (ofLine line).1 = some branch) :
    ∃ description rest, Text.fragments arrow line = description :: rest ∧
      branch.description = String.ofList description ∧
      (branch.choices = [] ∨ ∃ text ∈ rest, branch.choices = (Choice.ofText text).1) := by
  rw [ofLine] at read
  split at read
  · cases read
  · rename_i description parts
    cases read
    exact ⟨description, [], parts, rfl, .inl rfl⟩
  · rename_i description text rest parts
    cases read
    exact ⟨description, text :: rest, parts, rfl, .inr ⟨text, List.mem_cons_self, rfl⟩⟩

theorem of_line_well_formed (line : List Char) (branch : Branch) (oneLine : Text.OneLine line)
    (read : (ofLine line).1 = some branch) : branch.WellFormed := by
  obtain ⟨description, rest, parts, described, choices⟩ := of_line_parts line branch read
  have plainPart : ∀ part ∈ description :: rest,
      Text.OneLine part ∧ ¬ arrow <:+: part := by
    intro part member
    rw [← parts] at member
    exact ⟨Text.one_line_within part line (Text.fragments_within line part member) oneLine,
      Text.fragments_lack arrow_separates line part member⟩
  have plainDescription := plainPart description List.mem_cons_self
  have characters : branch.description.toList = description := by
    rw [described, String.toList_ofList]
  rw [← characters] at plainDescription
  rcases choices with none | ⟨text, listed, some⟩
  · exact
      { oneLine := plainDescription.1
        noArrow := plainDescription.2
        plain := by simp [none]
        distinct := by simp [none, Choice.labels] }
  · obtain ⟨textLine, textLacks⟩ := plainPart text (List.mem_cons_of_mem description listed)
    exact
      { oneLine := plainDescription.1
        noArrow := plainDescription.2
        plain := fun choice member =>
          Choice.of_text_plain text choice textLine textLacks (some ▸ member)
        distinct := some ▸ Choice.of_text_distinct text }

theorem of_lines_mem (source : Option String) (number : Nat) (lines : List (List Char))
    (branch : Branch) (member : branch ∈ (ofLines source number lines).1) :
    ∃ line ∈ lines, (ofLine line).1 = some branch := by
  induction lines generalizing number with
  | nil => cases member
  | cons line rest ih =>
    rw [ofLines] at member
    rcases List.mem_append.mp member with here | later
    · exact ⟨line, List.mem_cons_self, Option.mem_toList.mp here⟩
    · obtain ⟨other, listed, read⟩ := ih (number + 1) later
      exact ⟨other, List.mem_cons_of_mem line listed, read⟩

end Branch

namespace Scenario

theorem of_lines_well_formed (source : Option String) (lines : List (List Char))
    (reading : Reading) (plain : ∀ line ∈ lines, Text.OneLine line)
    (read : ofLines source lines = .ok reading) : reading.scenario.WellFormed := by
  cases lines with
  | nil => cases read
  | cons title body =>
    rw [ofLines] at read
    cases read
    refine { oneLine := ?_, branches := ?_ }
    · rw [String.toList_ofList]
      exact plain title List.mem_cons_self
    · intro branch member
      obtain ⟨line, listed, found⟩ := Branch.of_lines_mem source 2 body branch member
      exact Branch.of_line_well_formed line branch
        (plain line (List.mem_cons_of_mem title listed)) found

end Scenario

theorem Choice.text_written (choice : Choice) : choice.WrittenAs choice.text :=
  ⟨targetText choice.target, Text.Decimal.int32_target choice.target, rfl⟩

theorem Branch.line_written (branch : Branch) : branch.WrittenAs branch.line := by
  refine ⟨branch.choices.map Choice.text, ?_, rfl⟩
  rw [List.forall₂_map_right_iff, List.forall₂_same]
  exact fun choice _ => choice.text_written

namespace Scenario

theorem lines_written (scenario : Scenario) :
    scenario.WrittenAs (scenario.title.toList :: scenario.branches.map Branch.line) := by
  refine ⟨scenario.branches.map Branch.line, ?_, rfl⟩
  rw [List.forall₂_map_right_iff, List.forall₂_same]
  exact fun branch _ => branch.line_written

theorem text_lines (scenario : Scenario) (wellFormed : scenario.WellFormed) :
    Text.lines scenario.text = scenario.title.toList :: scenario.branches.map Branch.line :=
  Text.lines_terminated ['\n'] _ (by decide)
    (written_lines_plain wellFormed scenario.lines_written)

theorem reading_in_normal_form (source text : String) (reading : Reading)
    (read : ofText source text = .ok reading) :
    reading.scenario.WellFormed ∧
      ∀ name, ofText name (String.ofList reading.scenario.text) =
        .ok ⟨reading.scenario, []⟩ := by
  have wellFormed := of_lines_well_formed (some source) (Text.lines text.toList) reading
    (Text.lines_one_line text.toList) read
  refine ⟨wellFormed, ?_⟩
  intro name
  rw [ofText, String.toList_ofList, text_lines reading.scenario wellFormed]
  exact written_lines_read (some name) wellFormed reading.scenario.lines_written

theorem malformed_text_normal_form :
    ∃ reading, ofText "story" "T\r->->\ra-->b:1,c,b:+02:->x" = .ok reading ∧
      reading.diagnostics ≠ [] ∧ reading.scenario.WellFormed ∧
      ofText "again" (String.ofList reading.scenario.text) = .ok ⟨reading.scenario, []⟩ := by
  have read : ofText "story" "T\r->->\ra-->b:1,c,b:+02:->x" =
      .ok ⟨⟨"T", [⟨"a-", [⟨"b", 2⟩]⟩]⟩,
        [{ kind := .malformedLine, file := some "story", line := some 2
           reason := "Invalid line format: ->->" },
         { kind := .malformedOption, file := some "story", line := some 3
           reason := "Invalid option format: c" }]⟩ := by
    decide +kernel
  obtain ⟨wellFormed, again⟩ := reading_in_normal_form _ _ _ read
  exact ⟨_, read, List.cons_ne_nil _ _, wellFormed, again "again"⟩

end Scenario

end Gamebook
