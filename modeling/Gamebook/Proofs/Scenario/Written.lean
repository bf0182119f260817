import Gamebook.Scenario.Parser
import Gamebook.Scenario.Printer
import Gamebook.Proofs.Text.Decimal
import Gamebook.Proofs.Text.Fragments
import Gamebook.Proofs.Text.Lines
import Gamebook.Proofs.Scenario.Choices
import Mathlib.Data.List.Forall2
import Mathlib.Tactic.MkIffOfInductiveProp

set_option autoImplicit false

namespace Gamebook

@[mk_iff]
structure Choice.Plain (choice : Choice) : Prop where
  oneLine : Text.OneLine choice.label.toList
  noArrow : ¬ arrow <:+: choice.label.toList
  noComma : ',' ∉ choice.label.toList
  noColon : ':' ∉ choice.label.toList

instance (choice : Choice) : Decidable choice.Plain :=
  decidable_of_iff _ choice.plain_iff.symm

@[mk_iff]
structure Branch.WellFormed (branch : Branch) : Prop where
  oneLine : Text.OneLine branch.description.toList
  noArrow : ¬ arrow <:+: branch.description.toList
  plain : ∀ choice ∈ branch.choices, choice.Plain
  distinct : (Choice.labels branch.choices).Nodup

instance (branch : Branch) : Decidable branch.WellFormed :=
  decidable_of_iff _ branch.wellFormed_iff.symm

@[mk_iff]
structure Scenario.WellFormed (scenario : Scenario) : Prop where
  oneLine : Text.OneLine scenario.title.toList
  branches : ∀ branch ∈ scenario.branches, branch.WellFormed

instance (scenario : Scenario) : Decidable scenario.WellFormed :=
  decidable_of_iff _ scenario.wellFormed_iff.symm

-- A target may have any spelling that is read as its value.
def Choice.WrittenAs (choice : Choice) (text : List Char) : Prop :=
  ∃ target, Text.Decimal.int32? target = some choice.target ∧
    text = choice.label.toList ++ ':' :: target

def Branch.WrittenAs (branch : Branch) (line : List Char) : Prop :=
  ∃ texts, List.Forall₂ Choice.WrittenAs branch.choices texts ∧
    line = branchLine branch.description texts

def Scenario.WrittenAs (scenario : Scenario) (lines : List (List Char)) : Prop :=
  ∃ body, List.Forall₂ Branch.WrittenAs scenario.branches body ∧
    lines = scenario.title.toList :: body

theorem written_each {α : Type} {good : α → Prop} {writes : α → List Char → Prop}
    {property : List Char → Prop} {items : List α} {texts : List (List Char)}
    (written : List.Forall₂ writes items texts) (all : ∀ item ∈ items, good item)
    (holds : ∀ item text, good item → writes item text → property text) :
    ∀ text ∈ texts, property text := by
  induction written with
  | nil =>
    intro text member
    cases member
  | cons first _ ih =>
    intro text member
    rcases List.mem_cons.mp member with same | later
    · rw [same]
      exact holds _ _ (all _ (by simp)) first
    · exact ih (fun item listed => all item (List.mem_cons_of_mem _ listed)) text later

theorem arrow_separates : Text.Separates arrow := Text.pair_separates '-' '>' (by decide)

theorem arrow_needs_point (text : List Char) (pointless : '>' ∉ text) : ¬ arrow <:+: text :=
  fun copy => pointless (copy.mem (by decide))

theorem arrow_after_seam (first second : List Char) (firstLacks : ¬ arrow <:+: first)
    (secondLacks : ¬ arrow <:+: second) (seam : second.head? ≠ some '>') :
    ¬ arrow <:+: first ++ second := by
  intro copy
  rcases List.infix_append_iff_ne_nil.mp copy with
    inFirst | inSecond | ⟨before, after, beforeFull, afterFull, parted, _, begins⟩
  · exact firstLacks inFirst
  · exact secondLacks inSecond
  · obtain ⟨dash, rest, rfl⟩ := List.exists_cons_of_ne_nil beforeFull
    obtain ⟨point, others, rfl⟩ := List.exists_cons_of_ne_nil afterFull
    have tails : ['>'] = rest ++ point :: others := (List.cons.inj parted).2
    have member : point ∈ ['>'] := by
      rw [tails]
      simp
    obtain ⟨later, rfl⟩ := begins
    exact seam (congrArg some (List.mem_singleton.mp member))

theorem arrow_after_comma (text : List Char) (absent : ¬ arrow <:+: text) :
    ¬ arrow <:+: ',' :: text := by
  intro copy
  rcases List.infix_cons_iff.mp copy with starts | later
  · exact absurd (List.cons_prefix_cons.mp starts).1 (by decide)
  · exact absent later

theorem lacks_single (c : Char) (text : List Char) (absent : c ∉ text) : ¬ [c] <:+: text :=
  mt (List.singleton_infix_iff c text).mp absent

namespace Choice

variable {choice : Choice} {text : List Char}

theorem written_lacks (written : choice.WrittenAs text) (c : Char)
    (absent : c ∉ choice.label.toList) (other : c ≠ ':') (foreign : ¬ Text.Decimal.InNumber c) :
    c ∉ text := by
  obtain ⟨target, read, rfl⟩ := written
  rw [List.mem_append, List.mem_cons]
  rintro (inLabel | isColon | inTarget)
  · exact absent inLabel
  · exact other isColon
  · exact Text.Decimal.int32_lacks target _ read c foreign inTarget

theorem written_one_line (plain : choice.Plain) (written : choice.WrittenAs text) :
    Text.OneLine text :=
  ⟨written_lacks written '\n' plain.oneLine.1 (by decide) (by decide),
    written_lacks written '\r' plain.oneLine.2 (by decide) (by decide)⟩

theorem written_lacks_comma (plain : choice.Plain) (written : choice.WrittenAs text) :
    ¬ comma <:+: text :=
  lacks_single ',' text (written_lacks written ',' plain.noComma (by decide) (by decide))

theorem written_lacks_arrow (plain : choice.Plain) (written : choice.WrittenAs text) :
    ¬ arrow <:+: text := by
  obtain ⟨target, read, rfl⟩ := written
  refine arrow_after_seam _ _ plain.noArrow (arrow_needs_point _ ?_) (by simp)
  rw [List.mem_cons, not_or]
  exact ⟨by decide, Text.Decimal.int32_lacks target _ read '>' (by decide)⟩

theorem written_full (written : choice.WrittenAs text) : text ≠ [] := by
  obtain ⟨target, _, rfl⟩ := written
  exact List.append_ne_nil_of_right_ne_nil _ (List.cons_ne_nil ':' target)

theorem written_read (plain : choice.Plain) (written : choice.WrittenAs text) :
    ofFragment text = .ok choice := by
  obtain ⟨target, read, rfl⟩ := written
  have parts : Text.fragments colon (choice.label.toList ++ ':' :: target) =
      [choice.label.toList, target] :=
    Text.fragments_pair (Text.single_separates ':') _ _ (lacks_single ':' _ plain.noColon)
      (lacks_single ':' _ (Text.Decimal.int32_lacks target _ read ':' (by decide)))
      (Text.Decimal.int32_chars target _ read).1
  rw [of_fragment_pair _ _ target choice.target parts read, String.ofList_toList]

end Choice

theorem joined_holds (property : List Char → Prop) (texts : List (List Char))
    (each : ∀ text ∈ texts, property text) (empty : texts = [] → property [])
    (join : ∀ first rest, property first → property rest → property (first ++ ',' :: rest)) :
    property (comma.intercalate texts) := by
  induction texts with
  | nil => exact empty rfl
  | cons first rest ih =>
    have firstHolds : property first := each first (by simp)
    cases rest with
    | nil =>
      rw [List.intercalate_singleton]
      exact firstHolds
    | cons second others =>
      have restHolds := ih (fun text member => each text (List.mem_cons_of_mem first member))
        (fun none => absurd none (List.cons_ne_nil second others))
      rw [List.intercalate_cons_cons, List.append_assoc]
      exact join first _ firstHolds restHolds

theorem joined_lacks_arrow (texts : List (List Char))
    (absent : ∀ text ∈ texts, ¬ arrow <:+: text) : ¬ arrow <:+: comma.intercalate texts := by
  refine joined_holds (fun text => ¬ arrow <:+: text) texts absent ?_ ?_
  · intro _
    exact arrow_needs_point _ List.not_mem_nil
  · intro first rest firstLacks restLacks
    exact arrow_after_seam first _ firstLacks (arrow_after_comma rest restLacks) (by simp)

theorem joined_one_line (texts : List (List Char)) (plain : ∀ text ∈ texts, Text.OneLine text) :
    Text.OneLine (comma.intercalate texts) := by
  refine joined_holds Text.OneLine texts plain (fun _ => Text.one_line_nil) ?_
  intro first rest firstLine restLine
  have behind := (Text.one_line_cons ',' rest).mpr ⟨by decide, by decide, restLine⟩
  exact Text.one_line_append first _ firstLine behind

theorem joined_full (texts : List (List Char)) (someText : texts ≠ [])
    (full : ∀ text ∈ texts, text ≠ []) : comma.intercalate texts ≠ [] := by
  refine joined_holds (· ≠ []) texts full (fun none => absurd none someText) ?_
  intro first rest firstFull _
  exact List.append_ne_nil_of_left_ne_nil firstFull _

namespace Choice

section Several

variable {choices : List Choice} {texts : List (List Char)}
  (written : List.Forall₂ WrittenAs choices texts)

include written

theorem written_nonempty (someChoice : choices ≠ []) : texts ≠ [] := by
  cases written with
  | nil => exact absurd rfl someChoice
  | cons _ _ => exact List.cons_ne_nil _ _

variable (plain : ∀ choice ∈ choices, choice.Plain)

include plain

theorem written_accepted : accepted texts = choices := by
  induction written with
  | nil => rfl
  | cons first _ ih =>
    have read := written_read (plain _ (by simp)) first
    rw [accepted, List.filterMap_cons, read]
    exact congrArg _ (ih fun choice listed => plain choice (List.mem_cons_of_mem _ listed))

theorem written_rejected : rejected texts = [] := by
  rw [rejected, List.filterMap_eq_nil_iff]
  refine written_each written plain ?_
  intro choice text plainChoice writtenChoice
  rw [written_read plainChoice writtenChoice]

theorem written_fragments (someChoice : choices ≠ []) :
    Text.fragments comma (comma.intercalate texts) = texts := by
  have absent := written_each written plain fun _ _ => written_lacks_comma
  have full := written_each written plain fun _ _ _ => written_full
  rcases List.eq_nil_or_concat texts with empty | ⟨parts, last, joined⟩
  · exact absurd empty (written_nonempty written someChoice)
  · rw [joined, List.concat_eq_append] at absent full ⊢
    exact Text.fragments_intercalate (Text.single_separates ',') parts last absent
      (full last (by simp))

theorem written_choices (someChoice : choices ≠ []) (distinct : (labels choices).Nodup) :
    ofText (comma.intercalate texts) = (choices, []) := by
  apply Prod.ext
  · rw [of_text_choices, written_fragments written plain someChoice,
      written_accepted written plain, put_all_fresh [] choices distinct]
    rfl
  · rw [of_text_reports, written_fragments written plain someChoice,
      written_rejected written plain]

end Several

end Choice

theorem branch_line_terminal (description : String) :
    branchLine description [] = description.toList := rfl

theorem branch_line_options (description : String) (texts : List (List Char))
    (someText : texts ≠ []) :
    branchLine description texts = description.toList ++ (arrow ++ comma.intercalate texts) := by
  rw [branchLine, if_neg someText, List.append_assoc]
  rfl

namespace Branch

variable {branch : Branch} {line : List Char} (wellFormed : branch.WellFormed)
  (written : branch.WrittenAs line)

include wellFormed written

theorem written_line : Text.OneLine line := by
  obtain ⟨texts, choices, rfl⟩ := written
  have plain := written_each choices wellFormed.plain fun _ _ => Choice.written_one_line
  by_cases terminal : texts = []
  · rw [terminal, branch_line_terminal]
    exact wellFormed.oneLine
  · rw [branch_line_options _ texts terminal]
    have arrowLine : Text.OneLine arrow := ⟨by decide, by decide⟩
    exact Text.one_line_append _ _ wellFormed.oneLine
      (Text.one_line_append _ _ arrowLine (joined_one_line texts plain))

theorem written_branch : ofLine line = (some branch, []) := by
  obtain ⟨texts, written, rfl⟩ := written
  cases terminal : branch.choices with
  | nil =>
    rw [terminal] at written
    cases written
    have whole := Text.fragments_whole branch.description.toList wellFormed.noArrow
    rw [branch_line_terminal, ofLine, whole]
    simp only [String.ofList_toList, ← terminal]
  | cons first rest =>
    have someChoice : branch.choices ≠ [] := terminal ▸ List.cons_ne_nil first rest
    have someText := Choice.written_nonempty written someChoice
    have optionsLack := joined_lacks_arrow texts
      (written_each written wellFormed.plain fun _ _ => Choice.written_lacks_arrow)
    have optionsFull := joined_full texts someText
      (written_each written wellFormed.plain fun _ _ _ => Choice.written_full)
    have parts := Text.fragments_pair arrow_separates branch.description.toList
      (comma.intercalate texts) wellFormed.noArrow optionsLack optionsFull
    have choices := Choice.written_choices written wellFormed.plain someChoice wellFormed.distinct
    rw [branch_line_options _ texts someText, ofLine, parts]
    simp only [choices, String.ofList_toList]

end Branch

namespace Scenario

theorem written_branches (source : Option String) (number : Nat) (branches : List Branch)
    (body : List (List Char)) (written : List.Forall₂ Branch.WrittenAs branches body)
    (wellFormed : ∀ branch ∈ branches, branch.WellFormed) :
    Branch.ofLines source number body = (branches, []) := by
  induction written generalizing number with
  | nil => rfl
  | cons first _ ih =>
    have read := Branch.written_branch (wellFormed _ (by simp)) first
    have rest := ih (number + 1) fun branch member =>
      wellFormed branch (List.mem_cons_of_mem _ member)
    rw [Branch.ofLines, read, rest]
    rfl

variable {scenario : Scenario} {lines : List (List Char)}

theorem written_lines_plain (wellFormed : scenario.WellFormed)
    (written : scenario.WrittenAs lines) : ∀ line ∈ lines, Text.OneLine line := by
  obtain ⟨body, branches, rfl⟩ := written
  intro line member
  rcases List.mem_cons.mp member with title | later
  · exact title ▸ wellFormed.oneLine
  · exact written_each branches wellFormed.branches (fun _ _ => Branch.written_line) line later

theorem written_lines_read (source : Option String) (wellFormed : scenario.WellFormed)
    (written : scenario.WrittenAs lines) : ofLines source lines = .ok ⟨scenario, []⟩ := by
  obtain ⟨body, branches, rfl⟩ := written
  have read := written_branches source 2 scenario.branches body branches wellFormed.branches
  rw [ofLines, read, String.ofList_toList]

theorem written_text_reads_back (source : String) (scenario : Scenario)
    (lines : List (List Char)) (terminator : List Char) (wellFormed : scenario.WellFormed)
    (written : scenario.WrittenAs lines) (ends : terminator ∈ Text.terminators) :
    ofText source (String.ofList (terminated terminator lines)) = .ok ⟨scenario, []⟩ := by
  have plain := written_lines_plain wellFormed written
  rw [ofText, String.toList_ofList, Text.lines_terminated terminator lines ends plain]
  exact written_lines_read (some source) wellFormed written

theorem straddling_text_reads_back :
    ofText "story" "T\r\na-->>x:+07,:-1\r\n\r\n" =
      .ok ⟨⟨"T", [⟨"a-", [⟨">x", 7⟩, ⟨"", -1⟩]⟩, ⟨"", []⟩]⟩, []⟩ := by
  have first : Choice.WrittenAs ⟨">x", 7⟩ ">x:+07".toList := ⟨"+07".toList, by decide, by decide⟩
  have second : Choice.WrittenAs ⟨"", -1⟩ ":-1".toList := ⟨"-1".toList, by decide, by decide⟩
  have branch : Branch.WrittenAs ⟨"a-", [⟨">x", 7⟩, ⟨"", -1⟩]⟩ "a-->>x:+07,:-1".toList :=
    ⟨[">x:+07".toList, ":-1".toList], .cons first (.cons second .nil), by decide⟩
  have last : Branch.WrittenAs ⟨"", []⟩ "".toList := ⟨[], .nil, by decide⟩
  have text : "T\r\na-->>x:+07,:-1\r\n\r\n" =
      String.ofList (terminated ['\r', '\n'] ["T".toList, "a-->>x:+07,:-1".toList, "".toList]) := by
    decide
  rw [text]
  exact written_text_reads_back "story" ⟨"T", [⟨"a-", [⟨">x", 7⟩, ⟨"", -1⟩]⟩, ⟨"", []⟩]⟩ _ _
    (by decide) ⟨_, .cons branch (.cons last .nil), rfl⟩ (by decide)

end Scenario

end Gamebook
