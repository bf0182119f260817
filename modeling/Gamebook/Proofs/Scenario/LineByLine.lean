import Gamebook.Proofs.Scenario.Written

set_option autoImplicit false

namespace Gamebook

namespace Diagnostic

def located (source : Option String) (number : Nat) (found : Diagnostic) : Diagnostic :=
  { found with file := source, line := some number }

def moved (distance : Nat) (found : Diagnostic) : Diagnostic :=
  { found with line := found.line.map (· + distance) }

def ofDroppedLine (line : List Char) : Diagnostic where
  kind := .malformedLine
  reason := "Invalid line format: " ++ String.ofList line

def phrases : List String :=
  ["Invalid line format: ", "Invalid option format: ", "Invalid number format in options: "]

def Quotes (found : Diagnostic) (line : List Char) : Prop :=
  ∃ phrase ∈ phrases, ∃ piece, piece <:+: line ∧ found.reason = phrase ++ String.ofList piece

end Diagnostic

def OnlyArrows (line : List Char) : Prop := ∃ count, 0 < count ∧ line = Text.copies arrow count

theorem Choice.rejected_fragment (fragments : List (List Char)) (found : Diagnostic)
    (member : found ∈ rejected fragments) :
    found.kind = .malformedOption ∧ ∃ phrase ∈ Diagnostic.phrases, ∃ fragment ∈ fragments,
      found.reason = phrase ++ String.ofList fragment := by
  obtain ⟨fragment, listed, kept⟩ := List.mem_filterMap.mp member
  have format : "Invalid option format: " ∈ Diagnostic.phrases := by simp [Diagnostic.phrases]
  have number : "Invalid number format in options: " ∈ Diagnostic.phrases := by
    simp [Diagnostic.phrases]
  rw [ofFragment] at kept
  split at kept
  · cases kept
  · rename_i read
    split at read
    · split at read
      · cases read
      · cases read
        cases kept
        exact ⟨rfl, _, number, fragment, listed, rfl⟩
    · cases read
      cases kept
      exact ⟨rfl, _, format, fragment, listed, rfl⟩

namespace Branch

structure ReadAlone (line : List Char) : Prop where
  dropped : (ofLine line).1 = none ↔ OnlyArrows line
  reported : OnlyArrows line → (ofLine line).2 = [.ofDroppedLine line]
  kept : ¬ OnlyArrows line → ∀ found ∈ (ofLine line).2, found.kind = .malformedOption
  quoted : ∀ found ∈ (ofLine line).2, found.Quotes line

theorem of_line_arrows (line : List Char) (only : OnlyArrows line) :
    ofLine line = (none, [.ofDroppedLine line]) := by
  rw [ofLine, (Text.fragments_empty arrow_separates line).mpr only]
  rfl

theorem of_line_other (line : List Char) (other : ¬ OnlyArrows line) :
    ∃ branch, (ofLine line).1 = some branch ∧
      ∀ found ∈ (ofLine line).2, found.kind = .malformedOption ∧ found.Quotes line := by
  rw [ofLine]
  split
  · rename_i none
    exact absurd ((Text.fragments_empty arrow_separates line).mp none) other
  · exact ⟨_, rfl, fun found member => absurd member List.not_mem_nil⟩
  · rename_i description text rest parts
    refine ⟨_, rfl, ?_⟩
    intro found member
    rw [Choice.of_text_reports] at member
    obtain ⟨kind, phrase, listed, fragment, part, reason⟩ :=
      Choice.rejected_fragment _ found member
    have inText := Text.fragments_within text fragment part
    have inLine : text <:+: line := Text.fragments_within line text (by rw [parts]; simp)
    exact ⟨kind, phrase, listed, fragment, inText.trans inLine, reason⟩

theorem line_read_alone (line : List Char) : ReadAlone line := by
  by_cases only : OnlyArrows line
  · have read := of_line_arrows line only
    refine ⟨by simp [read, only], fun _ => by rw [read], fun other => absurd only other, ?_⟩
    intro found member
    rw [read, List.mem_singleton] at member
    rw [member]
    exact ⟨_, List.mem_cons_self, line, List.infix_rfl, rfl⟩
  · obtain ⟨branch, read, reports⟩ := of_line_other line only
    exact ⟨by simp [read, only], fun arrows => absurd arrows only,
      fun _ found member => (reports found member).1, fun found member => (reports found member).2⟩

theorem line_counted (source : Option String) (number : Nat) (line : List Char) :
    (ofLine line).1.toList.length +
      (((ofLine line).2.map (Diagnostic.located source number)).filter
        (·.kind = .malformedLine)).length = 1 := by
  by_cases only : OnlyArrows line
  · rw [of_line_arrows line only]
    rfl
  · obtain ⟨branch, read, reports⟩ := of_line_other line only
    have unreported : ((ofLine line).2.map (Diagnostic.located source number)).filter
        (·.kind = .malformedLine) = [] := by
      rw [List.filter_eq_nil_iff]
      intro found member
      obtain ⟨first, listed, rfl⟩ := List.mem_map.mp member
      simp [Diagnostic.located, (reports first listed).1]
    rw [read, unreported]
    rfl

theorem of_lines_cons (source : Option String) (number : Nat) (line : List Char)
    (rest : List (List Char)) :
    ofLines source number (line :: rest) =
      ((ofLine line).1.toList ++ (ofLines source (number + 1) rest).1,
        (ofLine line).2.map (Diagnostic.located source number) ++
          (ofLines source (number + 1) rest).2) := rfl

variable (source : Option String) (number : Nat) (lines : List (List Char))

theorem of_lines_branches :
    (ofLines source number lines).1 = lines.flatMap fun line => (ofLine line).1.toList := by
  induction lines generalizing number with
  | nil => rfl
  | cons line rest ih => rw [of_lines_cons, List.flatMap_cons, ← ih (number + 1)]

theorem of_lines_reports :
    (ofLines source number lines).2 =
      (lines.zipIdx number).flatMap fun (line, position) =>
        (ofLine line).2.map (Diagnostic.located source position) := by
  induction lines generalizing number with
  | nil => rfl
  | cons line rest ih => rw [of_lines_cons, List.zipIdx_cons, List.flatMap_cons, ← ih (number + 1)]

theorem of_lines_counted :
    (ofLines source number lines).1.length +
      ((ofLines source number lines).2.filter (·.kind = .malformedLine)).length =
        lines.length := by
  induction lines generalizing number with
  | nil => rfl
  | cons line rest ih =>
    have here := line_counted source number line
    have later := ih (number + 1)
    simp only [of_lines_cons, List.length_append, List.filter_append, List.length_cons]
    omega

theorem of_lines_placed (found : Diagnostic) (member : found ∈ (ofLines source number lines).2) :
    ∃ offset line, lines[offset]? = some line ∧ found.file = source ∧
      found.line = some (number + offset) ∧ found.Quotes line := by
  induction lines generalizing number with
  | nil => cases member
  | cons line rest ih =>
    rw [of_lines_cons] at member
    rcases List.mem_append.mp member with here | later
    · obtain ⟨first, told, rfl⟩ := List.mem_map.mp here
      exact ⟨0, line, rfl, rfl, rfl, (line_read_alone line).quoted first told⟩
    · obtain ⟨offset, other, listed, file, place, quotes⟩ := ih (number + 1) later
      exact ⟨offset + 1, other, listed, file, by rw [place, Nat.add_right_comm, Nat.add_assoc],
        quotes⟩

theorem of_lines_kinds (found : Diagnostic) (member : found ∈ (ofLines source number lines).2) :
    found.kind = .malformedLine ∨ found.kind = .malformedOption := by
  rw [of_lines_reports] at member
  obtain ⟨⟨line, position⟩, _, reported⟩ := List.mem_flatMap.mp member
  obtain ⟨first, told, rfl⟩ := List.mem_map.mp reported
  by_cases only : OnlyArrows line
  · rw [(line_read_alone line).reported only, List.mem_singleton] at told
    exact .inl (by rw [told]; rfl)
  · exact .inr ((line_read_alone line).kept only first told)

theorem of_lines_ordered :
    ((ofLines source number lines).2.filterMap (·.line)).Pairwise (· ≤ ·) := by
  induction lines generalizing number with
  | nil => exact .nil
  | cons line rest ih =>
    have first : ((ofLine line).2.map (Diagnostic.located source number)).filterMap (·.line) =
        List.replicate (ofLine line).2.length number := by
      rw [List.filterMap_map]
      exact (congrFun List.filterMap_eq_map _).trans List.map_const'
    rw [of_lines_cons, List.filterMap_append, List.pairwise_append, first]
    refine ⟨List.pairwise_replicate.mpr (.inr (Nat.le_refl number)), ih (number + 1), ?_⟩
    intro here inFirst there inRest
    obtain ⟨found, member, place⟩ := List.mem_filterMap.mp inRest
    obtain ⟨offset, _, _, _, later, _⟩ := of_lines_placed source (number + 1) rest found member
    obtain rfl := Option.some.inj (later.symm.trans place)
    rw [List.eq_of_mem_replicate inFirst]
    omega

theorem of_lines_append (more : List (List Char)) :
    ofLines source number (lines ++ more) =
      ((ofLines source number lines).1 ++ (ofLines source (number + lines.length) more).1,
        (ofLines source number lines).2 ++ (ofLines source (number + lines.length) more).2) := by
  induction lines generalizing number with
  | nil => rfl
  | cons line rest ih =>
    rw [List.cons_append, of_lines_cons, ih (number + 1), of_lines_cons, List.length_cons,
      Nat.add_right_comm, Nat.add_assoc, List.append_assoc, List.append_assoc]

theorem of_lines_moved (distance : Nat) :
    ofLines source (number + distance) lines =
      ((ofLines source number lines).1,
        (ofLines source number lines).2.map (Diagnostic.moved distance)) := by
  induction lines generalizing number with
  | nil => rfl
  | cons line rest ih =>
    have next := ih (number + 1)
    rw [Nat.add_right_comm] at next
    rw [of_lines_cons, next, of_lines_cons, List.map_append, List.map_map]
    rfl

end Branch

namespace Scenario

structure LineByLine (source : Option String) (title : List Char) (body : List (List Char))
    (reading : Reading) : Prop where
  titled : reading.scenario.title = String.ofList title
  branches : reading.scenario.branches = body.flatMap fun line => (Branch.ofLine line).1.toList
  reports : reading.diagnostics = (body.zipIdx 2).flatMap fun (line, number) =>
    (Branch.ofLine line).2.map (Diagnostic.located source number)
  counted : reading.scenario.branches.length +
    (reading.diagnostics.filter (·.kind = .malformedLine)).length = (title :: body).length - 1
  ordered : (reading.diagnostics.filterMap (·.line)).Pairwise (· ≤ ·)
  placed : ∀ found ∈ reading.diagnostics, ∃ number line, found.line = some number ∧
    2 ≤ number ∧ number ≤ (title :: body).length ∧ (title :: body)[number - 1]? = some line ∧
    found.file = source ∧ found.Quotes line

theorem read_line_by_line (source : Option String) (title : List Char)
    (body : List (List Char)) :
    ∃ reading, ofLines source (title :: body) = .ok reading ∧
      LineByLine source title body reading := by
  refine ⟨_, rfl, rfl, Branch.of_lines_branches source 2 body,
    Branch.of_lines_reports source 2 body, Branch.of_lines_counted source 2 body,
    Branch.of_lines_ordered source 2 body, ?_⟩
  intro found member
  obtain ⟨offset, line, listed, file, place, quotes⟩ :=
    Branch.of_lines_placed source 2 body found member
  have within := (List.getElem?_eq_some_iff.mp listed).1
  refine ⟨2 + offset, line, place, by omega, ?_, ?_, file, quotes⟩
  · rw [List.length_cons]
    omega
  · have shift : 2 + offset - 1 = offset + 1 := by omega
    rw [shift, List.getElem?_cons_succ, listed]

theorem text_lines_full (text : String) (full : text ≠ "") :
    ∃ title body, Text.lines text.toList = title :: body := by
  cases found : Text.lines text.toList with
  | nil => exact absurd (String.toList_eq_nil_iff.mp ((Text.lines_empty _).mp found)) full
  | cons title body => exact ⟨title, body, rfl⟩

theorem every_line_accounted_for :
    (∀ source, ofLines source [] = .error ⟨source⟩ ∧
      (NoLines.mk source).failure.code = "PARSE_EMPTY_FILE") ∧
    (∀ source title body, ∃ reading, ofLines source (title :: body) = .ok reading ∧
      LineByLine source title body reading) ∧
    (∀ name, ofText name "" = .error ⟨some name⟩) ∧
    (∀ name text, text ≠ "" → ∃ title body reading, Text.lines text.toList = title :: body ∧
      ofText name text = .ok reading ∧ LineByLine (some name) title body reading) ∧
    (∀ line, Branch.ReadAlone line) ∧
    ∀ source title former latter, ∃ first second,
      ofLines source (title :: former) = .ok first ∧
      ofLines source (title :: latter) = .ok second ∧
      ofLines source (title :: (former ++ latter)) =
        .ok ⟨⟨String.ofList title, first.scenario.branches ++ second.scenario.branches⟩,
          first.diagnostics ++ second.diagnostics.map (Diagnostic.moved former.length)⟩ := by
  refine ⟨fun _ => ⟨rfl, rfl⟩, read_line_by_line, fun _ => rfl, ?_, Branch.line_read_alone, ?_⟩
  · intro name text full
    obtain ⟨title, body, parted⟩ := text_lines_full text full
    obtain ⟨reading, read, faithful⟩ := read_line_by_line (some name) title body
    exact ⟨title, body, reading, parted, by rw [ofText, parted, read], faithful⟩
  · intro source title former latter
    refine ⟨_, _, rfl, rfl, ?_⟩
    rw [ofLines, Branch.of_lines_append, Branch.of_lines_moved]

end Scenario

end Gamebook
