import Gamebook.Boundary.Lines

set_option autoImplicit false

namespace Gamebook

theorem before_mark (mark : Char) (front rest : List Char) (plain : mark ∉ front) :
    (front ++ mark :: rest).takeWhile (· ≠ mark) = front := by
  rw [List.takeWhile_append_of_pos]
  · simp
  · intro c member
    simpa using fun same : c = mark => plain (same ▸ member)

def lineKind (line : String) : List Char := line.toList.takeWhile (· ≠ ':')

theorem kind_of_line (kind : List Char) (rest : String) (plain : ':' ∉ kind) (line : String)
    (written : line.toList = kind ++ ':' :: rest.toList) : lineKind line = kind := by
  rw [lineKind, written, before_mark ':' kind rest.toList plain]

theorem halt_line_kind (halt : Halt) : lineKind halt.line = "EVENT".toList := by
  cases halt <;> decide +kernel

theorem text_line_kind (text : String) : lineKind ("TEXT_JSON:" ++ text) = "TEXT_JSON".toList :=
  kind_of_line _ text (by decide) _ (by simp)

theorem choice_line_kind (number : Nat) (text : String) :
    lineKind ("CHOICE:" ++ toString number ++ "|" ++ text) = "CHOICE".toList :=
  kind_of_line _ (toString number ++ "|" ++ text) (by decide) _ (by simp)

theorem reason_line_kind (code : String) : lineKind ("END_REASON:" ++ code) = "END_REASON".toList :=
  kind_of_line _ code (by decide) _ (by simp)

theorem trail_line_kind (trail : List Nat) : lineKind (trailLine trail) = "TRAIL".toList :=
  kind_of_line _ (",".intercalate (trail.map fun index => toString index)) (by decide) _
    (by simp [trailLine])

theorem boundary_line (boundary : Boundary) (trail : List Nat) (line : String) :
    line ∈ boundary.lines trail ↔
      line = okLine ∨ line = boundary.halt.line ∨
        (∃ text ∈ boundary.texts, line = "TEXT_JSON:" ++ Json.quoted text) ∨
        (∃ index label, (index, label) ∈ boundary.choices ∧ line = choiceLine index label) ∨
        (∃ reason, boundary.ending = some reason ∧ line = "END_REASON:" ++ reason.code) ∨
        line = trailLine trail := by
  simp only [Boundary.lines, List.mem_append, List.mem_cons, List.mem_map, List.not_mem_nil,
    Option.mem_toList, Option.map_eq_some_iff, Prod.exists, or_false, or_assoc]
  simp only [eq_comm]

def boundaryKinds : List (List Char) :=
  ["EVENT".toList, "TEXT_JSON".toList, "CHOICE".toList, "END_REASON".toList, "TRAIL".toList]

theorem boundary_line_kind (boundary : Boundary) (trail : List Nat) (line : String)
    (printed : line ∈ boundary.lines trail) : line = okLine ∨ lineKind line ∈ boundaryKinds := by
  rcases (boundary_line boundary trail line).mp printed with rfl | rfl | ⟨text, _, rfl⟩ |
    ⟨index, label, _, rfl⟩ | ⟨reason, _, rfl⟩ | rfl
  · exact .inl rfl
  · exact .inr (by rw [halt_line_kind]; decide)
  · exact .inr (by rw [text_line_kind]; decide)
  · exact .inr (by rw [choiceLine, choice_line_kind]; decide)
  · exact .inr (by rw [reason_line_kind]; decide)
  · exact .inr (by rw [trail_line_kind]; decide)

theorem foreign_kind_apart (boundary : Boundary) (trail : List Nat) (line : String)
    (foreign : lineKind line ∉ lineKind okLine :: boundaryKinds) : line ∉ boundary.lines trail := by
  intro printed
  rcases boundary_line_kind boundary trail line printed with rfl | listed
  · exact foreign List.mem_cons_self
  · exact foreign (List.mem_cons_of_mem _ listed)

theorem choice_line_listed (boundary : Boundary) (trail : List Nat) (number : Nat) (text : String) :
    "CHOICE:" ++ toString number ++ "|" ++ text ∈ boundary.lines trail ↔
      ∃ index label, (index, label) ∈ boundary.choices ∧
        "CHOICE:" ++ toString number ++ "|" ++ text = choiceLine index label := by
  rw [boundary_line]
  constructor
  · have kind := choice_line_kind number text
    rintro (same | same | ⟨text, _, same⟩ | found | ⟨reason, _, same⟩ | same)
    · rw [same] at kind
      exact absurd kind (by decide +kernel)
    · rw [same, halt_line_kind] at kind
      exact absurd kind (by decide)
    · rw [same, text_line_kind] at kind
      exact absurd kind (by decide)
    · exact found
    · rw [same, reason_line_kind] at kind
      exact absurd kind (by decide)
    · rw [same, trail_line_kind] at kind
      exact absurd kind (by decide)
  · intro found
    exact .inr (.inr (.inr (.inl found)))

theorem number_chars (number : Nat) : (toString number).toList = Nat.toDigits 10 number := by
  rw [Nat.toString_eq_repr, Nat.toList_repr]

theorem digits_injective (number other : Nat)
    (same : Nat.toDigits 10 number = Nat.toDigits 10 other) : number = other := by
  rw [← Nat.ofDigitChars_ten_toDigits (n := number), same, Nat.ofDigitChars_ten_toDigits]

theorem digits_lack (number : Nat) (mark : Char) (foreign : mark.isDigit = false) :
    mark ∉ Nat.toDigits 10 number := by
  intro member
  have digit := Nat.isDigit_of_mem_toDigits (by decide) (by decide) member
  rw [foreign] at digit
  cases digit

theorem number_ended (number other : Nat) (mark : Char) (foreign : mark.isDigit = false)
    (rest later : List Char)
    (same : Nat.toDigits 10 number ++ mark :: rest = Nat.toDigits 10 other ++ mark :: later) :
    number = other ∧ rest = later := by
  have digits := congrArg (List.takeWhile (· ≠ mark)) same
  rw [before_mark mark _ _ (digits_lack number mark foreign),
    before_mark mark _ _ (digits_lack other mark foreign)] at digits
  refine ⟨digits_injective number other digits, ?_⟩
  rw [digits] at same
  exact (List.cons.inj (List.append_cancel_left same)).2

theorem choice_line_number (number other : Nat) (text rest : String)
    (same : "CHOICE:" ++ toString number ++ "|" ++ text =
      "CHOICE:" ++ toString other ++ "|" ++ rest) : number = other := by
  have chars : Nat.toDigits 10 number ++ '|' :: text.toList =
      Nat.toDigits 10 other ++ '|' :: rest.toList := by
    simpa [number_chars] using congrArg String.toList same
  exact (number_ended number other '|' (by decide) _ _ chars).1

theorem choice_line_offers (boundary : Boundary) (trail : List Nat) (number : Nat) :
    (∃ text, "CHOICE:" ++ toString number ++ "|" ++ text ∈ boundary.lines trail) ↔
      ∃ index label, (index, label) ∈ boundary.choices ∧ number = index + 1 := by
  constructor
  · rintro ⟨text, printed⟩
    obtain ⟨index, label, listed, same⟩ :=
      (choice_line_listed boundary trail number text).mp printed
    exact ⟨index, label, listed, choice_line_number number (index + 1) text _ same⟩
  · rintro ⟨index, label, listed, rfl⟩
    exact ⟨Json.quoted label,
      (choice_line_listed boundary trail _ _).mpr ⟨index, label, listed, rfl⟩⟩

end Gamebook
