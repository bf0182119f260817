import Gamebook.Proofs.Wire.Fields

set_option autoImplicit false

namespace Gamebook

open Text.Decimal (wordBound)

def MenuItem.Fits (item : MenuItem) : Prop := item.index < wordBound

def Ending.Fits : Ending → Prop
  | .terminalBranch index => index < wordBound
  | .outOfRange index => Json.InInt64 index
  | .noBranches => True

def Output.Fits : Output → Prop
  | .text _ branch => branch < wordBound
  | .menu items => ∀ item ∈ items, item.Fits
  | .ending reason => reason.Fits

def Diagnostic.Fits (diagnostic : Diagnostic) : Prop :=
  ∀ line ∈ diagnostic.line, line < wordBound

namespace Wire

section Lists

variable {α : Type} [Wire α]

theorem list_reads_back (depth : Nat) (values : List α)
    (each : ∀ value ∈ values, decode? (depth + 1) (encode value) = some value) :
    decodeList? depth (encodeList values) = some values :=
  (Json.map_read _ encode id values each).trans (congrArg some (List.map_id values))

theorem list_read (depth : Nat) (json : Json) (values : List α)
    (read : decodeList? depth json = some values) :
    ∀ value ∈ values, ∃ item, decode? (depth + 1) item = some value := by
  rw [decodeList?, Json.list?.eq_def] at read
  split at read
  · exact Json.items_read _ _ values read
  · cases read

end Lists

theorem choice_reads_back (depth : Nat) (choice : Choice) :
    decode? depth (encode choice) = some choice := by
  have fields : (encode choice).allFields? ["label", "target"] =
      some [some (.text choice.label), some (.integer choice.target.toInt)] :=
    Json.fields_record [_, _] _ (by simp)
  simp only [decode?, fields, Option.bind_eq_bind, Option.bind_some, Json.text_read,
    Json.int32_read]

theorem branch_reads_back (depth : Nat) (branch : Branch) :
    decode? depth (encode branch) = some branch := by
  have fields : (encode branch).allFields? ["description", "options"] =
      some [some (.text branch.description), some (encodeList branch.choices)] :=
    Json.fields_record [_, _] _ (by simp)
  have choices :=
    list_reads_back (depth + 1) branch.choices fun choice _ => choice_reads_back _ choice
  simp only [decode?, fields, Option.bind_eq_bind, Option.bind_some, Json.text_read,
    choices]

theorem scenario_reads_back (depth : Nat) (scenario : Scenario) :
    decode? depth (encode scenario) = some scenario := by
  have fields : (encode scenario).allFields? ["title", "branches"] =
      some [some (.text scenario.title), some (encodeList scenario.branches)] :=
    Json.fields_record [_, _] _ (by simp)
  have branches :=
    list_reads_back (depth + 1) scenario.branches fun branch _ => branch_reads_back _ branch
  simp only [decode?, fields, Option.bind_eq_bind, Option.bind_some, Json.text_read,
    branches]

theorem item_reads_back (depth : Nat) (item : MenuItem) (fits : item.Fits) :
    decode? depth (encode item) = some item := by
  have fields : (encode item).allFields? ["index", "label", "target"] =
      some [some (.natural item.index), some (.text item.label),
        some (.integer item.target.toInt)] :=
    Json.fields_record [_, _, _] _ (by simp)
  simp only [decode?, fields, Option.bind_eq_bind, Option.bind_some, Json.text_read,
    Json.int32_read, Json.word_read item.index fits]

theorem item_fits (depth : Nat) (json : Json) (item : MenuItem)
    (read : decode? depth json = some item) : item.Fits := by
  simp only [decode?, Option.bind_eq_bind, Option.bind_eq_some_iff] at read
  obtain ⟨fields, -, read⟩ := read
  split at read
  · simp only [Option.bind_eq_some_iff, Option.some.injEq] at read
    obtain ⟨index, found, label, -, target, -, rfl⟩ := read
    exact Json.word_small _ index found
  · cases read

theorem ending_reads_back (depth : Nat) (ending : Ending) (fits : ending.Fits)
    (shallow : depth + 1 < Json.nestingLimit) : decode? depth (encode ending) = some ending := by
  cases ending with
  | terminalBranch index =>
    have tagged : (encode (Ending.terminalBranch index)).tagged? depth = some _ :=
      Json.tagged_field depth "terminalBranch" "index" (.natural index) (by decide) shallow
        (Json.natural_sound index fits)
    simp only [decode?, tagged, Json.field_record, Option.bind_eq_bind, Option.bind_some,
      Json.word_read index fits]
  | outOfRange index =>
    have tagged : (encode (Ending.outOfRange index)).tagged? depth = some _ :=
      Json.tagged_field depth "outOfRange" "index" (.integer index) (by decide) shallow
        (Json.integer_sound index fits)
    simp only [decode?, tagged, Json.field_record, Option.bind_eq_bind, Option.bind_some,
      Json.int64_read index fits]
  | noBranches =>
    have tagged : (encode Ending.noBranches).tagged? depth =
        some ("noBranches", Json.record []) :=
      Json.tagged_record [] depth "noBranches" (by simp) shallow rfl
    simp only [decode?, tagged, Option.bind_eq_bind, Option.bind_some]
    rfl

theorem ending_fits (depth : Nat) (json : Json) (ending : Ending)
    (read : decode? depth json = some ending) : ending.Fits := by
  simp only [decode?, Option.bind_eq_bind, Option.bind_eq_some_iff] at read
  obtain ⟨tagged, -, read⟩ := read
  split at read
  · simp only [Option.bind_eq_some_iff] at read
    obtain ⟨fields, -, read⟩ := read
    split at read
    · simp only [Option.bind_eq_some_iff, Option.some.injEq] at read
      obtain ⟨index, found, rfl⟩ := read
      exact Json.word_small _ index found
    · cases read
  · simp only [Option.bind_eq_some_iff] at read
    obtain ⟨fields, -, read⟩ := read
    split at read
    · simp only [Option.bind_eq_some_iff, Option.some.injEq] at read
      obtain ⟨index, found, rfl⟩ := read
      exact Json.int64_within _ index found
    · cases read
  · split at read
    · cases read
      trivial
    · cases read
  · cases read

theorem output_reads_back (depth : Nat) (output : Output) (fits : output.Fits)
    (shallow : depth + 3 < Json.nestingLimit) : decode? depth (encode output) = some output := by
  cases output with
  | text text branch =>
    have fields : (Json.record [("text", .text text), ("branch_index", .natural branch)]).allFields?
        ["text", "branch_index"] = some [some (.text text), some (.natural branch)] :=
      Json.fields_record [_, _] _ (by simp)
    change (Json.allFields? _ (Json.record [("text", .text text), _])).bind _ = _
    simp only [fields, Option.bind_eq_bind, Option.bind_some, Json.text_read,
      Json.word_read branch fits]
  | menu items =>
    have read := list_reads_back (depth + 2) items fun item listed =>
      item_reads_back _ item (fits item listed)
    change (Json.allFields? _ (Json.record [("items", encodeList items)])).bind _ = _
    simp only [Json.field_record, Option.bind_eq_bind, Option.bind_some, read]
  | ending reason =>
    have read := ending_reads_back (depth + 2) reason fits shallow
    change (Json.allFields? _ (Json.record [("reason", encode reason)])).bind _ = _
    simp only [Json.field_record, Option.bind_eq_bind, Option.bind_some, read]

theorem output_fits (depth : Nat) (json : Json) (output : Output)
    (read : decode? depth json = some output) : output.Fits := by
  simp only [decode?] at read
  split at read
  · simp only [Option.bind_eq_bind, Option.bind_eq_some_iff] at read
    obtain ⟨fields, -, read⟩ := read
    split at read
    · simp only [Option.bind_eq_some_iff, Option.some.injEq] at read
      obtain ⟨text, -, branch, found, rfl⟩ := read
      exact Json.word_small _ branch found
    · cases read
  · simp only [Option.bind_eq_bind, Option.bind_eq_some_iff] at read
    obtain ⟨fields, -, read⟩ := read
    split at read
    · simp only [Option.bind_eq_some_iff, Option.some.injEq] at read
      obtain ⟨items, found, rfl⟩ := read
      intro item listed
      obtain ⟨json, here⟩ := list_read _ _ items found item listed
      exact item_fits _ json item here
    · cases read
  · simp only [Option.bind_eq_bind, Option.bind_eq_some_iff] at read
    obtain ⟨fields, -, read⟩ := read
    split at read
    · simp only [Option.bind_eq_some_iff, Option.some.injEq] at read
      obtain ⟨reason, found, rfl⟩ := read
      exact ending_fits _ _ reason (Option.bind_eq_some_iff.mpr found)
    · cases read
  · cases read

theorem kind_of_name (kind : Diagnostic.Kind) : Diagnostic.Kind.ofName? kind.name = some kind := by
  cases kind <;> rfl

theorem kind_reads_back (depth : Nat) (kind : Diagnostic.Kind) :
    decode? depth (encode kind) = some kind := kind_of_name kind

theorem diagnostic_reads_back (depth : Nat) (diagnostic : Diagnostic) (fits : diagnostic.Fits) :
    decode? depth (encode diagnostic) = some diagnostic := by
  obtain ⟨kind, file, line, reason⟩ := diagnostic
  have fields : (encode (Diagnostic.mk kind file line reason)).allFields?
      ["kind", "file", "line", "reason"] =
      some [some (encode kind), some ((file.map Json.text).getD .null),
        some ((line.map Json.natural).getD .null), some (.text reason)] :=
    Json.fields_record [_, _, _, _] _ (by simp)
  have filed : ((file.map Json.text).getD .null).optional? Json.text? = some file := by
    cases file <;> rfl
  have lined : ((line.map Json.natural).getD .null).optional? Json.word? = some line := by
    cases line with
    | none => rfl
    | some line =>
      have read := Json.word_read line (fits line rfl)
      exact congrArg (Option.map some) read
  simp only [decode?, fields, filed, lined, Option.bind_eq_bind, Option.bind_some,
    Option.getD_some, Json.text_read]
  exact congrArg (Option.bind · _) (kind_reads_back (depth + 1) kind)

theorem diagnostic_fits (depth : Nat) (json : Json) (diagnostic : Diagnostic)
    (read : decode? depth json = some diagnostic) : diagnostic.Fits := by
  simp only [decode?, Option.bind_eq_bind, Option.bind_eq_some_iff] at read
  obtain ⟨fields, -, read⟩ := read
  split at read
  · simp only [Option.bind_eq_some_iff, Option.some.injEq] at read
    obtain ⟨kind, -, file, -, line, found, reason, -, rfl⟩ := read
    intro number there
    cases there
    rw [Json.optional?.eq_def] at found
    split at found
    · cases found
    · obtain ⟨line, here, same⟩ := Option.map_eq_some_iff.mp found
      cases same
      exact Json.word_small _ _ here
  · cases read

end Wire

end Gamebook
