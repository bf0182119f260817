import Gamebook.Proofs.Wire.Forms
import Gamebook.TestCase

set_option autoImplicit false

namespace Gamebook

open Text.Decimal (wordBound)

def TestCase.Action.Fits : TestCase.Action → Prop
  | .choose index => index < wordBound

def TestCase.Fits (test : TestCase) : Prop := ∀ action ∈ test.actions, action.Fits

namespace Json

theorem texts_read (values : List String) : (array (values.map text)).list? text? = some values :=
  (map_read text? text id values fun value _ => text_read value).trans
    (congrArg some (List.map_id values))

theorem texts_sound (values : List String) : areSound (values.map text) = true := by
  induction values with
  | nil => rfl
  | cons first rest ih => exact ih

theorem texts_height (values : List String) : heightOfItems (values.map text) = 0 := by
  induction values with
  | nil => rfl
  | cons first rest ih =>
    rw [List.map_cons, heightOfItems, ih]
    rfl

end Json

namespace Wire

theorem action_reads_back (depth : Nat) (action : TestCase.Action) (fits : action.Fits)
    (shallow : depth + 1 < Json.nestingLimit) : decode? depth (encode action) = some action := by
  cases action with
  | choose index =>
    have tagged : (encode (TestCase.Action.choose index)).tagged? depth = some _ :=
      Json.tagged_field depth "choose" "index" (.natural index) (by decide) shallow
        (Json.natural_sound index fits)
    simp only [decode?, tagged, Json.field_record, Option.bind_eq_bind, Option.bind_some,
      Json.word_read index fits]

theorem action_fits (depth : Nat) (json : Json) (action : TestCase.Action)
    (read : decode? depth json = some action) : action.Fits := by
  simp only [decode?, Option.bind_eq_bind, Option.bind_eq_some_iff] at read
  obtain ⟨tagged, -, read⟩ := read
  split at read
  · simp only [Option.bind_eq_some_iff] at read
    obtain ⟨fields, -, read⟩ := read
    split at read
    · simp only [Option.bind_eq_some_iff, Option.some.injEq] at read
      obtain ⟨index, found, rfl⟩ := read
      exact Json.word_small _ index found
    · cases read
  · cases read

theorem event_reads_back (depth : Nat) (event : TestCase.Event)
    (shallow : depth + 2 < Json.nestingLimit) : decode? depth (encode event) = some event := by
  have flat : depth + 1 < Json.nestingLimit := Nat.lt_of_succ_lt shallow
  cases event with
  | text text =>
    have tagged : (encode (TestCase.Event.text text)).tagged? depth = some _ :=
      Json.tagged_field depth "text" "text" (.text text) (by decide) flat rfl
    simp only [decode?, tagged, Json.field_record, Option.bind_eq_bind, Option.bind_some,
      Json.text_read]
  | choices choices =>
    have shallow : depth + (Json.array (choices.map Json.text)).height + 1 < Json.nestingLimit := by
      rw [Json.height, Json.texts_height]
      exact shallow
    have tagged : (encode (TestCase.Event.choices choices)).tagged? depth = some _ :=
      Json.tagged_field depth "choices" "choices" (.array (choices.map .text)) (by decide) shallow
        (Json.texts_sound choices)
    simp only [decode?, tagged, Json.field_record, Option.bind_eq_bind, Option.bind_some,
      Json.texts_read]
  | ending reason =>
    have tagged : (encode (TestCase.Event.ending reason)).tagged? depth = some _ :=
      Json.tagged_field depth "end" "reason" (.text reason) (by decide) flat rfl
    simp only [decode?, tagged, Json.field_record, Option.bind_eq_bind, Option.bind_some,
      Json.text_read]

theorem test_case_reads_back (depth : Nat) (test : TestCase) (fits : test.Fits)
    (shallow : depth + 4 < Json.nestingLimit) : decode? depth (encode test) = some test := by
  have fields : (encode test).fields? testCaseFields 1 =
      some [some (.text test.schemaVersion), some (.text test.scenarioFile),
        some (encodeList test.actions), some (encodeList test.expectedEvents),
        some (encodeList test.expectedDiagnostics)] :=
    Json.fields_record [_, _, _, _, _] _ (by simp)
  have actions := list_reads_back (depth + 1) test.actions fun action listed =>
    action_reads_back _ action (fits action listed) (Nat.lt_of_succ_lt shallow)
  have events := list_reads_back (depth + 1) test.expectedEvents fun event _ =>
    event_reads_back _ event shallow
  have kinds := list_reads_back (depth + 1) test.expectedDiagnostics fun kind _ =>
    kind_reads_back _ kind
  simp only [decode?, fields, fieldOr?, Option.bind_eq_bind, Option.bind_some, Json.text_read,
    actions, events, kinds]

theorem test_case_fits (depth : Nat) (json : Json) (test : TestCase)
    (read : decode? depth json = some test) : test.Fits := by
  simp only [decode?, Option.bind_eq_bind, Option.bind_eq_some_iff] at read
  obtain ⟨fields, -, read⟩ := read
  split at read
  · simp only [Option.bind_eq_some_iff, Option.some.injEq] at read
    obtain ⟨version, -, file, -, actions, found, events, -, kinds, -, rfl⟩ := read
    rw [fieldOr?.eq_def] at found
    split at found
    · cases found
      intro action listed
      cases listed
    · intro action listed
      obtain ⟨json, here⟩ := list_read _ _ actions found action listed
      exact action_fits _ json action here
  · cases read

end Wire

end Gamebook
