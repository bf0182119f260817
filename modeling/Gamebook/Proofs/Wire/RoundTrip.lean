import Gamebook.Proofs.Json.Written
import Gamebook.Proofs.Wire.Forms
import Gamebook.Proofs.TestCase.Forms

set_option autoImplicit false

namespace Gamebook.Wire

def rewrite? (α : Type) [Wire α] (text : String) : Option String :=
  (read? text : Option α).map write

structure RoundTrips (α : Type) [Wire α] (fits : α → Prop) : Prop where
  reads_back : ∀ value : α, fits value → read? (write value) = some value
  apart : ∀ first second : α, fits first → fits second → write first = write second →
    first = second
  bounded : ∀ (text : String) (value : α), read? text = some value → fits value
  idempotent : ∀ text : String, (rewrite? α text).bind (rewrite? α) = rewrite? α text

section Texts

variable {α : Type} [Wire α]

theorem read_write (value : α) : (read? (write value) : Option α) = decode? 0 (encode value) := by
  rw [read?, write, Json.compact, String.toList_ofList, Json.parse_write, Option.bind_some]

theorem round_trips (fits : α → Prop)
    (back : ∀ value, fits value → decode? 0 (encode value) = some value)
    (bounded : ∀ (json : Json) (value : α), decode? 0 json = some value → fits value) :
    RoundTrips α fits := by
  have reads_back (value : α) (small : fits value) : read? (write value) = some value :=
    (read_write value).trans (back value small)
  have small (text : String) (value : α) (read : read? text = some value) : fits value := by
    obtain ⟨json, -, decoded⟩ := Option.bind_eq_some_iff.mp read
    exact bounded json value decoded
  refine ⟨reads_back, ?_, small, ?_⟩
  · intro first second here there same
    have read := reads_back first here
    rw [same, reads_back second there] at read
    exact (Option.some.inj read).symm
  · intro text
    cases read : (read? text : Option α) with
    | none => rw [rewrite?, read, Option.map_none, Option.bind_none]
    | some value =>
      rw [rewrite?, read, Option.map_some, Option.bind_some, rewrite?,
        reads_back value (small text value read), Option.map_some]

end Texts

theorem json_forms_round_trip :
    RoundTrips Scenario (fun _ => True) ∧
    RoundTrips Branch (fun _ => True) ∧
    RoundTrips Choice (fun _ => True) ∧
    RoundTrips MenuItem MenuItem.Fits ∧
    RoundTrips Ending Ending.Fits ∧
    RoundTrips Output Output.Fits ∧
    RoundTrips Diagnostic Diagnostic.Fits ∧
    RoundTrips TestCase TestCase.Fits ∧
    RoundTrips TestCase.Action TestCase.Action.Fits ∧
    RoundTrips TestCase.Event (fun _ => True) := by
  refine ⟨?_, ?_, ?_, ?_, ?_, ?_, ?_, ?_, ?_, ?_⟩
  · exact round_trips _ (fun value _ => scenario_reads_back 0 value) fun _ _ _ => trivial
  · exact round_trips _ (fun value _ => branch_reads_back 0 value) fun _ _ _ => trivial
  · exact round_trips _ (fun value _ => choice_reads_back 0 value) fun _ _ _ => trivial
  · exact round_trips _ (item_reads_back 0) (item_fits 0)
  · exact round_trips _ (fun value fits => ending_reads_back 0 value fits (by decide))
      (ending_fits 0)
  · exact round_trips _ (fun value fits => output_reads_back 0 value fits (by decide))
      (output_fits 0)
  · exact round_trips _ (diagnostic_reads_back 0) (diagnostic_fits 0)
  · exact round_trips _ (fun value fits => test_case_reads_back 0 value fits (by decide))
      (test_case_fits 0)
  · exact round_trips _ (fun value fits => action_reads_back 0 value fits (by decide))
      (action_fits 0)
  · exact round_trips _ (fun value _ => event_reads_back 0 value (by decide)) fun _ _ _ => trivial

end Gamebook.Wire
