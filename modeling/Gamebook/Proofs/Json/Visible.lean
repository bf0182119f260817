import Gamebook.Json.Writer
import Gamebook.Proofs.Text.Lines
import Mathlib.Tactic.SplitIfs

set_option autoImplicit false

namespace Gamebook.Json

def Visible (text : List Char) : Prop := ∀ c ∈ text, 0x20 ≤ c.toNat

@[simp]
theorem visible_nil : Visible [] := List.forall_mem_nil _

@[simp]
theorem visible_cons (head : Char) (rest : List Char) :
    Visible (head :: rest) ↔ 0x20 ≤ head.toNat ∧ Visible rest := List.forall_mem_cons

@[simp]
theorem visible_append (first second : List Char) :
    Visible (first ++ second) ↔ Visible first ∧ Visible second := List.forall_mem_append

theorem visible_one_line (text : List Char) (visible : Visible text) : Text.OneLine text := by
  constructor
  · intro feed
    exact absurd (visible '\n' feed) (by decide)
  · intro carriage
    exact absurd (visible '\r' carriage) (by decide)

theorem hex_digit_visible (value : Nat) (small : value < 16) : 0x20 ≤ (hexDigit value).toNat := by
  have all : ∀ digit : Fin 16, 0x20 ≤ (hexDigit digit).toNat := by decide
  exact all ⟨value, small⟩

theorem letter_visible (letter : Char) (visible : 0x20 ≤ letter.toNat) :
    Visible ['\\', letter] := by
  simpa using visible

theorem escape_visible (c : Char) : Visible (escape c) := by
  rw [escape]
  split_ifs with _ _ _ _ _ _ _ low
  any_goals exact letter_visible _ (by decide)
  · have high := hex_digit_visible (c.toNat / 16) (by omega)
    have last := hex_digit_visible (c.toNat % 16) (by omega)
    simpa using ⟨high, last⟩
  · intro written member
    rw [List.mem_singleton.mp member]
    exact Nat.le_of_not_lt low

theorem quote_visible (text : List Char) : Visible (quote text) := by
  have body : Visible (text.flatMap escape) := by
    intro written member
    obtain ⟨c, _, escaped⟩ := List.mem_flatMap.mp member
    exact escape_visible c written escaped
  simp [quote, body]

theorem quoted_one_line (text : String) : Text.OneLine (quoted text).toList := by
  rw [quoted, String.toList_ofList]
  exact visible_one_line _ (quote_visible text.toList)

theorem digits_visible (value : Int) : Visible (digits value) := by
  have plain (number : Nat) : Visible (Nat.toDigits 10 number) := by
    intro digit member
    have within := Nat.isDigit_of_mem_toDigits (by decide) (by decide) member
    simp only [Char.isDigit, Bool.and_eq_true, decide_eq_true_eq] at within
    exact Nat.le_trans (by decide) (UInt32.le_iff_toNat_le.mp within.1)
  cases value with
  | ofNat number => exact plain number
  | negSucc number => exact (visible_cons '-' _).mpr ⟨by decide, plain (number + 1)⟩

theorem number_visible (number : JsonNumber) : Visible (writeNumber number) := by
  cases number with
  | integer value => exact digits_visible value
  | decimal negative value exponent =>
    have whole := digits_visible value
    have power := digits_visible exponent
    cases negative <;> simp_all [writeNumber, digits]

theorem string_visible (value : Option String) : Visible (writeString value) := by
  cases value with
  | none => simp [writeString]
  | some text => exact quote_visible text.toList

mutual

theorem write_visible (value : Json) : Visible (write value) := by
  match value with
  | .null => simp [write]
  | .bool value => cases value <;> simp [write, writeWord]
  | .number value => exact number_visible value
  | .string value => exact string_visible value
  | .array [] => simp [write]
  | .array (first :: rest) => simpa [write] using ⟨write_visible first, items_visible rest⟩
  | .object [] => simp [write]
  | .object ((name, first) :: rest) =>
    simpa [write] using ⟨string_visible name, write_visible first, members_visible rest⟩
termination_by sizeOf value

theorem items_visible (items : List Json) : Visible (writeItems items) := by
  match items with
  | [] => simp [writeItems]
  | first :: rest => simpa [writeItems] using ⟨write_visible first, items_visible rest⟩
termination_by sizeOf items

theorem members_visible (members : List (Option String × Json)) :
    Visible (writeMembers members) := by
  match members with
  | [] => simp [writeMembers]
  | (name, first) :: rest =>
    simpa [writeMembers] using ⟨string_visible name, write_visible first, members_visible rest⟩
termination_by sizeOf members

end

theorem compact_one_line (value : Json) : Text.OneLine value.compact.toList := by
  rw [compact, String.toList_ofList]
  exact visible_one_line _ (write_visible value)

end Gamebook.Json
