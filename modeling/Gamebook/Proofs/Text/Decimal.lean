import Gamebook.Text.Decimal
import Gamebook.Scenario.Printer

set_option autoImplicit false

namespace Gamebook.Text.Decimal

def InNumber (c : Char) : Prop := c = '+' ∨ c = '-' ∨ c.isDigit = true

instance (c : Char) : Decidable (InNumber c) :=
  inferInstanceAs (Decidable (c = '+' ∨ c = '-' ∨ c.isDigit = true))

-- One or more digits, with a sign in front of them or none.
inductive Spells : List Char → Int → Prop where
  | bare (digits : List Char) (full : digits ≠ []) (plain : ∀ c ∈ digits, '0' ≤ c ∧ c ≤ '9') :
      Spells digits (Nat.ofDigitChars 10 digits 0)
  | plus (digits : List Char) (full : digits ≠ []) (plain : ∀ c ∈ digits, '0' ≤ c ∧ c ≤ '9') :
      Spells ('+' :: digits) (Nat.ofDigitChars 10 digits 0)
  | minus (digits : List Char) (full : digits ≠ []) (plain : ∀ c ∈ digits, '0' ≤ c ∧ c ≤ '9') :
      Spells ('-' :: digits) (-(Nat.ofDigitChars 10 digits 0 : Int))

theorem digit_bounds (c : Char) : c.isDigit = true ↔ '0' ≤ c ∧ c ≤ '9' := by
  simp only [Char.isDigit, Bool.and_eq_true, decide_eq_true_eq]
  rfl

theorem natural_spells (text : List Char) (value : Nat) :
    natural? text = some value ↔
      text ≠ [] ∧ (∀ c ∈ text, '0' ≤ c ∧ c ≤ '9') ∧ Nat.ofDigitChars 10 text 0 = value := by
  have digits : text.all Char.isDigit = true ↔ ∀ c ∈ text, '0' ≤ c ∧ c ≤ '9' := by
    simp only [List.all_eq_true, digit_bounds]
  rw [natural?, ← and_assoc, ← digits]
  by_cases spelled : text ≠ [] ∧ text.all Char.isDigit = true
  · rw [if_pos spelled, Option.some_inj]
    exact (and_iff_right spelled).symm
  · rw [if_neg spelled]
    exact iff_of_false (Option.some_ne_none _).symm fun both => spelled both.1

theorem integer_spells (text : List Char) (value : Int) :
    integer? text = some value ↔ Spells text value := by
  constructor
  · intro read
    rw [integer?.eq_def] at read
    split at read
    · rename_i digits
      cases found : natural? digits with
      | none =>
        rw [found] at read
        cases read
      | some natural =>
        rw [found] at read
        cases read
        obtain ⟨full, plain, rfl⟩ := (natural_spells digits natural).mp found
        exact .minus digits full plain
    · rename_i digits
      obtain ⟨natural, found, rfl⟩ := Option.map_eq_some_iff.mp read
      obtain ⟨full, plain, rfl⟩ := (natural_spells digits natural).mp found
      exact .plus digits full plain
    · obtain ⟨natural, found, rfl⟩ := Option.map_eq_some_iff.mp read
      obtain ⟨full, plain, rfl⟩ := (natural_spells text natural).mp found
      exact .bare text full plain
  · intro spelled
    cases spelled with
    | bare _ full plain =>
      have read := (natural_spells text _).mpr ⟨full, plain, rfl⟩
      rw [integer?]
      · rw [read]
        rfl
      · rintro digits rfl
        exact absurd (plain '-' List.mem_cons_self) (by decide)
      · rintro digits rfl
        exact absurd (plain '+' List.mem_cons_self) (by decide)
    | plus digits full plain =>
      rw [integer?, (natural_spells digits _).mpr ⟨full, plain, rfl⟩]
      rfl
    | minus digits full plain =>
      rw [integer?, (natural_spells digits _).mpr ⟨full, plain, rfl⟩]
      rfl

-- What a spelling comes to must fit 32 bits; that of a machine word does.
theorem int32_spells (text : List Char) (value : Int32) :
    int32? text = some value ↔ Spells text value.toInt := by
  rw [← integer_spells, int32?]
  constructor
  · intro read
    split at read
    · rename_i number found
      split at read
      · rename_i within
        cases read
        have bounded := within.2
        rw [Int32.toInt_maxValue] at bounded
        rw [found, Int32.toInt_ofInt_of_le within.1 (Int.lt_of_le_sub_one bounded)]
      · cases read
    · cases read
  · intro found
    rw [found]
    simp only [value.minValue_le_toInt, value.toInt_le, and_self, if_true, Int32.ofInt_toInt]

theorem natural_chars (text : List Char) (value : Nat) (read : natural? text = some value) :
    text ≠ [] ∧ ∀ c ∈ text, c.isDigit = true := by
  rw [natural?] at read
  by_cases digits : text ≠ [] ∧ text.all Char.isDigit = true
  · exact ⟨digits.1, List.all_eq_true.mp digits.2⟩
  · rw [if_neg digits] at read
    cases read

theorem signed_chars (sign : Char) (digits : List Char) (value : Nat) (signs : InNumber sign)
    (read : natural? digits = some value) :
    sign :: digits ≠ [] ∧ ∀ c ∈ sign :: digits, InNumber c := by
  refine ⟨List.cons_ne_nil sign digits, ?_⟩
  intro c member
  rcases List.mem_cons.mp member with same | later
  · exact same ▸ signs
  · exact .inr (.inr ((natural_chars digits value read).2 c later))

theorem integer_chars (text : List Char) (value : Int) (read : integer? text = some value) :
    text ≠ [] ∧ ∀ c ∈ text, InNumber c := by
  rw [integer?.eq_def] at read
  split at read
  · rename_i digits
    cases found : natural? digits with
    | none =>
      rw [found] at read
      cases read
    | some natural => exact signed_chars '-' digits natural (.inr (.inl rfl)) found
  · rename_i digits
    obtain ⟨natural, found, _⟩ := Option.map_eq_some_iff.mp read
    exact signed_chars '+' digits natural (.inl rfl) found
  · obtain ⟨natural, found, _⟩ := Option.map_eq_some_iff.mp read
    have digits := natural_chars text natural found
    exact ⟨digits.1, fun c member => .inr (.inr (digits.2 c member))⟩

theorem int32_chars (text : List Char) (value : Int32) (read : int32? text = some value) :
    text ≠ [] ∧ ∀ c ∈ text, InNumber c := by
  rw [int32?] at read
  cases found : integer? text with
  | none =>
    rw [found] at read
    cases read
  | some number => exact integer_chars text number found

theorem int32_lacks (text : List Char) (value : Int32) (read : int32? text = some value) (c : Char)
    (foreign : ¬ InNumber c) : c ∉ text :=
  fun member => foreign ((int32_chars text value read).2 c member)

theorem natural_digits (value : Nat) : natural? (Nat.toDigits 10 value) = some value := by
  have digits : (Nat.toDigits 10 value).all Char.isDigit = true :=
    List.all_eq_true.mpr fun _ member => Nat.isDigit_of_mem_toDigits (by decide) (by decide) member
  rw [natural?, if_pos ⟨Nat.toDigits_ne_nil, digits⟩, Nat.ofDigitChars_ten_toDigits]

theorem integer_digits (value : Nat) : integer? (Nat.toDigits 10 value) = some (value : Int) := by
  have unsigned : ∀ sign digits, Nat.toDigits 10 value = sign :: digits → sign.isDigit = true := by
    intro sign digits same
    have member : sign ∈ Nat.toDigits 10 value := by
      rw [same]
      exact List.mem_cons_self
    exact Nat.isDigit_of_mem_toDigits (by decide) (by decide) member
  rw [integer?]
  · rw [natural_digits]
    rfl
  · intro digits same
    exact absurd (unsigned '-' digits same) (by decide)
  · intro digits same
    exact absurd (unsigned '+' digits same) (by decide)

theorem integer_target (target : Int32) : integer? (targetText target) = some target.toInt := by
  rw [targetText]
  cases target.toInt with
  | ofNat value => exact integer_digits value
  | negSucc value =>
    simp only [integer?, natural_digits]
    rfl

theorem int32_target (target : Int32) : int32? (targetText target) = some target := by
  rw [int32?, integer_target]
  simp only [target.minValue_le_toInt, target.toInt_le, and_self, if_true, Int32.ofInt_toInt]

end Gamebook.Text.Decimal
