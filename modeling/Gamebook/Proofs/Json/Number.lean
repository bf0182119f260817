import Gamebook.Json.Reader
import Gamebook.Json.Writer

set_option autoImplicit false

namespace Gamebook.Json

def inNumber (c : Char) : Bool := c.isDigit || c = '.' || c = 'e' || c = 'E'

def Apart (rest : List Char) : Prop := ∀ c, rest.head? = some c → inNumber c = false

theorem apart_nil : Apart [] := by
  intro c first
  cases first

theorem apart_cons (c : Char) (rest : List Char) (foreign : inNumber c = false) :
    Apart (c :: rest) := by
  intro first same
  cases same
  exact foreign

theorem digits_chars (value : Nat) : ∀ c ∈ Nat.toDigits 10 value, c.isDigit = true :=
  fun _ member => Nat.isDigit_of_mem_toDigits (by decide) (by decide) member

theorem digits_read (value : Nat) (rest : List Char)
    (stop : ∀ c, rest.head? = some c → c.isDigit = false) :
    digits? (Nat.toDigits 10 value ++ rest) = some (Nat.toDigits 10 value, rest) := by
  have taken : rest.takeWhile Char.isDigit = [] ∧ rest.dropWhile Char.isDigit = rest := by
    cases rest with
    | nil => exact ⟨rfl, rfl⟩
    | cons c later => simp [stop c rfl]
  have chars := digits_chars value
  rw [digits?, List.takeWhile_append_of_pos chars, List.dropWhile_append_of_pos chars, taken.1,
    taken.2, List.append_nil]
  split
  · rename_i none
    exact absurd none Nat.toDigits_ne_nil
  · rfl

-- Only zero begins with a zero.
theorem digits_lead (value : Nat) (first : Char) (others : List Char)
    (written : Nat.toDigits 10 value = first :: others) (zero : first = '0') : others = [] := by
  induction value using Nat.strongRecOn generalizing first others with
  | ind value ih =>
    by_cases small : value < 10
    · rw [Nat.toDigits_of_lt_base small] at written
      exact (List.cons.inj written).2.symm
    · rw [Nat.toDigits_of_base_le (by decide) (Nat.le_of_not_lt small)] at written
      obtain ⟨lead, more, parted⟩ :=
        List.exists_cons_of_ne_nil (Nat.toDigits_ne_nil (n := value / 10) (b := 10))
      rw [parted, List.cons_append] at written
      obtain ⟨rfl, rfl⟩ := List.cons.inj written
      obtain rfl := ih (value / 10) (by omega) lead more parted zero
      have tenth := congrArg (fun digits => Nat.ofDigitChars 10 digits 0) parted
      rw [Nat.ofDigitChars_ten_toDigits, zero] at tenth
      have none : value / 10 = 0 := tenth
      omega

theorem whole_read (value : Nat) (rest : List Char)
    (stop : ∀ c, rest.head? = some c → c.isDigit = false) :
    whole? (Nat.toDigits 10 value ++ rest) = some (Nat.toDigits 10 value, rest) := by
  rw [whole?, digits_read value rest stop]
  split
  · rename_i second others found
    have written := congrArg Prod.fst (Option.some.inj found)
    have alone := digits_lead value '0' _ written rfl
    cases alone
  · rfl

theorem digits_start (value : Nat) :
    ∃ first others, Nat.toDigits 10 value = first :: others ∧ first.isDigit = true := by
  obtain ⟨first, others, written⟩ :=
    List.exists_cons_of_ne_nil (Nat.toDigits_ne_nil (n := value) (b := 10))
  refine ⟨first, others, written, digits_chars value first ?_⟩
  rw [written]
  exact List.mem_cons_self

theorem fraction_absent (rest : List Char) (other : rest.head? ≠ some '.') :
    fraction? rest = some ([], rest) := by
  rw [fraction?]
  intro later same
  rw [same] at other
  exact other rfl

theorem exponent_absent (rest : List Char) (apart : Apart rest) :
    exponent? rest = some (none, rest) := by
  cases rest with
  | nil => rfl
  | cons c later =>
    have other : ¬ (c = 'e' ∨ c = 'E') := by
      rintro (rfl | rfl)
      · exact absurd (apart 'e' rfl) (by decide)
      · exact absurd (apart 'E' rfl) (by decide)
    rw [exponent?.eq_def]
    exact if_neg other

theorem apart_digit (rest : List Char) (apart : Apart rest) (c : Char)
    (first : rest.head? = some c) : c.isDigit = false := by
  have foreign := apart c first
  simp only [inNumber, Bool.or_eq_false_iff] at foreign
  exact foreign.1.1.1

theorem exponent_of (negative : Bool) (value : Nat) (rest : List Char) (apart : Apart rest) :
    exponentOf negative (Nat.toDigits 10 value ++ rest) =
      some (some (if negative then -(value : Int) else value), rest) := by
  rw [exponentOf, digits_read value rest (apart_digit rest apart)]
  simp only [Option.map_some, Nat.ofDigitChars_ten_toDigits]

theorem exponent_read (exponent : Int) (rest : List Char) (apart : Apart rest) :
    exponent? ('e' :: (digits exponent ++ rest)) = some (some exponent, rest) := by
  cases exponent with
  | ofNat value =>
    obtain ⟨first, others, written, digit⟩ := digits_start value
    have read := exponent_of false value rest apart
    rw [written, List.cons_append] at read
    rw [digits, written, List.cons_append, exponent?, if_pos (.inl rfl), read]
    · rfl
    · intro later same
      cases same
      exact absurd digit (by decide)
    · intro later same
      cases same
      exact absurd digit (by decide)
  | negSucc value =>
    rw [digits, List.cons_append, exponent?, if_pos (.inl rfl)]
    exact exponent_of true (value + 1) rest apart

theorem unsigned_integer (negative : Bool) (value : Nat) (rest : List Char) (apart : Apart rest) :
    unsigned? negative (Nat.toDigits 10 value ++ rest) =
      some (numberOf negative (Nat.toDigits 10 value) [] none, rest) := by
  have point : rest.head? ≠ some '.' := fun first => absurd (apart '.' first) (by decide)
  rw [unsigned?, whole_read value rest (apart_digit rest apart)]
  simp only [Option.bind_eq_bind, Option.bind_some, fraction_absent rest point,
    exponent_absent rest apart]

theorem unsigned_decimal (negative : Bool) (value : Nat) (exponent : Int) (rest : List Char)
    (apart : Apart rest) :
    unsigned? negative (Nat.toDigits 10 value ++ 'e' :: (digits exponent ++ rest)) =
      some (.decimal negative value exponent, rest) := by
  have stop : ∀ c, ('e' :: (digits exponent ++ rest)).head? = some c → c.isDigit = false := by
    intro c first
    cases first
    decide
  rw [unsigned?, whole_read value _ stop]
  simp only [Option.bind_eq_bind, Option.bind_some, fraction_absent ('e' :: _) (by simp),
    exponent_read exponent rest apart, numberOf, List.append_nil, Nat.ofDigitChars_ten_toDigits]
  simp

theorem number_unsigned (value : Nat) (rest : List Char) :
    number? (Nat.toDigits 10 value ++ rest) = unsigned? false (Nat.toDigits 10 value ++ rest) := by
  obtain ⟨first, others, written, digit⟩ := digits_start value
  rw [written, List.cons_append, number?]
  intro later same
  cases same
  exact absurd digit (by decide)

theorem number_read (number : JsonNumber) (rest : List Char) (apart : Apart rest) :
    number? (writeNumber number ++ rest) = some (number, rest) := by
  cases number with
  | integer value =>
    cases value with
    | ofNat value =>
      rw [writeNumber, digits, number_unsigned, unsigned_integer false value rest apart, numberOf]
      simp [Nat.ofDigitChars_ten_toDigits]
    | negSucc value =>
      have sized : numberOf true (Nat.toDigits 10 (value + 1)) [] none =
          .integer (.negSucc value) := by
        rw [numberOf, List.append_nil, Nat.ofDigitChars_ten_toDigits,
          if_pos ⟨rfl, rfl, fun zero => Nat.succ_ne_zero value zero.2⟩]
        rfl
      rw [writeNumber, digits, List.cons_append, number?,
        unsigned_integer true (value + 1) rest apart, sized]
  | decimal negative value exponent =>
    have read := unsigned_decimal negative value exponent rest apart
    cases negative with
    | false =>
      rw [writeNumber]
      simp only [Bool.false_eq_true, if_false, List.nil_append, List.append_assoc, List.cons_append]
      rw [number_unsigned, read]
    | true =>
      rw [writeNumber]
      simp only [if_true, List.cons_append, List.nil_append, List.append_assoc]
      rw [number?, read]

end Gamebook.Json
