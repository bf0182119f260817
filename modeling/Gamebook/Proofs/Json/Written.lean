import Gamebook.Proofs.Json.Number
import Gamebook.Proofs.Json.Quoted

set_option autoImplicit false

namespace Gamebook.Json

section Reading

variable (fuel : Nat) (rest : List Char)

theorem value_word (value : Bool) :
    value? (fuel + 1) (writeWord value ++ rest) = some (.bool value, rest) := by
  cases value with
  | true =>
    rw [writeWord, value?, List.cons_append, skip_space_none _ 't' (by decide)]
    rfl
  | false =>
    rw [writeWord, value?, List.cons_append, skip_space_none _ 'f' (by decide)]
    rfl

theorem value_string : value? (fuel + 1) ('"' :: rest) =
    (unquote? rest).map fun (value, rest) => (.string value, rest) := by
  rw [value?, skip_space_none _ '"' (by decide)]
  rfl

-- The characters a number begins with begin nothing else.
def startsNumber (c : Char) : Bool := c = '-' || c.isDigit

theorem starts_apart (c other : Char) (starts : startsNumber c = true)
    (foreign : startsNumber other = false) : c ≠ other := by
  rintro rfl
  cases starts.symm.trans foreign

theorem starts_solid (c : Char) (starts : startsNumber c = true) : isSpace c = false := by
  have apart := starts_apart c
  simp [isSpace, apart ' ' starts (by decide), apart '\t' starts (by decide),
    apart '\n' starts (by decide), apart '\r' starts (by decide)]

theorem value_number (c : Char) (starts : startsNumber c = true) :
    value? (fuel + 1) (c :: rest) =
      (number? (c :: rest)).map fun (value, rest) => (.number value, rest) := by
  have other : ∀ d, startsNumber d = false → c ≠ d := fun d => starts_apart c d starts
  rw [value?, skip_space_none _ c (starts_solid c starts)]
  split
  · rename_i same
    exact absurd (List.cons.inj same).1 (other 'n' (by decide))
  · rename_i same
    exact absurd (List.cons.inj same).1 (other 't' (by decide))
  · rename_i same
    exact absurd (List.cons.inj same).1 (other 'f' (by decide))
  · rename_i same
    exact absurd (List.cons.inj same).1 (other '"' (by decide))
  · rename_i same
    exact absurd (List.cons.inj same).1 (other '[' (by decide))
  · rename_i same
    exact absurd (List.cons.inj same).1 (other '\x7b' (by decide))
  · rfl

theorem value_array_empty : value? (fuel + 1) ('[' :: ']' :: rest) = some (.array [], rest) := by
  rw [value?, skip_space_none _ '[' (by decide)]
  rfl

theorem value_object_empty :
    value? (fuel + 1) ('\x7b' :: '\x7d' :: rest) = some (.object [], rest) := by
  rw [value?, skip_space_none _ '\x7b' (by decide)]
  rfl

theorem value_array (c : Char) (solid : isSpace c = false) (open' : c ≠ ']') :
    value? (fuel + 1) ('[' :: c :: rest) =
      (items? fuel (c :: rest)).map fun (items, rest) => (.array items, rest) := by
  rw [value?, skip_space_none _ '[' (by decide)]
  simp only [skip_space_none rest c solid]
  split
  · rename_i same
    exact absurd (List.cons.inj same).1 open'
  · rfl

theorem value_object : value? (fuel + 1) ('\x7b' :: '"' :: rest) =
    (members? fuel ('"' :: rest)).map fun (members, rest) => (.object members, rest) := by
  rw [value?, skip_space_none _ '\x7b' (by decide)]
  rfl

theorem items_last (text : List Char) (value : Json)
    (read : value? fuel text = some (value, ']' :: rest)) :
    items? (fuel + 1) text = some ([value], rest) := by
  simp only [items?, read, skip_space_none rest ']' (by decide)]

theorem items_next (text : List Char) (value : Json)
    (read : value? fuel text = some (value, ',' :: rest)) :
    items? (fuel + 1) text =
      (items? fuel rest).map fun (others, rest) => (value :: others, rest) := by
  simp only [items?, read, skip_space_none rest ',' (by decide)]

section Members

variable (body text : List Char) (name : Option String) (value : Json)
  (named : unquote? body = some (name, ':' :: text))

include named

theorem members_last (read : value? fuel text = some (value, '\x7d' :: rest)) :
    members? (fuel + 1) ('"' :: body) = some ([(name, value)], rest) := by
  simp only [members?, skip_space_none _ '"' (by decide), named, skip_space_none _ ':' (by decide),
    read, skip_space_none _ '\x7d' (by decide)]

theorem members_next (read : value? fuel text = some (value, ',' :: rest)) :
    members? (fuel + 1) ('"' :: body) =
      (members? fuel rest).map fun (others, rest) => ((name, value) :: others, rest) := by
  simp only [members?, skip_space_none _ '"' (by decide), named, skip_space_none _ ':' (by decide),
    read, skip_space_none _ ',' (by decide)]

end Members

end Reading

def itemsText : List Json → List Char
  | [] => [']']
  | first :: rest => write first ++ writeItems rest

def membersText : List (Option String × Json) → List Char
  | [] => ['\x7d']
  | (name, first) :: rest => writeString name ++ ':' :: write first ++ writeMembers rest

theorem items_text_next (first : Json) (rest : List Json) :
    writeItems (first :: rest) = ',' :: itemsText (first :: rest) := by
  rw [writeItems, itemsText]
  rfl

theorem members_text_next (first : Option String × Json) (rest : List (Option String × Json)) :
    writeMembers (first :: rest) = ',' :: membersText (first :: rest) := by
  rw [writeMembers, membersText]
  rfl

theorem number_start (number : JsonNumber) :
    ∃ c rest, writeNumber number = c :: rest ∧ startsNumber c = true := by
  have unsigned : ∀ value more, ∃ c rest, Nat.toDigits 10 value ++ more = c :: rest ∧
      startsNumber c = true := by
    intro value more
    obtain ⟨first, others, written, digit⟩ := digits_start value
    rw [written]
    exact ⟨first, others ++ more, rfl, by simp [startsNumber, digit]⟩
  cases number with
  | integer value =>
    cases value with
    | ofNat value =>
      have start := unsigned value []
      rw [List.append_nil] at start
      exact start
    | negSucc value => exact ⟨'-', _, rfl, rfl⟩
  | decimal negative value exponent =>
    cases negative with
    | true => exact ⟨'-', _, rfl, rfl⟩
    | false => exact unsigned value _

theorem write_start (value : Json) :
    ∃ c rest, write value = c :: rest ∧ isSpace c = false ∧ c ≠ ']' := by
  cases value with
  | null => exact ⟨'n', _, rfl, by decide, by decide⟩
  | bool value =>
    cases value with
    | true => exact ⟨'t', _, rfl, by decide, by decide⟩
    | false => exact ⟨'f', _, rfl, by decide, by decide⟩
  | number value =>
    obtain ⟨c, rest, written, starts⟩ := number_start value
    rw [write]
    exact ⟨c, rest, written, starts_solid c starts, starts_apart c ']' starts (by decide)⟩
  | string value =>
    obtain ⟨body, written, _⟩ := unquote_string value
    rw [write]
    exact ⟨'"', body, written, by decide, by decide⟩
  | array items =>
    cases items with
    | nil => exact ⟨'[', _, rfl, by decide, by decide⟩
    | cons first rest => exact ⟨'[', _, by rw [write]; rfl, by decide, by decide⟩
  | object members =>
    cases members with
    | nil => exact ⟨'\x7b', _, rfl, by decide, by decide⟩
    | cons first rest => exact ⟨'\x7b', _, by rw [write]; rfl, by decide, by decide⟩

theorem fuel_left (value : Json) (rest : List Char) (fuel : Nat)
    (enough : 2 * (write value ++ rest).length ≤ fuel + 1) : ∃ less, fuel = less + 1 := by
  obtain ⟨c, later, started, _⟩ := write_start value
  rw [started, List.cons_append, List.length_cons] at enough
  exact Nat.exists_eq_succ_of_ne_zero (by omega)

mutual

theorem value_written (value : Json) (fuel : Nat) (rest : List Char) (apart : Apart rest)
    (enough : 2 * (write value).length ≤ fuel + 1) :
    value? (fuel + 1) (write value ++ rest) = some (value, rest) := by
  match value with
  | .null => exact value_null fuel rest
  | .bool value => exact value_word fuel rest value
  | .number amount =>
    obtain ⟨c, later, written, starts⟩ := number_start amount
    have read := number_read amount rest apart
    rw [written, List.cons_append] at read
    rw [write, written, List.cons_append, value_number fuel _ c starts, read]
    rfl
  | .string value =>
    obtain ⟨body, written, read⟩ := unquote_string value
    rw [write, written, List.cons_append, value_string, read]
    rfl
  | .array [] =>
    rw [write]
    exact value_array_empty fuel rest
  | .array (first :: others) =>
    obtain ⟨c, later, written, solid, opens⟩ := write_start first
    rw [write, List.cons_append, List.length_cons] at enough
    obtain ⟨less, rfl⟩ := fuel_left first (writeItems others) fuel (by omega)
    have read := items_written (first :: others) less rest (List.cons_ne_nil first others)
      (by rw [itemsText]; omega)
    rw [itemsText, written] at read
    rw [write, written]
    simp only [List.append_assoc, List.cons_append] at read ⊢
    rw [value_array _ _ c solid opens, read]
    rfl
  | .object [] =>
    rw [write]
    exact value_object_empty fuel rest
  | .object ((name, first) :: others) =>
    obtain ⟨body, written, _⟩ := unquote_string name
    rw [write] at enough
    simp only [List.cons_append, List.length_cons] at enough
    obtain ⟨less, rfl⟩ : ∃ less, fuel = less + 1 := Nat.exists_eq_succ_of_ne_zero (by omega)
    have read := members_written ((name, first) :: others) less rest (List.cons_ne_nil _ others)
      (by rw [membersText]; simp only [List.length_append, List.length_cons] at enough ⊢; omega)
    rw [membersText, written] at read
    rw [write, written]
    simp only [List.append_assoc, List.cons_append] at read ⊢
    rw [value_object, read]
    rfl
termination_by sizeOf value

theorem items_written (items : List Json) (fuel : Nat) (rest : List Char) (full : items ≠ [])
    (enough : 2 * (itemsText items).length ≤ fuel + 1) :
    items? (fuel + 1) (itemsText items ++ rest) = some (items, rest) := by
  match items with
  | [] => exact absurd rfl full
  | [last] =>
    rw [itemsText, writeItems] at enough ⊢
    obtain ⟨less, rfl⟩ := fuel_left last [']'] fuel enough
    rw [List.length_append, List.length_singleton] at enough
    rw [List.append_assoc]
    exact items_last _ rest _ last
      (value_written last less (']' :: rest) (apart_cons ']' rest (by decide)) (by omega))
  | first :: next :: others =>
    rw [itemsText, items_text_next] at enough ⊢
    obtain ⟨less, rfl⟩ := fuel_left first _ fuel enough
    rw [List.length_append, List.length_cons] at enough
    have read := value_written first less (',' :: (itemsText (next :: others) ++ rest))
      (apart_cons ',' _ (by decide)) (by omega)
    rw [List.append_assoc, List.cons_append, items_next _ _ _ first read,
      items_written (next :: others) less rest (List.cons_ne_nil next others) (by omega)]
    rfl
termination_by sizeOf items

theorem members_written (members : List (Option String × Json)) (fuel : Nat) (rest : List Char)
    (full : members ≠ []) (enough : 2 * (membersText members).length ≤ fuel + 1) :
    members? (fuel + 1) (membersText members ++ rest) = some (members, rest) := by
  match members with
  | [] => exact absurd rfl full
  | [(name, last)] =>
    obtain ⟨body, written, named⟩ := unquote_string name
    rw [membersText, written, writeMembers] at enough ⊢
    simp only [List.cons_append, List.append_assoc, List.length_cons,
      List.length_append] at enough ⊢
    obtain ⟨less, rfl⟩ : ∃ less, fuel = less + 1 := Nat.exists_eq_succ_of_ne_zero (by omega)
    exact members_last _ rest _ _ name last (named _)
      (value_written last less ('\x7d' :: rest) (apart_cons '\x7d' rest (by decide)) (by omega))
  | (name, first) :: next :: others =>
    obtain ⟨body, written, named⟩ := unquote_string name
    rw [membersText, written, members_text_next] at enough ⊢
    simp only [List.cons_append, List.append_assoc, List.length_cons,
      List.length_append] at enough ⊢
    obtain ⟨less, rfl⟩ : ∃ less, fuel = less + 1 := Nat.exists_eq_succ_of_ne_zero (by omega)
    have read := value_written first less (',' :: (membersText (next :: others) ++ rest))
      (apart_cons ',' _ (by decide)) (by omega)
    rw [members_next _ _ _ _ name first (named _) read,
      members_written (next :: others) less rest (List.cons_ne_nil next others) (by omega)]
    rfl
termination_by sizeOf members

end

theorem parse_write (value : Json) : parse? (write value) = some value := by
  have read := value_written value (2 * (write value).length + 1) [] apart_nil (by omega)
  rw [List.append_nil] at read
  rw [parse?, read]
  rfl

end Gamebook.Json
