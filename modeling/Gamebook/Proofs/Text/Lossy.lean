import Gamebook.Text.Lossy
import Gamebook.Proofs.Text.Utf8
import Mathlib.Data.List.Induction

set_option autoImplicit false

namespace Gamebook

namespace Text

section Steps

variable (rest : List UInt8)

theorem lossy_cons (char : Option Unfinished) (byte : UInt8) :
    lossyFrom char (byte :: rest) =
      (readByte byte.toNat char).1 ++ lossyFrom (readByte byte.toNat char).2 rest := rfl

theorem lossy_single (byte : UInt8) (value : Nat) (same : byte.toNat = value)
    (small : value < 0x80) :
    lossyFrom none (byte :: rest) = Char.ofNat value :: lossyFrom none rest := by
  rw [lossy_cons, readByte, same, startChar, if_pos small]
  rfl

theorem lossy_of_two (byte : UInt8) (value : Nat) (same : byte.toNat = value + 0xC0)
    (above : 2 ≤ value) (below : value < 0x20) :
    lossyFrom none (byte :: rest) = lossyFrom (some ⟨1, 0x80, 0xBF, value⟩) rest := by
  rw [lossy_cons, readByte, same, startChar, if_neg (by omega), if_neg (by omega),
    if_pos (by omega), Nat.add_sub_cancel]
  rfl

theorem lossy_of_three (byte : UInt8) (value : Nat) (same : byte.toNat = value + 0xE0)
    (below : value < 0x10) :
    lossyFrom none (byte :: rest) =
      lossyFrom
        (some ⟨2, if value = 0 then 0xA0 else 0x80, if value = 0xD then 0x9F else 0xBF, value⟩)
        rest := by
  have least : value + 0xE0 = 0xE0 ↔ value = 0 := by omega
  have most : value + 0xE0 = 0xED ↔ value = 0xD := by omega
  rw [lossy_cons, readByte, same, startChar, if_neg (by omega), if_neg (by omega),
    if_neg (by omega), if_pos (by omega), Nat.add_sub_cancel]
  simp only [least, most]
  rfl

theorem lossy_of_four (byte : UInt8) (value : Nat) (same : byte.toNat = value + 0xF0)
    (below : value < 5) :
    lossyFrom none (byte :: rest) =
      lossyFrom
        (some ⟨3, if value = 0 then 0x90 else 0x80, if value = 4 then 0x8F else 0xBF, value⟩)
        rest := by
  have least : value + 0xF0 = 0xF0 ↔ value = 0 := by omega
  have most : value + 0xF0 = 0xF4 ↔ value = 4 := by omega
  rw [lossy_cons, readByte, same, startChar, if_neg (by omega), if_neg (by omega),
    if_neg (by omega), if_neg (by omega), if_pos (by omega), Nat.add_sub_cancel]
  simp only [least, most]
  rfl

variable (low high value : Nat) (byte : UInt8) (more : Nat) (same : byte.toNat = more + 0x80)
  (above : low ≤ more + 0x80) (below : more + 0x80 ≤ high)
include same above below

theorem lossy_onward (lacks : Nat) :
    lossyFrom (some ⟨lacks + 2, low, high, value⟩) (byte :: rest) =
      lossyFrom (some ⟨lacks + 1, 0x80, 0xBF, value * 64 + more⟩) rest := by
  rw [lossy_cons, readByte, same, if_pos ⟨above, below⟩, Nat.add_sub_cancel]
  rfl

theorem lossy_completed :
    lossyFrom (some ⟨1, low, high, value⟩) (byte :: rest) =
      Char.ofNat (value * 64 + more) :: lossyFrom none rest := by
  rw [lossy_cons, readByte, same, if_pos ⟨above, below⟩, Nat.add_sub_cancel]
  rfl

end Steps

-- One case for each number of bytes that a character can have.
theorem lossy_char (c : Char) (rest : List UInt8) :
    lossyFrom none (String.utf8EncodeChar c ++ rest) = c :: lossyFrom none rest := by
  have valid : c.val.toNat.isValidChar := c.valid
  have whole : Char.ofNat c.val.toNat = c := Char.ofNat_toNat c
  have byte (n : Nat) (small : n < 256) : (UInt8.ofNat n).toNat = n :=
    UInt8.toNat_ofNat_of_lt' small
  simp only [String.utf8EncodeChar]
  generalize c.val.toNat = value at valid whole ⊢
  simp only [Nat.isValidChar] at valid
  split
  · rename_i one
    rw [List.singleton_append,
      lossy_single rest _ value (byte _ (by omega)) (by omega), whole]
  · split
    · rename_i more two
      have joined : value / 64 % 32 * 64 + value % 64 = value := by omega
      rw [List.cons_append, List.singleton_append,
        lossy_of_two _ _ (value / 64 % 32) (byte _ (by omega)) (by omega) (by omega),
        lossy_completed _ _ _ _ _ (value % 64) (byte _ (by omega)) (by omega) (by omega), joined,
        whole]
    · split
      · rename_i more most three
        have joined : (value / 4096 % 16 * 64 + value / 64 % 64) * 64 + value % 64 = value := by
          omega
        rw [List.cons_append, List.cons_append, List.singleton_append,
          lossy_of_three _ _ (value / 4096 % 16) (byte _ (by omega)) (by omega),
          lossy_onward _ _ _ _ _ (value / 64 % 64) (byte _ (by omega)) (by split <;> omega)
            (by split <;> omega) 0,
          lossy_completed _ _ _ _ _ (value % 64) (byte _ (by omega)) (by omega) (by omega), joined,
          whole]
      · rename_i more most three
        have joined : ((value / 262144 % 8 * 64 + value / 4096 % 64) * 64 + value / 64 % 64) * 64 +
            value % 64 = value := by omega
        rw [List.cons_append, List.cons_append, List.cons_append, List.singleton_append,
          lossy_of_four _ _ (value / 262144 % 8) (byte _ (by omega)) (by omega),
          lossy_onward _ _ _ _ _ (value / 4096 % 64) (byte _ (by omega)) (by split <;> omega)
            (by split <;> omega) 1,
          lossy_onward _ _ _ _ _ (value / 64 % 64) (byte _ (by omega)) (by omega) (by omega) 0,
          lossy_completed _ _ _ _ _ (value % 64) (byte _ (by omega)) (by omega) (by omega), joined,
          whole]

theorem lossy_utf8 (text : List Char) : lossyFrom none (utf8 text) = text := by
  induction text with
  | nil => rfl
  | cons c rest ih => rw [utf8_cons, lossy_char, ih]

-- No byte below 0x80 goes on with the character, and it comes to no value below that.
structure Unfinished.Sound (char : Unfinished) : Prop where
  low : 0x80 ≤ char.low
  value : 2 ≤ if char.lacks = 1 then char.value else char.value * 64 + (char.low - 0x80)

def Sound (char : Option Unfinished) : Prop := ∀ started, char = some started → started.Sound

theorem small_shown (byte : UInt8) (small : byte.toNat < 0x80) (char : Option Unfinished)
    (sound : Sound char) :
    lossyFrom char [byte] = lossyFrom char [] ++ [Char.ofNat byte.toNat] := by
  have single : startChar byte.toNat = ([Char.ofNat byte.toNat], none) := by
    rw [startChar, if_pos small]
  cases char with
  | none =>
    rw [lossy_cons, readByte, single]
    rfl
  | some char =>
    have low := (sound char rfl).low
    rw [lossy_cons, readByte, if_neg (by omega), single]
    rfl

section Mark

variable (mark : Char) (nonzero : 0 < mark.toNat) (small : mark.toNat < 0x80)

inductive Reads : List Char × Option Unfinished → Prop where
  | shown (before : List Char) (last : Char) (apart : last ≠ mark) : Reads (before ++ [last], none)
  | unfinished (before : List Char) (char : Unfinished) (sound : char.Sound) :
      Reads (before, some char)

theorem reads_behind (shown : List Char) (result : List Char × Option Unfinished)
    (reads : Reads mark result) : Reads mark (shown ++ result.1, result.2) := by
  cases reads with
  | shown before last apart => exact List.append_assoc _ _ _ ▸ .shown (shown ++ before) last apart
  | unfinished before char sound => exact .unfinished (shown ++ before) char sound

include small

theorem replacement_apart : replacement ≠ mark := by
  rintro rfl
  exact absurd small (by decide)

theorem start_reads (byte : Nat) (large : 0x80 ≤ byte) : Reads mark (startChar byte) := by
  have replaced : Reads mark ([replacement], none) :=
    .shown [] replacement (replacement_apart mark small)
  rw [startChar, if_neg (by omega)]
  split
  · exact replaced
  · split
    · exact .unfinished [] _ ⟨Nat.le_refl _, by simp; omega⟩
    · split
      · exact .unfinished [] _ ⟨by dsimp only; split <;> omega, by simp; split <;> omega⟩
      · split
        · exact .unfinished [] _ ⟨by dsimp only; split <;> omega, by simp; split <;> omega⟩
        · exact replaced

include nonzero

theorem of_nat_apart (value : Nat) (large : 0x80 ≤ value) : Char.ofNat value ≠ mark := by
  rintro rfl
  rw [Char.ofNat] at nonzero small
  by_cases valid : value.isValidChar
  · rw [dif_pos valid] at small
    exact absurd small (Nat.not_lt_of_le large)
  · rw [dif_neg valid] at nonzero
    exact absurd nonzero (by decide)

theorem byte_reads (byte : Nat) (large : 0x80 ≤ byte) (char : Option Unfinished)
    (sound : Sound char) : Reads mark (readByte byte char) := by
  cases char with
  | none => exact start_reads mark small byte large
  | some char =>
    obtain ⟨low, value⟩ := sound char rfl
    rw [readByte]
    split
    · split
      · rename_i within last
        rw [if_pos last] at value
        exact .shown [] _ (of_nat_apart mark nonzero small _ (by omega))
      · rename_i within more
        rw [if_neg more] at value
        exact .unfinished [] _ ⟨Nat.le_refl _, by dsimp only; split <;> omega⟩
    · exact reads_behind mark [replacement] _ (start_reads mark small byte large)

theorem large_shown (byte : UInt8) (large : 0x80 ≤ byte.toNat) (char : Option Unfinished)
    (sound : Sound char) :
    ∃ before last, lossyFrom char [byte] = before ++ [last] ∧ last ≠ mark := by
  have reads := byte_reads mark nonzero small byte.toNat large char sound
  rw [lossy_cons]
  generalize readByte byte.toNat char = result at reads
  cases reads with
  | shown before last apart => exact ⟨before, last, List.append_nil _, apart⟩
  | unfinished before char sound =>
    exact ⟨before, replacement, rfl, replacement_apart mark small⟩

end Mark

theorem read_sound (byte : Nat) (char : Option Unfinished) (sound : Sound char) :
    Sound (readByte byte char).2 := by
  by_cases small : byte < 0x80
  · have single : startChar byte = ([Char.ofNat byte], none) := by rw [startChar, if_pos small]
    cases char with
    | none =>
      rw [readByte, single]
      rintro _ ⟨⟩
    | some char =>
      have low := (sound char rfl).low
      rw [readByte, if_neg (by omega), single]
      rintro _ ⟨⟩
  · have reads := byte_reads 't' (by decide) (by decide) byte (Nat.le_of_not_lt small) char sound
    generalize readByte byte char = result at reads
    cases reads with
    | shown before last apart =>
      rintro _ ⟨⟩
    | unfinished before char sound =>
      rintro _ ⟨⟩
      exact sound

theorem lossy_behind (front : List UInt8) (last : UInt8) (char : Option Unfinished)
    (sound : Sound char) :
    ∃ before reached, Sound reached ∧
      lossyFrom char front = before ++ lossyFrom reached [] ∧
      lossyFrom char (front ++ [last]) = before ++ lossyFrom reached [last] := by
  induction front generalizing char with
  | nil => exact ⟨[], char, sound, rfl, rfl⟩
  | cons byte rest ih =>
    obtain ⟨before, reached, still, shorter, longer⟩ := ih _ (read_sound byte.toNat char sound)
    refine ⟨(readByte byte.toNat char).1 ++ before, reached, still, ?_, ?_⟩
    · rw [lossy_cons, shorter, List.append_assoc]
    · rw [List.cons_append, lossy_cons, longer, List.append_assoc]

theorem none_sound : Sound none := by
  rintro _ ⟨⟩

theorem concat_suffix {α : Type} (first second : List α) (one other : α) :
    first ++ [one] <:+ second ++ [other] ↔ one = other ∧ first <:+ second := by
  rw [List.suffix_concat_iff]
  constructor
  · rintro (none | ⟨rest, same, suffix⟩)
    · exact absurd none (by simp)
    · obtain ⟨rfl, last⟩ := List.append_inj' same rfl
      exact ⟨List.singleton_inj.mp last, suffix⟩
  · rintro ⟨rfl, suffix⟩
    exact .inr ⟨first, rfl, suffix⟩

theorem ascii_valued (byte : UInt8) (small : byte.toNat < 0x80) :
    (Char.ofNat byte.toNat).toNat = byte.toNat := by
  rw [Char.ofNat, dif_pos (.inl (by omega))]
  rfl

theorem lossy_suffix (suffix bytes : List UInt8)
    (plain : ∀ byte ∈ suffix, 0 < byte.toNat ∧ byte.toNat < 0x80) :
    suffix.map (fun byte => Char.ofNat byte.toNat) <:+ lossyFrom none bytes ↔ suffix <:+ bytes := by
  induction suffix using List.reverseRecOn generalizing bytes with
  | nil => simp
  | append_singleton suffix mark ih =>
    have others := fun front =>
      ih front fun byte member => plain byte (List.mem_append_left _ member)
    obtain ⟨nonzero, small⟩ := plain mark (List.mem_append_right _ List.mem_cons_self)
    have valued := ascii_valued mark small
    rcases List.eq_nil_or_concat bytes with rfl | ⟨front, last, rfl⟩
    · simp [lossyFrom]
    · rw [List.concat_eq_append, List.map_append, List.map_singleton, concat_suffix]
      obtain ⟨before, reached, sound, shorter, longer⟩ :=
        lossy_behind front last none none_sound
      by_cases ascii : last.toNat < 0x80
      · rw [longer, small_shown last ascii reached sound, ← List.append_assoc, ← shorter,
          concat_suffix, others]
        refine and_congr_left fun _ => ⟨?_, fun same => same ▸ rfl⟩
        intro same
        have values := congrArg Char.toNat same
        rw [valued, ascii_valued last ascii] at values
        exact UInt8.toNat_inj.mp values
      · obtain ⟨chars, shown, ends, apart⟩ := large_shown (Char.ofNat mark.toNat)
          (by omega) (by omega) last (Nat.le_of_not_lt ascii) reached sound
        rw [longer, ends, ← List.append_assoc, concat_suffix]
        refine iff_of_false (fun both => apart both.1.symm) ?_
        rintro ⟨rfl, _⟩
        exact ascii small

end Text

end Gamebook
