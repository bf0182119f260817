import Gamebook.Proofs.Text.Lines

set_option autoImplicit false

namespace Gamebook.Text

def utf8 (text : List Char) : List UInt8 := text.flatMap String.utf8EncodeChar

theorem utf8_string (text : String) : text.toUTF8.data.toList = utf8 text.toList := by
  rw [String.toUTF8_eq_toByteArray, ← String.utf8Encode_toList, List.utf8Encode,
    List.toList_data_toByteArray, utf8]

theorem utf8_read (text : List Char) :
    String.fromUTF8? (utf8 text).toByteArray = some (String.ofList text) := by
  have encoded : (utf8 text).toByteArray = (String.ofList text).toByteArray := by
    rw [String.toByteArray_ofList, List.utf8Encode, utf8]
  rw [encoded, String.fromUTF8?, dif_pos (String.ofList text).isValidUTF8]
  rfl

theorem utf8_size (text : List Char) : (utf8 text).length = (String.ofList text).utf8ByteSize := by
  rw [← String.size_toByteArray, String.toByteArray_ofList, List.utf8Encode,
    List.size_toByteArray, utf8]

theorem utf8_cons (head : Char) (rest : List Char) :
    utf8 (head :: rest) = String.utf8EncodeChar head ++ utf8 rest := List.flatMap_cons

theorem utf8_append (first second : List Char) :
    utf8 (first ++ second) = utf8 first ++ utf8 second := List.flatMap_append

theorem utf8_empty (text : List Char) : utf8 text = [] ↔ text = [] := by
  cases text with
  | nil => simp [utf8]
  | cons head rest => simp [utf8_cons, String.utf8EncodeChar_ne_nil]

-- In the encoding of a character of several bytes each of them has its highest bit set.
theorem encoded_single (c : Char) (byte : UInt8) (small : byte.toNat < 0x80)
    (member : byte ∈ String.utf8EncodeChar c) : c.toNat = byte.toNat := by
  simp only [String.utf8EncodeChar] at member
  split at member
  · rename_i single
    rw [List.mem_singleton] at member
    rw [member, UInt8.toNat_ofNat', Nat.mod_eq_of_lt (by omega)]
    rfl
  · refine absurd small (Nat.not_lt_of_le ?_)
    split at member
    · simp only [List.mem_cons, List.not_mem_nil, or_false] at member
      rcases member with rfl | rfl <;> rw [UInt8.toNat_ofNat'] <;> omega
    · split at member
      · simp only [List.mem_cons, List.not_mem_nil, or_false] at member
        rcases member with rfl | rfl | rfl <;> rw [UInt8.toNat_ofNat'] <;> omega
      · simp only [List.mem_cons, List.not_mem_nil, or_false] at member
        rcases member with rfl | rfl | rfl | rfl <;> rw [UInt8.toNat_ofNat'] <;> omega

theorem encoded_lacks (c other : Char) (byte : UInt8) (small : byte.toNat < 0x80)
    (same : other.toNat = byte.toNat) (apart : c ≠ other) : byte ∉ String.utf8EncodeChar c := by
  intro member
  exact apart (Char.toNat_inj.mp ((encoded_single c byte small member).trans same.symm))

theorem utf8_feed (rest : List Char) : utf8 ('\n' :: rest) = 10 :: utf8 rest := by
  have one : String.utf8EncodeChar '\n' = [10] := by decide
  rw [utf8_cons, one]
  rfl

theorem feed_lines_utf8 (text : List Char) :
    feedLines 10 (utf8 text) = (feedLines '\n' text).map utf8 := by
  induction text with
  | nil => rfl
  | cons head rest ih =>
    by_cases feed : head = '\n'
    · rw [feed, utf8_feed, feedLines, if_pos rfl, feedLines, if_pos rfl, ih, List.map_cons,
        utf8_feed]
      rfl
    · have plain : 10 ∉ String.utf8EncodeChar head :=
        encoded_lacks head '\n' 10 (by decide) rfl feed
      rw [utf8_cons, feed_lines_apart 10 _ _ plain, ih, extend_all _ String.utf8EncodeChar_ne_nil,
        feedLines, if_neg feed]
      cases feedLines '\n' rest with
      | nil => simp [extendFirst, utf8]
      | cons first others => simp [extendFirst, utf8]

end Gamebook.Text
