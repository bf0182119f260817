import Gamebook.Json.Writer

set_option autoImplicit false

namespace Gamebook.Json

def shortEscaped : List Char := ['\x08', '\t', '\n', '\x0c', '\r']

def pieceOf (c : Char) : Piece :=
  if c.toNat < 0x20 ∧ c ∉ shortEscaped then .unit c.toNat else .char c

theorem hex_value_digit (value : Nat) (small : value < 16) :
    hexValue? (hexDigit value) = some value := by
  have all : ∀ digit : Fin 16, hexValue? (hexDigit digit) = some digit.val := by decide
  exact all ⟨value, small⟩

theorem unit_of_low (value : Nat) (small : value < 0x20) :
    unit? '0' '0' (hexDigit (value / 16)) (hexDigit (value % 16)) = some (.unit value) := by
  have high := hex_value_digit (value / 16) (by omega)
  have low := hex_value_digit (value % 16) (by omega)
  have zero : hexValue? '0' = some 0 := by decide
  have whole : ((0 * 16 + 0) * 16 + value / 16) * 16 + value % 16 = value := by omega
  rw [unit?, zero, high, low]
  simp only [Option.bind_eq_bind, Option.bind_some, whole]

theorem pieces_unit (a b c d : Char) (rest : List Char) (value : Nat)
    (named : unit? a b c d = some (.unit value)) :
    pieces? ('\\' :: 'u' :: a :: b :: c :: d :: rest) =
      (pieces? rest).map fun (pieces, after) => (.unit value :: pieces, after) := by
  rw [pieces?, named]
  cases pieces? rest <;> rfl

theorem pieces_letter (letter c : Char) (rest : List Char) (other : letter ≠ 'u')
    (named : escapedChar? letter = some c) :
    pieces? ('\\' :: letter :: rest) =
      (pieces? rest).map fun (pieces, after) => (.char c :: pieces, after) := by
  rw [pieces?, named]
  · cases pieces? rest <;> rfl
  · intro a b c d later same
    exact absurd same other

theorem pieces_plain (c : Char) (rest : List Char) (quote : c ≠ '"') (slash : c ≠ '\\')
    (high : ¬ c.toNat < 0x20) :
    pieces? (c :: rest) =
      (pieces? rest).map fun (pieces, after) => (.char c :: pieces, after) := by
  rw [pieces?, if_neg (by simp [high, slash])]
  · cases pieces? rest <;> rfl
  · exact quote
  · intro a b c d later same
    exact absurd same slash
  · intro letter later same
    exact absurd same slash

theorem pieces_escape (c : Char) (rest : List Char) :
    pieces? (escape c ++ rest) =
      (pieces? rest).map fun (pieces, after) => (pieceOf c :: pieces, after) := by
  have short : ∀ letter, letter ≠ 'u' → escapedChar? letter = some c → escape c = ['\\', letter] →
      pieceOf c = .char c → pieces? (escape c ++ rest) =
        (pieces? rest).map fun (pieces, after) => (pieceOf c :: pieces, after) := by
    intro letter other named written piece
    rw [written, piece]
    exact pieces_letter letter c rest other named
  by_cases quote : c = '"'
  · subst quote
    exact short '"' (by decide) (by decide) (by decide) (by decide)
  by_cases slash : c = '\\'
  · subst slash
    exact short '\\' (by decide) (by decide) (by decide) (by decide)
  by_cases listed : c ∈ shortEscaped
  · simp only [shortEscaped, List.mem_cons, List.not_mem_nil, or_false] at listed
    rcases listed with rfl | rfl | rfl | rfl | rfl
    · exact short 'b' (by decide) (by decide) (by decide) (by decide)
    · exact short 't' (by decide) (by decide) (by decide) (by decide)
    · exact short 'n' (by decide) (by decide) (by decide) (by decide)
    · exact short 'f' (by decide) (by decide) (by decide) (by decide)
    · exact short 'r' (by decide) (by decide) (by decide) (by decide)
  simp only [shortEscaped, List.mem_cons, List.not_mem_nil, or_false, not_or] at listed
  obtain ⟨backspace, tab, feed, page, carriage⟩ := listed
  by_cases low : c.toNat < 0x20
  · have piece : pieceOf c = .unit c.toNat := by
      rw [pieceOf, if_pos ⟨low, by simp [shortEscaped, *]⟩]
    rw [piece, escape, if_neg quote, if_neg slash, if_neg backspace, if_neg tab, if_neg feed,
      if_neg page, if_neg carriage, if_pos low]
    exact pieces_unit _ _ _ _ rest c.toNat (unit_of_low c.toNat low)
  · have piece : pieceOf c = .char c := by
      rw [pieceOf, if_neg (by simp [low])]
    rw [piece, escape, if_neg quote, if_neg slash, if_neg backspace, if_neg tab, if_neg feed,
      if_neg page, if_neg carriage, if_neg low]
    exact pieces_plain c rest quote slash low

theorem pieces_text (text rest : List Char) :
    pieces? (text.flatMap escape ++ '"' :: rest) = some (text.map pieceOf, rest) := by
  induction text with
  | nil => exact pieces_closed rest
  | cons c later ih =>
    rw [List.flatMap_cons, List.append_assoc, pieces_escape, ih]
    rfl

-- A unit that is no half of a pair stands for a character, whatever comes after it.
theorem assemble_unit (value : Nat) (rest : List Piece) (high : isHighHalf value = false)
    (low : isLowHalf value = false) :
    assemble? (.unit value :: rest) = (assemble? rest).map (Char.ofNat value :: ·) := by
  rw [assemble?.eq_def]
  split
  · rename_i none
    cases none
  · rename_i same
    cases same
  · rename_i same
    cases same
    simp [high, low]
  · rename_i same
    cases same
    simp [high, low]

theorem assemble_piece (c : Char) (rest : List Piece) :
    assemble? (pieceOf c :: rest) = (assemble? rest).map (c :: ·) := by
  rw [pieceOf]
  by_cases unit : c.toNat < 0x20 ∧ c ∉ shortEscaped
  · have high : isHighHalf c.toNat = false := by
      simp only [isHighHalf, Bool.and_eq_false_iff, decide_eq_false_iff_not]
      omega
    have low : isLowHalf c.toNat = false := by
      simp only [isLowHalf, Bool.and_eq_false_iff, decide_eq_false_iff_not]
      omega
    rw [if_pos unit, assemble_unit c.toNat rest high low, Char.ofNat_toNat]
  · rw [if_neg unit, assemble_char]

theorem assemble_text (text : List Char) : assemble? (text.map pieceOf) = some text := by
  induction text with
  | nil => rw [List.map_nil, assemble?]
  | cons c later ih => rw [List.map_cons, assemble_piece, ih]; rfl

theorem unquote_text (text rest : List Char) :
    unquote? (text.flatMap escape ++ '"' :: rest) = some (some (String.ofList text), rest) := by
  simp only [unquote?, pieces_text, Option.map_some, assemble_text]

theorem unquote_string (value : Option String) :
    ∃ body, writeString value = '"' :: body ∧
      ∀ rest, unquote? (body ++ rest) = some (value, rest) := by
  cases value with
  | none =>
    refine ⟨_, rfl, ?_⟩
    intro rest
    have piece := pieces_unit 'd' '8' '0' '0' ('"' :: rest) 0xD800 (by decide)
    rw [pieces?] at piece
    simp only [List.cons_append, List.nil_append, unquote?, piece, Option.map_some]
    rfl
  | some text =>
    refine ⟨_, rfl, ?_⟩
    intro rest
    rw [List.append_assoc, List.singleton_append, unquote_text, String.ofList_toList]

end Gamebook.Json
