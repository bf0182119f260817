import Mathlib.Data.List.Forall2
import Gamebook.Proofs.Player.Fit

set_option autoImplicit false

namespace Gamebook

namespace Text

def Wraps (width : Nat) (lines rows : List String) : Prop :=
  ∃ parts, List.Forall₂ (Folded width) lines parts ∧ rows = parts.flatten

theorem folded_each (width : Nat) (room : width ≠ 0) (lines : List String)
    (parts : List (List String)) :
    List.Forall₂ (Folded width) lines parts ↔ parts = lines.map (fold width) := by
  induction lines generalizing parts with
  | nil => simp
  | cons line rest ih =>
    cases parts with
    | nil => simp
    | cons part later =>
      rw [List.forall₂_cons, ih, folded_iff width line part room, List.map_cons, List.cons.injEq]

theorem wraps_iff (width : Nat) (room : width ≠ 0) (lines rows : List String) :
    Wraps width lines rows ↔ rows = lines.flatMap (fold width) := by
  rw [List.flatMap_def]
  constructor
  · rintro ⟨parts, folds, rfl⟩
    rw [(folded_each width room lines parts).mp folds]
  · rintro rfl
    exact ⟨_, (folded_each width room lines _).mpr rfl, rfl⟩

theorem chomp_plain (line : List Char) (plain : '\n' ∉ line) : chomp line = line := by
  have feed (rest : List Char) (ends : line.reverse = '\n' :: rest) : False :=
    plain (List.mem_reverse.mp (ends ▸ List.mem_cons_self))
  fun_cases chomp line with
  | case1 rest ends => exact absurd ends (feed _)
  | case2 rest other ends => exact absurd ends (feed _)
  | case3 => rfl

end Text

namespace Row

theorem plain_whole (text : String) (unbroken : '\n' ∉ text.toList) : (plain text).text = text := by
  rw [← String.toList_inj, plain_text]
  by_cases empty : text.toList = []
  · rw [empty]
    rfl
  · rw [Text.feed_lines_only '\n' text.toList empty unbroken, List.flatMap_singleton,
      Text.chomp_plain text.toList unbroken]

end Row

namespace Layout

structure FitsScreen (width height : Nat) (rows : List Row) : Prop where
  count : rows.length ≤ height
  narrow : ∀ row ∈ rows, row.text.length ≤ width

structure Newest (story shown : List String) (room : Nat) : Prop where
  ample : 1 ≤ room
  ends : shown <:+ story
  count : shown.length = min story.length room
  latest : shown.getLast? = story.getLast?

theorem newest_dropped (story : List String) (room : Nat) (ample : 1 ≤ room) :
    Newest story (story.drop (story.length - room)) room where
  ample := ample
  ends := List.drop_suffix _ _
  count := by
    rw [List.length_drop]
    omega
  latest := by
    rw [List.getLast?_drop]
    split
    · rename_i past
      have none : story.length = 0 := by omega
      rw [List.length_eq_zero_iff.mp none]
      rfl
    · rfl

section Screens

variable (player : Player) (catalog : Catalog) (width height : Nat)

-- The reports on the catalog take no more rows than the list and what stands around it leave.
theorem picker_fits (stocked : catalog.scenarios ≠ []) (high : 13 ≤ height) :
    FitsScreen (textWidth width) height (pickerRows player catalog width height) := by
  have full : catalog.isEmpty = false := by
    rw [Catalog.isEmpty, List.isEmpty_eq_false_iff]
    exact stocked
  have wide : 10 ≤ textWidth width := Nat.le_trans (by decide) (Nat.le_max_right _ _)
  have room := text_width_room width
  constructor
  · have items := items_count (textWidth width) player.picker catalog.titles
    have window := window_count (textWidth width) player.picker catalog.scenarios.length
    have help : (helpRows (textWidth width) player).length ≤ 1 := by
      rw [help_count]
      split <;> decide
    have warned : (warningRows (textWidth width) height catalog).length ≤ height - 11 := by
      rw [warningRows, List.length_map, List.length_take]
      exact Nat.min_le_left _ _
    have rows : Viewport.rows = 5 := rfl
    simp only [pickerRows, full, Bool.false_eq_true, if_false, List.length_append,
      List.length_cons, List.length_nil]
    omega
  · intro row there
    simp only [pickerRows, full, Bool.false_eq_true, if_false, List.mem_append, List.mem_cons,
      List.not_mem_nil, or_false, warningRows, List.mem_map] at there
    rcases there with ((((((rfl | rfl) | ⟨found, _, rfl⟩) | rfl) | item) | window) | rfl) | help
    · exact narrow_title _ _
    · exact (fits_status _ room player).short
    · exact narrow_coloured _ .yellow _
    · exact (fits_rule _ room).short
    · exact (fits_items _ _ _ wide row item).short
    · exact (fits_window _ room _ _ row window).short
    · exact narrow_coloured _ .yellow _
    · exact (fits_help _ room player row help).short

theorem playback_fits (high : 13 ≤ height)
    (apart : choicesVisible player = true → endVisible player = false) :
    FitsScreen (textWidth width) height (playbackRows player catalog width height) := by
  refine ⟨playback_height player catalog width height high apart, ?_⟩
  obtain ⟨above, below, parts, _, narrow⟩ := playback_around player catalog width height apart
  intro row there
  rw [parts] at there
  simp only [List.mem_append, List.mem_map] at there narrow
  rcases there with (opened | ⟨line, listed, rfl⟩) | closed
  · exact narrow row (.inl opened)
  · exact Nat.le_trans (Row.plain_length line)
      (story_line_length _ player line (text_width_room width) (List.mem_of_mem_drop listed))
  · exact narrow row (.inr closed)

end Screens

end Layout

namespace Session

theorem menu_without_end (catalog : Catalog) (inputs : List Input)
    (menu : Layout.choicesVisible (after catalog inputs).player = true) :
    Layout.endVisible (after catalog inputs).player = false := by
  have offered : (after catalog inputs).player.choices ≠ [] := by
    intro none
    simp [Layout.choicesVisible, none] at menu
  rcases (after_sound catalog inputs).state with picking | ⟨story, position, plays⟩
  · exact absurd picking.choices offered
  · rcases playing_halted catalog _ _ story position plays with ⟨_, goes⟩ | ⟨none, _⟩
    · rw [Layout.endVisible, goes, Bool.and_false]
    · exact absurd none offered

theorem screens_fit_and_show_newest (catalog : Catalog) (inputs : List Input)
    (width height : Nat) (stocked : catalog.scenarios ≠ []) (high : 13 ≤ height) :
    let player := (after catalog inputs).player
    let writer := player.typewriter
    let columns := max (width - 2) 16
    let lines := writer.shown ++
      (writer.typing.map fun line => String.ofList (line.toList.take writer.typed)).toList
    Layout.FitsScreen columns height (Layout.pickerRows player catalog width height) ∧
    Layout.FitsScreen columns height (Layout.playbackRows player catalog width height) ∧
    ∃ story above shown below room,
      (∀ rows, Text.Wraps columns lines rows ↔ rows = story) ∧
      Layout.playbackRows player catalog width height = above ++ shown.map .plain ++ below ∧
      above.length + below.length ≤ Layout.reservedRows player ∧
      room + Layout.reservedRows player = height ∧
      Layout.Newest story shown room ∧
      ∀ row ∈ shown, '\n' ∉ row.toList → (Row.plain row).text = row := by
  intro player writer columns lines
  have apart := menu_without_end catalog inputs
  obtain ⟨above, below, parts, around, _⟩ :=
    Layout.playback_around player catalog width height apart
  obtain ⟨ample, total⟩ := Layout.reserved_short player height high
  refine ⟨Layout.picker_fits player catalog width height stocked high,
    Layout.playback_fits player catalog width height high apart,
    Layout.storyRows columns player, above, Layout.shownStory player width height, below,
    Layout.storyHeight player height, ?_, parts, around, total, Layout.newest_dropped _ _ ample, ?_⟩
  · exact Text.wraps_iff columns (Layout.text_width_room width) lines
  · intro row _ unbroken
    exact Row.plain_whole row unbroken

def vigil : Story where
  id := "scenario-file:/home/vigil.txt"
  fileName := "vigil.txt"
  scenario := ⟨"Vigil", [⟨"The lamp turns and no ship comes in tonight.", [⟨"Wait", 0⟩]⟩]⟩

theorem vigil_shows_newest :
    let catalog : Catalog := ⟨[vigil], []⟩
    let player := (after catalog [.press ⟨.enter, false⟩, .press ⟨.enter, false⟩]).player
    catalog.scenarios ≠ [] ∧ 13 ≤ 13 ∧
      Layout.FitsScreen 16 13 (Layout.playbackRows player catalog 10 13) ∧
      ∃ above below, Layout.playbackRows player catalog 10 13 =
        above ++ [Row.plain "nd no ship comes", Row.plain " in tonight."] ++ below := by
  intro catalog player
  have stocked : catalog.scenarios ≠ [] := List.cons_ne_nil _ _
  obtain ⟨_, fits, story, above, shown, below, room, wraps, parts, _, total, newest, _⟩ :=
    screens_fit_and_show_newest catalog
      [.press ⟨.enter, false⟩, .press ⟨.enter, false⟩] 10 13 stocked (Nat.le_refl 13)
  refine ⟨stocked, Nat.le_refl 13, fits, above, below, ?_⟩
  have folded : ["The lamp turns a", "nd no ship comes", " in tonight."] = story :=
    (wraps _).mp ((Text.wraps_iff 16 (by decide) _ _).mpr (by decide +kernel))
  have reserved : Layout.reservedRows player = 11 := by decide +kernel
  have two : room = 2 := Nat.add_right_cancel (total.trans (congrArg (2 + ·) reserved).symm)
  have last := List.suffix_iff_eq_drop.mp newest.ends
  rw [newest.count, two, ← folded] at last
  rw [parts, last]
  rfl

end Session

end Gamebook
