import Gamebook.Proofs.Player.Frame

set_option autoImplicit false

namespace Gamebook

namespace Layout

open Gamebook.Frame (Solid isDoubled)

structure FitsLine (width : Nat) (row : Row) : Prop where
  solid : Solid row.text
  short : row.text.length ≤ width

section Rows

variable (width : Nat) (room : width ≠ 0)

include room

theorem fits_truncated (colour : Colour) (text : String) (solid : Solid text) :
    FitsLine width (.coloured colour (Text.truncate width text)) := by
  constructor <;> rw [Row.coloured_text]
  · exact Frame.solid_truncated width text room solid
  · exact Text.truncate_length width text

theorem fits_title (text : String) (solid : Solid text) :
    FitsLine width (.plain (Text.truncate width text)) where
  solid := Frame.solid_plain _ (Frame.solid_truncated width text room solid)
  short := Nat.le_trans (Row.plain_length _) (Text.truncate_length width text)

theorem fits_status (player : Player) : FitsLine width (statusRow width player) :=
  fits_truncated width room .gray _ (Frame.solid_before _ _ ⟨'s', by decide, by decide⟩)

theorem fits_rule : FitsLine width (rule width) := by
  constructor <;> rw [rule, Row.coloured_text]
  · rw [Solid, String.toList_ofList]
    exact ⟨'─', List.mem_replicate.mpr ⟨room, rfl⟩, by decide⟩
  · rw [String.length_ofList]
    exact Nat.le_of_eq List.length_replicate

theorem fits_help (player : Player) : ∀ row ∈ helpRows width player, FitsLine width row := by
  intro row there
  rw [helpRows] at there
  split at there
  · rw [List.mem_singleton.mp there]
    exact fits_truncated width room .magenta _ ⟨'e', by decide, by decide⟩
  · cases there

theorem fits_window (viewport : Viewport) (length : Nat) :
    ∀ row ∈ windowRows width viewport length, FitsLine width row := by
  intro row there
  rw [windowRows] at there
  split at there
  · rw [List.mem_singleton.mp there]
    refine fits_truncated width room .gray _ ?_
    simp only [String.append_assoc]
    exact Frame.solid_before _ _ ⟨'w', by decide, by decide⟩
  · cases there

theorem fits_ending (ending : Option Ending) :
    FitsLine width (.coloured .green (Text.truncate width (endingText ending))) := by
  refine fits_truncated width room .green _ ?_
  rcases ending with _ | reason
  · exact ⟨'e', by decide, by decide⟩
  · cases reason with
    | terminalBranch index => exact Frame.solid_before "[end] " _ ⟨'e', by decide, by decide⟩
    | outOfRange index =>
      exact Frame.solid_before "[end] no branch " _ ⟨'e', by decide, by decide⟩
    | noBranches => exact ⟨'e', by decide, by decide⟩

end Rows

-- The two characters in front of an item are what its text is cut by.
theorem fits_item (width number : Nat) (text : String) (selected : Bool) (room : 10 ≤ width) :
    FitsLine width (itemRow width number text selected) := by
  have inner : max (width - 2) 8 ≠ 0 := by omega
  have solid : Solid (toString number ++ ": " ++ text) :=
    Frame.solid_before _ _ (Frame.solid_after _ _ ⟨':', by decide, by decide⟩)
  have shown := Frame.solid_truncated _ _ inner solid
  have short := Text.truncate_length (max (width - 2) 8) (toString number ++ ": " ++ text)
  cases selected with
  | true =>
    constructor <;> simp only [itemRow, if_true, Row.coloured_text]
    · exact Frame.solid_after _ _ shown
    · rw [String.length_append]
      have mark : "> ".length = 2 := rfl
      omega
  | false =>
    have text' : (itemRow width number text false).text =
        "  " ++ Text.truncate (max (width - 2) 8) (toString number ++ ": " ++ text) := by
      simp [itemRow, Row.text]
    constructor <;> rw [text']
    · exact Frame.solid_after _ _ shown
    · rw [String.length_append]
      have blank : "  ".length = 2 := rfl
      omega

theorem fits_items (width : Nat) (viewport : Viewport) (texts : List String) (room : 10 ≤ width) :
    ∀ row ∈ itemRows width viewport texts, FitsLine width row := by
  intro row there
  obtain ⟨⟨index, text⟩, _, rfl⟩ := List.mem_map.mp there
  exact fits_item width _ text _ room

theorem story_line_length (width : Nat) (player : Player) (line : String) (room : width ≠ 0)
    (member : line ∈ storyRows width player) : line.length ≤ width := by
  obtain ⟨text, _, there⟩ := List.mem_flatMap.mp member
  exact Text.fold_length width text line room there

theorem none_doubled (width : Nat) (rows : List Row) (fits : ∀ row ∈ rows, FitsLine width row) :
    rows.countP isDoubled = 0 := by
  rw [List.countP_eq_zero]
  intro row there
  exact Bool.eq_false_iff.mp (Frame.solid_single row (fits row there).solid)

theorem text_width_room (width : Nat) : textWidth width ≠ 0 := by
  rw [textWidth]
  omega

section Playback

variable (player : Player) (catalog : Catalog) (width height : Nat)

def blankRows : Nat :=
  if choicesVisible player then Viewport.rows - player.choices.length else 0

theorem fits_closing : ∀ row ∈ closingRows player width, FitsLine (textWidth width) row := by
  have room := text_width_room width
  intro row there
  simp only [closingRows, List.mem_append, List.mem_singleton] at there
  rcases there with (ending | rfl) | help
  · split at ending
    · rw [List.mem_singleton.mp ending]
      exact fits_ending _ room player.ending
    · cases ending
  · exact fits_truncated _ room .yellow _ ⟨'k', by decide, by decide⟩
  · exact fits_help _ room player row help

theorem fits_opening (titled : Solid (playbackTitle player catalog)) :
    ∀ row ∈ openingRows player catalog width, FitsLine (textWidth width) row := by
  have room := text_width_room width
  intro row there
  simp only [openingRows, List.mem_cons, List.not_mem_nil, or_false] at there
  rcases there with rfl | rfl
  · exact fits_title _ room _ titled
  · exact fits_status _ room player

-- Every row that is neither of the story nor a blank one under a menu takes a single line.
theorem playback_parts (titled : Solid (playbackTitle player catalog))
    (framed : player.choices ≠ [] → player.choice.Framed player.choices.length) :
    ∃ upper lower,
      playbackRows player catalog width height =
        openingRows player catalog width ++ (shownStory player width height).map .plain ++ upper ++
          List.replicate (blankRows player) (.plain " ") ++ lower ∧
      lower ≠ [] ∧
      ∀ row ∈ openingRows player catalog width ++ upper ++ lower,
        FitsLine (textWidth width) row := by
  have wide : 16 ≤ textWidth width := Nat.le_max_right _ _
  have room := text_width_room width
  have opens := fits_opening player catalog width titled
  have closing := fits_closing player width
  have closes : closingRows player width ≠ [] := by simp [closingRows]
  by_cases menu : choicesVisible player = true
  · have offered : player.choices ≠ [] := by
      intro none
      simp [choicesVisible, none] at menu
    have count : (player.choices.map (·.2)).length = player.choices.length := List.length_map _
    have blanks : Viewport.rows - (menuItems player width).length = blankRows player := by
      rw [menuItems, item_rows_length _ _ _ (count ▸ framed offered), count, blankRows, if_pos menu]
      omega
    refine ⟨[rule (textWidth width), menuHeader width] ++ menuItems player width,
      windowRows (textWidth width) player.choice player.choices.length ++ closingRows player width,
      ?_, List.append_ne_nil_of_right_ne_nil _ closes, ?_⟩
    · rw [playback_with_menu player catalog width height menu, blanks]
      simp only [List.append_assoc]
    · intro row there
      simp only [List.mem_append, List.mem_cons, List.not_mem_nil, or_false] at there
      rcases there with (opened | (rfl | rfl) | item) | window | closed
      · exact opens row opened
      · exact fits_rule _ room
      · exact fits_truncated _ room .cyan _ ⟨'c', by decide, by decide⟩
      · exact fits_items _ _ _ (by omega) row item
      · exact fits_window _ room _ _ row window
      · exact closing row closed
  · have hidden : choicesVisible player = false := Bool.eq_false_iff.mpr menu
    refine ⟨[rule (textWidth width)], closingRows player width, ?_, closes, ?_⟩
    · rw [playback_without_menu player catalog width height hidden, blankRows, if_neg menu,
        List.replicate_zero, List.append_nil]
    · intro row there
      simp only [List.mem_append, List.mem_singleton] at there
      rcases there with (opened | rfl) | closed
      · exact opens row opened
      · exact fits_rule _ room
      · exact closing row closed

theorem playback_doubled (titled : Solid (playbackTitle player catalog))
    (framed : player.choices ≠ [] → player.choice.Framed player.choices.length) :
    (playbackRows player catalog width height).countP isDoubled =
      (shownStory player width height).countP (fun line => isDoubled (.plain line)) +
        blankRows player := by
  obtain ⟨upper, lower, parts, _, fits⟩ :=
    playback_parts player catalog width height titled framed
  have single := none_doubled _ _ fits
  simp only [List.countP_append] at single
  have blank : isDoubled (.plain " ") = true := by decide
  rw [parts]
  simp only [List.countP_append, List.countP_map, List.countP_replicate, blank, if_true,
    Function.comp_def]
  omega

theorem playback_width (wide : 18 ≤ width) (titled : Solid (playbackTitle player catalog))
    (framed : player.choices ≠ [] → player.choice.Framed player.choices.length) :
    ∀ row ∈ playbackRows player catalog width height, row.text.length ≤ width := by
  obtain ⟨upper, lower, parts, _, fits⟩ :=
    playback_parts player catalog width height titled framed
  have narrow : textWidth width ≤ width := by rw [textWidth]; omega
  have room := text_width_room width
  intro row there
  rw [parts] at there
  simp only [List.mem_append, List.mem_map, List.mem_replicate] at there fits
  rcases there with (((opened | ⟨line, listed, rfl⟩) | upward) | ⟨_, rfl⟩) | lowered
  · exact Nat.le_trans (fits row (.inl (.inl opened))).short narrow
  · have length := story_line_length _ player line room (List.mem_of_mem_drop listed)
    exact Nat.le_trans (Row.plain_length line) (Nat.le_trans length narrow)
  · exact Nat.le_trans (fits row (.inl (.inr upward))).short narrow
  · exact Nat.le_trans (Row.plain_length " ") (Nat.le_trans (by decide) wide)
  · exact Nat.le_trans (fits row (.inr lowered)).short narrow

theorem narrow_title (text : String) :
    (Row.plain (Text.truncate width text)).text.length ≤ width :=
  Nat.le_trans (Row.plain_length _) (Text.truncate_length width text)

theorem narrow_coloured (colour : Colour) (text : String) :
    (Row.coloured colour (Text.truncate width text)).text.length ≤ width := by
  rw [Row.coloured_text]
  exact Text.truncate_length width text

theorem items_count (viewport : Viewport) (texts : List String) :
    (itemRows width viewport texts).length ≤ Viewport.rows := by
  simp only [itemRows, visibleItems, List.length_map, List.length_zipIdx, List.length_take]
  exact Nat.min_le_left _ _

theorem window_count (viewport : Viewport) (length : Nat) :
    (windowRows width viewport length).length ≤ 1 := by
  rw [windowRows]
  split
  · exact Nat.le_refl 1
  · exact Nat.zero_le 1

theorem help_count : (helpRows width player).length = if player.helpVisible then 1 else 0 := by
  rw [helpRows]
  split <;> rfl

theorem closing_count : (closingRows player width).length =
    (if endVisible player then 1 else 0) + 1 + if player.helpVisible then 1 else 0 := by
  rw [closingRows, List.length_append, List.length_append, help_count]
  congr 2
  split <;> rfl

theorem narrow_opening :
    ∀ row ∈ openingRows player catalog width, row.text.length ≤ textWidth width := by
  intro row there
  simp only [openingRows, List.mem_cons, List.not_mem_nil, or_false] at there
  rcases there with rfl | rfl
  · exact narrow_title _ _
  · exact (fits_status _ (text_width_room width) player).short

theorem playback_around (apart : choicesVisible player = true → endVisible player = false) :
    ∃ above below,
      playbackRows player catalog width height =
        above ++ (shownStory player width height).map .plain ++ below ∧
      above.length + below.length ≤ reservedRows player ∧
      ∀ row ∈ above ++ below, row.text.length ≤ textWidth width := by
  have wide : 16 ≤ textWidth width := Nat.le_max_right _ _
  have room := text_width_room width
  have closing := closing_count player width
  have rows : Viewport.rows = 5 := rfl
  by_cases menu : choicesVisible player = true
  · refine ⟨openingRows player catalog width,
      [rule (textWidth width), menuHeader width] ++ menuItems player width ++
        List.replicate (Viewport.rows - (menuItems player width).length) (.plain " ") ++
        windowRows (textWidth width) player.choice player.choices.length ++
        closingRows player width, ?_, ?_, ?_⟩
    · rw [playback_with_menu player catalog width height menu]
      simp only [List.append_assoc]
    · have items : (menuItems player width).length ≤ Viewport.rows := items_count _ _ _
      have window := window_count (textWidth width) player.choice player.choices.length
      rw [apart menu] at closing
      simp only [reservedRows, menu, Bool.true_or, if_true, openingRows, List.length_append,
        List.length_cons, List.length_nil, List.length_replicate, closing, Bool.false_eq_true,
        if_false]
      omega
    · intro row there
      simp only [List.mem_append, List.mem_cons, List.not_mem_nil, or_false, List.mem_replicate]
        at there
      rcases there with opened | ((((rfl | rfl) | item) | ⟨_, rfl⟩) | window) | closed
      · exact narrow_opening player catalog width row opened
      · exact (fits_rule _ room).short
      · exact narrow_coloured _ .cyan _
      · exact (fits_items _ _ _ (by omega) row item).short
      · exact Nat.le_trans (Row.plain_length " ") (Nat.le_trans (by decide) wide)
      · exact (fits_window _ room _ _ row window).short
      · exact (fits_closing player width row closed).short
  · have hidden : choicesVisible player = false := Bool.eq_false_iff.mpr menu
    refine ⟨openingRows player catalog width, [rule (textWidth width)] ++ closingRows player width,
      ?_, ?_, ?_⟩
    · rw [playback_without_menu player catalog width height hidden, List.append_assoc]
    · simp only [reservedRows, hidden, Bool.false_or, openingRows, List.length_append,
        List.length_cons, List.length_nil, closing]
      omega
    · intro row there
      simp only [List.mem_append, List.mem_singleton] at there
      rcases there with opened | rfl | closed
      · exact narrow_opening player catalog width row opened
      · exact (fits_rule _ room).short
      · exact (fits_closing player width row closed).short

theorem reserved_short (high : 13 ≤ height) :
    1 ≤ storyHeight player height ∧ storyHeight player height + reservedRows player = height := by
  have rows : Viewport.rows = 5 := rfl
  rw [storyHeight, reservedRows]
  split <;> split <;> omega

theorem playback_height (high : 13 ≤ height)
    (apart : choicesVisible player = true → endVisible player = false) :
    (playbackRows player catalog width height).length ≤ height := by
  obtain ⟨above, below, parts, around, _⟩ := playback_around player catalog width height apart
  have total := (reserved_short player height high).2
  have story : (shownStory player width height).length ≤ storyHeight player height := by
    simp only [shownStory, List.length_drop]
    omega
  rw [parts, List.length_append, List.length_append, List.length_map]
  omega

end Playback

end Layout

namespace Session

theorem playing_titled (catalog : Catalog) (session : Session) (picks : List Nat) (story : Story)
    (position : Int) (plays : Playing catalog session picks story position) :
    Frame.Solid (Layout.playbackTitle session.player catalog) := by
  have title : Layout.playbackTitle session.player catalog =
      story.fileName ++ " | " ++ story.scenario.title := by
    rw [Layout.playbackTitle, plays.active, Option.bind_some, plays.chosen]
  rw [title]
  exact Frame.solid_before _ _ (Frame.solid_after _ _ ⟨'|', by decide, by decide⟩)

theorem frame_shows_screen_iff (catalog : Catalog) (inputs : List Input) (width height : Nat)
    (playing : (after catalog inputs).player.screen = .playback) (wide : 18 ≤ width)
    (high : 13 ≤ height) :
    let player := (after catalog inputs).player
    let rows := Layout.rows player catalog width height
    let frame := Frame.draw player catalog width height
    frame.length = height ∧ rows.length ≤ height ∧
      (∀ row ∈ rows, row.text.length ≤ width) ∧
      ((rows.map fun row => Frame.line width row.text).Sublist frame ↔
        rows.length +
          (Layout.shownStory player width height).countP
            (fun line => Frame.isDoubled (.plain line)) +
          Layout.blankRows player ≤ height) := by
  intro player rows frame
  obtain ⟨story, position, plays⟩ := sound_playing catalog _ _ (after_sound catalog inputs) playing
  have titled := playing_titled catalog _ _ story position plays
  have framed := (after_framed catalog inputs).choice
  have apart (menu : Layout.choicesVisible player = true) : Layout.endVisible player = false := by
    rcases playing_halted catalog _ _ story position plays with ⟨_, goes⟩ | ⟨none, _⟩
    · rw [Layout.endVisible, goes, Bool.and_false]
    · simp [Layout.choicesVisible, player, none] at menu
  have screen : rows = Layout.playbackRows player catalog width height := by
    simp only [rows, player, Layout.rows, playing]
  have drawn : frame = Frame.ofRows width height rows := rfl
  have doubled := Layout.playback_doubled player catalog width height titled framed
  rw [← screen] at doubled
  refine ⟨Frame.grid_height width height rows, ?_, ?_, ?_⟩
  · rw [screen]
    exact Layout.playback_height player catalog width height high apart
  · rw [screen]
    exact Layout.playback_width player catalog width height wide titled framed
  · rw [Nat.add_assoc, ← doubled, drawn]
    constructor
    · obtain ⟨upper, lower, parts, closes, fits⟩ :=
        Layout.playback_parts player catalog width height titled framed
      have last := List.dropLast_concat_getLast closes
      have solid := (fits _ (List.mem_append_right _ (List.getLast_mem closes))).solid
      rw [← screen, ← last, ← List.append_assoc] at parts
      intro within
      refine Nat.not_lt.mp fun tight => ?_
      exact Frame.rows_cut width height rows _ _ solid parts tight within
    · exact Frame.rows_shown width height rows

theorem manor_menu_shown :
    let player := (after ⟨[.manor], []⟩ [.press ⟨.enter, false⟩, .press ⟨.enter, false⟩]).player
    ((Layout.rows player ⟨[.manor], []⟩ 40 24).map fun row => Frame.line 40 row.text).Sublist
      (Frame.draw player ⟨[.manor], []⟩ 40 24) := by
  intro player
  have playing : player.screen = .playback := by decide +kernel
  have room : (Layout.rows player ⟨[.manor], []⟩ 40 24).length +
      (Layout.shownStory player 40 24).countP (fun line => Frame.isDoubled (.plain line)) +
      Layout.blankRows player ≤ 24 := by decide +kernel
  exact (frame_shows_screen_iff ⟨[.manor], []⟩ _ 40 24 playing (by decide) (by decide)).2.2.2.mpr
    room

theorem manor_menu_cut :
    let player := (after ⟨[.manor], []⟩ [.press ⟨.enter, false⟩, .press ⟨.enter, false⟩]).player
    player.screen = .playback ∧
      ¬((Layout.rows player ⟨[.manor], []⟩ 40 13).map fun row => Frame.line 40 row.text).Sublist
        (Frame.draw player ⟨[.manor], []⟩ 40 13) := by
  decide +kernel

end Session

end Gamebook
