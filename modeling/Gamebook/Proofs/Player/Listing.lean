import Gamebook.Player.Layout
import Gamebook.Proofs.Player.Viewport
import Gamebook.Proofs.Text.Columns

set_option autoImplicit false

namespace Gamebook

def Row.isMarked (row : Row) : Bool := row.any fun span => span.colour = some .green

theorem filter_alone {α : Type} (test : α → Bool) (items : List α) (place : Nat) (item : α)
    (found : items[place]? = some item) (passes : test item = true)
    (others : ∀ place' item', items[place']? = some item' → place' ≠ place → test item' = false) :
    items.filter test = [item] := by
  induction items generalizing place with
  | nil => cases found
  | cons first rest ih =>
    cases place with
    | zero =>
      obtain rfl : first = item := Option.some.inj found
      have none : rest.filter test = [] := by
        refine List.filter_eq_nil_iff.mpr fun item' listed => ?_
        obtain ⟨place', here⟩ := List.mem_iff_getElem?.mp listed
        exact Bool.eq_false_iff.mp (others (place' + 1) item' here (Nat.succ_ne_zero place'))
      rw [List.filter_cons_of_pos passes, none]
    | succ place =>
      have fails := others 0 first rfl (Nat.succ_ne_zero place).symm
      rw [List.filter_cons_of_neg (Bool.eq_false_iff.mp fails)]
      refine ih place found fun place' item' here other => ?_
      exact others (place' + 1) item' here fun same => other (Nat.succ.inj same)

namespace Row

theorem plain_unmarked (text : String) : (plain text).isMarked = false := by
  simp [plain, isMarked]

theorem coloured_unmarked (colour : Colour) (text : String) (other : colour ≠ .green) :
    (coloured colour text).isMarked = false := by
  simp [coloured, isMarked, other]

end Row

namespace Layout

section Parts

variable (player : Player) (catalog : Catalog) (width height : Nat)

def shownStory : List String :=
  let story := storyRows (textWidth width) player
  story.drop (story.length - storyHeight player height)

def openingRows : List Row :=
  [.plain (Text.truncate (textWidth width) (playbackTitle player catalog)),
    statusRow (textWidth width) player]

def menuHeader : Row :=
  .coloured .cyan (Text.truncate (textWidth width) "choices (up/down + enter):")

def menuItems : List Row :=
  itemRows (textWidth width) player.choice (player.choices.map (·.2))

def closingRows : List Row :=
  (if endVisible player then
    [.coloured .green (Text.truncate (textWidth width) (endingText player.ending))] else []) ++
    [.coloured .yellow
      (Text.truncate (textWidth width)
        "keys: up/down move | enter choose/skip | r restart | b back | h help | q quit")] ++
    helpRows (textWidth width) player

theorem playback_with_menu (menu : choicesVisible player = true) :
    playbackRows player catalog width height =
      openingRows player catalog width ++ (shownStory player width height).map .plain ++
        [rule (textWidth width), menuHeader width] ++ menuItems player width ++
        List.replicate (Viewport.rows - (menuItems player width).length) (.plain " ") ++
        windowRows (textWidth width) player.choice player.choices.length ++
        closingRows player width := by
  simp only [playbackRows, menuRows, menu, openingRows, shownStory, menuHeader, menuItems,
    closingRows, if_true, List.append_assoc, List.cons_append, List.nil_append]

theorem playback_without_menu (menu : choicesVisible player = false) :
    playbackRows player catalog width height =
      openingRows player catalog width ++ (shownStory player width height).map .plain ++
        [rule (textWidth width)] ++ closingRows player width := by
  simp only [playbackRows, menu, openingRows, shownStory, closingRows, Bool.false_eq_true,
    if_false, List.append_assoc, List.cons_append, List.nil_append]

end Parts

-- A list among the rows of a screen, with the window line of a list that is longer than its
-- viewport. Every row starts with the number and the text of its item, cut to the width.
structure Lists (screen : List Row) (width : Nat) (viewport : Viewport) (texts : List String)
    (selected : String) : Prop where
  chosen : texts[viewport.selected]? = some selected
  marked : ∃ shown,
    Text.Cut (max (width - 2) 8) (toString (viewport.selected + 1) ++ ": " ++ selected) shown ∧
      screen.filter Row.isMarked = [[⟨"> " ++ shown, some .green⟩]]
  listed : ∃ above items blanks window below,
    screen = above ++ items ++ List.replicate blanks [⟨" ", none⟩] ++ window ++ below ∧
    items.length = min 5 texts.length ∧
    (∀ place < items.length, ∃ text shown, texts[viewport.offset + place]? = some text ∧
      Text.Cut (max (width - 2) 8) (toString (viewport.offset + place + 1) ++ ": " ++ text) shown ∧
      items[place]? =
        if viewport.offset + place = viewport.selected then some [⟨"> " ++ shown, some .green⟩]
        else some [⟨"  " ++ shown, none⟩]) ∧
    if items.length < texts.length then
      ∃ line,
        Text.Cut width ("window " ++ toString (viewport.offset + 1) ++ "-" ++
          toString (viewport.offset + items.length) ++ " / " ++ toString texts.length) line ∧
        window = [[⟨line, some .gray⟩]]
    else window = []

theorem item_row_cut (width number : Nat) (text : String) (selected : Bool) :
    ∃ shown, Text.Cut (max (width - 2) 8) (toString number ++ ": " ++ text) shown ∧
      itemRow width number text selected =
        if selected then [⟨"> " ++ shown, some .green⟩] else [⟨"  " ++ shown, none⟩] :=
  ⟨_, Text.truncate_cut _ _, rfl⟩

theorem item_marked (width number : Nat) (text : String) (selected : Bool) :
    (itemRow width number text selected).isMarked = selected := by
  cases selected <;> rfl

variable (width : Nat) (viewport : Viewport) (texts : List String)

theorem item_rows_at (place : Nat) (near : place < Viewport.rows) :
    (itemRows width viewport texts)[place]? =
      (texts[viewport.offset + place]?).map fun text =>
        itemRow width (viewport.offset + place + 1) text
          (viewport.offset + place = viewport.selected) := by
  simp only [itemRows, visibleItems, List.getElem?_map, List.getElem?_zipIdx,
    List.getElem?_take_of_lt near, List.getElem?_drop, Option.map_map, Nat.zero_add]
  rfl

variable (framed : viewport.Framed texts.length)

include framed

theorem item_rows_length :
    (itemRows width viewport texts).length = min Viewport.rows texts.length := by
  obtain ⟨selected, above, below, filled⟩ := framed
  simp only [itemRows, visibleItems, List.length_map, List.length_zipIdx, List.length_take,
    List.length_drop]
  omega

theorem item_rows_marked (chosen : String) (listed : texts[viewport.selected]? = some chosen) :
    (itemRows width viewport texts).filter Row.isMarked =
      [itemRow width (viewport.selected + 1) chosen true] := by
  have near : viewport.selected - viewport.offset < Viewport.rows := by
    have below := framed.below
    have above := framed.above
    omega
  have place : viewport.offset + (viewport.selected - viewport.offset) = viewport.selected :=
    Nat.add_sub_cancel' framed.above
  have here := item_rows_at width viewport texts _ near
  rw [place, listed, Option.map_some, decide_eq_true rfl] at here
  apply filter_alone Row.isMarked _ _ _ here (item_marked _ _ _ true)
  intro place' row found other
  have length := item_rows_length width viewport texts framed
  have within := (List.getElem?_eq_some_iff.mp found).1
  rw [item_rows_at width viewport texts place' (by omega), Option.map_eq_some_iff] at found
  obtain ⟨text, _, rfl⟩ := found
  rw [item_marked]
  exact decide_eq_false (by omega)

theorem window_rows_shown :
    if (itemRows width viewport texts).length < texts.length then
      ∃ line,
        Text.Cut width ("window " ++ toString (viewport.offset + 1) ++ "-" ++
          toString (viewport.offset + (itemRows width viewport texts).length) ++ " / " ++
          toString texts.length) line ∧
        windowRows width viewport texts.length = [[⟨line, some .gray⟩]]
    else windowRows width viewport texts.length = [] := by
  have length := item_rows_length width viewport texts framed
  by_cases long : Viewport.rows < texts.length
  · have shorter : (itemRows width viewport texts).length < texts.length := by omega
    have last : min (viewport.offset + Viewport.rows) texts.length =
        viewport.offset + (itemRows width viewport texts).length := by
      have filled := framed.filled
      omega
    rw [if_pos shorter, windowRows, if_pos long, windowRow, last]
    exact ⟨_, Text.truncate_cut _ _, rfl⟩
  · have whole : ¬(itemRows width viewport texts).length < texts.length := by omega
    rw [if_neg whole, windowRows, if_neg long]

theorem lists_between (above below : List Row) (blanks : Nat) (chosen : String)
    (listed : texts[viewport.selected]? = some chosen)
    (plainAbove : ∀ row ∈ above, row.isMarked = false)
    (plainBelow : ∀ row ∈ below, row.isMarked = false) :
    Lists
      (above ++ itemRows width viewport texts ++ List.replicate blanks (.plain " ") ++
        windowRows width viewport texts.length ++ below)
      width viewport texts chosen where
  chosen := listed
  marked := by
    have unmarked (rows : List Row) (each : ∀ row ∈ rows, row.isMarked = false) :
        rows.filter Row.isMarked = [] :=
      List.filter_eq_nil_iff.mpr fun row there => Bool.eq_false_iff.mp (each row there)
    have filler := unmarked (List.replicate blanks (.plain " ")) fun row there =>
      List.eq_of_mem_replicate there ▸ Row.plain_unmarked " "
    have window := unmarked (windowRows width viewport texts.length) fun row there => by
      rw [windowRows] at there
      split at there
      · rw [List.mem_singleton.mp there]
        exact Row.coloured_unmarked _ _ (by decide)
      · cases there
    obtain ⟨shown, cut, row⟩ := item_row_cut width (viewport.selected + 1) chosen true
    refine ⟨shown, cut, ?_⟩
    simp only [List.filter_append, unmarked above plainAbove, unmarked below plainBelow, filler,
      window, item_rows_marked width viewport texts framed chosen listed, List.append_nil,
      List.nil_append]
    rw [row]
    rfl
  listed := by
    refine ⟨above, _, blanks, _, below, rfl, item_rows_length width viewport texts framed, ?_,
      window_rows_shown width viewport texts framed⟩
    intro place within
    have length := item_rows_length width viewport texts framed
    have row := item_rows_at width viewport texts place (by omega)
    rw [List.getElem?_eq_getElem within] at row
    obtain ⟨text, found, _⟩ := Option.map_eq_some_iff.mp row.symm
    rw [found, Option.map_some] at row
    obtain ⟨shown, cut, same⟩ := item_row_cut width (viewport.offset + place + 1) text
      (viewport.offset + place = viewport.selected)
    refine ⟨text, shown, found, cut, ?_⟩
    rw [List.getElem?_eq_getElem within, row, same]
    by_cases here : viewport.offset + place = viewport.selected <;> simp [here]

end Layout

end Gamebook
