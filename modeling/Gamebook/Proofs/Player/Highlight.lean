import Gamebook.Proofs.Player.InStep
import Gamebook.Proofs.Player.Listing

set_option autoImplicit false

namespace Gamebook

namespace Layout

variable (player : Player) (catalog : Catalog) (width height : Nat)

theorem help_unmarked : ∀ row ∈ helpRows width player, row.isMarked = false := by
  intro row there
  rw [helpRows] at there
  split at there
  · rw [List.mem_singleton.mp there]
    exact Row.coloured_unmarked .magenta _ (by decide)
  · cases there

theorem picker_lists (stocked : catalog.scenarios ≠ [])
    (framed : player.picker.Framed catalog.scenarios.length) (title : String)
    (listed : catalog.titles[player.picker.selected]? = some title) :
    Lists (pickerRows player catalog width height) (textWidth width) player.picker catalog.titles
      title := by
  have full : catalog.isEmpty = false := by
    rw [Catalog.isEmpty, List.isEmpty_eq_false_iff]
    exact stocked
  have count : catalog.titles.length = catalog.scenarios.length := List.length_map _
  let above : List Row :=
    [.plain (Text.truncate (textWidth width) "Available scenarios:"),
      statusRow (textWidth width) player] ++
      warningRows (textWidth width) height catalog ++ [rule (textWidth width)]
  let keys : Row := .coloured .yellow
    (Text.truncate (textWidth width) "keys: up/down move | enter play | h help | q quit")
  let below : List Row := keys :: helpRows (textWidth width) player
  have parts : pickerRows player catalog width height =
      above ++ itemRows (textWidth width) player.picker catalog.titles ++
        List.replicate 0 (.plain " ") ++
        windowRows (textWidth width) player.picker catalog.titles.length ++ below := by
    simp only [pickerRows, full, count, above, below, keys, List.append_assoc, List.replicate_zero,
      List.nil_append, List.cons_append, Bool.false_eq_true, if_false]
  rw [parts]
  refine lists_between _ _ _ (count ▸ framed) above below 0 title listed ?_ ?_
  · intro row there
    simp only [above, warningRows, List.mem_append, List.mem_cons, List.not_mem_nil, or_false,
      List.mem_map] at there
    rcases there with ((rfl | rfl) | ⟨found, _, rfl⟩) | rfl
    · exact Row.plain_unmarked _
    · exact Row.coloured_unmarked .gray _ (by decide)
    · exact Row.coloured_unmarked .yellow _ (by decide)
    · exact Row.coloured_unmarked .gray _ (by decide)
  · intro row there
    rcases List.mem_cons.mp there with rfl | help
    · exact Row.coloured_unmarked .yellow _ (by decide)
    · exact help_unmarked player _ row help

theorem playback_lists (shown : player.typewriter.isBusy = false) (goes : player.isEnded = false)
    (framed : player.choice.Framed player.choices.length) (label : String)
    (listed : (player.choices.map (·.2))[player.choice.selected]? = some label) :
    Lists (playbackRows player catalog width height) (textWidth width) player.choice
      (player.choices.map (·.2)) label := by
  have count : (player.choices.map (·.2)).length = player.choices.length := List.length_map _
  have offered : player.choices.isEmpty = false := by
    rw [List.isEmpty_eq_false_iff, ← List.length_pos_iff]
    exact Nat.lt_of_le_of_lt (Nat.zero_le _) framed.selected
  have menu : choicesVisible player = true := by simp [choicesVisible, shown, offered]
  have ended : endVisible player = false := by simp [endVisible, goes]
  rw [playback_with_menu player catalog width height menu, ← count]
  refine lists_between _ _ _ (count ▸ framed) _ _ _ label listed ?_ ?_
  · intro row there
    simp only [openingRows, menuHeader, List.mem_append, List.mem_cons, List.not_mem_nil, or_false,
      List.mem_map] at there
    rcases there with ((rfl | rfl) | ⟨line, _, rfl⟩) | rfl | rfl
    · exact Row.plain_unmarked _
    · exact Row.coloured_unmarked .gray _ (by decide)
    · exact Row.plain_unmarked _
    · exact Row.coloured_unmarked .gray _ (by decide)
    · exact Row.coloured_unmarked .cyan _ (by decide)
  · intro row there
    simp only [closingRows, ended, Bool.false_eq_true, if_false, List.nil_append, List.mem_append,
      List.mem_singleton] at there
    rcases there with rfl | help
    · exact Row.coloured_unmarked .yellow _ (by decide)
    · exact help_unmarked player _ row help

end Layout

namespace Session

variable (catalog : Catalog) (session : Session) (picks : List Nat) (width height : Nat)

def screen : List Row := Layout.rows session.player catalog width height

-- The marked row of the picker is a scenario, and Enter starts it.
def StartsMarked : Prop :=
  ∃ story, catalog.scenarios[session.player.picker.selected]? = some story ∧
    Layout.Lists (session.screen catalog width height) (max (width - 2) 16)
      session.player.picker catalog.titles story.scenario.title ∧
    ∀ control,
      let entered := (session.press catalog ⟨.enter, control⟩).1
      entered.player.screen = .playback ∧
        entered.player.active = some session.player.picker.selected ∧
        entered.engine = some (Engine.start story.scenario).advance.2

-- The marked row of a menu is a choice of the branch last described, and Enter goes to its target.
def TakesMarked : Prop :=
  ∃ engine place branch choice, session.engine = some engine ∧
    engine.trail.getLast? = some place ∧ engine.scenario.branches[place]? = some branch ∧
    session.player.typewriter.shown.getLast? = some branch.description ∧
    branch.choices[session.player.choice.selected]? = some choice ∧
    Layout.Lists (session.screen catalog width height) (max (width - 2) 16)
      session.player.choice (branch.choices.map (·.label)) choice.label ∧
    ∀ control, ∃ moved, (session.press catalog ⟨.enter, control⟩).1.engine = some moved ∧
      moved.scenario = engine.scenario ∧ moved.current = choice.target.toInt

theorem picker_starts_marked (sound : Sound catalog session picks)
    (framed : session.Framed catalog) (stocked : catalog.scenarios ≠ [])
    (picking : session.player.screen = .picker) :
    session.StartsMarked catalog width height := by
  have within := sound.listed stocked
  have found := List.getElem?_eq_getElem within
  refine ⟨_, found, ?_, ?_⟩
  · simp only [screen, Layout.rows, picking]
    refine Layout.picker_lists session.player catalog width height stocked (framed.picker stocked)
      _ ?_
    rw [Catalog.titles, List.getElem?_map, found]
    rfl
  · intro control
    have starts := press_start catalog session _ control picking found
    rw [Engine.advance_start, Player.begin, Player.startAt, Player.come_to_boundary] at starts
    rw [starts]
    exact ⟨rfl, rfl, by rw [Engine.advance_start]⟩

theorem press_choice (engine chosen : Engine) (index : Nat) (label : String) (control : Bool)
    (playing : session.player.screen = .playback) (runs : session.engine = some engine)
    (shown : session.player.typewriter.isBusy = false)
    (row : session.player.choices[session.player.choice.selected]? = some (index, label))
    (accepted : engine.choose index = .ok chosen) :
    (session.press catalog ⟨.enter, control⟩).1 =
      ⟨(session.player.goOnTo chosen.advance.1).say ("chose " ++ label),
        some chosen.advance.2⟩ := by
  have offered : session.player.choices ≠ [] := List.ne_nil_of_mem (List.mem_of_getElem? row)
  simp [Session.press, isQuit, playing, pressInPlayback, runs, shown, takeChoice, offered, row,
    accepted, stay]

section Plays

variable (story : Story) (position : Int) (plays : Playing catalog session picks story position)

include plays

theorem playing_offers (offered : session.player.choices ≠ [])
    (shown : session.player.typewriter.isBusy = false) :
    ∃ (place : Nat) (branch : Branch), position = place ∧
      story.scenario.branches[place]? = some branch ∧
      session.player.choices.map (·.2) = branch.choices.map (·.label) ∧
      (Engine.settled story.scenario position (story.scenario.walk picks).visited).trail.getLast? =
        some place ∧
      session.player.typewriter.shown.getLast? = some branch.description := by
  have pending : story.scenario.menuAt position ≠ [] := by
    intro none
    rw [plays.choices, none] at offered
    exact offered rfl
  have goes := (Scenario.menu_nonempty story.scenario position).mp pending
  obtain ⟨branch, found, _, menu⟩ := Scenario.menu_onward story.scenario position goes
  obtain ⟨place, rfl, here⟩ := (branch_found _ _ _).mp found
  obtain ⟨told, visited, tells, visits⟩ :=
    Scenario.walk_last story.scenario 0 picks place plays.reached
  have described : story.scenario.describedAt place = [branch.description] := by
    rw [Scenario.describedAt, found]
    rfl
  have visit : story.scenario.visitAt place = [place] := by
    rw [Scenario.visitAt, found]
    rfl
  refine ⟨place, branch, rfl, here, ?_, ?_, ?_⟩
  · rw [plays.choices, menu, ← menu_labels branch, Gamebook.menuRows, List.map_map]
    rfl
  · rw [Engine.settled_trail, Scenario.walk, visits, visit]
    exact keep_recent_last _ _ _ (by decide)
  · obtain ⟨completed, whole, kept⟩ := plays.tells
    rw [(Typewriter.busy_unfinished _).mp shown, List.append_nil, Scenario.walk, tells,
      described] at whole
    rw [kept, ← whole]
    exact keep_recent_last _ _ _ (by decide)

theorem playback_takes_marked (framed : session.Framed catalog)
    (shown : session.player.typewriter.isBusy = false)
    (offered : session.player.choices ≠ []) : session.TakesMarked catalog width height := by
  obtain ⟨place, branch, rfl, here, labels, visited, described⟩ :=
    playing_offers catalog session picks story position plays offered shown
  have row := List.getElem?_eq_getElem (plays.aimed offered)
  obtain ⟨index, next, leads⟩ := selected_leads catalog session picks story place plays _ _ row
  obtain ⟨again, choice, found, taken, rfl⟩ := id leads
  obtain rfl : branch = again := by
    obtain ⟨_, same, there⟩ := (branch_found _ _ _).mp found
    rw [← Int.ofNat.inj same] at there
    exact Option.some.inj (here.symm.trans there)
  refine ⟨_, place, branch, choice, plays.engine, visited, here, described, taken, ?_, ?_⟩
  · have goes : session.player.isEnded = false := by
      rcases playing_halted catalog session picks story place plays with ⟨_, goes⟩ | ⟨none, _⟩
      · exact goes
      · exact absurd none offered
    simp only [screen, Layout.rows, plays.screen]
    rw [← labels]
    refine Layout.playback_lists session.player catalog width height shown goes
      (framed.choice offered) _ ?_
    rw [labels, List.getElem?_map, taken]
    rfl
  · intro control
    obtain ⟨chosen, accepted, going⟩ :=
      taken_playing catalog session picks story place plays "" _ _ leads shown
    rw [← index] at accepted
    rw [press_choice catalog session _ chosen _ _ control plays.screen plays.engine shown row
      accepted]
    exact ⟨_, going.engine, rfl, rfl⟩

end Plays

theorem enter_takes_marked (inputs : List Input) (stocked : catalog.scenarios ≠ []) :
    let session := after catalog inputs
    (session.player.screen = .picker → session.StartsMarked catalog width height) ∧
      (session.player.screen = .playback → session.player.typewriter.isBusy = false →
        session.player.choices ≠ [] → session.TakesMarked catalog width height) := by
  have sound := after_sound catalog inputs
  have framed := after_framed catalog inputs
  constructor
  · exact picker_starts_marked catalog _ _ width height sound framed stocked
  · intro playing shown offered
    obtain ⟨story, position, plays⟩ := sound_playing catalog _ _ sound playing
    exact playback_takes_marked catalog _ _ width height story position plays framed shown offered

theorem manor_leaving_marked :
    let session := after ⟨[.manor], []⟩
      [.press ⟨.enter, false⟩, .press ⟨.enter, false⟩, .press ⟨.down, false⟩]
    session.player.choice.selected = 1 ∧ session.TakesMarked ⟨[.manor], []⟩ 80 24 := by
  intro session
  have stocked : [Story.manor] ≠ [] := List.cons_ne_nil _ _
  have playing : session.player.screen = .playback := by decide +kernel
  have shown : session.player.typewriter.isBusy = false := by decide +kernel
  have offered : session.player.choices ≠ [] := by decide +kernel
  have second : session.player.choice.selected = 1 := by decide +kernel
  exact ⟨second,
    (enter_takes_marked ⟨[.manor], []⟩ 80 24 _ stocked).2 playing shown offered⟩

end Session

end Gamebook
