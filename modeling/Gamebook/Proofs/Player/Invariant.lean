import Gamebook.Proofs.Boundary.Advance
import Gamebook.Proofs.Player.Turn
import Gamebook.Proofs.Player.Typewriter

set_option autoImplicit false

namespace Gamebook

def menuRows (items : List MenuItem) : List (Nat × String) :=
  items.map fun item => (item.index, item.label)

theorem step_selected (length : Nat) (move : Move) (viewport : Viewport)
    (within : viewport.selected < length) : (viewport.step length move).selected < length := by
  cases move <;> simp only [Viewport.step] <;> omega

namespace Player

theorem come_to_boundary (scenario : Scenario) (position : Int) (player : Player) :
    player.comeTo (scenario.boundaryAt position) =
      { player with
        choices := menuRows (scenario.menuAt position)
        ending := scenario.endingAt position
        choice := {} } := by
  rw [Scenario.boundaryAt]
  cases ends : scenario.endingAt position with
  | none => rfl
  | some reason =>
    rw [Scenario.menu_at_end scenario position reason ends]
    rfl

end Player

namespace Session

structure Picking (session : Session) : Prop where
  screen : session.player.screen = .picker
  engine : session.engine = none
  active : session.player.active = none
  typewriter : session.player.typewriter = {}
  choices : session.player.choices = []
  ending : session.player.ending = none

structure Playing (catalog : Catalog) (session : Session) (picks : List Nat) (story : Story)
    (position : Int) : Prop where
  screen : session.player.screen = .playback
  active : session.player.active = some session.player.picker.selected
  chosen : catalog.scenarios[session.player.picker.selected]? = some story
  reached : story.scenario.Reaches 0 picks position
  engine : session.engine =
    some (.settled story.scenario position (story.scenario.walk picks).visited)
  choices : session.player.choices = menuRows (story.scenario.menuAt position)
  ending : session.player.ending = story.scenario.endingAt position
  aimed : session.player.choices ≠ [] →
    session.player.choice.selected < session.player.choices.length
  tells : session.player.typewriter.Tells (story.scenario.walk picks).told
  single : session.player.typewriter.unfinished.length ≤ 1

structure Sound (catalog : Catalog) (session : Session) (picks : List Nat) : Prop where
  listed : catalog.scenarios ≠ [] →
    session.player.picker.selected < catalog.scenarios.length
  state : session.Picking ∨ ∃ story position, Playing catalog session picks story position

theorem fresh_sound (catalog : Catalog) : Sound catalog {} [] where
  listed := List.length_pos_iff.mpr
  state := .inl ⟨rfl, rfl, rfl, rfl, rfl, rfl⟩

variable (catalog : Catalog) (session : Session) (picks : List Nat)

theorem sound_picking (sound : Sound catalog session picks)
    (picking : session.player.screen = .picker) : session.Picking := by
  rcases sound.state with still | ⟨story, position, playing⟩
  · exact still
  · cases picking.symm.trans playing.screen

theorem sound_playing (sound : Sound catalog session picks)
    (playing : session.player.screen = .playback) :
    ∃ story position, Playing catalog session picks story position := by
  rcases sound.state with picking | plays
  · cases playing.symm.trans picking.screen
  · exact plays

theorem noted_sound (status : String) (help : Bool) (sound : Sound catalog session picks) :
    Sound catalog
      (session.update fun player => { player with status := status, helpVisible := help })
      picks where
  listed := sound.listed
  state := by
    rcases sound.state with picking | ⟨story, position, playing⟩
    · exact .inl { picking with }
    · exact .inr ⟨story, position, { playing with }⟩

theorem browsed_sound (move : Move) (sound : Sound catalog session picks)
    (picking : session.player.screen = .picker) :
    Sound catalog (session.update (movePicker catalog move)) picks where
  listed := fun stocked => step_selected _ move _ (sound.listed stocked)
  state := .inl { sound_picking catalog session picks sound picking with }

theorem left_sound (status : String) (sound : Sound catalog session picks) :
    Sound catalog ⟨session.player.leave.say status, none⟩ picks where
  listed := sound.listed
  state := .inl ⟨rfl, rfl, rfl, rfl, rfl, rfl⟩

theorem begun_sound (player : Player) (story : Story) (status : String)
    (screen : player.screen = .playback) (active : player.active = some player.picker.selected)
    (chosen : catalog.scenarios[player.picker.selected]? = some story) :
    Sound catalog
      ⟨(player.startAt (Engine.start story.scenario).advance.1).say status,
        some (Engine.start story.scenario).advance.2⟩ [] := by
  rw [Engine.advance_start, Player.startAt, Player.come_to_boundary, Scenario.boundary_texts]
  have told : (story.scenario.walk []).told = story.scenario.describedAt 0 :=
    (Scenario.walk_arrival story.scenario 0).1
  exact
    { listed := fun _ => (List.getElem?_eq_some_iff.mp chosen).1
      state := .inr ⟨story, 0,
        { screen := screen
          active := active
          chosen := chosen
          reached := .start
          engine := rfl
          choices := rfl
          ending := rfl
          aimed := List.length_pos_iff.mpr
          tells := told ▸ Typewriter.fresh_tells _
          single := Scenario.described_once story.scenario 0 }⟩ }

section Plays

variable (story : Story) (position : Int) (plays : Playing catalog session picks story position)

include plays

theorem playing_sound : Sound catalog session picks where
  listed := fun _ => (List.getElem?_eq_some_iff.mp plays.chosen).1
  state := .inr ⟨story, position, plays⟩

theorem typed_playing (writer : Typewriter)
    (tells : writer.Tells (story.scenario.walk picks).told)
    (single : writer.unfinished.length ≤ 1) :
    Playing catalog ⟨{ session.player with typewriter := writer }, session.engine⟩ picks story
      position :=
  { plays with
    tells := tells
    single := single }

theorem aimed_playing (move : Move) :
    Playing catalog (session.update (aim move)) picks story position :=
  { plays with aimed := fun offered => step_selected _ move _ (plays.aimed offered) }

theorem selected_leads (index : Nat) (label : String)
    (row : session.player.choices[session.player.choice.selected]? = some (index, label)) :
    index = session.player.choice.selected ∧
      ∃ next, story.scenario.Leads position session.player.choice.selected next := by
  rw [plays.choices, menuRows, List.getElem?_map, Option.map_eq_some_iff] at row
  obtain ⟨item, listed, same⟩ := row
  have place := story.scenario.menu_index position _ item listed
  have leads := (Scenario.leads_menu story.scenario position _ _).mpr ⟨item, listed, rfl⟩
  exact ⟨(congrArg Prod.fst same).symm.trans place, _, leads⟩

theorem taken_playing (status : String) (pick : Nat) (next : Int)
    (leads : story.scenario.Leads position pick next)
    (shown : session.player.typewriter.isBusy = false) :
    ∃ chosen,
      (Engine.settled story.scenario position (story.scenario.walk picks).visited).choose pick =
        .ok chosen ∧
      Playing catalog
        ⟨(session.player.goOnTo chosen.advance.1).say status, some chosen.advance.2⟩
        (picks ++ [pick]) story next := by
  refine ⟨_, Engine.choose_settled story.scenario position _ pick next leads, ?_⟩
  rw [Engine.advance_chosen story.scenario picks position pick next plays.reached leads,
    Player.goOnTo, Player.come_to_boundary, Scenario.boundary_texts]
  have told : (story.scenario.walk (picks ++ [pick])).told =
      (story.scenario.walk picks).told ++ story.scenario.describedAt next :=
    (Scenario.walk_concat story.scenario 0 picks position pick next plays.reached leads).1
  have idle := (Typewriter.busy_unfinished _).mp shown
  exact
    { screen := plays.screen
      active := plays.active
      chosen := plays.chosen
      reached := .onward picks position pick next plays.reached leads
      engine := rfl
      choices := rfl
      ending := rfl
      aimed := List.length_pos_iff.mpr
      tells := told ▸ Typewriter.enqueue_tells _ _ _ plays.tells
      single := by
        simp only [Player.say, Typewriter.enqueue_unfinished, idle, List.nil_append]
        exact Scenario.described_once story.scenario next }

end Plays

-- One case for each thing a key press can come to; those that fail are ruled out.
theorem turn_sound (press : KeyPress) (answer : Except KeyError Response) (after : Session)
    (later : List Nat) (sound : Sound catalog session picks)
    (turn : Turn catalog session picks press answer after later) :
    (∃ response, answer = .ok response) ∧ Sound catalog after later := by
  cases turn with
  | quit asked => exact ⟨⟨_, rfl⟩, sound⟩
  | helped asked => exact ⟨⟨_, rfl⟩, noted_sound catalog session picks _ _ sound⟩
  | passed => exact ⟨⟨_, rfl⟩, sound⟩
  | said status => exact ⟨⟨_, rfl⟩, noted_sound catalog session picks status _ sound⟩
  | browsed move picking =>
    exact ⟨⟨_, rfl⟩, browsed_sound catalog session picks move sound picking⟩
  | begun story asked picking found =>
    exact ⟨⟨_, rfl⟩, begun_sound catalog _ story _ rfl rfl found⟩
  | unlisted asked picking stocked missing =>
    exact absurd (sound.listed stocked) (Nat.not_lt.mpr (List.getElem?_eq_none_iff.mp missing))
  | left asked playing => exact ⟨⟨_, rfl⟩, left_sound catalog session picks "ready" sound⟩
  | stranded playing idle =>
    obtain ⟨story, position, plays⟩ := sound_playing catalog session picks sound playing
    cases idle.symm.trans plays.engine
  | restarted engine asked playing runs =>
    obtain ⟨story, position, plays⟩ := sound_playing catalog session picks sound playing
    obtain rfl := Option.some.inj (runs.symm.trans plays.engine)
    exact ⟨⟨_, rfl⟩,
      begun_sound catalog session.player story _ plays.screen plays.active plays.chosen⟩
  | flushed playing =>
    obtain ⟨story, position, plays⟩ := sound_playing catalog session picks sound playing
    have flushes := typed_playing catalog session picks story position plays
      session.player.typewriter.flush (Typewriter.flush_tells _ _ plays.tells) (Nat.zero_le 1)
    exact ⟨⟨_, rfl⟩, playing_sound catalog _ picks story position flushes⟩
  | aimed move playing shown offered =>
    obtain ⟨story, position, plays⟩ := sound_playing catalog session picks sound playing
    have aims := aimed_playing catalog session picks story position plays move
    exact ⟨⟨_, rfl⟩, playing_sound catalog _ picks story position aims⟩
  | unaimed asked playing offered missing =>
    obtain ⟨story, position, plays⟩ := sound_playing catalog session picks sound playing
    exact absurd (plays.aimed offered) (Nat.not_lt.mpr (List.getElem?_eq_none_iff.mp missing))
  | refused engine index label error asked playing runs row refusal =>
    obtain ⟨story, position, plays⟩ := sound_playing catalog session picks sound playing
    obtain ⟨rfl, next, leads⟩ :=
      selected_leads catalog session picks story position plays index label row
    obtain rfl := Option.some.inj (runs.symm.trans plays.engine)
    have taken := Engine.choose_settled story.scenario position (story.scenario.walk picks).visited
      _ next leads
    cases refusal.symm.trans taken
  | taken engine index label chosen asked playing runs shown row accepted =>
    obtain ⟨story, position, plays⟩ := sound_playing catalog session picks sound playing
    obtain ⟨rfl, next, leads⟩ :=
      selected_leads catalog session picks story position plays index label row
    obtain rfl := Option.some.inj (runs.symm.trans plays.engine)
    obtain ⟨reached, taken, going⟩ := taken_playing catalog session picks story position plays
      ("chose " ++ label) _ next leads shown
    obtain rfl : chosen = reached := Except.ok.inj (accepted.symm.trans taken)
    exact ⟨⟨_, rfl⟩, playing_sound catalog _ _ story next going⟩

theorem press_sound (press : KeyPress) (sound : Sound catalog session picks) :
    (∃ response, (session.press catalog press).2 = .ok response) ∧
      Sound catalog (session.press catalog press).1
        (session.picksNext catalog picks (.press press)) :=
  turn_sound catalog session picks press _ _ _ sound (press_turn catalog session picks press)

theorem tick_sound (sound : Sound catalog session picks) : Sound catalog session.tick.2 picks := by
  rcases sound.state with picking | ⟨story, position, plays⟩
  · have idle : session.player.typewriter.tick.2 = {} := by rw [picking.typewriter]; rfl
    exact
      { listed := sound.listed
        state := .inl { picking with typewriter := idle } }
  · have types := typed_playing catalog session picks story position plays _
      (Typewriter.tick_tells _ _ plays.tells)
      (Nat.le_trans (Typewriter.tick_unfinished _) plays.single)
    exact playing_sound catalog _ picks story position types

theorem receive_sound (input : Input) (sound : Sound catalog session picks) :
    Sound catalog (session.receive catalog input) (session.picksNext catalog picks input) := by
  cases input with
  | press press => exact (press_sound catalog session picks press sound).2
  | tick =>
    have kept : session.picksNext catalog picks .tick = picks := List.append_nil picks
    rw [kept]
    exact tick_sound catalog session picks sound

theorem inputs_sound (inputs : List Input) (sound : Sound catalog session picks) :
    Sound catalog (inputs.foldl (receive catalog) session)
      (session.picksFrom catalog picks inputs) := by
  induction inputs generalizing session picks with
  | nil => exact sound
  | cons input rest ih =>
    rw [List.foldl_cons, picks_from_next]
    exact ih _ _ (receive_sound catalog session picks input sound)

theorem after_sound (inputs : List Input) :
    Sound catalog (after catalog inputs) (Session.picks catalog inputs) :=
  inputs_sound catalog {} [] inputs (fresh_sound catalog)

end Session

end Gamebook
