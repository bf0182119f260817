import Gamebook.Proofs.Player.Invariant

set_option autoImplicit false

namespace Gamebook.Session

structure InStep (catalog : Catalog) (session : Session) : Prop where
  running : session.engine.isSome = true ↔ session.player.screen = .playback
  active : session.player.active.isSome = true ↔ session.player.screen = .playback
  story : session.player.screen = .playback →
    session.player.active = some session.player.picker.selected ∧
      ∃ story engine, catalog.scenarios[session.player.picker.selected]? = some story ∧
        session.engine = some engine ∧ engine.scenario = story.scenario
  choices : session.player.choices =
    ((session.engine.bind (·.pending)).getD []).map fun item => (item.index, item.label)
  waiting : session.player.choices = [] ↔ session.engine.bind (·.pending) = none
  ending : session.player.ending = session.engine.bind (·.ending)
  halted : session.player.screen = .playback →
    (session.player.choices ≠ [] ∧ session.player.isEnded = false) ∨
      (session.player.choices = [] ∧ session.player.isEnded = true)
  aimed : session.player.choices ≠ [] →
    session.player.choice.selected < session.player.choices.length
  listed : catalog.scenarios ≠ [] →
    session.player.picker.selected < catalog.scenarios.length
  shown : session.player.typewriter.shown.length ≤ 500
  unfinished : session.player.typewriter.typing.toList.length +
    session.player.typewriter.queue.length ≤ 1

variable (catalog : Catalog) (session : Session) (picks : List Nat)

theorem picking_in_step (sound : Sound catalog session picks) (picking : session.Picking) :
    session.InStep catalog where
  running := by simp [picking.engine, picking.screen]
  active := by simp [picking.active, picking.screen]
  story := by simp [picking.screen]
  choices := by simp [picking.choices, picking.engine]
  waiting := by simp [picking.choices, picking.engine]
  ending := by simp [picking.ending, picking.engine]
  halted := by simp [picking.screen]
  aimed := by simp [picking.choices]
  listed := sound.listed
  shown := by simp [picking.typewriter]
  unfinished := by simp [picking.typewriter]

section Plays

variable (story : Story) (position : Int) (plays : Playing catalog session picks story position)

include plays

theorem playing_pending : session.engine.bind (·.pending) =
    if (story.scenario.endingAt position).isSome then none
    else some (story.scenario.menuAt position) := by
  rw [plays.engine]
  rfl

theorem playing_halted :
    (session.player.choices ≠ [] ∧ session.player.isEnded = false) ∨
      (session.player.choices = [] ∧ session.player.isEnded = true) := by
  rw [plays.choices, Player.isEnded, plays.ending]
  cases ends : story.scenario.endingAt position with
  | none =>
    have listed := (Scenario.menu_nonempty story.scenario position).mpr ends
    exact .inl ⟨fun empty => listed (List.map_eq_nil_iff.mp empty), rfl⟩
  | some reason =>
    rw [Scenario.menu_at_end story.scenario position reason ends]
    exact .inr ⟨rfl, rfl⟩

theorem playing_in_step (sound : Sound catalog session picks) : session.InStep catalog where
  running := by simp [plays.engine, plays.screen]
  active := by simp [plays.active, plays.screen]
  story := fun _ => ⟨plays.active, story, _, plays.chosen, plays.engine, rfl⟩
  choices := by
    rw [playing_pending catalog session picks story position plays, plays.choices]
    cases ends : story.scenario.endingAt position with
    | none => rfl
    | some reason =>
      rw [Scenario.menu_at_end story.scenario position reason ends]
      rfl
  waiting := by
    rw [playing_pending catalog session picks story position plays]
    rcases playing_halted catalog session picks story position plays with
      ⟨offered, goes⟩ | ⟨empty, ended⟩
    · rw [Player.isEnded, plays.ending] at goes
      simp [offered, goes]
    · rw [Player.isEnded, plays.ending] at ended
      simp [empty, ended]
  ending := by
    rw [plays.ending, plays.engine]
    rfl
  halted := fun _ => playing_halted catalog session picks story position plays
  aimed := plays.aimed
  listed := sound.listed
  shown := Typewriter.tells_shown _ _ plays.tells
  unfinished := by
    have single := plays.single
    rwa [Typewriter.unfinished, List.length_append] at single

end Plays

theorem every_session_in_step (catalog : Catalog) (inputs : List Input) :
    let session := after catalog inputs
    session.InStep catalog ∧
      ∀ press, ∃ response, (session.press catalog press).2 = .ok response := by
  have sound := after_sound catalog inputs
  refine ⟨?_, fun press => (press_sound catalog _ _ press sound).1⟩
  rcases sound.state with picking | ⟨story, position, plays⟩
  · exact picking_in_step catalog _ _ sound picking
  · exact playing_in_step catalog _ _ story position plays sound

theorem press_restart (engine : Engine) (control : Bool)
    (playing : session.player.screen = .playback) (runs : session.engine = some engine) :
    (session.press catalog ⟨.char 'r', control⟩).1 = session.restart engine := by
  simp [Session.press, isQuit, playing, pressInPlayback, runs, stay]

theorem press_start (story : Story) (control : Bool)
    (picking : session.player.screen = .picker)
    (found : catalog.scenarios[session.player.picker.selected]? = some story) :
    (session.press catalog ⟨.enter, control⟩).1 =
      ⟨(session.player.begin session.player.picker.selected
          (Engine.start story.scenario).advance.1).say ("playing " ++ story.fileName),
        some (Engine.start story.scenario).advance.2⟩ := by
  have stocked := catalog.listed_stocked _ story found
  simp [Session.press, isQuit, picking, pressInPicker, stocked, startSelected, found, stay]

theorem restart_afresh (story : Story) (position : Int) (other : Session) (control pressed : Bool)
    (plays : Playing catalog session picks story position)
    (picking : other.player.screen = .picker)
    (same : other.player.picker.selected = session.player.picker.selected) :
    let fresh := (other.press catalog ⟨.enter, pressed⟩).1
    (session.press catalog ⟨.char 'r', control⟩).1 =
      ⟨{ fresh.player with
          picker := session.player.picker
          status := "restarted"
          helpVisible := session.player.helpVisible },
        fresh.engine⟩ := by
  have found : catalog.scenarios[other.player.picker.selected]? = some story := by
    rw [same]
    exact plays.chosen
  rw [press_start catalog other story pressed picking found,
    press_restart catalog session _ control plays.screen plays.engine, restart, same]
  simp only [Engine.restart, Engine.settled, Engine.advance_start, Player.startAt, Player.begin,
    Player.come_to_boundary, Player.say, plays.screen, plays.active]

theorem told_suffix (completed unfinished : List String) (limit : Nat) :
    keepRecent limit completed ++ unfinished =
      keepRecent (limit + unfinished.length) (completed ++ unfinished) := by
  have drop : (completed ++ unfinished).length - (limit + unfinished.length) =
      completed.length - limit := by
    rw [List.length_append]
    omega
  rw [keepRecent, keepRecent, drop, List.drop_append_of_le_length (Nat.sub_le _ _)]

theorem playback_follows_picks (catalog : Catalog) (inputs : List Input)
    (playing : (after catalog inputs).player.screen = .playback) :
    let session := after catalog inputs
    let writer := session.player.typewriter
    let unfinished := writer.typing.toList ++ writer.queue
    ∃ index story boundary engine completed told,
      session.player.active = some index ∧ catalog.scenarios[index]? = some story ∧
      Engine.follow story.scenario (Session.picks catalog inputs) = .ok (boundary, engine) ∧
      session.engine = some engine ∧
      told = Script.told story.scenario (Session.picks catalog inputs) ∧
      told = completed ++ unfinished ∧
      writer.shown = keepRecent 500 completed ∧
      writer.shown ++ unfinished = keepRecent (500 + unfinished.length) told ∧
      ∀ others control pressed,
        (after catalog others).player.screen = .picker →
        (after catalog others).player.picker.selected = index →
        let fresh := ((after catalog others).press catalog ⟨.enter, pressed⟩).1
        (session.press catalog ⟨.char 'r', control⟩).1 =
          ⟨{ fresh.player with
              picker := session.player.picker
              status := "restarted"
              helpVisible := session.player.helpVisible },
            fresh.engine⟩ := by
  have sound := after_sound catalog inputs
  obtain ⟨story, position, plays⟩ := sound_playing catalog _ _ sound playing
  obtain ⟨completed, whole, shown⟩ := plays.tells
  have told := Script.told_walk story.scenario (Session.picks catalog inputs)
  refine ⟨_, story, _, _, completed, _, plays.active, plays.chosen,
    Engine.follow_reached story.scenario _ position plays.reached, plays.engine, rfl, ?_, shown,
    ?_, ?_⟩
  · rw [told]
    exact whole
  · rw [told, shown]
    exact (told_suffix completed _ 500).trans (congrArg _ whole.symm)
  · intro others control pressed picking same
    exact restart_afresh catalog _ _ story position _ control pressed plays picking same

theorem manor_playback :
    let catalog : Catalog := ⟨[.manor], []⟩
    let inputs : List Input :=
      [.press ⟨.enter, false⟩, .press ⟨.enter, false⟩, .press ⟨.down, false⟩,
        .press ⟨.enter, false⟩, .tick]
    let session := after catalog inputs
    let writer := session.player.typewriter
    session.player.screen = .playback ∧
      ∃ boundary engine completed,
        Engine.follow Story.manor.scenario [1] = .ok (boundary, engine) ∧
        session.engine = some engine ∧
        Script.told Story.manor.scenario [1] =
          completed ++ (writer.typing.toList ++ writer.queue) ∧
        writer.shown = keepRecent 500 completed := by
  intro catalog inputs session writer
  have playing : session.player.screen = .playback := by decide +kernel
  have picked : Session.picks catalog inputs = [1] := by decide +kernel
  have first : session.player.active = some 0 := by decide +kernel
  obtain ⟨index, story, boundary, engine, completed, _, active, found, followed, runs, rfl, whole,
    shown, _⟩ := playback_follows_picks catalog inputs playing
  obtain rfl : 0 = index := Option.some.inj (first.symm.trans active)
  obtain rfl : Story.manor = story := Option.some.inj found
  rw [picked] at followed whole
  exact ⟨playing, boundary, engine, completed, followed, runs, whole, shown⟩

end Gamebook.Session
