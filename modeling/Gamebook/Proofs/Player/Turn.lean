import Gamebook.Player.History

set_option autoImplicit false

namespace Gamebook.Session

def picksNext (catalog : Catalog) (session : Session) (picks : List Nat) (input : Input) :
    List Nat :=
  if session.startsOver catalog input then [] else picks ++ (session.pick? input).toList

theorem picks_from_next (catalog : Catalog) (session : Session) (picks : List Nat) (input : Input)
    (rest : List Input) :
    session.picksFrom catalog picks (input :: rest) =
      (session.receive catalog input).picksFrom catalog
        (session.picksNext catalog picks input) rest := rfl

def aim (move : Move) (player : Player) : Player :=
  { player with choice := player.choice.step player.choices.length move }

-- One constructor for each thing a key press can come to, with the guards it passed.
inductive Turn (catalog : Catalog) (session : Session) (picks : List Nat) (press : KeyPress) :
    Except KeyError Response → Session → List Nat → Prop where
  | quit (asked : isQuit press = true) : Turn catalog session picks press (.ok .quit) session picks
  | helped (asked : press.key = .char 'h') :
      Turn catalog session picks press (.ok .stay) (session.update toggleHelp) picks
  | passed : Turn catalog session picks press (.ok .stay) session picks
  | said (status : String) :
      Turn catalog session picks press (.ok .stay) (session.update (.say status)) picks
  | browsed (move : Move) (picking : session.player.screen = .picker) :
      Turn catalog session picks press (.ok .stay) (session.update (movePicker catalog move)) picks
  | begun (story : Story) (asked : press.key = .enter) (picking : session.player.screen = .picker)
      (found : catalog.scenarios[session.player.picker.selected]? = some story) :
      Turn catalog session picks press (.ok .stay)
        ⟨(session.player.begin session.player.picker.selected
            (Engine.start story.scenario).advance.1).say ("playing " ++ story.fileName),
          some (Engine.start story.scenario).advance.2⟩ []
  | unlisted (asked : press.key = .enter) (picking : session.player.screen = .picker)
      (stocked : catalog.scenarios ≠ [])
      (missing : catalog.scenarios[session.player.picker.selected]? = none) :
      Turn catalog session picks press (.error .noScenarioSelected) session picks
  | left (asked : press.key = .char 'b') (playing : session.player.screen = .playback) :
      Turn catalog session picks press (.ok .stay) ⟨session.player.leave.say "ready", none⟩ picks
  | stranded (playing : session.player.screen = .playback) (idle : session.engine = none) :
      Turn catalog session picks press (.error .nothingPlaying) session picks
  | restarted (engine : Engine) (asked : press.key = .char 'r')
      (playing : session.player.screen = .playback) (runs : session.engine = some engine) :
      Turn catalog session picks press (.ok .stay) (session.restart engine) []
  | flushed (playing : session.player.screen = .playback) :
      Turn catalog session picks press (.ok .stay) (session.update Player.flush) picks
  | aimed (move : Move) (playing : session.player.screen = .playback)
      (shown : session.player.typewriter.isBusy = false) (offered : session.player.choices ≠ []) :
      Turn catalog session picks press (.ok .stay) (session.update (aim move)) picks
  | unaimed (asked : press.key = .enter) (playing : session.player.screen = .playback)
      (offered : session.player.choices ≠ [])
      (missing : session.player.choices[session.player.choice.selected]? = none) :
      Turn catalog session picks press (.error .noChoices) session
        (picks ++ [session.player.choice.selected])
  | refused (engine : Engine) (index : Nat) (label : String) (error : ChoiceError)
      (asked : press.key = .enter) (playing : session.player.screen = .playback)
      (runs : session.engine = some engine)
      (row : session.player.choices[session.player.choice.selected]? = some (index, label))
      (refusal : engine.choose index = .error error) :
      Turn catalog session picks press (.error (.choice error)) session
        (picks ++ [session.player.choice.selected])
  | taken (engine : Engine) (index : Nat) (label : String) (chosen : Engine)
      (asked : press.key = .enter) (playing : session.player.screen = .playback)
      (runs : session.engine = some engine) (shown : session.player.typewriter.isBusy = false)
      (row : session.player.choices[session.player.choice.selected]? = some (index, label))
      (accepted : engine.choose index = .ok chosen) :
      Turn catalog session picks press (.ok .stay)
        ⟨(session.player.goOnTo chosen.advance.1).say ("chose " ++ label),
          some chosen.advance.2⟩
        (picks ++ [session.player.choice.selected])

section Picks

variable (catalog : Catalog) (session : Session) (picks : List Nat) (key : Key) (control : Bool)

theorem picks_kept (noEnter : key ≠ .enter) (noRestart : key ≠ .char 'r') :
    session.picksNext catalog picks (.press ⟨key, control⟩) = picks := by
  have begins : session.startsOver catalog (.press ⟨key, control⟩) = false := by
    unfold startsOver
    split
    · rename_i same
      cases same
      exact absurd rfl noEnter
    · rename_i same
      cases same
      exact absurd rfl noRestart
    · rfl
  have takes : session.pick? (.press ⟨key, control⟩) = none := by
    unfold pick?
    split
    · rename_i same
      cases same
      exact absurd rfl noEnter
    · rfl
  simp [picksNext, begins, takes]

theorem picks_in_picker (picking : session.player.screen = .picker) :
    session.picksNext catalog picks (.press ⟨.enter, control⟩) =
      if (catalog.scenarios[session.player.picker.selected]?).isSome then [] else picks := by
  simp [picksNext, startsOver, pick?, picking]

theorem picks_at_menu (playing : session.player.screen = .playback) :
    session.picksNext catalog picks (.press ⟨.enter, control⟩) =
      if session.engine.isSome ∧ session.player.typewriter.isBusy = false ∧
          session.player.choices ≠ [] then picks ++ [session.player.choice.selected]
      else picks := by
  by_cases taking : session.engine.isSome ∧ session.player.typewriter.isBusy = false ∧
      session.player.choices ≠ []
  · simp [picksNext, startsOver, pick?, playing, taking]
  · rw [if_neg taking]
    simp [picksNext, startsOver, pick?, playing]
    grind

theorem picks_restarted :
    session.picksNext catalog picks (.press ⟨.char 'r', control⟩) =
      if session.player.screen = .playback ∧ session.engine.isSome then [] else picks := by
  simp [picksNext, startsOver, pick?]

end Picks

section Presses

variable (catalog : Catalog) (session : Session) (picks : List Nat) (key : Key) (control : Bool)

theorem turn_in_picker (picking : session.player.screen = .picker) :
    Turn catalog session picks ⟨key, control⟩ (session.pressInPicker catalog key).2
      (session.pressInPicker catalog key).1
      (session.picksNext catalog picks (.press ⟨key, control⟩)) := by
  have restarts := picks_restarted catalog session picks control
  have enters := picks_in_picker catalog session picks control picking
  rw [if_neg (by simp [picking])] at restarts
  unfold pressInPicker
  by_cases empty : catalog.isEmpty = true
  · have kept : session.picksNext catalog picks (.press ⟨key, control⟩) = picks := by
      have missing : catalog.scenarios = [] := List.isEmpty_iff.mp empty
      by_cases entered : key = .enter
      · rw [entered, enters, missing]
        rfl
      · by_cases again : key = .char 'r'
        · rw [again, restarts]
        · exact picks_kept catalog session picks key control entered again
    rw [if_pos empty, kept]
    exact .said "no scenarios"
  · rw [if_neg empty]
    cases key with
    | up =>
      rw [picks_kept catalog session picks .up control (by simp) (by simp)]
      exact .browsed .up picking
    | down =>
      rw [picks_kept catalog session picks .down control (by simp) (by simp)]
      exact .browsed .down picking
    | enter =>
      rw [enters]
      cases found : catalog.scenarios[session.player.picker.selected]? with
      | none =>
        have stocked : catalog.scenarios ≠ [] := fun none => empty (List.isEmpty_iff.mpr none)
        simp only [startSelected, found]
        exact .unlisted rfl picking stocked found
      | some story =>
        simp only [startSelected, found]
        exact .begun story rfl picking found
    | escape =>
      rw [picks_kept catalog session picks .escape control (by simp) (by simp)]
      exact .passed
    | char value =>
      have kept : session.picksNext catalog picks (.press ⟨.char value, control⟩) = picks := by
        by_cases again : value = 'r'
        · rw [again, restarts]
        · exact picks_kept catalog session picks (.char value) control (by simp)
            (by simpa using again)
      rw [kept]
      exact .passed
    | other =>
      rw [picks_kept catalog session picks .other control (by simp) (by simp)]
      exact .passed

theorem turn_while_typing (playing : session.player.screen = .playback)
    (busy : session.player.typewriter.isBusy = true)
    (noRestart : key ≠ .char 'r') :
    Turn catalog session picks ⟨key, control⟩ (.ok .stay)
      (session.update (pressWhileTyping key))
      (session.picksNext catalog picks (.press ⟨key, control⟩)) := by
  have kept : session.picksNext catalog picks (.press ⟨key, control⟩) = picks := by
    by_cases entered : key = .enter
    · rw [entered, picks_at_menu catalog session picks control playing, if_neg (by simp [busy])]
    · exact picks_kept catalog session picks key control entered noRestart
  rw [kept]
  unfold pressWhileTyping
  split
  · exact .flushed playing
  · exact .flushed playing
  · exact .said "text streaming..."

theorem turn_of_choice (engine : Engine) (playing : session.player.screen = .playback)
    (runs : session.engine = some engine) (shown : session.player.typewriter.isBusy = false) :
    Turn catalog session picks ⟨.enter, control⟩ (session.takeChoice engine).2
      (session.takeChoice engine).1
      (session.picksNext catalog picks (.press ⟨.enter, control⟩)) := by
  rw [picks_at_menu catalog session picks control playing, takeChoice]
  by_cases offered : session.player.choices = []
  · rw [if_pos offered, if_neg (by simp [offered])]
    exact .said "no pending choice"
  · rw [if_neg offered, if_pos (by simp [runs, shown, offered])]
    cases row : session.player.choices[session.player.choice.selected]? with
    | none => exact .unaimed rfl playing offered row
    | some pair =>
      obtain ⟨index, label⟩ := pair
      cases accepted : engine.choose index with
      | error error =>
        simp only [accepted]
        exact .refused engine index label error rfl playing runs row accepted
      | ok chosen =>
        simp only [accepted]
        exact .taken engine index label chosen rfl playing runs shown row accepted

theorem turn_of_move (move : Move) (playing : session.player.screen = .playback)
    (shown : session.player.typewriter.isBusy = false) :
    Turn catalog session picks ⟨key, control⟩ (.ok .stay) (session.update (moveChoice move))
      picks := by
  by_cases offered : session.player.choices = []
  · have tells : session.update (moveChoice move) = session.update (.say "no pending choice") := by
      rw [update, update, moveChoice, if_pos offered]
    rw [tells]
    exact .said "no pending choice"
  · have aims : session.update (moveChoice move) = session.update (aim move) := by
      rw [update, update, moveChoice, if_neg offered, aim]
    rw [aims]
    exact .aimed move playing shown offered

theorem turn_in_playback (playing : session.player.screen = .playback) :
    Turn catalog session picks ⟨key, control⟩ (session.pressInPlayback key).2
      (session.pressInPlayback key).1
      (session.picksNext catalog picks (.press ⟨key, control⟩)) := by
  rw [pressInPlayback]
  by_cases leaves : key = .char 'b'
  · rw [if_pos leaves, leaves,
      picks_kept catalog session picks (.char 'b') control (by simp) (by simp)]
    exact .left rfl playing
  · rw [if_neg leaves]
    cases runs : session.engine with
    | none =>
      have kept : session.picksNext catalog picks (.press ⟨key, control⟩) = picks := by
        by_cases entered : key = .enter
        · rw [entered, picks_at_menu catalog session picks control playing, if_neg (by simp [runs])]
        · by_cases again : key = .char 'r'
          · rw [again, picks_restarted catalog session picks control, if_neg (by simp [runs])]
          · exact picks_kept catalog session picks key control entered again
      rw [kept]
      exact .stranded playing runs
    | some engine =>
      by_cases again : key = .char 'r'
      · simp only [if_pos again]
        rw [again, picks_restarted catalog session picks control, if_pos (by simp [playing, runs])]
        exact .restarted engine rfl playing runs
      · simp only [if_neg again]
        by_cases busy : session.player.typewriter.isBusy = true
        · rw [if_pos busy]
          exact turn_while_typing catalog session picks key control playing busy again
        · rw [if_neg busy]
          have shown : session.player.typewriter.isBusy = false := Bool.eq_false_iff.mpr busy
          cases key with
          | up =>
            rw [picks_kept catalog session picks .up control (by simp) (by simp)]
            exact turn_of_move catalog session picks .up control .up playing shown
          | down =>
            rw [picks_kept catalog session picks .down control (by simp) (by simp)]
            exact turn_of_move catalog session picks .down control .down playing shown
          | enter => exact turn_of_choice catalog session picks control engine playing runs shown
          | escape =>
            rw [picks_kept catalog session picks .escape control (by simp) (by simp)]
            exact .passed
          | char value =>
            rw [picks_kept catalog session picks (.char value) control (by simp) again]
            exact .passed
          | other =>
            rw [picks_kept catalog session picks .other control (by simp) (by simp)]
            exact .passed

end Presses

theorem press_turn (catalog : Catalog) (session : Session) (picks : List Nat) (press : KeyPress) :
    Turn catalog session picks press (session.press catalog press).2 (session.press catalog press).1
      (session.picksNext catalog picks (.press press)) := by
  obtain ⟨key, control⟩ := press
  rw [Session.press]
  by_cases asked : isQuit ⟨key, control⟩ = true
  · have kept : session.picksNext catalog picks (.press ⟨key, control⟩) = picks := by
      apply picks_kept
      · rintro rfl
        simp [isQuit] at asked
      · rintro rfl
        simp [isQuit] at asked
    rw [if_pos asked, kept]
    exact .quit asked
  · rw [if_neg asked]
    by_cases helps : key = .char 'h'
    · rw [if_pos helps, helps,
        picks_kept catalog session picks (.char 'h') control (by simp) (by simp)]
      exact .helped rfl
    · rw [if_neg helps]
      cases screen : session.player.screen with
      | picker => exact turn_in_picker catalog session picks key control screen
      | playback => exact turn_in_playback catalog session picks key control screen

end Gamebook.Session
