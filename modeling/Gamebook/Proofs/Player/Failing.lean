import Gamebook.Player.InPlace
import Gamebook.Proofs.Boundary.Advance
import Gamebook.Proofs.Player.Turn

set_option autoImplicit false

namespace Gamebook.Session

namespace InPlace

def outcome : Session × Except KeyError Response → EStateM.Result KeyError Session Response
  | (after, .ok response) => .ok response after
  | (after, .error error) => .error error after

theorem outcome_error (result : Session × Except KeyError Response) (error : KeyError)
    (left : Session) : outcome result = .error error left ↔ result = (left, .error error) := by
  obtain ⟨after, answer⟩ := result
  cases answer with
  | ok response => simp [outcome]
  | error other => simp [outcome, and_comm]

section Actions

variable (session : Session)

theorem get_bind {α : Type} (next : Session → InPlace α) :
    (get >>= next) session = next session session := rfl

theorem advance_in_place (texts : List String) (engine : Engine) :
    advance texts engine session =
      .ok (engine.advanceFrom texts).1
        { session with engine := some (engine.advanceFrom texts).2 } := by
  fun_induction advance texts engine generalizing session with
  | case1 texts engine text branch after told shorter ih =>
    rw [Engine.advance_text texts engine after text branch told]
    exact ih _
  | case2 texts engine items after told =>
    rw [Engine.advance_menu texts engine after items told]
    rfl
  | case3 texts engine reason after told =>
    rw [Engine.advance_ending texts engine after reason told]
    rfl

theorem start_in_place (catalog : Catalog) :
    startSelected catalog session = outcome (session.startSelected catalog) := by
  rw [startSelected, get_bind, Session.startSelected]
  cases catalog.scenarios[session.player.picker.selected]? with
  | none => rfl
  | some loaded => rfl

theorem take_in_place (engine : Engine) :
    takeChoice engine session = outcome (session.takeChoice engine) := by
  rw [takeChoice, get_bind, Session.takeChoice]
  by_cases empty : session.player.choices = []
  · rw [if_pos empty, if_pos empty]
    rfl
  · rw [if_neg empty, if_neg empty]
    cases session.player.choices[session.player.choice.selected]? with
    | none => rfl
    | some row =>
      obtain ⟨index, label⟩ := row
      simp only [choose]
      cases engine.choose index with
      | error error => rfl
      | ok chosen =>
        simp only [bind, EStateM.bind, advance_in_place]
        rfl

theorem restart_in_place (engine : Engine) :
    restart engine session = outcome (session.restart engine).stay := by
  simp only [restart, bind, EStateM.bind, advance_in_place]
  rfl

theorem picker_in_place (catalog : Catalog) (key : Key) :
    pressInPicker catalog key session = outcome (session.pressInPicker catalog key) := by
  unfold pressInPicker Session.pressInPicker
  by_cases empty : catalog.isEmpty = true
  · rw [if_pos empty, if_pos empty]
    rfl
  · rw [if_neg empty, if_neg empty]
    cases key with
    | enter => exact start_in_place session catalog
    | _ => rfl

theorem playback_in_place (key : Key) :
    pressInPlayback key session = outcome (session.pressInPlayback key) := by
  unfold pressInPlayback Session.pressInPlayback
  by_cases leaves : key = .char 'b'
  · rw [if_pos leaves, if_pos leaves]
    rfl
  · rw [if_neg leaves, if_neg leaves, get_bind]
    cases session.engine with
    | none => rfl
    | some engine =>
      by_cases again : key = .char 'r'
      · simp only [if_pos again]
        exact restart_in_place session engine
      · simp only [if_neg again, get_bind]
        by_cases busy : session.player.typewriter.isBusy = true
        · rw [if_pos busy, if_pos busy]
          rfl
        · rw [if_neg busy, if_neg busy]
          cases key with
          | enter => exact take_in_place session engine
          | _ => rfl

theorem press_in_place (catalog : Catalog) (pressed : KeyPress) :
    press catalog pressed session = outcome (session.press catalog pressed) := by
  unfold press Session.press
  by_cases quits : isQuit pressed = true
  · rw [if_pos quits, if_pos quits]
    rfl
  · rw [if_neg quits, if_neg quits]
    by_cases helps : pressed.key = .char 'h'
    · rw [if_pos helps, if_pos helps]
      rfl
    · rw [if_neg helps, if_neg helps, get_bind]
      cases session.player.screen with
      | picker => exact picker_in_place session catalog pressed.key
      | playback => exact playback_in_place session pressed.key

end Actions

end InPlace

-- When a key press fails, and by which error: with no row of a list where one is selected, with
-- nothing to play, or with an engine that does not take the choice of the selected row.
inductive Fails (catalog : Catalog) (session : Session) (press : KeyPress) : KeyError → Prop where
  | unlisted (asked : press.key = .enter) (picking : session.player.screen = .picker)
      (stocked : catalog.scenarios ≠ [])
      (missing : catalog.scenarios[session.player.picker.selected]? = none) :
      Fails catalog session press .noScenarioSelected
  | stranded (stays : isQuit press = false) (unhelped : press.key ≠ .char 'h')
      (remains : press.key ≠ .char 'b') (playing : session.player.screen = .playback)
      (idle : session.engine = none) : Fails catalog session press .nothingPlaying
  | unaimed (asked : press.key = .enter) (playing : session.player.screen = .playback)
      (runs : session.engine.isSome = true) (shown : session.player.typewriter.isBusy = false)
      (offered : session.player.choices ≠ [])
      (missing : session.player.choices[session.player.choice.selected]? = none) :
      Fails catalog session press .noChoices
  | refused (asked : press.key = .enter) (playing : session.player.screen = .playback)
      (engine : Engine) (runs : session.engine = some engine)
      (shown : session.player.typewriter.isBusy = false) (index : Nat) (label : String)
      (row : session.player.choices[session.player.choice.selected]? = some (index, label))
      (error : ChoiceError) (refusal : engine.choose index = .error error) :
      Fails catalog session press (.choice error)

section Failures

variable (catalog : Catalog) (session : Session) (error : KeyError)

theorem picker_fails (key : Key) :
    (session.pressInPicker catalog key).2 = .error error ↔
      key = .enter ∧ catalog.scenarios ≠ [] ∧
        catalog.scenarios[session.player.picker.selected]? = none ∧
        error = .noScenarioSelected := by
  unfold pressInPicker
  by_cases empty : catalog.isEmpty = true
  · have none : catalog.scenarios = [] := List.isEmpty_iff.mp empty
    rw [if_pos empty]
    simp [none, stay]
  · have stocked : catalog.scenarios ≠ [] := mt List.isEmpty_iff.mpr empty
    rw [if_neg empty]
    cases key with
    | enter =>
      rw [startSelected]
      cases catalog.scenarios[session.player.picker.selected]? with
      | none => simp [stocked, fail, eq_comm]
      | some loaded => simp [stay]
    | _ => simp [stay]

theorem choice_fails (engine : Engine) :
    (session.takeChoice engine).2 = .error error ↔
      session.player.choices ≠ [] ∧
        ((session.player.choices[session.player.choice.selected]? = none ∧ error = .noChoices) ∨
          ∃ index label refusal,
            session.player.choices[session.player.choice.selected]? = some (index, label) ∧
            engine.choose index = .error refusal ∧ error = .choice refusal) := by
  rw [takeChoice]
  by_cases empty : session.player.choices = []
  · rw [if_pos empty]
    simp [empty, stay]
  · rw [if_neg empty]
    cases session.player.choices[session.player.choice.selected]? with
    | none => simp [empty, fail, eq_comm]
    | some row =>
      obtain ⟨index, label⟩ := row
      cases refused : engine.choose index with
      | error refusal => simp [refused, empty, fail, eq_comm]
      | ok chosen => simp [refused, stay]

theorem playback_fails (key : Key) :
    (session.pressInPlayback key).2 = .error error ↔
      key ≠ .char 'b' ∧
        ((session.engine = none ∧ error = .nothingPlaying) ∨
          key = .enter ∧ session.player.typewriter.isBusy = false ∧
            ∃ engine, session.engine = some engine ∧
              (session.takeChoice engine).2 = .error error) := by
  unfold pressInPlayback
  by_cases leaves : key = .char 'b'
  · rw [if_pos leaves]
    simp [leaves, stay]
  · rw [if_neg leaves]
    cases session.engine with
    | none => simp [leaves, fail, eq_comm (a := error)]
    | some engine =>
      by_cases again : key = .char 'r'
      · simp [again, stay]
      · simp only [if_neg again]
        by_cases busy : session.player.typewriter.isBusy = true
        · rw [if_pos busy]
          simp [busy, stay]
        · rw [if_neg busy]
          cases key with
          | enter => simp [busy]
          | _ => simp [stay]

theorem fails_past_quit (press : KeyPress) (fails : Fails catalog session press error) :
    isQuit press = false ∧ press.key ≠ .char 'h' := by
  have entered (asked : press.key = .enter) : isQuit press = false ∧ press.key ≠ .char 'h' := by
    simp [isQuit, asked]
  cases fails with
  | unlisted asked => exact entered asked
  | stranded stays unhelped => exact ⟨stays, unhelped⟩
  | unaimed asked => exact entered asked
  | refused asked => exact entered asked

theorem press_fails (press : KeyPress) :
    (session.press catalog press).2 = .error error ↔ Fails catalog session press error := by
  rw [Session.press]
  by_cases quits : isQuit press = true
  · rw [if_pos quits]
    refine iff_of_false (by simp) fun fails => ?_
    exact absurd (fails_past_quit catalog session error press fails).1 (by simp [quits])
  · rw [if_neg quits]
    by_cases helps : press.key = .char 'h'
    · rw [if_pos helps]
      refine iff_of_false (by simp [stay]) fun fails => ?_
      exact absurd helps (fails_past_quit catalog session error press fails).2
    · rw [if_neg helps]
      cases screen : session.player.screen with
      | picker =>
        simp only [picker_fails]
        constructor
        · rintro ⟨asked, stocked, missing, rfl⟩
          exact .unlisted asked screen stocked missing
        · intro fails
          cases fails with
          | unlisted asked picking stocked missing => exact ⟨asked, stocked, missing, rfl⟩
          | stranded _ _ _ playing => cases screen.symm.trans playing
          | unaimed _ playing => cases screen.symm.trans playing
          | refused _ playing => cases screen.symm.trans playing
      | playback =>
        simp only [playback_fails, choice_fails]
        constructor
        · rintro ⟨remains, ⟨idle, rfl⟩ | ⟨asked, shown, engine, runs, offered, taken⟩⟩
          · exact .stranded (Bool.eq_false_iff.mpr quits) helps remains screen idle
          · rcases taken with ⟨missing, rfl⟩ | ⟨index, label, refusal, row, refused, rfl⟩
            · exact .unaimed asked screen (by rw [runs]; rfl) shown offered missing
            · exact .refused asked screen engine runs shown index label row refusal refused
        · intro fails
          cases fails with
          | unlisted _ picking => cases screen.symm.trans picking
          | stranded _ _ remains _ idle => exact ⟨remains, .inl ⟨idle, rfl⟩⟩
          | unaimed asked _ runs shown offered missing =>
            obtain ⟨engine, runs⟩ := Option.isSome_iff_exists.mp runs
            exact ⟨by simp [asked], .inr ⟨asked, shown, engine, runs, offered,
              .inl ⟨missing, rfl⟩⟩⟩
          | refused asked _ engine runs shown index label row refusal refused =>
            have offered : session.player.choices ≠ [] := by
              intro none
              simp [none] at row
            exact ⟨by simp [asked], .inr ⟨asked, shown, engine, runs, offered,
              .inr ⟨index, label, refusal, row, refused, rfl⟩⟩⟩

theorem turn_failed (picks later : List Nat) (press : KeyPress) (after : Session)
    (turn : Turn catalog session picks press (.error error) after later) : after = session := by
  cases turn <;> rfl

theorem failing_press_changes_nothing (press : KeyPress) :
    ((session.press catalog press).2 = .error error ↔ Fails catalog session press error) ∧
    ((session.press catalog press).2 = .error error → (session.press catalog press).1 = session) ∧
    ∀ left, InPlace.press catalog press session = .error error left ↔
      left = session ∧ Fails catalog session press error := by
  have same (failed : (session.press catalog press).2 = .error error) :
      (session.press catalog press).1 = session := by
    have turn := press_turn catalog session [] press
    rw [failed] at turn
    exact turn_failed catalog session error [] _ press _ turn
  refine ⟨press_fails catalog session error press, same, fun left => ?_⟩
  rw [InPlace.press_in_place, InPlace.outcome_error, ← press_fails catalog session error press,
    Prod.ext_iff]
  constructor
  · rintro ⟨rfl, failed⟩
    exact ⟨same failed, failed⟩
  · rintro ⟨rfl, failed⟩
    exact ⟨same failed, failed⟩

example :
    let stranded : Session := ⟨{ screen := .playback }, none⟩
    stranded.press ⟨[.manor], []⟩ ⟨.enter, false⟩ = (stranded, .error .nothingPlaying) := rfl

end Failures

end Gamebook.Session
