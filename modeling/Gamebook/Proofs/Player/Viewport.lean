import Gamebook.Proofs.Player.Turn

set_option autoImplicit false

namespace Gamebook

namespace Viewport

structure Framed (length : Nat) (viewport : Viewport) : Prop where
  selected : viewport.selected < length
  above : viewport.offset ≤ viewport.selected
  below : viewport.selected < viewport.offset + rows
  filled : viewport.offset + rows ≤ max length rows

theorem start_framed (length : Nat) (stocked : 0 < length) : Framed length {} where
  selected := stocked
  above := Nat.le_refl 0
  below := by decide
  filled := Nat.le_trans (Nat.le_of_eq (Nat.zero_add rows)) (Nat.le_max_right length rows)

section Step

variable (length : Nat) (move : Move) (viewport : Viewport) (framed : Framed length viewport)

include framed

theorem step_within : (viewport.step length move).selected < length := by
  have selected := framed.selected
  cases move with
  | down =>
    simp only [step]
    omega
  | up =>
    simp only [step]
    omega

theorem step_offset :
    (viewport.step length move).offset =
      max ((viewport.step length move).selected + 1 - rows)
        (min viewport.offset (viewport.step length move).selected) := by
  obtain ⟨selected, above, below, filled⟩ := framed
  cases move with
  | down =>
    simp only [step]
    by_cases past :
      rows < length ∧ viewport.offset + rows ≤ min (viewport.selected + 1) (length - 1)
    · rw [if_pos past]
      omega
    · rw [if_neg past]
      omega
  | up =>
    simp only [step]
    by_cases past : viewport.selected - 1 < viewport.offset
    · rw [if_pos past]
      omega
    · rw [if_neg past]
      omega

theorem step_framed : Framed length (viewport.step length move) := by
  have selected := step_within length move viewport framed
  have offset := step_offset length move viewport framed
  have filled := framed.filled
  have positive : 0 < rows := by decide
  constructor <;> omega

end Step

end Viewport

namespace Session

structure Framed (catalog : Catalog) (session : Session) : Prop where
  picker : catalog.scenarios ≠ [] →
    session.player.picker.Framed catalog.scenarios.length
  choice : session.player.choices ≠ [] →
    session.player.choice.Framed session.player.choices.length

theorem fresh_framed (catalog : Catalog) : Framed catalog {} where
  picker stocked := Viewport.start_framed _ (List.length_pos_iff.mpr stocked)
  choice offered := absurd rfl offered

theorem boundary_framed (boundary : Boundary) (player : Player)
    (offered : (player.comeTo boundary).choices ≠ []) :
    (player.comeTo boundary).choice.Framed (player.comeTo boundary).choices.length := by
  have top : (player.comeTo boundary).choice = {} := by
    rw [Player.comeTo]
    cases boundary.halt <;> rfl
  rw [top]
  exact Viewport.start_framed _ (List.length_pos_iff.mpr offered)

theorem boundary_picker (boundary : Boundary) (player : Player) :
    (player.comeTo boundary).picker = player.picker := by
  rw [Player.comeTo]
  cases boundary.halt <;> rfl

variable (catalog : Catalog) (session : Session) (picks : List Nat)

theorem reached_framed (player : Player) (boundary : Boundary) (status : String)
    (engine : Option Engine) (framed : session.Framed catalog)
    (same : player.picker = session.player.picker) :
    Framed catalog ⟨(player.comeTo boundary).say status, engine⟩ where
  picker stocked := by
    have kept : (player.comeTo boundary).picker = session.player.picker :=
      (boundary_picker boundary player).trans same
    exact kept ▸ framed.picker stocked
  choice := boundary_framed boundary player

theorem typed_framed (writer : Typewriter) (framed : session.Framed catalog) :
    Framed catalog ⟨{ session.player with typewriter := writer }, session.engine⟩ :=
  ⟨framed.picker, framed.choice⟩

theorem turn_framed (press : KeyPress) (answer : Except KeyError Response) (after : Session)
    (later : List Nat) (framed : session.Framed catalog)
    (turn : Turn catalog session picks press answer after later) : after.Framed catalog := by
  cases turn with
  | quit | passed | unlisted | stranded | unaimed | refused => exact framed
  | helped asked => exact ⟨framed.picker, framed.choice⟩
  | said status => exact ⟨framed.picker, framed.choice⟩
  | flushed playing => exact typed_framed catalog session session.player.typewriter.flush framed
  | browsed move picking =>
    exact ⟨fun stocked => Viewport.step_framed _ move _ (framed.picker stocked), framed.choice⟩
  | begun story asked picking found =>
    let first := (Engine.start story.scenario).advance
    let player : Player :=
      { session.player with
        screen := .playback
        active := some session.player.picker.selected
        typewriter := .fresh first.1.texts }
    exact reached_framed catalog session player first.1 _ (some first.2) framed rfl
  | left asked playing => exact ⟨framed.picker, fun offered => absurd rfl offered⟩
  | restarted engine asked playing runs =>
    exact reached_framed catalog session _ _ _ _ framed rfl
  | aimed move playing shown offered =>
    exact ⟨framed.picker, fun offered => Viewport.step_framed _ move _ (framed.choice offered)⟩
  | taken engine index label chosen asked playing runs shown row accepted =>
    exact reached_framed catalog session _ _ _ _ framed rfl

theorem receive_framed (input : Input) (framed : session.Framed catalog) :
    (session.receive catalog input).Framed catalog := by
  cases input with
  | press press =>
    exact turn_framed catalog session [] press _ _ _ framed (press_turn catalog session [] press)
  | tick => exact typed_framed catalog session session.player.typewriter.tick.2 framed

theorem inputs_framed (inputs : List Input) (framed : session.Framed catalog) :
    (inputs.foldl (receive catalog) session).Framed catalog := by
  induction inputs generalizing session with
  | nil => exact framed
  | cons input rest ih => exact ih _ (receive_framed catalog session input framed)

theorem after_framed (inputs : List Input) : (after catalog inputs).Framed catalog :=
  inputs_framed catalog {} inputs (fresh_framed catalog)

end Session

end Gamebook
