import Gamebook.Proofs.Player.Listing
import Mathlib.Data.List.Induction
import Mathlib.Data.Nat.Dist

set_option autoImplicit false

namespace Gamebook

namespace Viewport

def after (length : Nat) (moves : List Move) : Viewport :=
  moves.foldl (fun viewport move => viewport.step length move) {}

inductive Selects (length : Nat) : Move → Nat → Nat → Prop where
  | down (row : Nat) (more : row + 1 < length) : Selects length .down row (row + 1)
  | bottom (row : Nat) (last : row + 1 = length) : Selects length .down row row
  | up (row : Nat) : Selects length .up (row + 1) row
  | top : Selects length .up 0 0

def Covers (offset row : Nat) : Prop := offset ≤ row ∧ row < offset + rows

structure Scrolls (before after : Viewport) : Prop where
  covers : Covers after.offset after.selected
  still : Covers before.offset after.selected → after.offset = before.offset
  least : ∀ offset, Covers offset after.selected →
    Nat.dist before.offset after.offset ≤ Nat.dist before.offset offset

theorem after_concat (length : Nat) (moves : List Move) (move : Move) :
    after length (moves ++ [move]) = (after length moves).step length move := by
  rw [after, List.foldl_append]
  rfl

section Step

variable (length : Nat) (move : Move) (viewport : Viewport) (framed : Framed length viewport)

include framed

theorem step_selects :
    Selects length move viewport.selected (viewport.step length move).selected := by
  have within := framed.selected
  cases move with
  | down =>
    by_cases more : viewport.selected + 1 < length
    · have onward : min (viewport.selected + 1) (length - 1) = viewport.selected + 1 := by omega
      rw [step, onward]
      exact .down viewport.selected more
    · have last : min (viewport.selected + 1) (length - 1) = viewport.selected := by omega
      rw [step, last]
      exact .bottom viewport.selected (by omega)
  | up =>
    rw [step]
    cases viewport.selected with
    | zero => exact .top
    | succ row => exact .up row

theorem step_nearest (offset : Nat) (covers : Covers offset (viewport.step length move).selected) :
    Nat.dist viewport.offset (viewport.step length move).offset ≤
      Nat.dist viewport.offset offset := by
  obtain ⟨low, high⟩ := covers
  rw [step_offset length move viewport framed, Nat.dist, Nat.dist]
  omega

theorem step_scrolls : Scrolls viewport (viewport.step length move) := by
  have moved := step_framed length move viewport framed
  have nearest := step_nearest length move viewport framed
  refine ⟨⟨moved.above, moved.below⟩, ?_, nearest⟩
  intro covers
  have none := nearest viewport.offset covers
  rw [Nat.dist_self, Nat.le_zero] at none
  exact (Nat.eq_of_dist_eq_zero none).symm

end Step

theorem moves_framed (length : Nat) (stocked : 0 < length) (moves : List Move) :
    (after length moves).Framed length := by
  induction moves using List.reverseRecOn with
  | nil => exact start_framed length stocked
  | append_singleton before move ih =>
    rw [after_concat]
    exact step_framed length move _ ih

theorem framed_whole (length : Nat) (viewport : Viewport) (framed : viewport.Framed length)
    (short : length ≤ rows) : viewport.offset = 0 := by
  have filled := framed.filled
  omega

theorem selection_stays_in_view (length : Nat) (stocked : 0 < length) (moves : List Move) :
    let shown := after length moves
    (shown.Framed length ∧ (length ≤ rows → shown.offset = 0) ∧
      ∀ width texts, texts.length = length →
        (Layout.itemRows width shown texts).length = min rows length) ∧
    ∀ move,
      Selects length move shown.selected (after length (moves ++ [move])).selected ∧
        Scrolls shown (after length (moves ++ [move])) := by
  intro shown
  have framed := moves_framed length stocked moves
  refine ⟨⟨framed, framed_whole length shown framed, ?_⟩, ?_⟩
  · intro width texts many
    subst many
    exact Layout.item_rows_length width _ texts framed
  · intro move
    rw [after_concat]
    exact ⟨step_selects length move _ framed, step_scrolls length move _ framed⟩

theorem seven_rows_and_three_in_view :
    let moves := List.replicate 7 Move.down ++ List.replicate 5 Move.up
    (0 < 7 ∧ after 7 moves = ⟨1, 1⟩ ∧ Framed 7 ⟨1, 1⟩ ∧
      (Layout.itemRows 40 ⟨1, 1⟩ (List.replicate 7 "row")).length = 5 ∧
      Selects 7 .up 1 0 ∧ Scrolls ⟨1, 1⟩ ⟨0, 0⟩) ∧
    0 < 3 ∧ 3 ≤ rows ∧ (after 3 moves).offset = 0 := by
  intro moves
  have long : after 7 moves = ⟨1, 1⟩ := by decide
  have onward : after 7 (moves ++ [.up]) = ⟨0, 0⟩ := by decide
  obtain ⟨⟨framed, _, drawn⟩, next⟩ := selection_stays_in_view 7 (by decide) moves
  obtain ⟨⟨_, whole, _⟩, _⟩ := selection_stays_in_view 3 (by decide) moves
  obtain ⟨selects, scrolls⟩ := next .up
  rw [long] at framed drawn selects scrolls
  rw [onward] at selects scrolls
  have shown := drawn 40 (List.replicate 7 "row") List.length_replicate
  exact ⟨⟨by decide, long, framed, shown, selects, scrolls⟩, by decide, by decide,
    whole (by decide)⟩

end Viewport

end Gamebook
