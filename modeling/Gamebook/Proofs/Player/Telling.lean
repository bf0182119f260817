import Gamebook.Player.History
import Gamebook.Proofs.Player.Typewriter

set_option autoImplicit false

namespace Gamebook

namespace Typewriter

structure Poised (writer : Typewriter) : Prop where
  begun : ∀ line, writer.typing = some line →
    line ≠ "" ∧ 1 ≤ writer.typed ∧ writer.typed ≤ line.length
  idle : writer.typing = none → writer.typed = 0

theorem idle_poised (writer : Typewriter) (idle : writer.typing = none)
    (reset : writer.typed = 0) : writer.Poised where
  begun := by
    intro line typing
    rw [idle] at typing
    cases typing
  idle := fun _ => reset

theorem typing_poised (writer : Typewriter) (line : String) (typing : writer.typing = some line)
    (full : line ≠ "") (begun : 1 ≤ writer.typed) (within : writer.typed ≤ line.length) :
    writer.Poised where
  begun := by
    intro other same
    obtain rfl : line = other := Option.some.inj (typing.symm.trans same)
    exact ⟨full, begun, within⟩
  idle := by
    intro absent
    cases absent.symm.trans typing

theorem length_positive (line : String) (full : line ≠ "") : 1 ≤ line.length := by
  apply Nat.one_le_iff_ne_zero.mpr
  intro none
  exact full (String.length_eq_zero_iff.mp none)

theorem step_poised (writer after : Typewriter) (moved : Bool) (poised : writer.Poised)
    (step : Step writer moved after) : after.Poised := by
  cases step with
  | resting idle empty => exact poised
  | passed rest idle next => exact idle_poised _ rfl (poised.idle idle)
  | begun line rest idle next full =>
    exact typing_poised _ line rfl full (Nat.le_refl 1) (length_positive line full)
  | completed line typing done => exact idle_poised _ rfl rfl
  | typed line typing short =>
    have full := (poised.begun line typing).1
    exact typing_poised _ line rfl full (Nat.succ_pos writer.typed) short

end Typewriter

namespace Player

structure Recounts (player : Player) (lines : List String) : Prop where
  tells : player.typewriter.Tells lines
  poised : player.typewriter.Poised

theorem come_typewriter (boundary : Boundary) (player : Player) :
    (player.comeTo boundary).typewriter = player.typewriter := by
  rw [comeTo]
  cases boundary.halt <;> rfl

theorem fresh_recounts (player : Player) (lines : List String)
    (fresh : player.typewriter = .fresh lines) : player.Recounts lines where
  tells := fresh ▸ Typewriter.fresh_tells lines
  poised := fresh ▸ Typewriter.idle_poised _ rfl rfl

theorem tick_recounts (player : Player) (lines : List String) (recounts : player.Recounts lines) :
    player.tick.2.Recounts lines where
  tells := Typewriter.tick_tells _ lines recounts.tells
  poised := Typewriter.step_poised _ _ _ recounts.poised (Typewriter.tick_step _)

theorem change_recounts (player : Player) (lines : List String) (change : Change)
    (recounts : player.Recounts lines) : (player.apply change).Recounts (story lines [change]) := by
  cases change with
  | goOnTo boundary =>
    have queued : (player.goOnTo boundary).typewriter =
        player.typewriter.enqueue boundary.texts := come_typewriter _ _
    exact
      { tells := queued ▸ Typewriter.enqueue_tells _ lines boundary.texts recounts.tells
        poised := queued ▸ { recounts.poised with } }
  | startAt boundary => exact fresh_recounts _ _ (come_typewriter boundary _)
  | begin index boundary => exact fresh_recounts _ _ (come_typewriter boundary _)
  | leave => exact fresh_recounts _ [] rfl
  | tick => exact tick_recounts player lines recounts
  | flush =>
    exact
      { tells := Typewriter.flush_tells _ lines recounts.tells
        poised := Typewriter.idle_poised _ rfl rfl }

theorem story_cons (lines : List String) (change : Change) (rest : List Change) :
    story lines (change :: rest) = story (story lines [change]) rest := by
  cases change <;> rfl

theorem changes_recount (changes : List Change) (player : Player) (lines : List String)
    (recounts : player.Recounts lines) :
    (changes.foldl apply player).Recounts (story lines changes) := by
  induction changes generalizing player lines with
  | nil => exact recounts
  | cons change rest ih =>
    rw [List.foldl_cons, story_cons]
    exact ih _ _ (change_recounts player lines change recounts)

theorem after_recounts (changes : List Change) : (after changes).Recounts (story [] changes) :=
  changes_recount changes {} [] (fresh_recounts {} [] rfl)

theorem told_lines_stay_in_order (changes : List Change) :
    let writer := (after changes).typewriter
    ∃ completed,
      story [] changes = completed ++ writer.typing.toList ++ writer.queue ∧
      writer.shown <:+ completed ∧ writer.shown.length = min 500 completed.length ∧
      writer.Poised := by
  intro writer
  obtain ⟨⟨completed, whole, shown⟩, poised⟩ := after_recounts changes
  refine ⟨completed, ?_, ?_, ?_, poised⟩
  · rw [whole, Typewriter.unfinished, List.append_assoc]
  · rw [shown]
    exact keep_recent_suffix _ completed
  · rw [shown]
    exact keep_recent_length _ completed

end Player

end Gamebook
