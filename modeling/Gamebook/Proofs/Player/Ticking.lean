import Gamebook.Proofs.Player.Telling
import Mathlib.Algebra.GroupWithZero.Nat

set_option autoImplicit false

namespace Gamebook

namespace Typewriter

-- A queued line takes a tick for each of its characters and one more, after which it is shown; of
-- the line being typed, the characters that are there are done.
def remaining (writer : Typewriter) : Nat :=
  (writer.queue.map fun line => line.length + 1).sum +
    match writer.typing with
    | none => 0
    | some line => line.length + 1 - writer.typed

variable (writer after : Typewriter) (moved : Bool)

theorem remaining_idle (idle : writer.typing = none) :
    writer.remaining = (writer.queue.map fun line => line.length + 1).sum := by
  rw [remaining, idle]
  rfl

theorem remaining_typing (line : String) (typing : writer.typing = some line) :
    writer.remaining =
      (writer.queue.map fun line => line.length + 1).sum + (line.length + 1 - writer.typed) := by
  rw [remaining, typing]

theorem step_remaining (poised : writer.Poised) (step : Step writer moved after) :
    (moved = true ∧ after.remaining + 1 = writer.remaining) ∨
      (moved = false ∧ after = writer ∧ writer.remaining = 0) := by
  cases step with
  | resting idle empty =>
    refine .inr ⟨rfl, rfl, ?_⟩
    rw [remaining_idle writer idle, empty]
    rfl
  | passed rest idle next =>
    refine .inl ⟨rfl, ?_⟩
    rw [remaining_idle writer idle, remaining_idle _ rfl, next, List.map_cons, List.sum_cons,
      String.length_empty, Nat.zero_add, Nat.add_comm]
  | begun line rest idle next full =>
    have positive := length_positive line full
    refine .inl ⟨rfl, ?_⟩
    rw [remaining_idle writer idle, remaining_typing _ line rfl, next, List.map_cons,
      List.sum_cons]
    dsimp only
    omega
  | completed line typing done =>
    have bound := (poised.begun line typing).2.2
    refine .inl ⟨rfl, ?_⟩
    rw [remaining_typing writer line typing, remaining_idle _ rfl]
    dsimp only
    omega
  | typed line typing short =>
    refine .inl ⟨rfl, ?_⟩
    rw [remaining_typing writer line typing, remaining_typing _ line rfl]
    dsimp only
    omega

-- What is trimmed line by line is what is trimmed at the end.
theorem step_flush (step : Step writer moved after) : after.flush = writer.flush := by
  have trimmed (line : String) (rest : List String) :
      keepRecent limit (keepRecent limit (writer.shown ++ [line]) ++ rest) =
        keepRecent limit (writer.shown ++ line :: rest) := by
    rw [keep_recent_append, List.append_assoc, List.singleton_append]
  cases step with
  | resting idle empty => rfl
  | passed rest idle next => simp [flush, complete, idle, next, trimmed]
  | begun line rest idle next full => simp [flush, complete, idle, next]
  | completed line typing done => simp [flush, complete, typing, trimmed]
  | typed line typing short => simp [flush, complete, typing]

theorem flush_resting (poised : writer.Poised) (short : writer.shown.length ≤ limit)
    (rests : writer.remaining = 0) : writer.flush = writer := by
  have idle : writer.typing = none := by
    cases typing : writer.typing with
    | none => rfl
    | some line =>
      have bound := (poised.begun line typing).2.2
      rw [remaining_typing writer line typing] at rests
      omega
  have empty : writer.queue = [] := by
    cases queue : writer.queue with
    | nil => rfl
    | cons line rest =>
      rw [remaining_idle writer idle, queue, List.map_cons, List.sum_cons] at rests
      omega
  have kept : keepRecent limit writer.shown = writer.shown := by
    rw [keepRecent, Nat.sub_eq_zero_of_le short, List.drop_zero]
  have reset := poised.idle idle
  obtain ⟨shown, typing, typed, queue⟩ := writer
  simp only at idle empty kept reset
  simp [flush, complete, idle, empty, kept, reset]

end Typewriter

namespace Player

def ticks : Nat → Player → List Bool × Player
  | 0, player => ([], player)
  | count + 1, player =>
    let (moved, after) := player.tick
    let (answers, last) := ticks count after
    (moved :: answers, last)

section Ticks

variable (player : Player) (lines : List String) (recounts : player.Recounts lines)

theorem ticks_succ (count : Nat) :
    player.ticks (count + 1) =
      (player.tick.1 :: (player.tick.2.ticks count).1, (player.tick.2.ticks count).2) := rfl

theorem tick_writer :
    player.tick =
      (player.typewriter.tick.1, { player with typewriter := player.typewriter.tick.2 }) := rfl

theorem tick_flush : player.tick.2.flush = player.flush := by
  have same := Typewriter.step_flush _ _ _ player.typewriter.tick_step
  rw [flush, flush, tick_writer, same]

include recounts

theorem tick_moving (count : Nat) (left : player.typewriter.remaining = count + 1) :
    player.tick.1 = true ∧ player.tick.2.typewriter.remaining = count := by
  rcases Typewriter.step_remaining _ _ _ recounts.poised player.typewriter.tick_step with
    ⟨moved, next⟩ | ⟨_, _, none⟩
  · rw [left] at next
    exact ⟨moved, Nat.succ.inj next⟩
  · rw [left] at none
    cases none

theorem tick_resting (rests : player.typewriter.remaining = 0) : player.tick = (false, player) := by
  rcases Typewriter.step_remaining _ _ _ recounts.poised player.typewriter.tick_step with
    ⟨_, next⟩ | ⟨still, same, _⟩
  · rw [rests] at next
    cases next
  · rw [tick_writer, still, same]

theorem flush_resting (rests : player.typewriter.remaining = 0) : player.flush = player := by
  have short := Typewriter.tells_shown _ lines recounts.tells
  rw [flush, Typewriter.flush_resting _ recounts.poised short rests]

theorem ticks_resting (rests : player.typewriter.remaining = 0) (more : Nat) :
    player.ticks more = (List.replicate more false, player) := by
  induction more with
  | zero => rfl
  | succ more ih =>
    rw [ticks_succ, tick_resting player lines recounts rests, ih]
    rfl

theorem ticks_moving (count more : Nat) (left : player.typewriter.remaining = count) :
    player.ticks (count + more) =
      (List.replicate count true ++ List.replicate more false, player.flush) := by
  induction count generalizing player with
  | zero =>
    rw [Nat.zero_add, ticks_resting player lines recounts left,
      flush_resting player lines recounts left]
    rfl
  | succ count ih =>
    obtain ⟨moved, next⟩ := tick_moving player lines recounts count left
    have later := ih player.tick.2 (tick_recounts player lines recounts) next
    rw [Nat.succ_add, ticks_succ, moved, later, tick_flush]
    rfl

end Ticks

theorem ticks_end_in_flush (changes : List Change) (more : Nat) :
    let player := after changes
    let count := player.typewriter.remaining
    player.ticks (count + more) =
      (List.replicate count true ++ List.replicate more false, player.flush) :=
  ticks_moving _ _ (after_recounts changes) _ more rfl

end Player

end Gamebook
