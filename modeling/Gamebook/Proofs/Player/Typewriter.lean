import Gamebook.Player.Typewriter

set_option autoImplicit false

namespace Gamebook.Typewriter

def unfinished (writer : Typewriter) : List String := writer.typing.toList ++ writer.queue

def Tells (writer : Typewriter) (lines : List String) : Prop :=
  ∃ completed, lines = completed ++ writer.unfinished ∧ writer.shown = keepRecent limit completed

theorem busy_unfinished (writer : Typewriter) :
    writer.isBusy = false ↔ writer.unfinished = [] := by
  rw [isBusy, unfinished]
  cases writer.typing <;> cases writer.queue <;> simp

theorem fresh_tells (lines : List String) : (fresh lines).Tells lines := ⟨[], rfl, rfl⟩

theorem enqueue_unfinished (writer : Typewriter) (more : List String) :
    (writer.enqueue more).unfinished = writer.unfinished ++ more :=
  (List.append_assoc _ _ _).symm

theorem enqueue_tells (writer : Typewriter) (lines more : List String)
    (tells : writer.Tells lines) : (writer.enqueue more).Tells (lines ++ more) := by
  obtain ⟨completed, rfl, shown⟩ := tells
  exact ⟨completed, by rw [enqueue_unfinished, List.append_assoc], shown⟩

theorem complete_tells (writer after : Typewriter) (lines moved : List String)
    (tells : writer.Tells lines) (front : writer.unfinished = moved ++ after.unfinished)
    (shown : after.shown = (writer.complete moved).shown) : after.Tells lines := by
  obtain ⟨completed, rfl, kept⟩ := tells
  refine ⟨completed ++ moved, by rw [front, List.append_assoc], ?_⟩
  rw [shown, complete, kept, keep_recent_append]

theorem flush_unfinished (writer : Typewriter) : writer.flush.unfinished = [] := rfl

theorem flush_tells (writer : Typewriter) (lines : List String) (tells : writer.Tells lines) :
    writer.flush.Tells lines := by
  apply complete_tells writer writer.flush lines writer.unfinished tells
  · rw [flush_unfinished, List.append_nil]
  · rw [flush, unfinished]

-- One constructor for each way through `tick`, with the guards it passed.
inductive Step (writer : Typewriter) : Bool → Typewriter → Prop where
  | resting (idle : writer.typing = none) (empty : writer.queue = []) : Step writer false writer
  | passed (rest : List String) (idle : writer.typing = none) (next : writer.queue = "" :: rest) :
      Step writer true
        { writer with
          shown := keepRecent limit (writer.shown ++ [""])
          typing := none
          queue := rest }
  | begun (line : String) (rest : List String) (idle : writer.typing = none)
      (next : writer.queue = line :: rest) (full : line ≠ "") :
      Step writer true { writer with typing := some line, typed := 1, queue := rest }
  | completed (line : String) (typing : writer.typing = some line)
      (done : line.length ≤ writer.typed) :
      Step writer true
        { writer with
          shown := keepRecent limit (writer.shown ++ [line])
          typing := none
          typed := 0 }
  | typed (line : String) (typing : writer.typing = some line)
      (short : writer.typed < line.length) :
      Step writer true { writer with typing := some line, typed := writer.typed + 1 }

theorem tick_step (writer : Typewriter) : Step writer writer.tick.1 writer.tick.2 := by
  cases typing : writer.typing with
  | none =>
    cases queue : writer.queue with
    | nil =>
      simp only [tick, typing, queue]
      exact .resting typing queue
    | cons next rest =>
      by_cases blank : next = ""
      · subst blank
        simp only [tick, typing, queue, if_true, complete]
        exact .passed rest typing queue
      · simp only [tick, typing, queue, if_neg blank]
        exact .begun next rest typing queue blank
  | some line =>
    by_cases done : line.length ≤ writer.typed
    · simp only [tick, typing, if_pos done, complete]
      exact .completed line typing done
    · simp only [tick, typing, if_neg done]
      exact .typed line typing (Nat.lt_of_not_le done)

theorem tick_moves (writer : Typewriter) :
    (writer.tick.2.unfinished = writer.unfinished ∧ writer.tick.2.shown = writer.shown) ∨
      ∃ line, writer.unfinished = line :: writer.tick.2.unfinished ∧
        writer.tick.2.shown = (writer.complete [line]).shown := by
  generalize writer.tick.1 = moved, writer.tick.2 = after, writer.tick_step = step
  cases step with
  | resting idle empty => exact .inl ⟨rfl, rfl⟩
  | passed rest idle next =>
    exact .inr ⟨"", by simp [unfinished, idle, next], by rw [complete]⟩
  | begun line rest idle next full => exact .inl ⟨by simp [unfinished, idle, next], rfl⟩
  | completed line typing done =>
    exact .inr ⟨line, by simp [unfinished, typing], by rw [complete]⟩
  | typed line typing short => exact .inl ⟨by rw [unfinished, unfinished, typing], rfl⟩

theorem tick_tells (writer : Typewriter) (lines : List String) (tells : writer.Tells lines) :
    writer.tick.2.Tells lines := by
  rcases tick_moves writer with ⟨same, kept⟩ | ⟨line, front, shown⟩
  · obtain ⟨completed, whole, recent⟩ := tells
    exact ⟨completed, by rw [same]; exact whole, by rw [kept]; exact recent⟩
  · exact complete_tells writer writer.tick.2 lines [line] tells front shown

theorem tick_unfinished (writer : Typewriter) :
    writer.tick.2.unfinished.length ≤ writer.unfinished.length := by
  rcases tick_moves writer with ⟨same, _⟩ | ⟨line, front, _⟩
  · exact Nat.le_of_eq (congrArg List.length same)
  · rw [front]
    exact Nat.le_succ _

theorem tells_shown (writer : Typewriter) (lines : List String) (tells : writer.Tells lines) :
    writer.shown.length ≤ limit := by
  obtain ⟨completed, _, shown⟩ := tells
  rw [shown, keep_recent_length]
  exact Nat.min_le_left _ _

end Gamebook.Typewriter
