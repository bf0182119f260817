import Gamebook.Engine

/-!
Playing a scenario through a shell. The shell shows the descriptions, answers the menus and hears
of the end; it keeps a state of its own and may refuse any call. A refusal stops the playthrough.

A playthrough need not end, since scenarios have cycles. It is run with a limit on the number of
calls to the shell; a shell that can answer only so many menus needs no limit.
-/

set_option autoImplicit false

namespace Gamebook

structure Shell (σ ε : Type) where
  describe : String → σ → Except ε Unit × σ
  offer : List String → σ → Except ε Nat × σ
  announce : Ending → σ → Except ε Unit × σ

inductive Stop (ε : Type) where
  | shell (error : ε)
  | engine (error : ChoiceError)
deriving DecidableEq

structure Outcome where
  reason : Ending
  trail : List Nat
deriving DecidableEq

structure Played (σ ε : Type) where
  result : Except (Stop ε) Outcome
  engine : Engine
  shell : σ

namespace Shell

variable {σ ε : Type}

def play? (shell : Shell σ ε) : Nat → Engine → σ → Option (Played σ ε)
  | 0, _, _ => none
  | limit + 1, engine, state =>
    match engine.next with
    | (.text text _, after) =>
      match shell.describe text state with
      | (.ok _, next) => shell.play? limit after next
      | (.error error, next) => some ⟨.error (.shell error), after, next⟩
    | (.menu items, after) =>
      match shell.offer (items.map (·.label)) state with
      | (.ok index, next) =>
        match after.choose index with
        | .ok chosen => shell.play? limit chosen next
        | .error error => some ⟨.error (.engine error), after, next⟩
      | (.error error, next) => some ⟨.error (.shell error), after, next⟩
    | (.ending reason, after) =>
      match shell.announce reason state with
      | (.ok _, next) => some ⟨.ok ⟨reason, after.trail⟩, after, next⟩
      | (.error error, next) => some ⟨.error (.shell error), after, next⟩

structure Patience (shell : Shell σ ε) where
  left : σ → Nat
  describe_le : ∀ text state, left (shell.describe text state).2 ≤ left state
  offer_lt : ∀ labels state index next,
    shell.offer labels state = (.ok index, next) → left next < left state

def callBound {shell : Shell σ ε} (patience : Patience shell) (engine : Engine) (state : σ) :
    Nat :=
  2 * patience.left state + Engine.phaseRank engine.phase + 1

theorem isSome_play? {shell : Shell σ ε} (patience : Patience shell) (limit : Nat)
    (engine : Engine) (state : σ) (enough : callBound patience engine state ≤ limit) :
    (shell.play? limit engine state).isSome := by
  induction limit generalizing engine state with
  | zero => simp [callBound] at enough
  | succ limit ih =>
    unfold callBound at enough
    unfold play?
    split
    · rename_i text branch after told
      have rank := Engine.phaseRank_next_text told
      have kept := patience.describe_le text state
      split
      · rename_i next described
        have left : patience.left next ≤ patience.left state := by simpa [described] using kept
        exact ih after next (by unfold callBound; omega)
      · rfl
    · rename_i items after told
      split
      · rename_i index next offered
        have left := patience.offer_lt _ _ _ _ offered
        split
        · rename_i chosen taken
          refine ih chosen next ?_
          have rank : Engine.phaseRank chosen.phase ≤ 1 := by
            cases chosen.phase <;> simp [Engine.phaseRank]
          unfold callBound
          omega
        · rfl
      · rfl
    · split <;> rfl

def play {shell : Shell σ ε} (patience : Patience shell) (engine : Engine) (state : σ) :
    Played σ ε :=
  (shell.play? (callBound patience engine state) engine state).get
    (isSome_play? patience _ engine state (Nat.le_refl _))

end Shell

end Gamebook
