import Gamebook.Playthrough.Recorded
import Gamebook.Proofs.Playthrough.Reach

set_option autoImplicit false

namespace Gamebook

def Output.call : Output → Call
  | .text told _ => .describe told
  | .menu items => .offer (items.map (·.label))
  | .ending reason => .announce reason

def Engine.StandsAt (engine : Engine) : Call → Prop
  | .describe _ => engine.ending = none ∧ engine.pending = none ∧ engine.phase = .decide
  | .offer labels =>
    engine.ending = none ∧ ∃ items, engine.pending = some items ∧ items.map (·.label) = labels
  | .announce reason => engine.ending = some reason

theorem Engine.stands_at_call (engine : Engine) : engine.next.2.StandsAt engine.next.1.call := by
  have step := engine.next_step
  generalize engine.next.1 = output, engine.next.2 = after at step ⊢
  cases step with
  | ended reason ending => exact ending
  | waiting items running pending => exact ⟨running, items, pending, rfl⟩
  | lost running idle missing => rfl
  | described branch index running idle position here phase => exact ⟨running, idle, rfl⟩
  | finished branch index running idle position here phase terminal => rfl
  | offered branch index running idle position here phase onward =>
    exact ⟨running, branch.menu, rfl, rfl⟩

inductive Turn (ε : Type) where
  | over (result : Except (Stop ε) Outcome)
  | onward (engine : Engine)

section

variable {σ τ ε : Type}

def Engine.resume (engine : Engine) : Output → Except ε (Option Nat) → Turn ε
  | _, .error error => .over (.error (.shell error))
  | .ending reason, .ok _ => .over (.ok ⟨reason, engine.trail⟩)
  | .menu _, .ok (some index) =>
    match engine.choose index with
    | .ok chosen => .onward chosen
    | .error error => .over (.error (.engine error))
  | _, .ok _ => .onward engine

namespace Shell

def serve (shell : Shell σ ε) (state : σ) : Call → Except ε (Option Nat) × σ
  | .describe text => ((shell.describe text state).1.map fun _ => none, (shell.describe text state).2)
  | .offer labels => ((shell.offer labels state).1.map some, (shell.offer labels state).2)
  | .announce reason =>
    ((shell.announce reason state).1.map fun _ => none, (shell.announce reason state).2)

def turn (shell : Shell σ ε) (engine : Engine) (state : σ) : Turn ε × σ :=
  let (answer, next) := shell.serve state engine.next.1.call
  (engine.next.2.resume engine.next.1 answer, next)

def firstCalls (shell : Shell σ ε) : Nat → Engine → σ → List Call
  | 0, _, _ => []
  | limit + 1, engine, state =>
    engine.next.1.call ::
      match shell.turn engine state with
      | (.over _, _) => []
      | (.onward chosen, next) => shell.firstCalls limit chosen next

theorem play_turn (shell : Shell σ ε) (limit : Nat) (engine : Engine) (state : σ) :
    shell.play? (limit + 1) engine state =
      match shell.turn engine state with
      | (.over result, next) => some ⟨result, engine.next.2, next⟩
      | (.onward chosen, next) => shell.play? limit chosen next := by
  rw [play?, turn]
  cases engine.next with
  | mk output after =>
    cases output with
    | text text branch =>
      simp only [Output.call, serve]
      cases shell.describe text state with
      | mk answer next => cases answer <;> rfl
    | menu items =>
      simp only [Output.call, serve]
      cases shell.offer (items.map (·.label)) state with
      | mk answer next =>
        cases answer with
        | ok index =>
          simp only [Except.map, Engine.resume]
          cases after.choose index <;> rfl
        | error error => rfl
    | ending reason =>
      simp only [Output.call, serve]
      cases shell.announce reason state with
      | mk answer next => cases answer <;> rfl

section Turns

variable (shell : Shell σ ε) (engine chosen : Engine) (state next : σ)

theorem play_over (limit : Nat) (result : Except (Stop ε) Outcome)
    (turned : shell.turn engine state = (.over result, next)) :
    shell.play? (limit + 1) engine state = some ⟨result, engine.next.2, next⟩ ∧
      shell.firstCalls (limit + 1) engine state = [engine.next.1.call] := by
  rw [play_turn, firstCalls, turned]
  exact ⟨rfl, rfl⟩

theorem play_onward (limit : Nat) (turned : shell.turn engine state = (.onward chosen, next)) :
    shell.play? (limit + 1) engine state = shell.play? limit chosen next ∧
      shell.firstCalls (limit + 1) engine state =
        engine.next.1.call :: shell.firstCalls limit chosen next := by
  rw [play_turn, firstCalls, turned]
  exact ⟨rfl, rfl⟩

theorem first_call : shell.firstCalls 1 engine state = [engine.next.1.call] := by
  rw [firstCalls]
  rcases shell.turn engine state with ⟨result | chosen, next⟩ <;> rfl

end Turns

section Calls

variable (shell : Shell σ ε) (limit : Nat) (engine : Engine) (state : σ)

theorem first_calls_length (going : shell.play? limit engine state = none) :
    (shell.firstCalls (limit + 1) engine state).length = limit + 1 := by
  induction limit generalizing engine state with
  | zero => rw [first_call, List.length_singleton]
  | succ limit ih =>
    rcases turned : shell.turn engine state with ⟨result | chosen, next⟩
    · rw [(play_over shell engine state next limit result turned).1] at going
      cases going
    · rw [(play_onward shell engine chosen state next limit turned).1] at going
      rw [(play_onward shell engine chosen state next (limit + 1) turned).2, List.length_cons,
        ih chosen next going]

theorem first_calls_prefix (more : Nat) (within : limit ≤ more) :
    shell.firstCalls limit engine state <+: shell.firstCalls more engine state := by
  induction limit generalizing more engine state with
  | zero => exact List.nil_prefix
  | succ limit ih =>
    obtain ⟨more, rfl⟩ : ∃ less, more = less + 1 := ⟨more - 1, by omega⟩
    rcases turned : shell.turn engine state with ⟨result | chosen, next⟩
    · rewrite [(play_over shell engine state next limit result turned).2,
        (play_over shell engine state next more result turned).2]
      exact List.prefix_rfl
    · rw [(play_onward shell engine chosen state next limit turned).2,
        (play_onward shell engine chosen state next more turned).2, List.cons_prefix_cons]
      exact ⟨rfl, ih chosen next more (Nat.le_of_succ_le_succ within)⟩

theorem first_calls_done (more : Nat) (within : limit ≤ more) (played : Played σ ε)
    (done : shell.play? limit engine state = some played) :
    shell.firstCalls more engine state = shell.firstCalls limit engine state := by
  induction limit generalizing more engine state with
  | zero => cases done
  | succ limit ih =>
    obtain ⟨more, rfl⟩ : ∃ less, more = less + 1 := ⟨more - 1, by omega⟩
    rcases turned : shell.turn engine state with ⟨result | chosen, next⟩
    · rw [(play_over shell engine state next limit result turned).2,
        (play_over shell engine state next more result turned).2]
    · rw [(play_onward shell engine chosen state next limit turned).1] at done
      rw [(play_onward shell engine chosen state next limit turned).2,
        (play_onward shell engine chosen state next more turned).2,
        ih chosen next more (Nat.le_of_succ_le_succ within) done]

theorem play_longer (going : shell.play? limit engine state = none) (more : Nat)
    (played : Played σ ε) (done : shell.play? more engine state = some played) :
    limit + 1 ≤ more := by
  apply Nat.lt_of_not_le
  intro short
  rw [play_more shell more engine state limit played short done] at going
  cases going

theorem recorded_turn (before : List Call) :
    (recorded shell).turn engine (state, before) =
      ((shell.turn engine state).1, (shell.turn engine state).2,
        before ++ [engine.next.1.call]) := by
  rw [turn, turn]
  cases engine.next.1.call <;> rfl

theorem recorded_play (before : List Call) :
    (recorded shell).play? limit engine (state, before) =
      (shell.play? limit engine state).map fun played =>
        ⟨played.result, played.engine,
          (played.shell, before ++ shell.firstCalls limit engine state)⟩ := by
  induction limit generalizing engine state before with
  | zero => rfl
  | succ limit ih =>
    rw [play_turn, play_turn, recorded_turn, firstCalls]
    rcases shell.turn engine state with ⟨result | chosen, next⟩
    · rfl
    · simp only [ih, List.append_assoc, List.singleton_append]

end Calls

def FailsAfter (error : ε) (shell : Shell σ ε) (other : Shell τ ε) : Nat → σ → τ → Prop
  | 0, _, start => ∀ call, (other.serve start call).1 = .error error
  | served + 1, state, start =>
    ∀ call, (other.serve start call).1 = (shell.serve state call).1 ∧
      FailsAfter error shell other served (shell.serve state call).2 (other.serve start call).2

theorem failing_fails (error : ε) (shell : Shell σ ε) (served : Nat) (state : σ) :
    FailsAfter error shell (failing error shell) served state (state, served) := by
  induction served generalizing state with
  | zero =>
    intro call
    cases call <;> rfl
  | succ served ih =>
    intro call
    cases call with
    | describe text => exact ⟨rfl, ih (shell.describe text state).2⟩
    | offer labels => exact ⟨rfl, ih (shell.offer labels state).2⟩
    | announce reason => exact ⟨rfl, ih (shell.announce reason state).2⟩

section Fault

variable (error : ε) (shell : Shell σ ε) (other : Shell τ ε) (engine : Engine) (state : σ)
  (start : τ)

theorem refused_turn (alike : FailsAfter error shell other 0 state start) :
    ∃ left, other.turn engine start = (.over (.error (.shell error)), left) := by
  refine ⟨(other.serve start engine.next.1.call).2, ?_⟩
  rw [turn]
  simp only [alike engine.next.1.call]
  rfl

theorem served_turn (served : Nat) (alike : FailsAfter error shell other (served + 1) state start) :
    ∃ left, other.turn engine start = ((shell.turn engine state).1, left) ∧
      FailsAfter error shell other served (shell.turn engine state).2 left := by
  obtain ⟨same, later⟩ := alike engine.next.1.call
  refine ⟨(other.serve start engine.next.1.call).2, ?_, later⟩
  rw [turn, turn]
  simp only [same]

-- The induction is on the calls served, which both playthroughs make alike.
theorem failed_play (served : Nat) (alike : FailsAfter error shell other served state start)
    (going : shell.play? served engine state = none) :
    ∃ (last : Engine) (left : τ),
      other.play? (served + 1) engine start =
        some ⟨.error (.shell error), last.next.2, left⟩ ∧
      other.firstCalls (served + 1) engine start = shell.firstCalls (served + 1) engine state ∧
      (shell.firstCalls (served + 1) engine state).getLast? = some last.next.1.call := by
  induction served generalizing engine state start with
  | zero =>
    obtain ⟨left, refused⟩ := refused_turn error shell other engine state start alike
    have stopped := (play_over other engine start left 0 _ refused).1
    rw [first_call, first_call]
    exact ⟨engine, left, stopped, rfl, rfl⟩
  | succ served ih =>
    obtain ⟨left, same, later⟩ := served_turn error shell other engine state start served alike
    rcases turned : shell.turn engine state with ⟨result | chosen, next⟩
    · rw [(play_over shell engine state next served result turned).1] at going
      cases going
    · rw [(play_onward shell engine chosen state next served turned).1] at going
      rw [turned] at same later
      obtain ⟨last, rest, stopped, called, final⟩ := ih chosen next left later going
      obtain ⟨played, calls⟩ := play_onward other engine chosen start left (served + 1) same
      rw [played, calls, (play_onward shell engine chosen state next (served + 1) turned).2, called,
        List.getLast?_cons, final]
      exact ⟨last, rest, stopped, rfl, rfl⟩

end Fault

theorem fault_stops_play (error : ε) (shell : Shell σ ε) (other : Shell τ ε) (served : Nat)
    (engine : Engine) (state : σ) (start : τ)
    (alike : FailsAfter error shell other served state start)
    (going : shell.play? served engine state = none) :
    let calls := shell.firstCalls (served + 1) engine state
    calls.length = served + 1 ∧
    (∀ limit played, (recorded shell).play? limit engine (state, []) = some played →
      calls <+: played.shell.2) ∧
    ∃ call stopped left, calls.getLast? = some call ∧ stopped.StandsAt call ∧
      ∀ limit, served + 1 ≤ limit →
        (recorded other).play? limit engine (start, []) =
          some ⟨.error (.shell error), stopped, (left, calls)⟩ := by
  intro calls
  obtain ⟨last, left, stopped, called, final⟩ :=
    failed_play error shell other engine state start served alike going
  refine ⟨first_calls_length shell served engine state going, ?_, _, last.next.2, left, final,
    last.stands_at_call, ?_⟩
  · intro limit played done
    rw [recorded_play, List.nil_append] at done
    obtain ⟨ended, finished, rfl⟩ := Option.map_eq_some_iff.mp done
    exact first_calls_prefix shell (served + 1) engine state limit
      (play_longer shell served engine state going limit ended finished)
  · intro limit enough
    rw [recorded_play, play_more other (served + 1) engine start limit _ enough stopped,
      first_calls_done other (served + 1) engine start limit enough _ stopped, called]
    rfl

theorem manor_menu_fault :
    let scripted := Script.shell {}
    let faulty := failing Script.Fault.exhausted scripted
    let engine := Engine.start Story.manor.scenario
    FailsAfter Script.Fault.exhausted scripted faulty 1 ⟨[1], []⟩ (⟨[1], []⟩, 1) ∧
      scripted.play? 1 engine ⟨[1], []⟩ = none ∧
      ∃ stopped left, stopped.StandsAt (.offer ["Enter", "Leave"]) ∧
        ∀ limit, 2 ≤ limit →
          (recorded faulty).play? limit engine ((⟨[1], []⟩, 1), []) =
            some ⟨.error (.shell .exhausted), stopped,
              (left, [.describe "Gate", .offer ["Enter", "Leave"]])⟩ := by
  intro scripted faulty engine
  have alike : FailsAfter Script.Fault.exhausted scripted faulty 1 ⟨[1], []⟩ (⟨[1], []⟩, 1) :=
    failing_fails Script.Fault.exhausted scripted 1 ⟨[1], []⟩
  have going : scripted.play? 1 engine ⟨[1], []⟩ = none := rfl
  have made : scripted.firstCalls 2 engine ⟨[1], []⟩ =
      [.describe "Gate", .offer ["Enter", "Leave"]] := rfl
  obtain ⟨_, _, call, stopped, left, final, stands, faults⟩ :=
    fault_stops_play Script.Fault.exhausted scripted faulty 1 engine ⟨[1], []⟩ (⟨[1], []⟩, 1) alike
      going
  rw [made] at final faults
  cases final
  exact ⟨alike, going, stopped, left, stands, faults⟩

end Shell

end

end Gamebook
