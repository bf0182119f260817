import Gamebook.Proofs.Engine.Invariant
import Mathlib.Data.List.DropRight

set_option autoImplicit false

namespace Gamebook.Engine

-- An operation with what it gave, and the engine that it found.
structure Event where
  before : Engine
  operation : Operation
  response : Response

def events (engine : Engine) : List Operation → List Event
  | [] => []
  | operation :: rest =>
    let (response, reached) := engine.respond operation
    ⟨engine, operation, response⟩ :: reached.events rest

def Event.counts (event : Event) : Bool :=
  match event.operation, event.response with
  | .next, _ => !(event.before.isWaiting || event.before.isEnded)
  | .choose _, .refused _ => false
  | _, _ => true

def normalForm (engine : Engine) (history : List Operation) : List Event :=
  ((engine.events history).rtakeWhile fun event => event.operation ≠ .restart).filter Event.counts

def answerAtEnd (reason : Ending) : Operation → Response
  | .next => .output (.ending reason)
  | .choose _ => .refused .nothingPending
  | .restart => .restarted

theorem events_cons (engine : Engine) (operation : Operation) (rest : List Operation) :
    engine.events (operation :: rest) =
      ⟨engine, operation, (engine.respond operation).1⟩ ::
        (engine.respond operation).2.events rest := rfl

theorem events_concat (engine : Engine) (history : List Operation) (operation : Operation) :
    engine.events (history ++ [operation]) =
      engine.events history ++
        [⟨engine.after history, operation, ((engine.after history).respond operation).1⟩] := by
  induction history generalizing engine with
  | nil => rfl
  | cons first rest ih =>
    rw [List.cons_append, events_cons, ih]
    rfl

theorem events_operations (engine : Engine) (history : List Operation) :
    (engine.events history).map (·.operation) = history := by
  induction history generalizing engine with
  | nil => rfl
  | cons operation rest ih =>
    rw [events_cons, List.map_cons, ih]

theorem events_responses (engine : Engine) (history : List Operation) :
    (engine.events history).map (·.response) = engine.responses history := by
  induction history generalizing engine with
  | nil => rfl
  | cons operation rest ih =>
    rw [events_cons, List.map_cons, ih, responses_cons]

theorem events_respond (engine : Engine) (history : List Operation) (event : Event)
    (member : event ∈ engine.events history) :
    event.response = (event.before.respond event.operation).1 := by
  induction history generalizing engine with
  | nil => cases member
  | cons operation rest ih =>
    rcases List.mem_cons.mp member with rfl | later
    · rfl
    · exact ih _ later

theorem next_repeats (engine : Engine) (again : (engine.isWaiting || engine.isEnded) = true) :
    engine.next.2 = engine := by
  cases ending : engine.ending with
  | some reason => rw [next_ended engine reason ending]
  | none =>
    cases pending : engine.pending with
    | some items => rw [next_waiting engine items ending pending]
    | none => simp [isWaiting, isEnded, ending, pending] at again

theorem uncounted_idle (engine : Engine) (operation : Operation)
    (idle : Event.counts ⟨engine, operation, (engine.respond operation).1⟩ = false) :
    (engine.respond operation).2 = engine := by
  cases operation with
  | next =>
    refine next_repeats engine ?_
    simpa only [Event.counts, Bool.not_eq_false'] using idle
  | choose index =>
    cases taken : engine.choose index with
    | ok chosen => simp [Event.counts, respond, taken] at idle
    | error error => simp only [respond, taken]
  | restart => cases idle

theorem restart_afresh (scenario : Scenario) (history : List Operation) :
    ((start scenario).after history).restart = start scenario := by
  rw [restart, (after_sound scenario history _ (start_sound scenario)).same]

section Concat

variable (engine : Engine) (history : List Operation) (operation : Operation)

theorem normal_form_restart : engine.normalForm (history ++ [.restart]) = [] := by
  simp [normalForm, events_concat]

theorem normal_form_counted (onward : operation ≠ .restart)
    (counts : Event.counts ⟨engine.after history, operation,
      ((engine.after history).respond operation).1⟩ = true) :
    engine.normalForm (history ++ [operation]) = engine.normalForm history ++
      [⟨engine.after history, operation, ((engine.after history).respond operation).1⟩] := by
  rw [normalForm, events_concat, List.rtakeWhile_concat_pos _ _ _ (by simpa using onward),
    List.filter_append, List.filter_singleton, counts]
  rfl

theorem normal_form_uncounted (onward : operation ≠ .restart)
    (idle : Event.counts ⟨engine.after history, operation,
      ((engine.after history).respond operation).1⟩ = false) :
    engine.normalForm (history ++ [operation]) = engine.normalForm history := by
  rw [normalForm, events_concat, List.rtakeWhile_concat_pos _ _ _ (by simpa using onward),
    List.filter_append, List.filter_singleton, idle]
  exact List.append_nil _

end Concat

-- The induction is on the history from its end, where one operation joins what is kept, or is
-- left out of it, or clears it.
theorem normal_form_reruns (scenario : Scenario) (history : List Operation) :
    (start scenario).events (((start scenario).normalForm history).map (·.operation)) =
        (start scenario).normalForm history ∧
      (start scenario).after (((start scenario).normalForm history).map (·.operation)) =
        (start scenario).after history := by
  induction history using List.reverseRecOn with
  | nil => exact ⟨rfl, rfl⟩
  | append_singleton history operation ih =>
    obtain ⟨same, comes⟩ := ih
    by_cases again : operation = .restart
    · subst again
      rw [normal_form_restart, after_concat]
      exact ⟨rfl, (restart_afresh scenario history).symm⟩
    · cases counts : Event.counts ⟨(start scenario).after history, operation,
          (((start scenario).after history).respond operation).1⟩ with
      | true =>
        rw [normal_form_counted _ _ _ again counts, List.map_append, List.map_singleton,
          events_concat, after_concat, after_concat, same, comes]
        exact ⟨rfl, rfl⟩
      | false =>
        rw [normal_form_uncounted _ _ _ again counts, after_concat, uncounted_idle _ _ counts]
        exact ⟨same, comes⟩

theorem ending_absorbs (engine : Engine) (reason : Ending) (ended : engine.ending = some reason)
    (idle : engine.pending = none) (more : List Operation) (onward : .restart ∉ more) :
    engine.after more = engine ∧ engine.responses more = more.map (answerAtEnd reason) := by
  induction more with
  | nil => exact ⟨rfl, rfl⟩
  | cons operation rest ih =>
    obtain ⟨first, later⟩ := not_or.mp (mt List.mem_cons.mpr onward)
    have stays : engine.respond operation = (answerAtEnd reason operation, engine) := by
      cases operation with
      | next => rw [respond, next_ended engine reason ended]; rfl
      | choose index => simp only [respond, choose, idle, answerAtEnd]
      | restart => exact absurd rfl first
    obtain ⟨reached, responded⟩ := ih later
    constructor
    · rw [after, List.foldl_cons, stays]
      exact reached
    · rw [responses_cons, stays, List.map_cons, responded]

theorem every_run_has_normal_form (scenario : Scenario) (history : List Operation) :
    let run := (start scenario).events history
    let kept := (run.rtakeWhile fun event => event.operation ≠ .restart).filter Event.counts
    run.map (·.operation) = history ∧
    run.map (·.response) = (start scenario).responses history ∧
    (start scenario).responses (kept.map (·.operation)) = kept.map (·.response) ∧
    (start scenario).after (kept.map (·.operation)) = (start scenario).after history ∧
    (∀ event ∈ run, event.counts = false →
      (event.before.respond event.operation).2 = event.before) ∧
    (∀ reason, ((start scenario).after history).ending = some reason →
      ∀ more, .restart ∉ more →
        (start scenario).after (history ++ more) = (start scenario).after history ∧
        (start scenario).responses (history ++ more) =
          (start scenario).responses history ++ more.map (answerAtEnd reason)) ∧
    ∀ later,
      (start scenario).after (history ++ .restart :: later) = (start scenario).after later ∧
      (start scenario).responses (history ++ .restart :: later) =
        (start scenario).responses history ++ .restarted :: (start scenario).responses later := by
  intro run kept
  have sound := after_sound scenario history (start scenario) (start_sound scenario)
  obtain ⟨same, comes⟩ := normal_form_reruns scenario history
  have reran : (start scenario).responses (kept.map (·.operation)) = kept.map (·.response) := by
    rw [← events_responses]
    exact congrArg (List.map (·.response)) same
  refine ⟨events_operations _ _, events_responses _ _, reran, comes, ?_, ?_, ?_⟩
  · intro event member uncounted
    have response := events_respond _ _ event member
    refine uncounted_idle event.before event.operation ?_
    rw [← response]
    exact uncounted
  · intro reason ended more onward
    have idle : ((start scenario).after history).pending = none := by
      rcases sound.apart with idle | running
      · exact idle
      · rw [running] at ended
        cases ended
    obtain ⟨reached, responded⟩ := ending_absorbs _ reason ended idle more onward
    rw [after_append, responses_append, reached, responded]
    exact ⟨rfl, rfl⟩
  · intro later
    rw [after_append, responses_append, after, List.foldl_cons, responses_cons, respond,
      restart_afresh scenario history]
    exact ⟨rfl, rfl⟩

theorem rowing_in_normal_form :
    let engine := start ⟨"Lake", [⟨"Shore", [⟨"Row", 1⟩]⟩, ⟨"Island", []⟩]⟩
    let history : List Operation :=
      [.next, .restart, .next, .next, .choose 3, .next, .choose 0, .next, .next]
    let kept := engine.normalForm history
    kept.map (·.operation) = [.next, .next, .choose 0, .next, .next] ∧
      engine.responses (kept.map (·.operation)) = kept.map (·.response) ∧
      engine.after (kept.map (·.operation)) = engine.after history ∧
      (engine.after history).ending = some (.terminalBranch 1) ∧
      engine.after (history ++ [.next, .choose 0]) = engine.after history ∧
      engine.responses (history ++ [.next, .choose 0]) =
        engine.responses history ++
          [.output (.ending (.terminalBranch 1)), .refused .nothingPending] := by
  intro engine history kept
  have short : kept.map (·.operation) = [.next, .next, .choose 0, .next, .next] := by
    decide +kernel
  have ended : (engine.after history).ending = some (.terminalBranch 1) := by decide +kernel
  obtain ⟨_, _, reran, comes, _, absorbs, _⟩ := every_run_has_normal_form engine.scenario history
  obtain ⟨stays, answered⟩ := absorbs _ ended [.next, .choose 0] (by decide)
  exact ⟨short, reran, comes, ended, stays, answered⟩

end Gamebook.Engine
