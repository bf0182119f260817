import Gamebook.Proofs.Engine.Invariant
import Mathlib.Data.List.Chain
import Mathlib.Data.List.DropRight

set_option autoImplicit false

namespace Gamebook

def Scenario.Joins (scenario : Scenario) (here there : Nat) : Prop :=
  ∃ branch, scenario.branches[here]? = some branch ∧
    ∃ choice ∈ branch.choices, choice.target.toInt = there

namespace Engine

def Response.visit? : Response → Option Nat
  | .output (.text _ branch) => some branch
  | _ => none

def visits (responses : List Response) : List Nat :=
  (responses.rtakeWhile fun response => response ≠ .restarted).filterMap Response.visit?

structure Retraces (scenario : Scenario) (engine : Engine) (visited : List Nat) : Prop where
  kept : engine.trail = keepRecent trailLimit visited
  first : ∀ origin, visited.head? = some origin → origin = 0
  linked : visited.IsChain scenario.Joins
  arriving : engine.phase = .describe →
    visited = [] ∧ engine.current = 0 ∨
      ∃ last branch, visited.getLast? = some last ∧ scenario.branches[last]? = some branch ∧
        ∃ choice ∈ branch.choices, choice.target.toInt = engine.current
  deciding : engine.phase = .decide →
    ∃ last : Nat, visited.getLast? = some last ∧ engine.current = last

variable (scenario : Scenario)

theorem visits_restart (responses : List Response) : visits (responses ++ [.restarted]) = [] := by
  rw [visits, List.rtakeWhile_concat_neg _ _ _ (by simp)]
  rfl

theorem visits_concat (responses : List Response) (response : Response)
    (onward : response ≠ .restarted) :
    visits (responses ++ [response]) = visits responses ++ response.visit?.toList := by
  rw [visits, List.rtakeWhile_concat_pos _ _ _ (by simpa using onward), List.filterMap_append]
  cases found : response.visit? <;> simp [visits, found]

theorem visits_quiet (responses : List Response) (response : Response)
    (onward : response ≠ .restarted) (quiet : response.visit? = none) :
    visits (responses ++ [response]) = visits responses := by
  rw [visits_concat responses response onward, quiet, Option.toList_none, List.append_nil]

theorem start_retraces : (start scenario).Retraces scenario [] where
  kept := rfl
  first := by
    intro origin none
    cases none
  linked := .nil
  arriving := fun _ => .inl ⟨rfl, rfl⟩
  deciding := by
    intro phase
    cases phase

-- A description is the only output that adds a visit, and it stands at the end of the choice, or
-- of the start, that led to it.
theorem described_retraces (engine : Engine) (visited : List Nat) (index : Nat)
    (retraces : engine.Retraces scenario visited) (position : engine.current = index)
    (phase : engine.phase = .describe) :
    Retraces scenario
      { engine with
        phase := .decide
        trail := keepRecent trailLimit (engine.trail ++ [index]) }
      (visited ++ [index]) where
  kept := by rw [retraces.kept, keep_recent_append]
  first := by
    intro origin starts
    rcases retraces.arriving phase with ⟨rfl, origin⟩ | ⟨last, _, ends, _⟩
    · rw [position] at origin
      cases starts
      exact Int.ofNat.inj origin
    · have full : visited ≠ [] := by
        rintro rfl
        cases ends
      rw [List.head?_append_of_ne_nil visited full] at starts
      exact retraces.first origin starts
  linked := by
    refine List.isChain_append.mpr ⟨retraces.linked, .singleton index, ?_⟩
    intro last ends there begins
    cases begins
    rcases retraces.arriving phase with ⟨rfl, _⟩ | ⟨last', branch, ends', here, leads⟩
    · cases ends
    · obtain rfl : last = last' := Option.some.inj (ends.symm.trans ends')
      rw [position] at leads
      exact ⟨branch, here, leads⟩
  arriving := by
    intro describes
    cases describes
  deciding := fun _ => ⟨index, List.getLast?_concat, position⟩

theorem step_retraces (engine after : Engine) (output : Output) (visited : List Nat)
    (retraces : engine.Retraces scenario visited) (step : Step engine output after) :
    after.Retraces scenario (visited ++ (Response.output output).visit?.toList) := by
  cases step with
  | described branch index running idle position here phase =>
    exact described_retraces scenario engine visited index retraces position phase
  | ended | waiting | lost | finished | offered =>
    simp only [Response.visit?, Option.toList_none, List.append_nil]
    exact { retraces with }

theorem choose_retraces (engine chosen : Engine) (index : Nat) (visited : List Nat)
    (sound : engine.Sound scenario) (retraces : engine.Retraces scenario visited)
    (taken : engine.choose index = .ok chosen) : chosen.Retraces scenario visited := by
  obtain ⟨items, item, pending, found, rfl⟩ := choose_taken engine chosen index taken
  obtain ⟨branch, place, position, here, _, offers, phase⟩ := sound.waiting items pending
  obtain ⟨last, ends, stands⟩ := retraces.deciding phase
  obtain rfl : place = last := Int.ofNat.inj (position.symm.trans stands)
  rw [offers index, Option.map_eq_some_iff] at found
  obtain ⟨choice, member, rfl⟩ := found
  exact
    { retraces with
      arriving := fun _ =>
        .inr ⟨place, branch, ends, here, choice, List.mem_of_getElem? member, rfl⟩
      deciding := by
        intro decides
        cases decides }

theorem respond_retraces (engine : Engine) (operation : Operation) (responses : List Response)
    (sound : engine.Sound scenario) (retraces : engine.Retraces scenario (visits responses)) :
    (engine.respond operation).2.Retraces scenario
      (visits (responses ++ [(engine.respond operation).1])) := by
  cases operation with
  | next =>
    rw [respond, visits_concat _ _ (by simp)]
    exact step_retraces scenario engine _ _ _ retraces (next_step engine)
  | choose index =>
    rw [respond]
    cases taken : engine.choose index with
    | ok chosen =>
      rw [visits_quiet _ _ (by simp) rfl]
      exact choose_retraces scenario engine chosen index _ sound retraces taken
    | error error =>
      rw [visits_quiet _ _ (by simp) rfl]
      exact retraces
  | restart =>
    rw [respond, visits_restart, restart, sound.same]
    exact start_retraces scenario

theorem after_retraces (history : List Operation) :
    ((start scenario).after history).Retraces scenario
      (visits ((start scenario).responses history)) := by
  induction history using List.reverseRecOn with
  | nil => exact start_retraces scenario
  | append_singleton history operation ih =>
    have sound := after_sound scenario history (start scenario) (start_sound scenario)
    rw [after_concat, responses_append]
    exact respond_retraces scenario _ operation _ sound ih

theorem trail_retraces_visits (history : List Operation) :
    let trail := ((start scenario).after history).trail
    let visited := visits ((start scenario).responses history)
    trail <:+ visited ∧ trail.length = min 256 visited.length ∧
      (∀ origin, visited.head? = some origin → origin = 0) ∧
      visited.IsChain scenario.Joins ∧ trail.IsChain scenario.Joins := by
  intro trail visited
  have retraces := after_retraces scenario history
  have ends : trail <:+ visited := by
    rw [show trail = keepRecent trailLimit visited from retraces.kept]
    exact keep_recent_suffix trailLimit visited
  have long : trail.length = min 256 visited.length := by
    rw [show trail = keepRecent trailLimit visited from retraces.kept]
    exact keep_recent_length trailLimit visited
  exact ⟨ends, long, retraces.first, retraces.linked, retraces.linked.suffix ends⟩

theorem tides_trail :
    let engine := start ⟨"Tides", [⟨"Ebb", [⟨"Wait", 1⟩]⟩, ⟨"Flood", [⟨"Wait", 0⟩]⟩]⟩
    let history := (List.replicate 300 [Operation.next, .next, .choose 0]).flatten
    let visited := visits (engine.responses history)
    visited.length = 300 ∧ (∃ origin, visited.head? = some origin ∧ origin = 0) ∧
      (engine.after history).trail = visited.drop 44 := by
  intro engine history visited
  have long : visited.length = 300 := by decide +kernel
  have first : visited.head? = some 0 := by decide +kernel
  obtain ⟨ends, kept, origin, _⟩ := trail_retraces_visits engine.scenario history
  have recent : (engine.after history).trail.length = 256 := kept.trans (congrArg (min 256) long)
  refine ⟨long, ⟨0, first, origin 0 first⟩, ?_⟩
  have cut : (engine.after history).trail =
      visited.drop (visited.length - (engine.after history).trail.length) :=
    List.suffix_iff_eq_drop.mp ends
  rw [cut, long, recent]

end Engine

end Gamebook
