import Gamebook.Proofs.Engine.Step

set_option autoImplicit false

namespace Gamebook

def Scenario.HasTarget (scenario : Scenario) (position : Int) : Prop :=
  ∃ branch ∈ scenario.branches, ∃ choice ∈ branch.choices, choice.target.toInt = position

def Scenario.InRange (scenario : Scenario) (position : Int) : Prop :=
  0 ≤ position ∧ position < scenario.branches.length

def Scenario.EndsAt (scenario : Scenario) (position : Int) : Ending → Prop
  | .terminalBranch index =>
    position = index ∧ ∃ branch, scenario.branches[index]? = some branch ∧ branch.choices = []
  | .outOfRange target =>
    position = target ∧ ¬ scenario.InRange target ∧ scenario.branches ≠ [] ∧
      scenario.HasTarget target
  | .noBranches => scenario.branches = [] ∧ position = 0

def Branch.Offers (branch : Branch) (items : List MenuItem) : Prop :=
  ∀ index, items[index]? =
    branch.choices[index]?.map fun choice => MenuItem.mk index choice.label choice.target

namespace Engine

structure Sound (scenario : Scenario) (engine : Engine) : Prop where
  same : engine.scenario = scenario
  apart : engine.pending = none ∨ engine.ending = none
  waiting : ∀ items, engine.pending = some items → ∃ (branch : Branch) (index : Nat),
    engine.current = index ∧ scenario.branches[index]? = some branch ∧
      branch.choices ≠ [] ∧ branch.Offers items ∧ engine.phase = .decide
  decided : engine.phase = .decide → ∃ index : Nat,
    engine.current = index ∧ index < scenario.branches.length ∧ engine.trail.getLast? = some index
  ended : ∀ reason, engine.ending = some reason → scenario.EndsAt engine.current reason
  arrived : engine.current = 0 ∨ scenario.HasTarget engine.current
  remembered : engine.trail.length ≤ 256
  visited : ∀ index ∈ engine.trail, index < scenario.branches.length

theorem out_of_range (scenario : Scenario) (position : Int)
    (missing : scenario.branch? position = none) : ¬ scenario.InRange position := by
  rintro ⟨lower, upper⟩
  have past := (branch_missing scenario position).mp missing position.toNat (by omega)
  omega

theorem target_has_branches (scenario : Scenario) (position : Int)
    (target : scenario.HasTarget position) : scenario.branches ≠ [] := by
  intro empty
  obtain ⟨branch, member, _⟩ := target
  rw [empty] at member
  cases member

theorem start_sound (scenario : Scenario) : (start scenario).Sound scenario where
  same := rfl
  apart := .inl rfl
  waiting := by
    intro items pending
    cases pending
  decided := by
    intro phase
    cases phase
  ended := by
    intro reason ending
    cases ending
  arrived := .inl rfl
  remembered := Nat.zero_le _
  visited := by
    intro index member
    cases member

theorem missing_branch_ends (scenario : Scenario) (engine : Engine) (sound : engine.Sound scenario)
    (missing : scenario.branch? engine.current = none) :
    scenario.EndsAt engine.current engine.missingBranch := by
  rw [missingBranch, sound.same]
  by_cases empty : scenario.branches = []
  · have origin : engine.current = 0 := by
      cases sound.arrived with
      | inl origin => exact origin
      | inr target => exact absurd empty (target_has_branches scenario _ target)
    rw [if_pos ⟨empty, origin⟩]
    exact ⟨empty, origin⟩
  · rw [if_neg (fun both => empty both.1)]
    refine ⟨rfl, out_of_range scenario _ missing, empty, ?_⟩
    cases sound.arrived with
    | inr target => exact target
    | inl origin =>
      rw [origin] at missing
      have noneThere := (branch_missing scenario 0).mp missing 0 rfl
      exact absurd (List.eq_nil_of_length_eq_zero (by omega)) empty

theorem step_sound (scenario : Scenario) (engine after : Engine) (output : Output)
    (sound : engine.Sound scenario) (step : Step engine output after) : after.Sound scenario := by
  cases step with
  | ended reason ending => exact sound
  | waiting items running pending => exact sound
  | lost running idle missing =>
    rw [sound.same] at missing
    have ends := missing_branch_ends scenario engine sound missing
    exact
      { sound with
        apart := .inl rfl
        waiting := by
          intro items pending
          cases pending
        ended := by
          intro reason ending
          obtain rfl : engine.missingBranch = reason := Option.some.inj ending
          exact ends }
  | described branch index running idle position here phase =>
    rw [sound.same] at here
    have bound : index < scenario.branches.length := (List.getElem?_eq_some_iff.mp here).1
    have latest : (keepRecent trailLimit (engine.trail ++ [index])).getLast? = some index :=
      keep_recent_last trailLimit engine.trail index (by decide)
    have short : (keepRecent trailLimit (engine.trail ++ [index])).length ≤ 256 := by
      rw [keep_recent_length]
      exact Nat.min_le_left _ _
    have known : ∀ other ∈ keepRecent trailLimit (engine.trail ++ [index]),
        other < scenario.branches.length := by
      intro other member
      have earlier := (keep_recent_suffix trailLimit (engine.trail ++ [index])).mem member
      rw [List.mem_append, List.mem_singleton] at earlier
      rcases earlier with earlier | rfl
      · exact sound.visited other earlier
      · exact bound
    generalize keepRecent trailLimit (engine.trail ++ [index]) = trail at latest short known ⊢
    exact
      { sound with
        waiting := by
          intro items pending
          rw [idle] at pending
          cases pending
        decided := by
          intro _
          exact ⟨index, position, bound, latest⟩
        remembered := short
        visited := known }
  | finished branch index running idle position here phase terminal =>
    rw [sound.same] at here
    exact
      { sound with
        apart := .inl rfl
        waiting := by
          intro items pending
          cases pending
        ended := by
          intro reason ending
          obtain rfl : Ending.terminalBranch index = reason := Option.some.inj ending
          exact ⟨position, branch, here, terminal⟩ }
  | offered branch index running idle position here phase onward =>
    rw [sound.same] at here
    exact
      { sound with
        apart := .inr running
        waiting := by
          intro items pending
          obtain rfl : branch.menu = items := Option.some.inj pending
          exact ⟨branch, index, position, here, onward, menu_item branch, phase⟩ }

theorem sound_running (scenario : Scenario) (engine : Engine) (items : List MenuItem)
    (sound : engine.Sound scenario) (pending : engine.pending = some items) :
    engine.ending = none := by
  cases sound.apart with
  | inl idle => cases idle.symm.trans pending
  | inr running => exact running

theorem sound_idle (scenario : Scenario) (engine : Engine) (reason : Ending)
    (sound : engine.Sound scenario) (ending : engine.ending = some reason) :
    engine.pending = none := by
  cases sound.apart with
  | inl idle => exact idle
  | inr running => cases running.symm.trans ending

theorem choose_sound (scenario : Scenario) (engine chosen : Engine) (index : Nat)
    (sound : engine.Sound scenario) (taken : engine.choose index = .ok chosen) :
    chosen.Sound scenario := by
  obtain ⟨items, item, pending, found, rfl⟩ := choose_taken engine chosen index taken
  obtain ⟨branch, place, position, here, onward, offers, _⟩ := sound.waiting items pending
  have target : scenario.HasTarget item.target.toInt := by
    rw [offers index, Option.map_eq_some_iff] at found
    obtain ⟨choice, member, rfl⟩ := found
    exact ⟨branch, List.mem_of_getElem? here, choice, List.mem_of_getElem? member, rfl⟩
  have running := sound_running scenario engine items sound pending
  exact
    { sound with
      apart := .inl rfl
      waiting := by
        intro others waits
        cases waits
      decided := by
        intro phase
        cases phase
      ended := by
        intro reason ending
        rw [running] at ending
        cases ending
      arrived := .inr target }

theorem respond_sound (scenario : Scenario) (engine : Engine) (operation : Operation)
    (sound : engine.Sound scenario) : (engine.respond operation).2.Sound scenario := by
  cases operation with
  | next => exact step_sound scenario engine _ _ sound (next_step engine)
  | choose index =>
    rw [respond]
    cases taken : engine.choose index with
    | ok chosen => exact choose_sound scenario engine chosen index sound taken
    | error error => exact sound
  | restart =>
    rw [respond, restart, sound.same]
    exact start_sound scenario

theorem after_sound (scenario : Scenario) (history : List Operation) (engine : Engine)
    (sound : engine.Sound scenario) : (engine.after history).Sound scenario := by
  induction history generalizing engine with
  | nil => exact sound
  | cons operation rest ih =>
    exact ih (engine.respond operation).2 (respond_sound scenario engine operation sound)

def Reports (scenario : Scenario) (after : Engine) : Output → Prop
  | .text text index =>
    after.phase = .decide ∧ after.current = index ∧
      ∃ branch, scenario.branches[index]? = some branch ∧ branch.description = text
  | .menu items => after.pending = some items
  | .ending reason => after.ending = some reason

theorem step_reports (scenario : Scenario) (engine after : Engine) (output : Output)
    (same : engine.scenario = scenario) (step : Step engine output after) :
    after.Reports scenario output := by
  subst same
  cases step with
  | ended reason ending => exact ending
  | waiting items running pending => exact pending
  | lost running idle missing => rfl
  | described branch index running idle position here phase =>
    exact ⟨rfl, position, branch, here, rfl⟩
  | finished branch index running idle position here phase terminal => rfl
  | offered branch index running idle position here phase onward => rfl

theorem every_history_sound (scenario : Scenario) (history : List Operation) :
    let engine := (start scenario).after history
    engine.Sound scenario ∧ engine.next.2.Reports scenario engine.next.1 ∧
      ∀ index, (∃ chosen, engine.choose index = .ok chosen) ↔
        ∃ items, engine.pending = some items ∧ index < items.length := by
  have sound := after_sound scenario history (start scenario) (start_sound scenario)
  exact ⟨sound, step_reports scenario _ _ _ sound.same (next_step _), choose_accepts _⟩

end Engine

end Gamebook
