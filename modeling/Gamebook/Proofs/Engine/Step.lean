import Gamebook.Engine.History

set_option autoImplicit false

namespace Gamebook

theorem branch_found (scenario : Scenario) (position : Int) (branch : Branch) :
    scenario.branch? position = some branch ↔
      ∃ index : Nat, position = index ∧ scenario.branches[index]? = some branch := by
  cases position with
  | ofNat index =>
    constructor
    · intro found
      exact ⟨index, rfl, found⟩
    · rintro ⟨other, same, found⟩
      obtain rfl : index = other := Int.ofNat.inj same
      exact found
  | negSucc index =>
    constructor
    · intro found
      cases found
    · rintro ⟨other, same, _⟩
      cases same

theorem branch_at_index (scenario : Scenario) (index : Nat) :
    scenario.branch? index = scenario.branches[index]? := rfl

theorem branch_missing (scenario : Scenario) (position : Int) :
    scenario.branch? position = none ↔
      ∀ index : Nat, position = index → scenario.branches.length ≤ index := by
  cases position with
  | ofNat index =>
    constructor
    · intro missing other same
      obtain rfl : index = other := Int.ofNat.inj same
      exact List.getElem?_eq_none_iff.mp missing
    · intro past
      exact List.getElem?_eq_none_iff.mpr (past index rfl)
  | negSucc index =>
    constructor
    · intro _ other same
      cases same
    · intro _
      rfl

theorem terminal_true (branch : Branch) (terminal : branch.choices = []) :
    branch.isTerminal = true :=
  List.isEmpty_iff.mpr terminal

theorem terminal_false (branch : Branch) (onward : branch.choices ≠ []) :
    branch.isTerminal = false :=
  Bool.eq_false_iff.mpr (mt List.isEmpty_iff.mp onward)

theorem menu_item (branch : Branch) (index : Nat) :
    branch.menu[index]? =
      branch.choices[index]?.map fun choice => ⟨index, choice.label, choice.target⟩ := by
  rw [Branch.menu, List.getElem?_map, List.getElem?_zipIdx]
  cases branch.choices[index]? with
  | none => rfl
  | some choice => simp

theorem menu_labels (branch : Branch) :
    branch.menu.map (·.label) = branch.choices.map (·.label) := by
  apply List.ext_getElem?
  intro index
  rw [List.getElem?_map, List.getElem?_map, menu_item]
  cases branch.choices[index]? <;> rfl

namespace Engine

-- One constructor for each way through `next`, with the guards it passed.
inductive Step (engine : Engine) : Output → Engine → Prop where
  | ended (reason : Ending) (ending : engine.ending = some reason) :
      Step engine (.ending reason) engine
  | waiting (items : List MenuItem) (running : engine.ending = none)
      (pending : engine.pending = some items) : Step engine (.menu items) engine
  | lost (running : engine.ending = none) (idle : engine.pending = none)
      (missing : engine.scenario.branch? engine.current = none) :
      Step engine (.ending engine.missingBranch)
        { engine with ending := some engine.missingBranch, pending := none }
  | described (branch : Branch) (index : Nat) (running : engine.ending = none)
      (idle : engine.pending = none) (position : engine.current = index)
      (here : engine.scenario.branches[index]? = some branch) (phase : engine.phase = .describe) :
      Step engine (.text branch.description index)
        { engine with
          phase := .decide
          trail := keepRecent trailLimit (engine.trail ++ [index]) }
  | finished (branch : Branch) (index : Nat) (running : engine.ending = none)
      (idle : engine.pending = none) (position : engine.current = index)
      (here : engine.scenario.branches[index]? = some branch) (phase : engine.phase = .decide)
      (terminal : branch.choices = []) :
      Step engine (.ending (.terminalBranch index))
        { engine with ending := some (.terminalBranch index), pending := none }
  | offered (branch : Branch) (index : Nat) (running : engine.ending = none)
      (idle : engine.pending = none) (position : engine.current = index)
      (here : engine.scenario.branches[index]? = some branch) (phase : engine.phase = .decide)
      (onward : branch.choices ≠ []) :
      Step engine (.menu branch.menu) { engine with pending := some branch.menu }

theorem next_ended (engine : Engine) (reason : Ending) (ending : engine.ending = some reason) :
    engine.next = (.ending reason, engine) := by
  rw [next, ending]

theorem next_waiting (engine : Engine) (items : List MenuItem) (running : engine.ending = none)
    (pending : engine.pending = some items) : engine.next = (.menu items, engine) := by
  rw [next, running, pending]

theorem next_lost (engine : Engine) (running : engine.ending = none) (idle : engine.pending = none)
    (missing : engine.scenario.branch? engine.current = none) :
    engine.next = (.ending engine.missingBranch,
      { engine with ending := some engine.missingBranch, pending := none }) := by
  rw [next, running, idle]
  simp only [missing]
  rfl

theorem next_visit (engine : Engine) (branch : Branch) (index : Nat)
    (running : engine.ending = none) (idle : engine.pending = none)
    (position : engine.current = index) (here : engine.scenario.branches[index]? = some branch) :
    engine.next = engine.visit branch := by
  have found : engine.scenario.branch? engine.current = some branch :=
    (branch_found _ _ _).mpr ⟨index, position, here⟩
  rw [next, running, idle]
  simp only [found]

theorem next_described (engine : Engine) (branch : Branch) (index : Nat)
    (running : engine.ending = none) (idle : engine.pending = none)
    (position : engine.current = index) (here : engine.scenario.branches[index]? = some branch)
    (phase : engine.phase = .describe) :
    engine.next = (.text branch.description index,
      { engine with
        phase := .decide
        trail := keepRecent trailLimit (engine.trail ++ [index]) }) := by
  rw [next_visit engine branch index running idle position here]
  simp only [visit, phase, position, Int.toNat_natCast]

theorem next_finished (engine : Engine) (branch : Branch) (index : Nat)
    (running : engine.ending = none) (idle : engine.pending = none)
    (position : engine.current = index) (here : engine.scenario.branches[index]? = some branch)
    (phase : engine.phase = .decide) (terminal : branch.choices = []) :
    engine.next = (.ending (.terminalBranch index),
      { engine with ending := some (.terminalBranch index), pending := none }) := by
  rw [next_visit engine branch index running idle position here]
  simp only [visit, phase, position, Int.toNat_natCast, terminal_true branch terminal, if_true,
    finish]

theorem next_offered (engine : Engine) (branch : Branch) (index : Nat)
    (running : engine.ending = none) (idle : engine.pending = none)
    (position : engine.current = index) (here : engine.scenario.branches[index]? = some branch)
    (phase : engine.phase = .decide) (onward : branch.choices ≠ []) :
    engine.next = (.menu branch.menu, { engine with pending := some branch.menu }) := by
  rw [next_visit engine branch index running idle position here]
  simp only [visit, phase, terminal_false branch onward, Bool.false_eq_true, if_false]

theorem next_step (engine : Engine) : Step engine engine.next.1 engine.next.2 := by
  cases ending : engine.ending with
  | some reason =>
    rw [next_ended engine reason ending]
    exact .ended reason ending
  | none =>
    cases pending : engine.pending with
    | some items =>
      rw [next_waiting engine items ending pending]
      exact .waiting items ending pending
    | none =>
      cases found : engine.scenario.branch? engine.current with
      | none =>
        rw [next_lost engine ending pending found]
        exact .lost ending pending found
      | some branch =>
        obtain ⟨index, position, here⟩ := (branch_found _ _ _).mp found
        cases phase : engine.phase with
        | describe =>
          rw [next_described engine branch index ending pending position here phase]
          exact .described branch index ending pending position here phase
        | decide =>
          by_cases terminal : branch.choices = []
          · rw [next_finished engine branch index ending pending position here phase terminal]
            exact .finished branch index ending pending position here phase terminal
          · rw [next_offered engine branch index ending pending position here phase terminal]
            exact .offered branch index ending pending position here phase terminal

theorem choose_taken (engine chosen : Engine) (index : Nat)
    (taken : engine.choose index = .ok chosen) :
    ∃ items item, engine.pending = some items ∧ items[index]? = some item ∧
      chosen = { engine with current := item.target.toInt, phase := .describe, pending := none } := by
  rw [choose] at taken
  cases pending : engine.pending with
  | none =>
    rw [pending] at taken
    cases taken
  | some items =>
    rw [pending] at taken
    cases found : items[index]? with
    | none =>
      simp only [found] at taken
      cases taken
    | some item =>
      simp only [found, Except.ok.injEq] at taken
      exact ⟨items, item, rfl, found, taken.symm⟩

theorem choose_accepts (engine : Engine) (index : Nat) :
    (∃ chosen, engine.choose index = .ok chosen) ↔
      ∃ items, engine.pending = some items ∧ index < items.length := by
  constructor
  · rintro ⟨chosen, taken⟩
    obtain ⟨items, item, pending, found, _⟩ := choose_taken engine chosen index taken
    exact ⟨items, pending, (List.getElem?_eq_some_iff.mp found).1⟩
  · rintro ⟨items, pending, bound⟩
    rw [choose, pending]
    simp only [List.getElem?_eq_getElem bound]
    exact ⟨_, rfl⟩

end Engine

end Gamebook
