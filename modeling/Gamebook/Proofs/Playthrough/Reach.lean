import Gamebook.Catalog
import Gamebook.Proofs.Playthrough.Route

set_option autoImplicit false

namespace Gamebook

def Call.description? : Call → Option String
  | .describe text => some text
  | _ => none

def Walk.told (walk : Walk) : List String := walk.calls.filterMap Call.description?

def Script.told (scenario : Scenario) (picks : List Nat) : List String :=
  (play {} picks (Engine.start scenario)).shell.calls.filterMap Call.description?

theorem Script.told_walk (scenario : Scenario) (picks : List Nat) :
    told scenario picks = (scenario.walk picks).told := by
  rw [told, (play_start scenario picks).2.1, Walk.told]

namespace Scenario

def describedAt (scenario : Scenario) (position : Int) : List String :=
  ((scenario.branch? position).map (·.description)).toList

inductive Reaches (scenario : Scenario) (origin : Int) : List Nat → Int → Prop where
  | start : Reaches scenario origin [] origin
  | onward (picks : List Nat) (position : Int) (pick : Nat) (next : Int)
      (reached : Reaches scenario origin picks position)
      (leads : scenario.Leads position pick next) :
      Reaches scenario origin (picks ++ [pick]) next

theorem leads_unique (scenario : Scenario) (position : Int) (pick : Nat) (next other : Int)
    (leads : scenario.Leads position pick next) (again : scenario.Leads position pick other) :
    next = other := by
  obtain ⟨branch, choice, here, taken, rfl⟩ := leads
  obtain ⟨branch', choice', here', taken', rfl⟩ := again
  obtain rfl : branch = branch' := Option.some.inj (here.symm.trans here')
  obtain rfl : choice = choice' := Option.some.inj (taken.symm.trans taken')
  rfl

theorem leads_peopled (scenario : Scenario) (position : Int) (pick : Nat) (next : Int)
    (leads : scenario.Leads position pick next) : scenario.branches ≠ [] := by
  obtain ⟨branch, _, found, _⟩ := leads
  obtain ⟨index, _, here⟩ := (branch_found _ _ _).mp found
  exact List.ne_nil_of_mem (List.mem_of_getElem? here)

theorem leads_on (scenario : Scenario) (position : Int) (pick : Nat) (next : Int)
    (leads : scenario.Leads position pick next) : scenario.endingAt position = none := by
  obtain ⟨branch, choice, here, taken, _⟩ := leads
  have onward : branch.choices ≠ [] := List.ne_nil_of_mem (List.mem_of_getElem? taken)
  simp only [endingAt, here, if_neg onward]

theorem leads_past (scenario : Scenario) (position : Int) (pick : Nat) (next : Int)
    (leads : scenario.Leads position pick next) : ¬ scenario.Stops position (some pick) := by
  intro stops
  obtain ⟨branch, choice, here, taken, _⟩ := leads
  have within := (List.getElem?_eq_some_iff.mp taken).1
  rcases stops branch here with terminal | past
  · simp [terminal] at within
  · exact absurd (past pick rfl) (Nat.not_le_of_lt within)

variable (scenario : Scenario) (origin : Int)

theorem reaches_nil (position : Int) (reached : scenario.Reaches origin [] position) :
    position = origin := by
  generalize none : ([] : List Nat) = picks at reached
  cases reached with
  | start => rfl
  | onward picks position pick next reached leads => simp at none

theorem reaches_concat (picks : List Nat) (pick : Nat) (next : Int) :
    scenario.Reaches origin (picks ++ [pick]) next ↔
      ∃ position, scenario.Reaches origin picks position ∧ scenario.Leads position pick next := by
  constructor
  · intro reached
    generalize whole : picks ++ [pick] = all at reached
    cases reached with
    | start => simp at whole
    | onward earlier position last next reached leads =>
      obtain ⟨rfl, rfl⟩ : picks = earlier ∧ pick = last := by simpa using List.append_inj' whole rfl
      exact ⟨position, reached, leads⟩
  · rintro ⟨position, reached, leads⟩
    exact .onward picks position pick next reached leads

theorem reaches_unique (picks : List Nat) (position other : Int)
    (reached : scenario.Reaches origin picks position)
    (again : scenario.Reaches origin picks other) : position = other := by
  induction reached generalizing other with
  | start => exact (reaches_nil scenario origin other again).symm
  | onward picks position pick next _ leads ih =>
    obtain ⟨position', reached', leads'⟩ :=
      (reaches_concat scenario origin picks pick other).mp again
    obtain rfl : position = position' := ih position' reached'
    exact leads_unique scenario position pick next other leads leads'

theorem walk_reached (picks : List Nat) (position : Int)
    (reached : scenario.Reaches origin picks position) :
    ∃ calls visited, ∀ more, scenario.walkFrom origin (picks ++ more) =
      ⟨calls ++ (scenario.walkFrom position more).calls,
        visited ++ (scenario.walkFrom position more).visited,
        (scenario.walkFrom position more).stop⟩ := by
  induction reached with
  | start => exact ⟨[], [], fun more => rfl⟩
  | onward picks position pick next _ leads ih =>
    obtain ⟨calls, visited, onward⟩ := ih
    obtain ⟨branch, choice, found, taken, rfl⟩ := leads
    obtain ⟨index, rfl, here⟩ := (branch_found _ _ _).mp found
    refine ⟨calls ++ [.describe branch.description, .offer (branch.choices.map (·.label))],
      visited ++ [index], ?_⟩
    intro more
    rw [List.append_assoc, List.singleton_append, onward,
      walk_onward scenario branch index more pick choice here taken]
    simp

theorem walk_arrival (position : Int) :
    (scenario.walkFrom position []).told = scenario.describedAt position ∧
      (scenario.walkFrom position []).visited = scenario.visitAt position ∧
      (scenario.walkFrom position []).stop = scenario.stopAt position none := by
  have stops : scenario.Stops position ([] : List Nat)[0]? := by
    intro branch _
    refine .inr ?_
    intro pick taken
    cases taken
  rw [walk_stopped scenario [] position stops, along, path_zero]
  refine ⟨?_, by simp, rfl⟩
  simp only [Walk.told, describedAt, List.flatMap_singleton]
  cases found : scenario.branch? position with
  | none => simp [callsAt, endingAt, found, Call.description?]
  | some branch =>
    by_cases terminal : branch.choices = [] <;>
      simp [callsAt, endingAt, found, terminal, Call.description?]

theorem walk_step (position : Int) (pick : Nat) (next : Int)
    (leads : scenario.Leads position pick next) :
    (scenario.walkFrom position [pick]).told =
        (scenario.walkFrom position []).told ++ scenario.describedAt next ∧
      (scenario.walkFrom position [pick]).visited =
        (scenario.walkFrom position []).visited ++ scenario.visitAt next := by
  obtain ⟨told, visited, _⟩ := walk_arrival scenario next
  obtain ⟨branch, choice, found, taken, rfl⟩ := leads
  obtain ⟨index, rfl, here⟩ := (branch_found _ _ _).mp found
  have onward : branch.choices ≠ [] := List.ne_nil_of_mem (List.mem_of_getElem? taken)
  rw [Walk.told] at told
  rw [walk_onward scenario branch index [] pick choice here taken,
    walk_exhausted scenario branch index here onward, visited]
  simp [Walk.told, List.filterMap_cons, Call.description?, told]

theorem walk_concat (picks : List Nat) (position : Int) (pick : Nat) (next : Int)
    (reached : scenario.Reaches origin picks position)
    (leads : scenario.Leads position pick next) :
    (scenario.walkFrom origin (picks ++ [pick])).told =
        (scenario.walkFrom origin picks).told ++ scenario.describedAt next ∧
      (scenario.walkFrom origin (picks ++ [pick])).visited =
        (scenario.walkFrom origin picks).visited ++ scenario.visitAt next := by
  obtain ⟨calls, visited, onward⟩ := walk_reached scenario origin picks position reached
  obtain ⟨told, went⟩ := walk_step scenario position pick next leads
  have before := onward []
  rw [List.append_nil] at before
  rw [Walk.told, Walk.told] at told
  rw [onward [pick], before, went]
  simp [Walk.told, told]

theorem told_reached (picks : List Nat) (position : Int)
    (reached : scenario.Reaches 0 picks position) :
    Script.told scenario picks =
      (if picks = [] then [] else Script.told scenario picks.dropLast) ++
        scenario.describedAt position := by
  simp only [Script.told_walk]
  cases reached with
  | start => exact (walk_arrival scenario 0).1
  | onward picks before pick next reached leads =>
    have longer : picks ++ [pick] ≠ [] := List.append_ne_nil_of_right_ne_nil picks (by simp)
    rw [if_neg longer, List.dropLast_concat]
    exact (walk_concat scenario 0 picks before pick position reached leads).1

theorem walk_last (picks : List Nat) (position : Int)
    (reached : scenario.Reaches origin picks position) :
    ∃ told visited,
      (scenario.walkFrom origin picks).told = told ++ scenario.describedAt position ∧
      (scenario.walkFrom origin picks).visited = visited ++ scenario.visitAt position := by
  obtain ⟨calls, visited, onward⟩ := walk_reached scenario origin picks position reached
  obtain ⟨told, went, _⟩ := walk_arrival scenario position
  have whole := onward []
  rw [List.append_nil, went] at whole
  refine ⟨calls.filterMap Call.description?, visited, ?_, by rw [whole]⟩
  rw [← told, whole, Walk.told, Walk.told, List.filterMap_append]

theorem walk_stop (picks : List Nat) (position : Int)
    (reached : scenario.Reaches origin picks position) :
    (scenario.walkFrom origin picks).stop = scenario.stopAt position none := by
  obtain ⟨calls, visited, onward⟩ := walk_reached scenario origin picks position reached
  have whole := onward []
  rw [List.append_nil] at whole
  rw [whole]
  exact (walk_arrival scenario position).2.2

theorem described_once (position : Int) : (scenario.describedAt position).length ≤ 1 := by
  rw [describedAt]
  cases scenario.branch? position with
  | none => exact Nat.zero_le 1
  | some branch => exact Nat.le_refl 1

end Scenario

theorem Catalog.listed_stocked (catalog : Catalog) (index : Nat) (story : Story)
    (found : catalog.scenarios[index]? = some story) : catalog.isEmpty = false := by
  rw [isEmpty, List.isEmpty_eq_false_iff]
  exact List.ne_nil_of_mem (List.mem_of_getElem? found)

def Story.manor : Story where
  id := "scenario-file:/home/manor.txt"
  fileName := "manor.txt"
  scenario :=
    ⟨"Manor", [⟨"Gate", [⟨"Enter", 1⟩, ⟨"Leave", 2⟩]⟩, ⟨"Inside", []⟩, ⟨"Away", []⟩]⟩

end Gamebook
