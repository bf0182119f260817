import Gamebook.Boundary
import Gamebook.Proofs.Playthrough.Reach

set_option autoImplicit false

namespace Gamebook

namespace Scenario

def menuAt (scenario : Scenario) (position : Int) : List MenuItem :=
  match scenario.branch? position with
  | none => []
  | some branch => branch.menu

def boundaryAt (scenario : Scenario) (position : Int) : Boundary :=
  match scenario.endingAt position with
  | some reason => .ofEnding (scenario.describedAt position) reason
  | none => .ofMenu (scenario.describedAt position) (scenario.menuAt position)

theorem boundary_texts (scenario : Scenario) (position : Int) :
    (scenario.boundaryAt position).texts = scenario.describedAt position := by
  rw [boundaryAt]
  cases scenario.endingAt position <;> rfl

theorem boundary_waits (scenario : Scenario) (position : Int)
    (goes : scenario.endingAt position = none) : (scenario.boundaryAt position).halt ≠ .ended := by
  simp [boundaryAt, goes, Boundary.ofMenu]

theorem menu_at_end (scenario : Scenario) (position : Int) (reason : Ending)
    (ends : scenario.endingAt position = some reason) : scenario.menuAt position = [] := by
  rw [endingAt] at ends
  rw [menuAt]
  cases found : scenario.branch? position with
  | none => rfl
  | some branch =>
    by_cases terminal : branch.choices = []
    · simp [Branch.menu, terminal]
    · simp [found, terminal] at ends

theorem menu_onward (scenario : Scenario) (position : Int)
    (goes : scenario.endingAt position = none) :
    ∃ branch, scenario.branch? position = some branch ∧ branch.choices ≠ [] ∧
      scenario.menuAt position = branch.menu := by
  rw [endingAt] at goes
  cases found : scenario.branch? position with
  | none => simp [found] at goes
  | some branch =>
    by_cases terminal : branch.choices = []
    · simp [found, terminal] at goes
    · exact ⟨branch, rfl, terminal, by simp only [menuAt, found]⟩

theorem menu_item_at (scenario : Scenario) (position : Int) (pick : Nat) :
    (scenario.menuAt position)[pick]? =
      ((scenario.branch? position).bind (·.choices[pick]?)).map fun choice =>
        ⟨pick, choice.label, choice.target⟩ := by
  rw [menuAt]
  cases scenario.branch? position with
  | none => rfl
  | some branch => exact menu_item branch pick

theorem menu_index (scenario : Scenario) (position : Int) (pick : Nat) (item : MenuItem)
    (listed : (scenario.menuAt position)[pick]? = some item) : item.index = pick := by
  rw [menu_item_at, Option.map_eq_some_iff] at listed
  obtain ⟨_, _, rfl⟩ := listed
  rfl

theorem leads_menu (scenario : Scenario) (position : Int) (pick : Nat) (next : Int) :
    scenario.Leads position pick next ↔
      ∃ item, (scenario.menuAt position)[pick]? = some item ∧ item.target.toInt = next := by
  simp only [menu_item_at, Leads, Option.map_eq_some_iff, Option.bind_eq_some_iff]
  constructor
  · rintro ⟨branch, choice, found, taken, rfl⟩
    exact ⟨_, ⟨choice, ⟨branch, found, taken⟩, rfl⟩, rfl⟩
  · rintro ⟨_, ⟨choice, ⟨branch, found, taken⟩, rfl⟩, rfl⟩
    exact ⟨branch, choice, found, taken, rfl⟩

theorem menu_nonempty (scenario : Scenario) (position : Int) :
    scenario.menuAt position ≠ [] ↔ scenario.endingAt position = none := by
  constructor
  · intro listed
    cases ends : scenario.endingAt position with
    | none => rfl
    | some reason => exact absurd (menu_at_end scenario position reason ends) listed
  · intro goes
    obtain ⟨branch, _, onward, menu⟩ := menu_onward scenario position goes
    rw [menu]
    intro empty
    have labels := menu_labels branch
    rw [empty, List.map_nil] at labels
    exact onward (List.map_eq_nil_iff.mp labels.symm)

end Scenario

namespace Engine

variable (texts : List String) (engine after : Engine)

theorem advance_text (text : String) (branch : Nat)
    (told : engine.next = (.text text branch, after)) :
    engine.advanceFrom texts = after.advanceFrom (texts ++ [text]) := by
  rw [advanceFrom]
  split
  · rename_i told'
    cases told.symm.trans told'
    rfl
  · rename_i told'
    cases told.symm.trans told'
  · rename_i told'
    cases told.symm.trans told'

theorem advance_menu (items : List MenuItem) (told : engine.next = (.menu items, after)) :
    engine.advanceFrom texts = (.ofMenu texts items, after) := by
  rw [advanceFrom]
  split
  · rename_i told'
    cases told.symm.trans told'
  · rename_i told'
    cases told.symm.trans told'
    rfl
  · rename_i told'
    cases told.symm.trans told'

theorem advance_ending (reason : Ending) (told : engine.next = (.ending reason, after)) :
    engine.advanceFrom texts = (.ofEnding texts reason, after) := by
  rw [advanceFrom]
  split
  · rename_i told'
    cases told.symm.trans told'
  · rename_i told'
    cases told.symm.trans told'
  · rename_i told'
    cases told.symm.trans told'
    rfl

def settled (scenario : Scenario) (position : Int) (visited : List Nat) : Engine where
  scenario := scenario
  current := position
  phase := if (scenario.branch? position).isSome then .decide else .describe
  pending := if (scenario.endingAt position).isSome then none else some (scenario.menuAt position)
  ending := scenario.endingAt position
  trail := keepRecent trailLimit visited

-- From an arrival to a boundary there is at most one description, and then a menu or an end.
theorem advance_arriving (scenario : Scenario) (position : Int) (earlier : List Nat)
    (grounded : scenario.branches = [] → position = 0) :
    (arriving scenario position (keepRecent trailLimit earlier)).advance =
      (scenario.boundaryAt position,
        settled scenario position (earlier ++ scenario.visitAt position)) := by
  rw [advance]
  cases found : scenario.branch? position with
  | none =>
    have told := next_lost (arriving scenario position (keepRecent trailLimit earlier)) rfl rfl found
    rw [missing_branch_at scenario position _ grounded] at told
    rw [advance_ending _ _ _ _ told]
    simp [Scenario.boundaryAt, settled, Scenario.endingAt, Scenario.describedAt, Scenario.visitAt,
      found, arriving]
  | some branch =>
    obtain ⟨index, rfl, here⟩ := (branch_found _ _ _).mp found
    have told := next_described (arriving scenario index (keepRecent trailLimit earlier)) branch
      index rfl rfl rfl here rfl
    simp only [arriving, keep_recent_append] at told
    rw [arriving, advance_text _ _ _ _ _ told]
    by_cases terminal : branch.choices = []
    · have ends := next_finished
        (deciding scenario index (keepRecent trailLimit (earlier ++ [index]))) branch index rfl rfl
        rfl here rfl terminal
      simp only [deciding] at ends
      rw [advance_ending _ _ _ _ ends]
      simp [Scenario.boundaryAt, settled, Scenario.endingAt, Scenario.describedAt,
        Scenario.visitAt, found, terminal]
    · have offers := next_offered
        (deciding scenario index (keepRecent trailLimit (earlier ++ [index]))) branch index rfl rfl
        rfl here rfl terminal
      simp only [deciding] at offers
      rw [advance_menu _ _ _ _ offers]
      simp [Scenario.boundaryAt, settled, Scenario.endingAt, Scenario.describedAt,
        Scenario.visitAt, Scenario.menuAt, found, terminal]

theorem advance_start (scenario : Scenario) :
    (start scenario).advance =
      (scenario.boundaryAt 0, settled scenario 0 (scenario.walk []).visited) := by
  rw [Scenario.walk, (Scenario.walk_arrival scenario 0).2.1]
  exact advance_arriving scenario 0 [] (fun _ => rfl)

theorem settled_trail (scenario : Scenario) (position : Int) (visited : List Nat) :
    (settled scenario position visited).trail = keepRecent trailLimit visited := by
  rw [settled]

theorem settled_pending (scenario : Scenario) (position : Int) (visited : List Nat)
    (goes : scenario.endingAt position = none) :
    (settled scenario position visited).pending = some (scenario.menuAt position) := by
  simp only [settled, goes, Option.isSome_none, Bool.false_eq_true, if_false]

theorem choose_settled (scenario : Scenario) (position : Int) (visited : List Nat) (pick : Nat)
    (next : Int) (leads : scenario.Leads position pick next) :
    (settled scenario position visited).choose pick =
      .ok (arriving scenario next (keepRecent trailLimit visited)) := by
  have goes := Scenario.leads_on scenario position pick next leads
  obtain ⟨item, listed, rfl⟩ := (Scenario.leads_menu scenario position pick next).mp leads
  rw [choose, settled_pending scenario position visited goes]
  simp only [listed, settled, goes, arriving]

theorem choose_unlisted (scenario : Scenario) (position : Int) (visited : List Nat) (pick : Nat)
    (goes : scenario.endingAt position = none) (absent : (scenario.menuAt position)[pick]? = none) :
    (settled scenario position visited).choose pick = .error (.outOfRange pick) := by
  rw [choose, settled_pending scenario position visited goes]
  simp only [absent]

def follow (scenario : Scenario) (picks : List Nat) : Except ChoiceError (Boundary × Engine) :=
  picks.foldlM (fun reached pick => (reached.2.choose pick).map advance) (start scenario).advance

theorem advance_chosen (scenario : Scenario) (picks : List Nat) (position : Int) (pick : Nat)
    (next : Int) (reached : scenario.Reaches 0 picks position)
    (leads : scenario.Leads position pick next) :
    (arriving scenario next (keepRecent trailLimit (scenario.walk picks).visited)).advance =
      (scenario.boundaryAt next,
        settled scenario next (scenario.walk (picks ++ [pick])).visited) := by
  have visited := (Scenario.walk_concat scenario 0 picks position pick next reached leads).2
  rw [Scenario.walk, Scenario.walk, visited]
  exact advance_arriving scenario next _
    (fun empty => absurd empty (Scenario.leads_peopled scenario position pick next leads))

theorem follow_reached (scenario : Scenario) (picks : List Nat) (position : Int)
    (reached : scenario.Reaches 0 picks position) :
    follow scenario picks =
      .ok (scenario.boundaryAt position,
        settled scenario position (scenario.walk picks).visited) := by
  induction reached with
  | start => exact congrArg Except.ok (advance_start scenario)
  | onward picks position pick next reached leads ih =>
    rw [follow] at ih
    rw [follow, List.foldlM_append, ih]
    have taken := choose_settled scenario position (scenario.walk picks).visited pick next leads
    have onward := advance_chosen scenario picks position pick next reached leads
    simp [bind, Except.bind, taken, Except.map, onward, pure, Except.pure]

end Engine

end Gamebook
