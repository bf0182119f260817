import Gamebook.Proofs.Playthrough.Walk

set_option autoImplicit false

namespace Gamebook

namespace Scenario

def Leads (scenario : Scenario) (position : Int) (pick : Nat) (next : Int) : Prop :=
  ∃ branch choice, scenario.branch? position = some branch ∧ branch.choices[pick]? = some choice ∧
    choice.target.toInt = next

def Stops (scenario : Scenario) (position : Int) (pick : Option Nat) : Prop :=
  ∀ branch, scenario.branch? position = some branch →
    branch.choices = [] ∨ ∀ index, pick = some index → branch.choices.length ≤ index

structure Route (scenario : Scenario) (picks : List Nat) (origin : Int) (position : Nat → Int)
    (last : Nat) : Prop where
  start : position 0 = origin
  onward : ∀ step < last, ∃ pick, picks[step]? = some pick ∧
    scenario.Leads (position step) pick (position (step + 1))
  stop : scenario.Stops (position last) picks[last]?

def path (position : Nat → Int) (last : Nat) : List Int := (List.range (last + 1)).map position

def callsAt (scenario : Scenario) (position : Int) : List Call :=
  match scenario.branch? position with
  | none => []
  | some branch =>
    if branch.choices = [] then [.describe branch.description]
    else [.describe branch.description, .offer (branch.choices.map (·.label))]

def visitAt (scenario : Scenario) (position : Int) : List Nat :=
  match scenario.branch? position with
  | none => []
  | some _ => [position.toNat]

def endingAt (scenario : Scenario) (position : Int) : Option Ending :=
  match scenario.branch? position with
  | none => some (scenario.outside position)
  | some branch => if branch.choices = [] then some (.terminalBranch position.toNat) else none

def stopAt (scenario : Scenario) (position : Int) (pick : Option Nat) : WalkStop :=
  match scenario.endingAt position, pick with
  | some reason, _ => .ended reason
  | none, none => .exhausted
  | none, some index => .noSuchChoice index

def along (scenario : Scenario) (picks : List Nat) (position : Nat → Int) (last : Nat) : Walk where
  calls := (path position last).flatMap scenario.callsAt ++
    ((scenario.endingAt (position last)).map Call.announce).toList
  visited := (path position last).flatMap scenario.visitAt
  stop := scenario.stopAt (position last) picks[last]?

def prepend (origin : Int) (position : Nat → Int) : Nat → Int
  | 0 => origin
  | step + 1 => position step

theorem path_zero (position : Nat → Int) : path position 0 = [position 0] := rfl

theorem path_prepend (origin : Int) (position : Nat → Int) (last : Nat) :
    path (prepend origin position) (last + 1) = origin :: path position last := by
  rw [path, List.range_succ_eq_map, List.map_cons, List.map_map]
  rfl

theorem route_prepend (scenario : Scenario) (pick : Nat) (picks : List Nat) (origin next : Int)
    (position : Nat → Int) (last : Nat) (leads : scenario.Leads origin pick next)
    (route : scenario.Route picks next position last) :
    scenario.Route (pick :: picks) origin (prepend origin position) (last + 1) where
  start := rfl
  onward := by
    intro step earlier
    cases step with
    | zero => exact ⟨pick, rfl, by rw [prepend, prepend, route.start]; exact leads⟩
    | succ step => exact route.onward step (Nat.lt_of_succ_lt_succ earlier)
  stop := route.stop

theorem route_stopped (scenario : Scenario) (picks : List Nat) (origin : Int)
    (stops : scenario.Stops origin picks[0]?) : scenario.Route picks origin (fun _ => origin) 0 where
  start := rfl
  onward := by
    intro step earlier
    cases earlier
  stop := stops

theorem stops_or_leads (scenario : Scenario) (position : Int) (pick : Option Nat) :
    scenario.Stops position pick ∨
      ∃ index next, pick = some index ∧ scenario.Leads position index next := by
  by_cases leads : ∃ index next, pick = some index ∧ scenario.Leads position index next
  · exact .inr leads
  · refine .inl ?_
    intro branch here
    refine .inr ?_
    intro index picked
    refine Nat.le_of_not_lt ?_
    intro within
    have taken := List.getElem?_eq_getElem within
    exact leads ⟨index, _, picked, branch, _, here, taken, rfl⟩

theorem walk_stopped (scenario : Scenario) (picks : List Nat) (origin : Int)
    (stops : scenario.Stops origin picks[0]?) :
    scenario.walkFrom origin picks = scenario.along picks (fun _ => origin) 0 := by
  cases found : scenario.branch? origin with
  | none =>
    rw [walk_lost scenario origin picks found]
    simp [along, path_zero, callsAt, visitAt, endingAt, stopAt, found]
  | some branch =>
    obtain ⟨index, rfl, here⟩ := (branch_found _ _ _).mp found
    by_cases terminal : branch.choices = []
    · rw [walk_ended scenario branch index picks here terminal]
      simp [along, path_zero, callsAt, visitAt, endingAt, stopAt, found, terminal]
    · cases picks with
      | nil =>
        rw [walk_exhausted scenario branch index here terminal]
        simp [along, path_zero, callsAt, visitAt, endingAt, stopAt, found, terminal]
      | cons pick picks =>
        have past := (stops branch found).resolve_left terminal pick rfl
        have absent := List.getElem?_eq_none_iff.mpr past
        rw [walk_mistaken scenario branch index picks pick here terminal absent]
        simp [along, path_zero, callsAt, visitAt, endingAt, stopAt, found, terminal]

theorem walk_led (scenario : Scenario) (pick : Nat) (picks : List Nat) (origin next : Int)
    (position : Nat → Int) (last : Nat) (leads : scenario.Leads origin pick next)
    (walked : scenario.walkFrom next picks = scenario.along picks position last) :
    scenario.walkFrom origin (pick :: picks) =
      scenario.along (pick :: picks) (prepend origin position) (last + 1) := by
  obtain ⟨branch, choice, found, taken, rfl⟩ := leads
  obtain ⟨index, rfl, here⟩ := (branch_found _ _ _).mp found
  have onward : branch.choices ≠ [] := List.ne_nil_of_mem (List.mem_of_getElem? taken)
  rw [walk_onward scenario branch index picks pick choice here taken, walked]
  simp [along, path_prepend, callsAt, visitAt, found, onward, prepend]

-- The induction is on the picks, as the walk recurses; each pick puts one position in front.
theorem walk_route (scenario : Scenario) (picks : List Nat) (origin : Int) :
    ∃ position last, scenario.Route picks origin position last ∧
      scenario.walkFrom origin picks = scenario.along picks position last := by
  induction picks generalizing origin with
  | nil =>
    have stops : scenario.Stops origin none := by
      intro branch _
      refine .inr ?_
      intro pick taken
      cases taken
    exact ⟨_, 0, route_stopped scenario [] origin stops, walk_stopped scenario [] origin stops⟩
  | cons pick picks ih =>
    rcases scenario.stops_or_leads origin (some pick) with stops | ⟨_, next, ⟨⟩, leads⟩
    · exact ⟨_, 0, route_stopped scenario (pick :: picks) origin stops,
        walk_stopped scenario (pick :: picks) origin stops⟩
    · obtain ⟨position, last, route, walked⟩ := ih next
      exact ⟨_, _, route_prepend scenario pick picks origin next position last leads route,
        walk_led scenario pick picks origin next position last leads walked⟩

end Scenario

namespace Script

theorem play_start (scenario : Scenario) (picks : List Nat) :
    let played := play {} picks (Engine.start scenario)
    (∀ limit, 2 * picks.length + 2 ≤ limit →
      (shell {}).play? limit (Engine.start scenario) { picks } = some played) ∧
    played.shell.calls = (scenario.walk picks).calls ∧
    played.result = (scenario.walk picks).result [] := by
  obtain ⟨engine, left, played⟩ := play_walk scenario picks 0 [] [] (2 * picks.length + 2)
    (fun _ => rfl) (Nat.le_refl _)
  have done : (shell {}).play? (2 * picks.length + 2) (Engine.start scenario) { picks } =
      some ⟨(scenario.walk picks).result [], engine, ⟨left, (scenario.walk picks).calls⟩⟩ := played
  have same : play {} picks (Engine.start scenario) =
      ⟨(scenario.walk picks).result [], engine, ⟨left, (scenario.walk picks).calls⟩⟩ :=
    Option.get_of_eq_some _ done
  rw [same]
  refine ⟨?_, rfl, rfl⟩
  intro limit enough
  exact Shell.play_more _ _ _ _ limit _ enough done

end Script

end Gamebook
