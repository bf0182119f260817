import Mathlib.Control.Monad.Basic
import Gamebook.TestCase.Run
import Gamebook.Proofs.Catalog.Loading
import Gamebook.Proofs.Playthrough.Reach

set_option autoImplicit false

namespace Gamebook

namespace Scenario

variable (scenario : Scenario) (picks : List Nat) (origin : Int) (position : Nat → Int)
  (last : Nat)

theorem route_within (route : scenario.Route picks origin position last) : last ≤ picks.length := by
  cases last with
  | zero => exact Nat.zero_le _
  | succ step =>
    obtain ⟨pick, taken, _⟩ := route.onward step (Nat.lt_succ_self step)
    exact (List.getElem?_eq_some_iff.mp taken).1

theorem route_stops (route : scenario.Route picks origin position 0) :
    scenario.Stops origin picks[0]? := route.start ▸ route.stop

theorem route_tail (route : scenario.Route picks origin position (last + 1)) :
    ∃ pick rest, picks = pick :: rest ∧ scenario.Leads origin pick (position 1) ∧
      scenario.Route rest (position 1) (fun step => position (step + 1)) last := by
  obtain ⟨pick, taken, leads⟩ := route.onward 0 (Nat.zero_lt_succ last)
  cases picks with
  | nil => cases taken
  | cons first rest =>
    obtain rfl : first = pick := Option.some.inj taken
    refine ⟨first, rest, rfl, route.start ▸ leads, ?_⟩
    exact
      { start := rfl
        onward := fun step earlier => route.onward (step + 1) (Nat.succ_lt_succ earlier)
        stop := route.stop }

theorem along_tail (pick : Nat) (rest : List Nat) (start : position 0 = origin) :
    (scenario.along (pick :: rest) position (last + 1)).calls =
        scenario.callsAt origin ++
          (scenario.along rest (fun step => position (step + 1)) last).calls ∧
      (scenario.along (pick :: rest) position (last + 1)).stop =
        (scenario.along rest (fun step => position (step + 1)) last).stop := by
  have whole :
      path position (last + 1) = origin :: path (fun step => position (step + 1)) last := by
    rw [← start, path, List.range_succ_eq_map, List.map_cons, List.map_map]
    rfl
  refine ⟨?_, rfl⟩
  rw [along, along, whole, List.flatMap_cons, List.append_assoc]

end Scenario

namespace TestCase

def Event.ofCall : Call → TestCase.Event
  | .describe shown => .text shown
  | .offer labels => .choices labels
  | .announce reason => .ending reason.code

def preceded (earlier : List TestCase.Event)
    (result : Except TestCase.Error (List TestCase.Event × Nat)) :
    Except TestCase.Error (List TestCase.Event × Nat) :=
  result.map fun (later, used) => (earlier ++ later, used)

theorem preceded_twice (first second : List TestCase.Event)
    (result : Except TestCase.Error (List TestCase.Event × Nat)) :
    preceded first (preceded second result) = preceded (first ++ second) result := by
  cases result with
  | error error => rfl
  | ok pair => simp only [preceded, Except.map, List.append_assoc]

def answer (total seen used : Nat) (events : List TestCase.Event) :
    WalkStop → Except TestCase.Error (List TestCase.Event × Nat)
  | .ended _ => if used = total then .ok (events, used) else .error (.unusedActions used total)
  | .exhausted => .error (.missingAction (seen + 1))
  | .noSuchChoice pick => .error (.engine (.outOfRange pick))

theorem preceded_answer (total seen used : Nat) (earlier events : List TestCase.Event)
    (stop : WalkStop) :
    preceded earlier (answer total seen used events stop) =
      answer total seen used (earlier ++ events) stop := by
  cases stop with
  | ended reason =>
    by_cases all : used = total
    · simp only [preceded, answer, if_pos all, Except.map]
    · simp only [preceded, answer, if_neg all, Except.map]
  | exhausted => rfl
  | noSuchChoice pick => rfl

section Steps

variable (total steps : Nat) (engine after : Engine) (actions : List Action) (seen used : Nat)

theorem run_text (text : String) (branch : Nat) (told : engine.next = (.text text branch, after)) :
    runEngine total (steps + 1) engine actions seen used =
      preceded [.text text] (runEngine total steps after actions (seen + 1) used) := by
  rw [runEngine, told]
  rfl

theorem run_missing (items : List MenuItem) (told : engine.next = (.menu items, after)) :
    runEngine total (steps + 1) engine [] seen used = .error (.missingAction seen) := by
  rw [runEngine, told]

theorem run_refused (items : List MenuItem) (told : engine.next = (.menu items, after))
    (action : Action) (error : ChoiceError)
    (refused : after.choose (actionIndex action) = .error error) :
    runEngine total (steps + 1) engine (action :: actions) seen used = .error (.engine error) := by
  rw [runEngine, told]
  simp only [refused]

theorem run_chosen (items : List MenuItem) (told : engine.next = (.menu items, after))
    (action : Action) (chosen : Engine) (taken : after.choose (actionIndex action) = .ok chosen) :
    runEngine total (steps + 1) engine (action :: actions) seen used =
      preceded [.choices (items.map (·.label))]
        (runEngine total steps chosen actions (seen + 1) (used + 1)) := by
  rw [runEngine, told]
  simp only [taken]
  rfl

theorem run_ending (reason : Ending) (told : engine.next = (.ending reason, after)) :
    runEngine total (steps + 1) engine actions seen used =
      answer total seen used [.ending reason.code] (.ended reason) := by
  rw [runEngine, told]
  rfl

end Steps

section AtPosition

variable (scenario : Scenario) (total steps : Nat) (trail : List Nat) (seen used : Nat)

theorem run_arriving (branch : Branch) (index : Nat)
    (here : scenario.branches[index]? = some branch) (actions : List Action) :
    runEngine total (steps + 1) (.arriving scenario index trail) actions seen used =
      preceded [.text branch.description]
        (runEngine total steps
          (.deciding scenario index (keepRecent Engine.trailLimit (trail ++ [index]))) actions
          (seen + 1) used) := by
  have told := Engine.next_described (.arriving scenario index trail) branch index rfl rfl rfl here
    rfl
  exact run_text total steps _ _ actions seen used _ _ told

theorem run_led (origin next : Int) (action : Action) (rest : List Action)
    (leads : scenario.Leads origin (actionIndex action) next) :
    ∃ later,
      runEngine total (steps + 2) (.arriving scenario origin trail) (action :: rest) seen used =
        preceded ((scenario.callsAt origin).map Event.ofCall)
          (runEngine total steps (.arriving scenario next later) rest (seen + 2) (used + 1)) := by
  obtain ⟨branch, choice, found, picked, rfl⟩ := leads
  obtain ⟨index, rfl, here⟩ := (branch_found _ _ _).mp found
  have onward : branch.choices ≠ [] := List.ne_nil_of_mem (List.mem_of_getElem? picked)
  have offers := Script.deciding_offers scenario branch index here
    (keepRecent Engine.trailLimit (trail ++ [index])) onward
  have listed : branch.menu[actionIndex action]? =
      some ⟨actionIndex action, choice.label, choice.target⟩ := by
    rw [menu_item, picked, Option.map_some]
  have taken := Engine.offering_taken scenario index
    (keepRecent Engine.trailLimit (trail ++ [index])) branch.menu _ _ listed
  refine ⟨keepRecent Engine.trailLimit (trail ++ [index]), ?_⟩
  rw [run_arriving scenario total (steps + 1) trail seen used branch index here,
    run_chosen total steps _ _ rest (seen + 1) used _ offers action _ taken, preceded_twice,
    menu_labels]
  simp [Scenario.callsAt, found, onward, Event.ofCall]

theorem run_lost (origin : Int) (grounded : scenario.branches = [] → origin = 0)
    (missing : scenario.branch? origin = none) (actions : List Action) :
    runEngine total (steps + 1) (.arriving scenario origin trail) actions seen used =
      answer total seen used [.ending (scenario.outside origin).code]
        (.ended (scenario.outside origin)) := by
  have told := Engine.next_lost (.arriving scenario origin trail) rfl rfl missing
  rw [Engine.missing_branch_at scenario origin trail grounded] at told
  exact run_ending total steps _ _ actions seen used _ told

-- Where no action leads on, the run stops within two steps.
theorem run_stopped (origin : Int) (actions : List Action)
    (grounded : scenario.branches = [] → origin = 0)
    (stops : scenario.Stops origin (actions.map actionIndex)[0]?) :
    runEngine total (steps + 2) (.arriving scenario origin trail) actions seen used =
      answer total seen used
        ((scenario.along (actions.map actionIndex) (fun _ => origin) 0).calls.map Event.ofCall)
        (scenario.stopAt origin (actions.map actionIndex)[0]?) := by
  rw [Scenario.along, Scenario.path_zero, List.flatMap_singleton]
  cases found : scenario.branch? origin with
  | none =>
    rw [run_lost scenario total (steps + 1) trail seen used origin grounded found]
    simp [Scenario.callsAt, Scenario.endingAt, Scenario.stopAt, found, Event.ofCall]
  | some branch =>
    obtain ⟨index, rfl, here⟩ := (branch_found _ _ _).mp found
    rw [run_arriving scenario total (steps + 1) trail seen used branch index here]
    by_cases terminal : branch.choices = []
    · have told := Engine.next_finished
        (.deciding scenario index (keepRecent Engine.trailLimit (trail ++ [index]))) branch index
        rfl rfl rfl here rfl terminal
      rw [run_ending total steps _ _ actions (seen + 1) used _ told, preceded_answer]
      simp [Scenario.callsAt, Scenario.endingAt, Scenario.stopAt, found, terminal, Event.ofCall,
        answer]
    · have offers := Script.deciding_offers scenario branch index here
        (keepRecent Engine.trailLimit (trail ++ [index])) terminal
      cases actions with
      | nil =>
        rw [run_missing total steps _ _ (seen + 1) used _ offers]
        simp [Scenario.endingAt, Scenario.stopAt, found, terminal, answer, preceded, Except.map]
      | cons action rest =>
        have past := (stops branch found).resolve_left terminal (actionIndex action) rfl
        have unlisted : branch.menu[actionIndex action]? = none := by
          rw [menu_item, List.getElem?_eq_none_iff.mpr past, Option.map_none]
        have refused := Engine.offering_refused scenario index
          (keepRecent Engine.trailLimit (trail ++ [index])) branch.menu _ unlisted
        rw [run_refused total steps _ _ rest (seen + 1) used _ offers action _ refused]
        simp [Scenario.endingAt, Scenario.stopAt, found, terminal, answer, preceded, Except.map]

end AtPosition

-- The induction is on the route; every position passed on it costs two steps of the run.
theorem run_along (scenario : Scenario) (total half : Nat) (actions : List Action) (origin : Int)
    (position : Nat → Int) (last : Nat) (trail : List Nat) (seen used : Nat)
    (grounded : scenario.branches = [] → origin = 0)
    (route : scenario.Route (actions.map actionIndex) origin position last) :
    runEngine total (2 * half) (.arriving scenario origin trail) actions seen used =
      if half ≤ last then .error .stepLimit
      else
        answer total (seen + 2 * last) (used + last)
          ((scenario.along (actions.map actionIndex) position last).calls.map Event.ofCall)
          (scenario.along (actions.map actionIndex) position last).stop := by
  induction last generalizing half actions origin position trail seen used with
  | zero =>
    cases half with
    | zero => rfl
    | succ half =>
      have stops := scenario.route_stops _ origin position route
      rw [if_neg (Nat.not_succ_le_zero half), Nat.mul_succ,
        run_stopped scenario total (2 * half) trail seen used origin actions grounded stops,
        Scenario.along, Scenario.along, Scenario.path_zero, Scenario.path_zero, route.start]
      rfl
  | succ last ih =>
    cases half with
    | zero =>
      rw [if_pos (Nat.zero_le _)]
      rfl
    | succ half =>
      obtain ⟨pick, rest, same, leads, onward⟩ := scenario.route_tail _ origin position last route
      cases actions with
      | nil => cases same
      | cons action others =>
        obtain ⟨rfl, rfl⟩ := List.cons.inj same
        obtain ⟨calls, stop⟩ := scenario.along_tail origin position last (actionIndex action)
          (others.map actionIndex) route.start
        obtain ⟨later, led⟩ :=
          run_led scenario total (2 * half) trail seen used origin (position 1) action others leads
        have peopled := scenario.leads_peopled origin (actionIndex action) (position 1) leads
        have goes := ih half others (position 1) (fun step => position (step + 1)) later (seen + 2)
          (used + 1) (fun empty => absurd empty peopled) onward
        rw [Nat.mul_succ, led, goes, List.map_cons, calls, stop]
        by_cases within : half ≤ last
        · rw [if_pos within, if_pos (Nat.succ_le_succ within)]
          rfl
        · rw [if_neg within, if_neg (fun less => within (Nat.le_of_succ_le_succ less)),
            preceded_answer, List.map_append]
          have seenSoFar : seen + 2 + 2 * last = seen + 2 * (last + 1) := by omega
          have usedSoFar : used + 1 + last = used + (last + 1) := by omega
          rw [seenSoFar, usedSoFar]

theorem run_loaded (tree : FileTree) (directory : FilePath) (test : TestCase) (story : Story)
    (diagnostics : List Diagnostic)
    (loads : tree.loadScenario (FilePath.join directory (.ofText test.scenarioFile)) =
      .ok (story, diagnostics)) :
    run tree directory test =
      (runEngine test.actions.length stepLimit (.start story.scenario) test.actions 0 0).map
        fun (events, used) => ⟨events, diagnostics.map (·.kind), used⟩ := by
  delta run
  simp only [loads]
  cases runEngine test.actions.length stepLimit (.start story.scenario) test.actions 0 0 <;> rfl

-- Of the two ways to fail at a menu, no action left comes before a choice that is not there.
theorem run_classified (tree : FileTree) (directory : FilePath) (test : TestCase) (story : Story)
    (diagnostics : List Diagnostic)
    (loads : tree.loadScenario (FilePath.join directory (.ofText test.scenarioFile)) =
      .ok (story, diagnostics)) :
    let picks := test.actions.map actionIndex
    ∃ position m, story.scenario.Route picks 0 position m ∧ m ≤ test.actions.length ∧
      (run tree directory test =
        if 2500 ≤ m then .error .stepLimit
        else
          match story.scenario.endingAt (position m), picks[m]? with
          | none, none => .error (.missingAction (2 * m + 1))
          | none, some pick => .error (.engine (.outOfRange pick))
          | some _, _ =>
            if m = test.actions.length then
              .ok
                { events := (Script.play {} picks (Engine.start story.scenario)).shell.calls.map
                    Event.ofCall
                  diagnostics := diagnostics.map (·.kind)
                  consumed := m }
            else .error (.unusedActions m test.actions.length)) ∧
      ∀ error, run tree directory test = .error (.engine error) →
        ∃ pick, picks[m]? = some pick ∧ error.failure =
          ⟨"ENGINE_CHOICE_INDEX", "Choice index \"" ++ toString pick ++ "\" is out of range."⟩ := by
  obtain ⟨position, m, route, walked⟩ :=
    story.scenario.walk_route (test.actions.map actionIndex) 0
  have within := story.scenario.route_within _ 0 position m route
  rw [List.length_map] at within
  have ran : runEngine test.actions.length stepLimit (.start story.scenario) test.actions 0 0 = _ :=
    run_along story.scenario test.actions.length 2500 test.actions 0 position m [] 0 0
      (fun _ => rfl) route
  have calls := (Script.play_start story.scenario (test.actions.map actionIndex)).2.1
  rw [Scenario.walk, walked] at calls
  refine ⟨position, m, route, within, ?_⟩
  rw [calls, run_loaded tree directory test story diagnostics loads, ran]
  simp only [Nat.zero_add]
  by_cases limit : 2500 ≤ m
  · rw [if_pos limit, if_pos limit]
    exact ⟨rfl, fun _ failed => by cases failed⟩
  · have stop : (story.scenario.along (test.actions.map actionIndex) position m).stop =
        story.scenario.stopAt (position m) (test.actions.map actionIndex)[m]? := rfl
    rw [if_neg limit, if_neg limit, stop]
    unfold Scenario.stopAt
    cases story.scenario.endingAt (position m) with
    | none =>
      cases (test.actions.map actionIndex)[m]? with
      | none => exact ⟨rfl, fun _ failed => by cases failed⟩
      | some pick =>
        refine ⟨rfl, ?_⟩
        rintro error ⟨⟩
        exact ⟨pick, rfl, rfl⟩
    | some reason => by_cases all : m = test.actions.length <;> simp [answer, all, Except.map]

def manorText : String := "Manor\nGate->Enter:1,Leave:2\nInside\nAway\n"

def manorFiles : FileTree where
  home := [FilePath.ofText "home"]
  entries :=
    [([FilePath.ofText "home"], .directory),
      ([FilePath.ofText "home", FilePath.ofText "manor.txt"], .file manorText.toUTF8)]

section Beside

variable (others : List (Place × FileEntry))

def manorBeside : FileTree := { manorFiles with entries := manorFiles.entries ++ others }

theorem manor_named : FilePath.IsName (FilePath.ofText "manor.txt") := by decide

theorem manor_short :
    (FilePath.join FilePath.here (.ofText "manor.txt")).length < FileTree.pathLimit := by
  decide

theorem manor_beside_file :
    (manorBeside others).resolve? (FilePath.join FilePath.here (.ofText "manor.txt")) =
      some [FilePath.ofText "home", FilePath.ofText "manor.txt"] :=
  ((manorBeside others).here_file rfl (FilePath.ofText "manor.txt") manor_named manorText.toUTF8 rfl
    manor_short).1

theorem manor_beside_loads :
    (manorBeside others).loadScenario (FilePath.join FilePath.here (.ofText "manor.txt")) =
      .ok (.manor, []) := by
  have read : Scenario.ofText "manor.txt" manorText = .ok ⟨Story.manor.scenario, []⟩ := by
    decide +kernel
  have id : "scenario-file:" ++ FilePath.display (FilePath.ofPlace
      ((manorBeside others).home ++ [FilePath.ofText "manor.txt"])) = Story.manor.id := by
    have home : (manorBeside others).home = [FilePath.ofText "home"] := rfl
    rw [home]
    decide
  rw [(manorBeside others).here_loads "manor.txt" manorText manor_named rfl rfl manor_short _ read,
    id]
  rfl

end Beside

theorem manor_loads :
    manorFiles.loadScenario (FilePath.join FilePath.here (.ofText "manor.txt")) =
      .ok (.manor, []) :=
  manor_beside_loads []

theorem manor_leaving_classified :
    let leaving : TestCase :=
      { schemaVersion := currentSchema, scenarioFile := "manor.txt", actions := [.choose 1] }
    manorFiles.loadScenario (FilePath.join FilePath.here (.ofText leaving.scenarioFile)) =
        .ok (.manor, []) ∧
      run manorFiles FilePath.here leaving =
        .ok
          { events := (Script.play {} [1] (Engine.start Story.manor.scenario)).shell.calls.map
              Event.ofCall
            diagnostics := []
            consumed := 1 } := by
  intro leaving
  obtain ⟨position, m, route, within, ran, _⟩ :=
    run_classified manorFiles FilePath.here leaving .manor [] manor_loads
  have leads : Story.manor.scenario.Leads (position 0) 1 2 := by
    rw [route.start]
    exact ⟨⟨"Gate", [⟨"Enter", 1⟩, ⟨"Leave", 2⟩]⟩, ⟨"Leave", 2⟩, by decide +kernel, rfl, by decide⟩
  cases m with
  | zero => exact absurd route.stop (Story.manor.scenario.leads_past _ _ _ leads)
  | succ step =>
    obtain rfl : step = 0 := Nat.le_zero.mp (Nat.le_of_succ_le_succ within)
    obtain ⟨pick, picked, onward⟩ := route.onward 0 Nat.zero_lt_one
    obtain rfl : 1 = pick := Option.some.inj picked
    have arrived : position 1 = 2 := Story.manor.scenario.leads_unique _ _ _ _ onward leads
    have ends : Story.manor.scenario.endingAt 2 = some (.terminalBranch 2) := by decide +kernel
    rw [Nat.zero_add, arrived, ends] at ran
    exact ⟨manor_loads, ran⟩

end TestCase

end Gamebook
