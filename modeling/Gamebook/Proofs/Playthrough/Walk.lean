import Gamebook.Proofs.Engine.Step
import Gamebook.Playthrough.Walk

set_option autoImplicit false

namespace Gamebook

namespace Shell

variable {σ ε : Type} (shell : Shell σ ε) (limit : Nat) (engine after : Engine) (state next : σ)

theorem play_describe (text : String) (branch : Nat) (told : engine.next = (.text text branch, after))
    (served : shell.describe text state = (.ok (), next)) :
    shell.play? (limit + 1) engine state = shell.play? limit after next := by
  rw [play?, told]
  simp only [served]

theorem play_undescribed (text : String) (branch : Nat) (error : ε)
    (told : engine.next = (.text text branch, after))
    (failed : shell.describe text state = (.error error, next)) :
    shell.play? (limit + 1) engine state = some ⟨.error (.shell error), after, next⟩ := by
  rw [play?, told]
  simp only [failed]

theorem play_choose (items : List MenuItem) (index : Nat) (chosen : Engine)
    (told : engine.next = (.menu items, after))
    (served : shell.offer (items.map (·.label)) state = (.ok index, next))
    (taken : after.choose index = .ok chosen) :
    shell.play? (limit + 1) engine state = shell.play? limit chosen next := by
  rw [play?, told]
  simp only [served, taken]

theorem play_mistake (items : List MenuItem) (index : Nat) (error : ChoiceError)
    (told : engine.next = (.menu items, after))
    (served : shell.offer (items.map (·.label)) state = (.ok index, next))
    (refused : after.choose index = .error error) :
    shell.play? (limit + 1) engine state = some ⟨.error (.engine error), after, next⟩ := by
  rw [play?, told]
  simp only [served, refused]

theorem play_unanswered (items : List MenuItem) (error : ε)
    (told : engine.next = (.menu items, after))
    (failed : shell.offer (items.map (·.label)) state = (.error error, next)) :
    shell.play? (limit + 1) engine state = some ⟨.error (.shell error), after, next⟩ := by
  rw [play?, told]
  simp only [failed]

theorem play_announce (reason : Ending) (told : engine.next = (.ending reason, after))
    (served : shell.announce reason state = (.ok (), next)) :
    shell.play? (limit + 1) engine state = some ⟨.ok ⟨reason, after.trail⟩, after, next⟩ := by
  rw [play?, told]
  simp only [served]

theorem play_unannounced (reason : Ending) (error : ε)
    (told : engine.next = (.ending reason, after))
    (failed : shell.announce reason state = (.error error, next)) :
    shell.play? (limit + 1) engine state = some ⟨.error (.shell error), after, next⟩ := by
  rw [play?, told]
  simp only [failed]

theorem play_more (more : Nat) (played : Played σ ε) (within : limit ≤ more)
    (done : shell.play? limit engine state = some played) :
    shell.play? more engine state = some played := by
  induction limit generalizing more engine state with
  | zero => cases done
  | succ limit ih =>
    obtain ⟨more, rfl⟩ : ∃ less, more = less + 1 := ⟨more - 1, by omega⟩
    have less : limit ≤ more := Nat.le_of_succ_le_succ within
    rw [play?] at done
    cases told : engine.next with
    | mk output after =>
      rw [told] at done
      cases output with
      | text text branch =>
        cases served : shell.describe text state with
        | mk answer next =>
          simp only [served] at done
          cases answer with
          | ok _ =>
            rw [play_describe shell more engine after state next text branch told served]
            exact ih after next more less done
          | error error =>
            rw [play_undescribed shell more engine after state next text branch error told served]
            exact done
      | menu items =>
        cases served : shell.offer (items.map (·.label)) state with
        | mk answer next =>
          simp only [served] at done
          cases answer with
          | ok index =>
            cases taken : after.choose index with
            | ok chosen =>
              simp only [taken] at done
              rw [play_choose shell more engine after state next items index chosen told served taken]
              exact ih chosen next more less done
            | error error =>
              simp only [taken] at done
              rw [play_mistake shell more engine after state next items index error told served taken]
              exact done
          | error error =>
            rw [play_unanswered shell more engine after state next items error told served]
            exact done
      | ending reason =>
        cases served : shell.announce reason state with
        | mk answer next =>
          simp only [served] at done
          cases answer with
          | ok _ =>
            rw [play_announce shell more engine after state next reason told served]
            exact done
          | error error =>
            rw [play_unannounced shell more engine after state next reason error told served]
            exact done

end Shell

namespace Scenario

variable (scenario : Scenario) (position : Int) (branch : Branch) (index : Nat) (picks : List Nat)

theorem walk_lost (missing : scenario.branch? position = none) :
    scenario.walkFrom position picks =
      ⟨[.announce (scenario.outside position)], [], .ended (scenario.outside position)⟩ := by
  rw [walkFrom.eq_def]
  simp only [missing]

theorem walk_ended (here : scenario.branches[index]? = some branch)
    (terminal : branch.choices = []) :
    scenario.walkFrom index picks =
      ⟨[.describe branch.description, .announce (.terminalBranch index)], [index],
        .ended (.terminalBranch index)⟩ := by
  rw [walkFrom.eq_def]
  simp only [branch_at_index, here, terminal_true branch terminal, if_true, Int.toNat_natCast]

theorem walk_exhausted (here : scenario.branches[index]? = some branch)
    (onward : branch.choices ≠ []) :
    scenario.walkFrom index [] =
      ⟨[.describe branch.description, .offer (branch.choices.map (·.label))], [index],
        .exhausted⟩ := by
  rw [walkFrom.eq_def]
  simp only [branch_at_index, here, terminal_false branch onward, Bool.false_eq_true, if_false,
    Int.toNat_natCast]

theorem walk_mistaken (pick : Nat) (here : scenario.branches[index]? = some branch)
    (onward : branch.choices ≠ []) (absent : branch.choices[pick]? = none) :
    scenario.walkFrom index (pick :: picks) =
      ⟨[.describe branch.description, .offer (branch.choices.map (·.label))], [index],
        .noSuchChoice pick⟩ := by
  rw [walkFrom.eq_def]
  simp only [branch_at_index, here, terminal_false branch onward, Bool.false_eq_true, if_false,
    Int.toNat_natCast, absent]

theorem walk_onward (pick : Nat) (choice : Choice) (here : scenario.branches[index]? = some branch)
    (taken : branch.choices[pick]? = some choice) :
    scenario.walkFrom index (pick :: picks) =
      ⟨.describe branch.description :: .offer (branch.choices.map (·.label)) ::
          (scenario.walkFrom choice.target.toInt picks).calls,
        index :: (scenario.walkFrom choice.target.toInt picks).visited,
        (scenario.walkFrom choice.target.toInt picks).stop⟩ := by
  have onward : branch.choices ≠ [] := List.ne_nil_of_mem (List.mem_of_getElem? taken)
  rw [walkFrom.eq_def]
  simp only [branch_at_index, here, terminal_false branch onward, Bool.false_eq_true, if_false,
    Int.toNat_natCast, taken]

end Scenario

def Engine.arriving (scenario : Scenario) (position : Int) (trail : List Nat) : Engine :=
  ⟨scenario, position, .describe, none, none, trail⟩

def Engine.deciding (scenario : Scenario) (position : Int) (trail : List Nat) : Engine :=
  ⟨scenario, position, .decide, none, none, trail⟩

def Engine.offering (scenario : Scenario) (position : Int) (trail : List Nat)
    (items : List MenuItem) : Engine :=
  ⟨scenario, position, .decide, some items, none, trail⟩

theorem Engine.missing_branch_at (scenario : Scenario) (position : Int) (trail : List Nat)
    (grounded : scenario.branches = [] → position = 0) :
    (arriving scenario position trail).missingBranch = scenario.outside position := by
  by_cases empty : scenario.branches = []
  · rw [missingBranch, Scenario.outside, if_pos empty]
    exact if_pos ⟨empty, grounded empty⟩
  · rw [missingBranch, Scenario.outside, if_neg empty]
    exact if_neg (fun both => empty both.1)

theorem Engine.offering_taken (scenario : Scenario) (position : Int) (trail : List Nat)
    (items : List MenuItem) (pick : Nat) (item : MenuItem) (taken : items[pick]? = some item) :
    (offering scenario position trail items).choose pick =
      .ok (arriving scenario item.target.toInt trail) := by
  simp only [choose, offering, taken, arriving]

theorem Engine.offering_refused (scenario : Scenario) (position : Int) (trail : List Nat)
    (items : List MenuItem) (pick : Nat) (absent : items[pick]? = none) :
    (offering scenario position trail items).choose pick = .error (.outOfRange pick) := by
  simp only [choose, offering, absent]

theorem Script.deciding_offers (scenario : Scenario) (branch : Branch) (index : Nat)
    (here : scenario.branches[index]? = some branch) (trail : List Nat)
    (onward : branch.choices ≠ []) :
    (Engine.deciding scenario index trail).next =
      (.menu branch.menu, .offering scenario index trail branch.menu) :=
  Engine.next_offered (.deciding scenario index trail) branch index rfl rfl rfl here rfl onward

namespace Shell

variable {σ ε : Type} (shell : Shell σ ε) (scenario : Scenario) (trail : List Nat) (limit : Nat)
  (state next : σ)

theorem play_at_loss (position : Int) (grounded : scenario.branches = [] → position = 0)
    (missing : scenario.branch? position = none)
    (served : shell.announce (scenario.outside position) state = (.ok (), next)) :
    ∃ engine, shell.play? (limit + 1) (.arriving scenario position trail) state =
      some ⟨.ok ⟨scenario.outside position, trail⟩, engine, next⟩ := by
  have told := Engine.next_lost (.arriving scenario position trail) rfl rfl missing
  rw [Engine.missing_branch_at scenario position trail grounded] at told
  exact ⟨_, play_announce _ limit _ _ _ _ _ told served⟩

variable (branch : Branch) (index : Nat) (here : scenario.branches[index]? = some branch)

include here

theorem play_at_arrival (served : shell.describe branch.description state = (.ok (), next)) :
    shell.play? (limit + 1) (.arriving scenario index trail) state =
      shell.play? limit
        (.deciding scenario index (keepRecent Engine.trailLimit (trail ++ [index]))) next := by
  have told := Engine.next_described (.arriving scenario index trail) branch index rfl rfl rfl here
    rfl
  exact play_describe _ limit _ _ _ _ _ _ told served

theorem play_at_end (terminal : branch.choices = [])
    (served : shell.announce (.terminalBranch index) state = (.ok (), next)) :
    ∃ engine, shell.play? (limit + 1) (.deciding scenario index trail) state =
      some ⟨.ok ⟨.terminalBranch index, trail⟩, engine, next⟩ := by
  have told := Engine.next_finished (.deciding scenario index trail) branch index rfl rfl rfl here
    rfl terminal
  exact ⟨_, play_announce _ limit _ _ _ _ _ told served⟩

theorem play_at_refusal (onward : branch.choices ≠ []) (error : ε)
    (served : shell.offer (branch.choices.map (·.label)) state = (.error error, next)) :
    ∃ engine, shell.play? (limit + 1) (.deciding scenario index trail) state =
      some ⟨.error (.shell error), engine, next⟩ := by
  have told := Script.deciding_offers scenario branch index here trail onward
  rw [← menu_labels] at served
  exact ⟨_, play_unanswered _ limit _ _ _ _ _ _ told served⟩

theorem play_at_mistake (onward : branch.choices ≠ []) (pick : Nat)
    (absent : branch.choices[pick]? = none)
    (served : shell.offer (branch.choices.map (·.label)) state = (.ok pick, next)) :
    ∃ engine, shell.play? (limit + 1) (.deciding scenario index trail) state =
      some ⟨.error (.engine (.outOfRange pick)), engine, next⟩ := by
  have told := Script.deciding_offers scenario branch index here trail onward
  have unlisted : branch.menu[pick]? = none := by rw [menu_item, absent, Option.map_none]
  have refused := Engine.offering_refused scenario index trail branch.menu pick unlisted
  rw [← menu_labels] at served
  exact ⟨_, play_mistake _ limit _ _ _ _ _ _ _ told served refused⟩

theorem play_at_choice (pick : Nat) (choice : Choice) (found : branch.choices[pick]? = some choice)
    (served : shell.offer (branch.choices.map (·.label)) state = (.ok pick, next)) :
    shell.play? (limit + 1) (.deciding scenario index trail) state =
      shell.play? limit (.arriving scenario choice.target.toInt trail) next := by
  have onward : branch.choices ≠ [] := List.ne_nil_of_mem (List.mem_of_getElem? found)
  have told := Script.deciding_offers scenario branch index here trail onward
  have listed : branch.menu[pick]? = some ⟨pick, choice.label, choice.target⟩ := by
    rw [menu_item, found, Option.map_some]
  have taken := Engine.offering_taken scenario index trail branch.menu pick _ listed
  rw [← menu_labels] at served
  exact play_choose _ limit _ _ _ _ _ _ _ told served taken

end Shell

def Walk.result (walk : Walk) (earlier : List Nat) : Except (Stop Script.Fault) Outcome :=
  match walk.stop with
  | .ended reason => .ok ⟨reason, keepRecent Engine.trailLimit (earlier ++ walk.visited)⟩
  | .exhausted => .error (.shell .exhausted)
  | .noSuchChoice index => .error (.engine (.outOfRange index))

namespace Script

theorem describe_noted (text : String) (script : Script) :
    (shell {}).describe text script = (.ok (), script.note (.describe text)) := rfl

theorem announce_noted (reason : Ending) (script : Script) :
    (shell {}).announce reason script = (.ok (), script.note (.announce reason)) := rfl

theorem offer_picked (labels : List String) (pick : Nat) (picks : List Nat) (calls : List Call) :
    (shell {}).offer labels ⟨pick :: picks, calls⟩ = (.ok pick, ⟨picks, calls ++ [.offer labels]⟩) :=
  rfl

theorem offer_exhausted (labels : List String) (calls : List Call) :
    (shell {}).offer labels ⟨[], calls⟩ = (.error .exhausted, ⟨[], calls ++ [.offer labels]⟩) := rfl

theorem play_lost (scenario : Scenario) (position : Int) (trail : List Nat) (limit : Nat)
    (script : Script) (grounded : scenario.branches = [] → position = 0)
    (missing : scenario.branch? position = none) :
    ∃ engine, (shell {}).play? (limit + 1) (.arriving scenario position trail) script =
      some ⟨.ok ⟨scenario.outside position, trail⟩, engine,
        script.note (.announce (scenario.outside position))⟩ :=
  Shell.play_at_loss (shell {}) scenario trail limit script _ position grounded missing
    (announce_noted _ script)

section AtBranch

variable (scenario : Scenario) (branch : Branch) (index : Nat) (earlier : List Nat) (limit : Nat)
  (here : scenario.branches[index]? = some branch)

include here

theorem play_arriving (script : Script) :
    (shell {}).play? (limit + 1)
        (.arriving scenario index (keepRecent Engine.trailLimit earlier)) script =
      (shell {}).play? limit
        (.deciding scenario index (keepRecent Engine.trailLimit (earlier ++ [index])))
        (script.note (.describe branch.description)) := by
  rw [Shell.play_at_arrival (shell {}) scenario _ limit script _ branch index here
    (describe_noted _ script), keep_recent_append]

theorem play_ended (trail : List Nat) (script : Script) (terminal : branch.choices = []) :
    ∃ engine, (shell {}).play? (limit + 1) (.deciding scenario index trail) script =
      some ⟨.ok ⟨.terminalBranch index, trail⟩, engine,
        script.note (.announce (.terminalBranch index))⟩ :=
  Shell.play_at_end (shell {}) scenario trail limit script _ branch index here terminal
    (announce_noted _ script)

theorem play_exhausted (trail : List Nat) (calls : List Call) (onward : branch.choices ≠ []) :
    ∃ engine, (shell {}).play? (limit + 1) (.deciding scenario index trail) ⟨[], calls⟩ =
      some ⟨.error (.shell .exhausted), engine,
        ⟨[], calls ++ [.offer (branch.choices.map (·.label))]⟩⟩ :=
  Shell.play_at_refusal (shell {}) scenario trail limit _ _ branch index here onward _
    (offer_exhausted _ calls)

theorem play_mistaken (trail : List Nat) (pick : Nat) (picks : List Nat) (calls : List Call)
    (onward : branch.choices ≠ []) (absent : branch.choices[pick]? = none) :
    ∃ engine, (shell {}).play? (limit + 1) (.deciding scenario index trail)
        ⟨pick :: picks, calls⟩ =
      some ⟨.error (.engine (.outOfRange pick)), engine,
        ⟨picks, calls ++ [.offer (branch.choices.map (·.label))]⟩⟩ :=
  Shell.play_at_mistake (shell {}) scenario trail limit _ _ branch index here onward pick absent
    (offer_picked _ pick picks calls)

theorem play_onward (trail : List Nat) (pick : Nat) (picks : List Nat) (calls : List Call)
    (choice : Choice) (found : branch.choices[pick]? = some choice) :
    (shell {}).play? (limit + 1) (.deciding scenario index trail) ⟨pick :: picks, calls⟩ =
      (shell {}).play? limit (.arriving scenario choice.target.toInt trail)
        ⟨picks, calls ++ [.offer (branch.choices.map (·.label))]⟩ :=
  Shell.play_at_choice (shell {}) scenario trail limit _ _ branch index here pick choice found
    (offer_picked _ pick picks calls)

end AtBranch

-- The induction is on the picks; every menu uses one up, and a menu costs two calls.
theorem play_walk (scenario : Scenario) (picks : List Nat) (position : Int) (earlier : List Nat)
    (calls : List Call) (limit : Nat) (grounded : scenario.branches = [] → position = 0)
    (enough : 2 * picks.length + 2 ≤ limit) :
    ∃ engine left,
      (shell {}).play? limit
          (.arriving scenario position (keepRecent Engine.trailLimit earlier)) ⟨picks, calls⟩ =
        some ⟨(scenario.walkFrom position picks).result earlier, engine,
          ⟨left, calls ++ (scenario.walkFrom position picks).calls⟩⟩ := by
  obtain ⟨rest, rfl⟩ : ∃ rest, limit = rest + 2 := ⟨limit - 2, by omega⟩
  cases found : scenario.branch? position with
  | none =>
    obtain ⟨engine, played⟩ := play_lost scenario position (keepRecent Engine.trailLimit earlier)
      (rest + 1) ⟨picks, calls⟩ grounded found
    rw [played, Scenario.walk_lost scenario position picks found]
    exact ⟨engine, picks, by simp [Walk.result, note]⟩
  | some branch =>
    obtain ⟨index, rfl, here⟩ := (branch_found _ _ _).mp found
    rw [play_arriving scenario branch index earlier (rest + 1) here, note]
    by_cases terminal : branch.choices = []
    · obtain ⟨engine, played⟩ := play_ended scenario branch index rest here
        (keepRecent Engine.trailLimit (earlier ++ [index]))
        ⟨picks, calls ++ [.describe branch.description]⟩ terminal
      rw [played, Scenario.walk_ended scenario branch index picks here terminal]
      exact ⟨engine, picks, by simp [Walk.result, note]⟩
    · cases picks with
      | nil =>
        obtain ⟨engine, played⟩ := play_exhausted scenario branch index rest here
          (keepRecent Engine.trailLimit (earlier ++ [index]))
          (calls ++ [.describe branch.description]) terminal
        rw [played, Scenario.walk_exhausted scenario branch index here terminal]
        exact ⟨engine, [], by simp [Walk.result]⟩
      | cons pick picks =>
        cases chosen : branch.choices[pick]? with
        | none =>
          obtain ⟨engine, played⟩ := play_mistaken scenario branch index rest here
            (keepRecent Engine.trailLimit (earlier ++ [index])) pick picks
            (calls ++ [.describe branch.description]) terminal chosen
          rw [played, Scenario.walk_mistaken scenario branch index picks pick here terminal chosen]
          exact ⟨engine, picks, by simp [Walk.result]⟩
        | some choice =>
          have peopled : scenario.branches ≠ [] := List.ne_nil_of_mem (List.mem_of_getElem? here)
          obtain ⟨engine, left, played⟩ := play_walk scenario picks choice.target.toInt
            (earlier ++ [index])
            (calls ++ [.describe branch.description] ++ [.offer (branch.choices.map (·.label))])
            rest (fun empty => absurd empty peopled) (by simp at enough; omega)
          rw [play_onward scenario branch index rest here _ pick picks _ choice chosen, played,
            Scenario.walk_onward scenario branch index picks pick choice here chosen]
          exact ⟨engine, left, by simp [Walk.result]⟩
termination_by picks.length

end Script

end Gamebook
