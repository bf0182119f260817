import Gamebook.Proofs.FileTree.Follow

set_option autoImplicit false

namespace Gamebook.FileTree

open FilePath (IsName)

-- Where the parts of a path lead from a place, with the number of links on the way. A dot is 46
-- and a slash is 47; a target without a slash in front is seen from where its link lies.
inductive Leads (tree : FileTree) : Place → List FileName → Nat → Place → Prop where
  | arrived (place : Place) : Leads tree place [] 0 place
  | stay (place : Place) (part : FileName) (rest : List FileName) (used : Nat) (goal : Place)
      (directory : tree.Holds place .directory) (dot : part = [] ∨ part = [46])
      (onward : Leads tree place rest used goal) : Leads tree place (part :: rest) used goal
  | up (place : Place) (rest : List FileName) (used : Nat) (goal : Place)
      (directory : tree.Holds place .directory)
      (onward : Leads tree place.dropLast rest used goal) :
      Leads tree place ([46, 46] :: rest) used goal
  | down (place : Place) (name : FileName) (rest : List FileName) (used : Nat) (goal : Place)
      (directory : tree.Holds place .directory)
      (plain : name ≠ [] ∧ name ≠ [46] ∧ name ≠ [46, 46]) (entry : FileEntry)
      (there : tree.Holds (place ++ [name]) entry) (direct : ∀ target, entry ≠ .link target)
      (onward : Leads tree (place ++ [name]) rest used goal) :
      Leads tree place (name :: rest) used goal
  | link (place : Place) (name : FileName) (rest : List FileName) (used : Nat) (goal : Place)
      (directory : tree.Holds place .directory)
      (plain : name ≠ [] ∧ name ≠ [46] ∧ name ≠ [46, 46]) (target : FilePath)
      (there : tree.Holds (place ++ [name]) (.link target))
      (onward : Leads tree (if target.head? = some 47 then [] else place)
        (target.splitOn 47 ++ rest) used goal) :
      Leads tree place (name :: rest) (used + 1) goal

-- A path with a slash in front is seen from the root, any other from the working directory. No
-- more than 40 links are followed.
def PathLeads (tree : FileTree) (path : FilePath) (goal : Place) : Prop :=
  path ≠ [] ∧ ∃ used ≤ 40,
    Leads tree (if path.head? = some 47 then [] else tree.home) (path.splitOn 47) used goal

theorem origin_slash (place : Place) (path : FilePath) :
    origin place path = if path.head? = some 47 then [] else place := by
  by_cases absolute : path.head? = some 47 <;>
    simp [origin, FilePath.isAbsolute, FilePath.slash, absolute]

variable (tree : FileTree)

theorem leads_on (place stop goal : Place) (first second : List FileName) (used more : Nat)
    (leads : tree.Leads place first used stop) (onward : tree.Leads stop second more goal) :
    tree.Leads place (first ++ second) (used + more) goal := by
  induction leads with
  | arrived =>
    rw [Nat.zero_add]
    exact onward
  | stay place part rest used _ directory dot _ ih =>
    exact .stay place part _ _ goal directory dot (ih onward)
  | up place rest used _ directory _ ih => exact .up place _ _ goal directory (ih onward)
  | down place name rest used _ directory plain entry there direct _ ih =>
    exact .down place name _ _ goal directory plain entry there direct (ih onward)
  | link place name rest used _ directory plain target there _ ih =>
    rw [Nat.add_right_comm]
    refine .link place name (rest ++ second) _ goal directory plain target there ?_
    rw [← List.append_assoc]
    exact ih onward

-- A slash at the end of a path asks for a directory, and leads no further.
theorem leads_unslashed (place : Place) (parts : List FileName) (used : Nat) (goal : Place)
    (leads : tree.Leads place parts used goal) (before : List FileName)
    (ends : parts = before ++ [[]]) : tree.Leads place before used goal := by
  induction leads generalizing before with
  | arrived => cases (List.append_eq_nil_iff.mp ends.symm).2
  | stay place part rest used goal directory dot onward ih =>
    cases before with
    | nil =>
      obtain ⟨_, rfl⟩ := List.cons.inj ends
      exact onward
    | cons _ front =>
      obtain ⟨rfl, rest⟩ := List.cons.inj ends
      exact .stay place part front used goal directory dot (ih front rest)
  | up place rest used goal directory _ ih =>
    cases before with
    | nil => cases (List.cons.inj ends).1
    | cons _ front =>
      obtain ⟨rfl, rest⟩ := List.cons.inj ends
      exact .up place front used goal directory (ih front rest)
  | down place name rest used goal directory plain entry there direct _ ih =>
    cases before with
    | nil => exact absurd (List.cons.inj ends).1 plain.1
    | cons _ front =>
      obtain ⟨rfl, rest⟩ := List.cons.inj ends
      exact .down place name front used goal directory plain entry there direct (ih front rest)
  | link place name rest used goal directory plain target there _ ih =>
    cases before with
    | nil => exact absurd (List.cons.inj ends).1 plain.1
    | cons _ front =>
      obtain ⟨rfl, rfl⟩ := List.cons.inj ends
      refine .link place name front used goal directory plain target there ?_
      exact ih (target.splitOn 47 ++ front) (List.append_assoc _ _ _).symm

section Placed

variable (placed : tree.Placed)
include placed

theorem followed_leads (links : Nat) (place : Place) (parts : List FileName) (goal : Place)
    (found : tree.follow links place parts = .found goal) :
    ∃ used ≤ links, tree.Leads place parts used goal := by
  have holds := fun place entry => (tree.entry_at_iff placed place entry).mp
  fun_induction follow tree links place parts with
  | case1 =>
    cases found
    exact ⟨0, Nat.zero_le _, .arrived _⟩
  | case2 links place part rest directory dot ih =>
    obtain ⟨used, within, onward⟩ := ih found
    exact ⟨used, within, .stay place part rest used goal (holds _ _ directory) dot onward⟩
  | case3 links place rest directory up ih =>
    obtain ⟨used, within, onward⟩ := ih found
    exact ⟨used, within, .up place rest used goal (holds _ _ directory) onward⟩
  | case4 | case5 | case6 | case9 => cases found
  | case7 place part rest directory full notUp child target there links ih =>
    obtain ⟨used, within, onward⟩ := ih found
    rw [origin_slash] at onward
    exact ⟨used + 1, Nat.succ_le_succ within, .link place part rest used goal (holds _ _ directory)
      ⟨fun empty => full (.inl empty), fun dot => full (.inr dot), notUp⟩ target (holds _ _ there)
      onward⟩
  | case8 links place part rest directory full notUp child entry direct there ih =>
    obtain ⟨used, within, onward⟩ := ih found
    exact ⟨used, within, .down place part rest used goal (holds _ _ directory)
      ⟨fun empty => full (.inl empty), fun dot => full (.inr dot), notUp⟩ entry (holds _ _ there)
      direct onward⟩

theorem leads_followed (place : Place) (parts : List FileName) (used : Nat) (goal : Place)
    (leads : tree.Leads place parts used goal) (links : Nat) (within : used ≤ links) :
    tree.follow links place parts = .found goal := by
  have at_place := fun place entry => (tree.entry_at_iff placed place entry).mpr
  induction leads generalizing links with
  | arrived place => rw [follow]
  | stay place part rest used goal directory dot _ ih =>
    rw [tree.follow_here links place part rest (at_place _ _ directory) dot, ih links within]
  | up place rest used goal directory _ ih =>
    exact (tree.follow_up links place rest (at_place _ _ directory)).trans (ih links within)
  | down place name rest used goal directory plain entry there direct _ ih =>
    have full : ¬ (name = [] ∨ name = FilePath.here) := not_or.mpr ⟨plain.1, plain.2.1⟩
    rw [tree.follow_down links place name rest (at_place _ _ directory) full plain.2.2 entry
      (at_place _ _ there) direct, ih links within]
  | link place name rest used goal directory plain target there _ ih =>
    have full : ¬ (name = [] ∨ name = FilePath.here) := not_or.mpr ⟨plain.1, plain.2.1⟩
    obtain ⟨left, rfl⟩ := Nat.exists_eq_add_of_le' (Nat.lt_of_lt_of_le (Nat.succ_pos used) within)
    rw [tree.follow_link left place name rest (at_place _ _ directory) full plain.2.2 target
      (at_place _ _ there), origin_slash]
    exact ih left (Nat.le_of_succ_le_succ within)

theorem resolve_leads (path : FilePath) (goal : Place) :
    tree.resolve? path = some goal ↔ tree.PathLeads path goal := by
  rw [resolve_found, PathLeads, origin_slash]
  refine and_congr_right fun _ => ⟨tree.followed_leads placed _ _ _ goal, ?_⟩
  rintro ⟨used, within, leads⟩
  exact tree.leads_followed placed _ _ used goal leads _ within

theorem entry_leads (path : FilePath) (entry : FileEntry) :
    tree.entry? path = some entry ↔
      path.length < 4096 ∧ ∃ goal, tree.PathLeads path goal ∧ tree.Holds goal entry := by
  unfold entry? pathLimit
  by_cases short : path.length < 4096
  · rw [if_pos short, Option.bind_eq_some_iff]
    simp only [short, true_and, tree.resolve_leads placed, tree.entry_at_iff placed]
  · rw [if_neg short]
    simp [short]

theorem path_leads_once (path : FilePath) (goal other : Place) (leads : tree.PathLeads path goal)
    (alsoLeads : tree.PathLeads path other) : goal = other := by
  rw [← resolve_leads tree placed] at leads alsoLeads
  exact Option.some.inj (leads.symm.trans alsoLeads)

end Placed

theorem path_leads_inside (directory : FilePath) (name : FileName) (place : Place)
    (leads : tree.PathLeads directory place) (walkable : tree.Holds place .directory)
    (named : IsName name) (entry : FileEntry) (inside : tree.Holds (place ++ [name]) entry)
    (direct : ∀ target, entry ≠ .link target) :
    tree.PathLeads (FilePath.join directory name) (place ++ [name]) := by
  obtain ⟨nonempty, used, within, leads⟩ := leads
  obtain ⟨before, joined, ends⟩ := FilePath.parts_join directory name nonempty named.single
  have unslashed : tree.Leads (origin tree.home directory) before used place := by
    rw [← origin_slash] at leads
    rcases ends with whole | slashed
    · rwa [← whole]
    · exact tree.leads_unslashed _ _ used place leads before slashed
  have last : tree.Leads place [name] 0 (place ++ [name]) :=
    .down place name [] 0 _ walkable ⟨named.full, named.notHere, named.notUp⟩ entry inside direct
      (.arrived _)
  refine ⟨FilePath.join_full directory name nonempty named.single, used, within, ?_⟩
  rw [← origin_slash, origin, FilePath.absolute_join directory name nonempty named.single, ← origin]
  have whole := tree.leads_on _ place _ before [name] used 0 unslashed last
  rw [← joined] at whole
  exact whole

end Gamebook.FileTree
