import Gamebook.FileTree
import Gamebook.Proofs.FileTree.Paths
import Mathlib.Data.List.Infix
import Mathlib.Data.List.Nodup

set_option autoImplicit false

namespace Gamebook

open FilePath (IsName)

def Named (place : Place) : Prop := ∀ name ∈ place, IsName name

instance (place : Place) : Decidable (Named place) :=
  inferInstanceAs (Decidable (∀ name ∈ place, IsName name))

def Route.Named : Route → Prop
  | .found place => Gamebook.Named place
  | .missing place => place ≠ [] ∧ Gamebook.Named place
  | .astray => True

namespace FileTree

def places (tree : FileTree) : List Place := tree.entries.map (·.1)

structure Placed (tree : FileTree) : Prop where
  home : Named tree.home
  distinct : tree.places.Nodup
  deep : [] ∉ tree.places
  named : ∀ place ∈ tree.places, Named place

-- What is at a place. The root is a directory that is not listed.
def Holds (tree : FileTree) (place : Place) (entry : FileEntry) : Prop :=
  (place = [] ∧ entry = .directory) ∨ (place, entry) ∈ tree.entries

variable (tree : FileTree)

theorem entry_at_root : tree.entryAt? [] = some .directory := rfl

theorem entry_below (place : Place) (deep : place ≠ []) :
    tree.entryAt? place = (tree.entries.find? (·.1 = place)).map (·.2) := by
  rw [entryAt?, if_neg deep]

theorem entry_at_listed (placed : tree.Placed) (place : Place) (deep : place ≠ [])
    (entry : FileEntry) : tree.entryAt? place = some entry ↔ (place, entry) ∈ tree.entries := by
  rw [entry_below tree place deep, Option.map_eq_some_iff]
  constructor
  · rintro ⟨⟨listed, found⟩, search, rfl⟩
    have here : listed = place := by simpa using List.find?_some search
    rw [← here]
    exact List.mem_of_find?_eq_some search
  · intro member
    cases search : tree.entries.find? (·.1 = place) with
    | none =>
      have apart := List.find?_eq_none.mp search _ member
      exact absurd (decide_eq_true rfl) apart
    | some other =>
      have here : other.1 = place := by simpa using List.find?_some search
      have same : other = (place, entry) :=
        List.inj_on_of_nodup_map placed.distinct (List.mem_of_find?_eq_some search) member here
      exact ⟨other, rfl, by rw [same]⟩

theorem entry_at_iff (placed : tree.Placed) (place : Place) (entry : FileEntry) :
    tree.entryAt? place = some entry ↔ tree.Holds place entry := by
  by_cases root : place = []
  · subst root
    have unlisted : ([], entry) ∉ tree.entries := fun member =>
      placed.deep (List.mem_map_of_mem member)
    simp [entry_at_root, Holds, unlisted, eq_comm]
  · rw [entry_at_listed tree placed place root]
    simp [Holds, root]

theorem dropped_named (place : Place) (named : Named place) : Named place.dropLast :=
  fun name member => named name (List.mem_of_mem_dropLast member)

theorem child_named (place : Place) (named : Named place) (part : FileName)
    (full : ¬ (part = [] ∨ part = FilePath.here)) (notUp : part ≠ FilePath.up)
    (single : FilePath.slash ∉ part) : Named (place ++ [part]) := by
  intro name member
  rcases List.mem_append.mp member with before | last
  · exact named name before
  · rw [List.mem_singleton.mp last]
    exact ⟨fun empty => full (.inl empty), fun dot => full (.inr dot), notUp, single⟩

theorem origin_named (place : Place) (named : Named place) (path : FilePath) :
    Named (origin place path) := by
  rw [origin]
  split
  · exact fun _ member => absurd member List.not_mem_nil
  · exact named

theorem follow_named (links : Nat) (place : Place) (parts : List FileName) (named : Named place)
    (single : ∀ part ∈ parts, FilePath.slash ∉ part) : (tree.follow links place parts).Named := by
  fun_induction follow tree links place parts with
  | case1 => exact named
  | case2 links place part rest directory dot ih =>
    exact ih named fun other member => single other (List.mem_cons_of_mem _ member)
  | case3 links place rest directory up ih =>
    exact ih (dropped_named place named) fun other member =>
      single other (List.mem_cons_of_mem _ member)
  | case5 | case6 | case9 => trivial
  | case4 links place part directory full notUp child missing =>
    exact ⟨List.append_ne_nil_of_right_ne_nil _ (List.cons_ne_nil _ _),
      child_named place named part full notUp (single part List.mem_cons_self)⟩
  | case7 place part rest directory full notUp child target there links ih =>
    refine ih (origin_named place named target) ?_
    intro other member
    rcases List.mem_append.mp member with inTarget | later
    · exact FilePath.parts_single target other inTarget
    · exact single other (List.mem_cons_of_mem _ later)
  | case8 links place part rest directory full notUp child entry there direct ih =>
    exact ih (child_named place named part full notUp (single part List.mem_cons_self))
      fun other member => single other (List.mem_cons_of_mem _ member)

theorem put_placed (placed : tree.Placed) (place : Place) (deep : place ≠ [])
    (named : Named place) (entry : FileEntry) : (tree.put place entry).Placed := by
  have places : (tree.put place entry).places = tree.places.filter (· ≠ place) ++ [place] := by
    simp [places, put, List.filter_map, Function.comp_def]
  refine ⟨placed.home, ?_, ?_, ?_⟩ <;> rw [places]
  · refine List.nodup_append.mpr ⟨placed.distinct.filter _, List.nodup_singleton _, ?_⟩
    intro kept member other last
    rw [List.mem_singleton.mp last]
    simpa using (List.mem_filter.mp member).2
  · simp [placed.deep, deep.symm]
  · intro other member
    rcases List.mem_append.mp member with kept | last
    · exact placed.named other (List.mem_filter.mp kept).1
    · rw [List.mem_singleton.mp last]
      exact named

theorem make_placed (placed : tree.Placed) (start : Place) (begins : Named start)
    (parts : List FileName) (single : ∀ part ∈ parts, FilePath.slash ∉ part) (entry : FileEntry) :
    (tree.make start parts entry).Placed := by
  have named := follow_named tree linkLimit start parts begins single
  unfold make
  split
  · rename_i place missing
    rw [missing] at named
    exact put_placed tree placed place named.1 named.2 _
  · rename_i content place found
    rw [found] at named
    split
    · rename_i old there
      refine put_placed tree placed place ?_ named _
      rintro rfl
      cases there
    · exact placed
  · exact placed

theorem add_placed (placed : tree.Placed) (path : FilePath) (entry : FileEntry) :
    (tree.add path entry).Placed := by
  have single := FilePath.parts_single path
  have begins := origin_named tree.home placed.home path
  refine make_placed _ (List.foldlRecOn _ _ placed ?_) _ begins _ single entry
  intro housed placed depth _
  exact make_placed housed placed _ begins _
    (fun part member => single part (List.mem_of_mem_take member)) _

theorem bare_placed (home : Place) (named : Named home) : (bare home).Placed := by
  have places : (bare home).places =
      (List.range home.length).map fun depth => home.take (depth + 1) := by
    rw [FileTree.places, bare, List.map_map]
    rfl
  refine ⟨named, ?_, ?_, ?_⟩ <;> rw [places]
  · refine List.Nodup.map_on ?_ List.nodup_range
    intro depth within other also same
    have lengths := congrArg List.length same
    rw [List.length_take_of_le (List.mem_range.mp within),
      List.length_take_of_le (List.mem_range.mp also)] at lengths
    exact Nat.succ.inj lengths
  · intro root
    obtain ⟨depth, within, empty⟩ := List.mem_map.mp root
    have length := congrArg List.length empty
    rw [List.length_take_of_le (List.mem_range.mp within)] at length
    cases length
  · intro place member
    obtain ⟨depth, _, rfl⟩ := List.mem_map.mp member
    exact fun name listed => named name (List.mem_of_mem_take listed)

theorem of_entries_placed (home : Place) (named : Named home)
    (entries : List (FilePath × FileEntry)) : (ofEntries home entries).Placed := by
  refine List.foldlRecOn _ _ (bare_placed home named) ?_
  intro made placed (path, entry) _
  exact add_placed made placed path entry

end FileTree

end Gamebook
