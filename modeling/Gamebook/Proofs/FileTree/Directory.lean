import Gamebook.Proofs.FileTree.Leads
import Mathlib.Data.List.Basic

set_option autoImplicit false

namespace Gamebook

open FilePath (IsName)

namespace FileTree

def lying (place : Place) (item : Place × FileEntry) : Option (FileName × FileEntry) :=
  if item.1 ≠ [] ∧ item.1.dropLast = place then
    item.1.getLast?.map fun name => (name, item.2)
  else none

theorem lying_iff (place inside : Place) (entry found : FileEntry) (name : FileName) :
    lying place (inside, entry) = some (name, found) ↔
      inside = place ++ [name] ∧ entry = found := by
  rw [lying]
  constructor
  · intro lies
    split at lies
    · rename_i deep
      obtain ⟨last, ends, same⟩ := Option.map_eq_some_iff.mp lies
      cases same
      refine ⟨?_, rfl⟩
      rw [← deep.2]
      exact (List.dropLast_append_getLast? name ends).symm
    · cases lies
  · rintro ⟨rfl, rfl⟩
    simp

theorem lying_ordered (place : Place) (entries : List (Place × FileEntry)) :
    ((entries.filterMap (lying place)).map fun item => place ++ [item.1]).Sublist
      (entries.map (·.1)) := by
  induction entries with
  | nil => exact .slnil
  | cons item rest ih =>
    cases lies : lying place item with
    | none =>
      rw [List.filterMap_cons_none lies]
      exact ih.cons item.1
    | some found =>
      have here := ((lying_iff place item.1 item.2 found.2 found.1).mp lies).1
      rw [List.filterMap_cons_some lies, List.map_cons, List.map_cons, ← here]
      exact ih.cons_cons item.1

variable (tree : FileTree) (directory : FilePath) (place : Place)

theorem entries_in_place (resolved : tree.resolve? directory = some place) :
    tree.entriesIn directory = tree.entries.filterMap (lying place) := by
  rw [entriesIn, resolved]
  rfl

section Placed

variable (placed : tree.Placed) (leads : tree.PathLeads directory place)
include placed leads

theorem entries_in_leads : tree.entriesIn directory = tree.entries.filterMap (lying place) :=
  tree.entries_in_place directory place ((tree.resolve_leads placed directory place).mpr leads)

theorem entries_in_mem (name : FileName) (entry : FileEntry) :
    (name, entry) ∈ tree.entriesIn directory ↔ (place ++ [name], entry) ∈ tree.entries := by
  rw [tree.entries_in_leads directory place placed leads]
  constructor
  · intro member
    obtain ⟨⟨inside, found⟩, listed, lies⟩ := List.mem_filterMap.mp member
    obtain ⟨rfl, rfl⟩ := (lying_iff place inside found entry name).mp lies
    exact listed
  · intro listed
    exact List.mem_filterMap.mpr ⟨_, listed, (lying_iff _ _ _ _ _).mpr ⟨rfl, rfl⟩⟩

theorem entries_in_named (name : FileName) (entry : FileEntry)
    (listed : (name, entry) ∈ tree.entriesIn directory) : IsName name := by
  have member := (tree.entries_in_mem directory place placed leads name entry).mp listed
  refine placed.named _ (List.mem_map_of_mem member) name ?_
  exact List.mem_append_right _ List.mem_cons_self

theorem entries_in_order :
    ((tree.entriesIn directory).map fun item => place ++ [item.1]).Sublist tree.places := by
  rw [tree.entries_in_leads directory place placed leads]
  exact lying_ordered place tree.entries

theorem listed_leads (there : tree.Holds place .directory) (name : FileName) (entry : FileEntry)
    (listed : (place ++ [name], entry) ∈ tree.entries) (direct : ∀ target, entry ≠ .link target) :
    tree.PathLeads (FilePath.join directory name) (place ++ [name]) := by
  have member := (tree.entries_in_mem directory place placed leads name entry).mpr listed
  have named := tree.entries_in_named directory place placed leads name entry member
  exact tree.path_leads_inside directory name place leads there named entry (.inr listed) direct

end Placed

end FileTree

end Gamebook
