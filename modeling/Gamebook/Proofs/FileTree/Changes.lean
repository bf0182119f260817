import Gamebook.Proofs.FileTree.Directory

set_option autoImplicit false

namespace Gamebook.FileTree

structure Reordered (tree other : FileTree) : Prop where
  home : other.home = tree.home
  entries : other.entries.Perm tree.entries

def refilled (place : Place) (content : ByteArray) (item : Place × FileEntry) :
    Place × FileEntry :=
  if item.1 = place then (item.1, item.2.filled content) else item

def overwrite (tree : FileTree) (place : Place) (content : ByteArray) : FileTree :=
  { tree with entries := tree.entries.map (refilled place content) }

theorem reordered_holds (tree other : FileTree) (reordered : tree.Reordered other) (place : Place)
    (entry : FileEntry) : other.Holds place entry ↔ tree.Holds place entry := by
  rw [Holds, Holds, reordered.entries.mem_iff]

section Reordered

variable {tree other : FileTree} (placed : tree.Placed) (reordered : tree.Reordered other)
include placed reordered

theorem reordered_placed : other.Placed := by
  have moved : other.places.Perm tree.places := reordered.entries.map _
  refine ⟨reordered.home ▸ placed.home, moved.nodup_iff.mpr placed.distinct, ?_, ?_⟩
  · rw [moved.mem_iff]
    exact placed.deep
  · intro place member
    exact placed.named place (moved.mem_iff.mp member)

theorem reordered_entry_at (place : Place) : other.entryAt? place = tree.entryAt? place := by
  apply Option.ext
  intro entry
  rw [entry_at_iff other (reordered_placed placed reordered),
    reordered_holds tree other reordered, entry_at_iff tree placed]

theorem reordered_alike : tree.Alike other where
  home := reordered.home
  entries := by
    intro place
    rw [reordered_entry_at placed reordered]

theorem reordered_entry (path : FilePath) : other.entry? path = tree.entry? path :=
  entry_kept (reordered_alike placed reordered) path fun place _ =>
    reordered_entry_at placed reordered place

theorem reordered_entries_in (directory : FilePath) :
    (other.entriesIn directory).Perm (tree.entriesIn directory) := by
  rw [entriesIn, entriesIn, resolve_alike (reordered_alike placed reordered)]
  split
  · exact reordered.entries.filterMap _
  · exact List.Perm.refl _

theorem reordered_leads (path : FilePath) (goal : Place) :
    other.PathLeads path goal ↔ tree.PathLeads path goal := by
  rw [← resolve_leads other (reordered_placed placed reordered), ← resolve_leads tree placed,
    resolve_alike (reordered_alike placed reordered)]

end Reordered

variable (tree : FileTree) (file : Place) (content : ByteArray)

theorem refilled_place (item : Place × FileEntry) : (refilled file content item).1 = item.1 := by
  rw [refilled]
  split <;> rfl

theorem refilled_emptied (item : Place × FileEntry) :
    (refilled file content item).2.emptied = item.2.emptied := by
  rw [refilled]
  split
  · cases item.2 <;> rfl
  · rfl

theorem overwritten_below (place : Place) (deep : place ≠ []) :
    (tree.overwrite file content).entryAt? place =
      (tree.entries.find? (·.1 = place)).map fun item => (refilled file content item).2 := by
  have sought : (fun item : Place × FileEntry => decide (item.1 = place)) ∘
      refilled file content = fun item => decide (item.1 = place) := by
    funext item
    rw [Function.comp_apply, refilled_place]
  rw [entry_below _ place deep, overwrite, List.find?_map, sought, Option.map_map]
  rfl

theorem overwritten_elsewhere (place : Place) (elsewhere : place ≠ file) :
    (tree.overwrite file content).entryAt? place = tree.entryAt? place := by
  by_cases root : place = []
  · rw [root, entry_at_root, entry_at_root]
  · rw [overwritten_below tree file content place root, entry_below tree place root]
    cases search : tree.entries.find? (·.1 = place) with
    | none => rfl
    | some item =>
      have here : item.1 = place := by simpa using List.find?_some search
      have other : item.1 ≠ file := fun same => elsewhere (here.symm.trans same)
      rw [Option.map_some, Option.map_some, refilled, if_neg other]

theorem overwritten_file (old : ByteArray) (held : tree.entryAt? file = some (.file old)) :
    (tree.overwrite file content).entryAt? file = some (.file content) := by
  have deep : file ≠ [] := by
    rintro rfl
    cases held
  rw [entry_below tree file deep, Option.map_eq_some_iff] at held
  obtain ⟨item, search, filed⟩ := held
  have here : item.1 = file := by simpa using List.find?_some search
  rw [overwritten_below tree file content file deep, search, Option.map_some, refilled,
    if_pos here, filed, FileEntry.filled]

theorem overwritten_alike : tree.Alike (tree.overwrite file content) where
  home := rfl
  entries := by
    intro place
    by_cases root : place = []
    · rw [root, entry_at_root, entry_at_root]
    · rw [overwritten_below tree file content place root, entry_below tree place root,
        Option.map_map, Option.map_map]
      congr 1
      funext item
      exact refilled_emptied file content item

theorem overwritten_entry (path : FilePath) (elsewhere : tree.resolve? path ≠ some file) :
    FileTree.entry? (tree.overwrite file content) path = tree.entry? path := by
  refine entry_kept (tree.overwritten_alike file content) path ?_
  intro place resolved
  apply overwritten_elsewhere
  rintro rfl
  exact elsewhere resolved

theorem lying_emptied (place : Place) (item : Place × FileEntry) :
    (lying place item).map (Prod.map id FileEntry.emptied) =
      lying place (item.1, item.2.emptied) := by
  rw [lying, lying]
  split
  · rw [Option.map_map]
    rfl
  · rfl

theorem overwritten_entries_in (directory : FilePath) :
    ((tree.overwrite file content).entriesIn directory).map (Prod.map id FileEntry.emptied) =
      (tree.entriesIn directory).map (Prod.map id FileEntry.emptied) := by
  have sameWay := resolve_alike (tree.overwritten_alike file content) directory
  cases resolved : tree.resolve? directory with
  | none => rw [entriesIn, entriesIn, sameWay, resolved]
  | some place =>
    rw [entries_in_place tree directory place resolved,
      entries_in_place _ directory place (sameWay.trans resolved), overwrite,
      List.filterMap_map, List.map_filterMap, List.map_filterMap]
    congr 1
    funext item
    rw [Function.comp_apply, lying_emptied, lying_emptied, refilled_place, refilled_emptied]

section Placed

variable (placed : tree.Placed)
include placed

theorem overwritten_placed : (tree.overwrite file content).Placed := by
  have places : (tree.overwrite file content).places = tree.places := by
    rw [FileTree.places, overwrite, List.map_map]
    exact List.map_congr_left fun item _ => refilled_place file content item
  refine ⟨placed.home, ?_, ?_, ?_⟩ <;> rw [places]
  · exact placed.distinct
  · exact placed.deep
  · exact placed.named

theorem overwritten_holds (place : Place) (entry : FileEntry) (elsewhere : place ≠ file) :
    (tree.overwrite file content).Holds place entry ↔ tree.Holds place entry := by
  rw [← entry_at_iff _ (tree.overwritten_placed file content placed), ← entry_at_iff tree placed,
    tree.overwritten_elsewhere file content place elsewhere]

theorem overwritten_holds_file (old : ByteArray) (held : tree.Holds file (.file old)) :
    (tree.overwrite file content).Holds file (.file content) := by
  rw [← entry_at_iff tree placed] at held
  rw [← entry_at_iff _ (tree.overwritten_placed file content placed)]
  exact tree.overwritten_file file content old held

theorem overwritten_directory (place : Place) (directory : tree.Holds place .directory) :
    (tree.overwrite file content).Holds place .directory := by
  rw [← entry_at_iff tree placed] at directory
  rw [← entry_at_iff _ (tree.overwritten_placed file content placed)]
  exact alike_directory (tree.overwritten_alike file content) place directory

theorem overwritten_leads (path : FilePath) (goal : Place) :
    (tree.overwrite file content).PathLeads path goal ↔ tree.PathLeads path goal := by
  rw [← resolve_leads _ (tree.overwritten_placed file content placed), ← resolve_leads tree placed,
    resolve_alike (tree.overwritten_alike file content)]

end Placed

end Gamebook.FileTree
