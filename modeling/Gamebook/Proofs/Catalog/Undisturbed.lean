import Gamebook.Proofs.Catalog.Directory
import Gamebook.Proofs.FileTree.Changes

set_option autoImplicit false

namespace Gamebook.FileTree

variable (tree : FileTree) (directory : FilePath)

theorem reordered_candidates (placed : tree.Placed) (other : FileTree)
    (reordered : tree.Reordered other) :
    (other.candidates directory).Perm (tree.candidates directory) := by
  have same : other.isCandidate directory = tree.isCandidate directory := by
    funext item
    rw [isCandidate, isCandidate, is_file_alike (reordered_alike placed reordered)]
  rw [candidates, candidates, same]
  exact ((reordered_entries_in placed reordered directory).filter _).map _

theorem reordered_load (placed : tree.Placed) (other : FileTree) (reordered : tree.Reordered other)
    (path : FilePath) : other.loadScenario path = tree.loadScenario path :=
  tree.load_kept path other (reordered_entry placed reordered path)
    (canonical_alike (reordered_alike placed reordered) path)

variable (file : Place) (content : ByteArray)

theorem candidate_emptied (item : FileName × FileEntry) :
    tree.isCandidate directory (item.1, item.2.emptied) = tree.isCandidate directory item := by
  have regular : item.2.emptied.isRegular = item.2.isRegular := by cases item.2 <;> rfl
  rw [isCandidate, isCandidate, regular]

theorem overwritten_candidates :
    (tree.overwrite file content).candidates directory = tree.candidates directory := by
  have same :
      (tree.overwrite file content).isCandidate directory = tree.isCandidate directory := by
    funext item
    rw [isCandidate, isCandidate, is_file_alike (tree.overwritten_alike file content)]
  have kinds : ∀ items : List (FileName × FileEntry),
      (items.filter (tree.isCandidate directory)).map (·.1) =
        ((items.map (Prod.map id FileEntry.emptied)).filter (tree.isCandidate directory)).map
          (·.1) := by
    intro items
    have ofKind : tree.isCandidate directory ∘ Prod.map id FileEntry.emptied =
        tree.isCandidate directory := funext (tree.candidate_emptied directory)
    rw [List.filter_map, ofKind, List.map_map]
    rfl
  rw [candidates, candidates, same, kinds, overwritten_entries_in, ← kinds]

theorem overwritten_load (path : FilePath) (elsewhere : tree.resolve? path ≠ some file) :
    (tree.overwrite file content).loadScenario path = tree.loadScenario path :=
  tree.load_kept path _ (tree.overwritten_entry file content path elsewhere)
    (canonical_alike (tree.overwritten_alike file content) path)

theorem directory_loads_file_by_file (placed : tree.Placed) (place : Place)
    (short : directory.length < 4096) (leads : tree.PathLeads directory place)
    (there : tree.Holds place .directory) :
    tree.LoadsFileByFile directory place ∧
    (∀ other, tree.Reordered other → other.LoadsFileByFile directory place ∧
      (other.loadings directory).Perm (tree.loadings directory) ∧
      ∀ path, other.loadScenario path = tree.loadScenario path) ∧
    ∀ file content, (tree.overwrite file content).LoadsFileByFile directory place ∧
      (∀ old, tree.Holds file (.file old) →
        (tree.overwrite file content).Holds file (.file content)) ∧
      (∀ other entry, other ≠ file →
        ((tree.overwrite file content).Holds other entry ↔ tree.Holds other entry)) ∧
      (tree.overwrite file content).candidates directory = tree.candidates directory ∧
      ∀ path, ¬ tree.PathLeads path file →
        (tree.overwrite file content).loadScenario path = tree.loadScenario path := by
  refine ⟨tree.loads_file_by_file directory place placed leads there short, ?_, ?_⟩
  · intro other reordered
    have loads := tree.reordered_load placed other reordered
    have alsoLeads := (reordered_leads placed reordered directory place).mpr leads
    have alsoThere := (reordered_holds tree other reordered place .directory).mpr there
    refine ⟨other.loads_file_by_file directory place (reordered_placed placed reordered) alsoLeads
      alsoThere short, ?_, loads⟩
    rw [loadings, loadings, funext loads]
    exact (tree.reordered_candidates directory placed other reordered).map _
  · intro file content
    have alsoLeads := (tree.overwritten_leads file content placed directory place).mpr leads
    have alsoThere := tree.overwritten_directory file content placed place there
    refine ⟨loads_file_by_file _ directory place (tree.overwritten_placed file content placed)
      alsoLeads alsoThere short, tree.overwritten_holds_file file content placed,
      tree.overwritten_holds file content placed,
      tree.overwritten_candidates directory file content, ?_⟩
    intro path elsewhere
    rw [← tree.resolve_leads placed] at elsewhere
    exact tree.overwritten_load file content path elsewhere

def shelfPlace : Place := [FilePath.ofText "home", FilePath.ofText "stories"]

-- Three files, a directory, a link that is seen from the root, and a name that is no text.
def shelf : FileTree where
  home := [FilePath.ofText "home"]
  entries :=
    [([FilePath.ofText "home"], .directory), (shelfPlace, .directory),
      (shelfPlace ++ [FilePath.ofText "manor.txt"], .file "Manor\n".toUTF8),
      (shelfPlace ++ [FilePath.ofText "blank.txt"], .file .empty),
      (shelfPlace ++ [FilePath.ofText "closed.txt"], .locked),
      (shelfPlace ++ [FilePath.ofText "old.txt"], .directory),
      (shelfPlace ++ [FilePath.ofText "far.txt"],
        .link (FilePath.ofText "/home/stories/manor.txt")),
      (shelfPlace ++ [0xFF :: FilePath.ofText ".txt"], .file .empty)]

theorem shelf_placed : shelf.Placed := by
  refine ⟨?_, ?_, ?_, ?_⟩ <;> decide +kernel

theorem shelf_leads : shelf.PathLeads (FilePath.ofText "stories") shelfPlace := by
  refine ⟨by decide, 0, Nat.zero_le _, ?_⟩
  have parts : (FilePath.ofText "stories").splitOn 47 = [FilePath.ofText "stories"] := by decide
  rw [parts, if_neg (by decide)]
  exact .down shelf.home _ [] 0 shelfPlace (.inr (List.mem_of_getElem? (i := 0) rfl)) (by decide)
    .directory (.inr (List.mem_of_getElem? (i := 1) rfl)) (by simp) (.arrived _)

theorem shelf_there : shelf.Holds shelfPlace .directory :=
  .inr (List.mem_of_getElem? (i := 1) rfl)

theorem shelf_far :
    shelf.PathLeads (FilePath.join (FilePath.ofText "stories") (FilePath.ofText "far.txt"))
      (shelfPlace ++ [FilePath.ofText "manor.txt"]) := by
  have home : shelf.Holds shelf.home .directory := .inr (List.mem_of_getElem? (i := 0) rfl)
  refine ⟨by decide, 1, by decide, ?_⟩
  have parts : (FilePath.join (FilePath.ofText "stories") (FilePath.ofText "far.txt")).splitOn 47 =
      [FilePath.ofText "stories", FilePath.ofText "far.txt"] := by decide
  have target : (FilePath.ofText "/home/stories/manor.txt").splitOn 47 =
      [[], FilePath.ofText "home", FilePath.ofText "stories", FilePath.ofText "manor.txt"] := by
    decide
  rw [parts, if_neg (by decide)]
  refine .down shelf.home _ _ 1 _ home (by decide) .directory shelf_there (by simp) ?_
  refine .link shelfPlace _ _ 0 _ shelf_there (by decide) _
    (.inr (List.mem_of_getElem? (i := 6) rfl)) ?_
  rw [target, if_pos (by decide)]
  refine .stay [] _ _ 0 _ (.inl ⟨rfl, rfl⟩) (.inl rfl) ?_
  refine .down [] _ _ 0 _ (.inl ⟨rfl, rfl⟩) (by decide) .directory home (by simp) ?_
  refine .down shelf.home _ _ 0 _ home (by decide) .directory shelf_there (by simp) ?_
  exact .down shelfPlace _ _ 0 _ shelf_there (by decide) _
    (.inr (List.mem_of_getElem? (i := 2) rfl)) (by simp) (.arrived _)

theorem shelf_candidates :
    shelf.candidates (FilePath.ofText "stories") =
      [FilePath.ofText "manor.txt", FilePath.ofText "blank.txt", FilePath.ofText "closed.txt",
        FilePath.ofText "far.txt", 0xFF :: FilePath.ofText ".txt"] := by
  have listed : shelf.entriesIn (FilePath.ofText "stories") =
      [(FilePath.ofText "manor.txt", .file "Manor\n".toUTF8),
        (FilePath.ofText "blank.txt", .file .empty), (FilePath.ofText "closed.txt", .locked),
        (FilePath.ofText "old.txt", .directory),
        (FilePath.ofText "far.txt", .link (FilePath.ofText "/home/stories/manor.txt")),
        (0xFF :: FilePath.ofText ".txt", .file .empty)] := by
    rw [entries_in_leads shelf _ _ shelf_placed shelf_leads]
    rfl
  have candidate := shelf.candidate_iff _ _ shelf_placed shelf_leads shelf_there
  have folder : ¬ shelf.isCandidate (FilePath.ofText "stories")
      (FilePath.ofText "old.txt", .directory) = true := by
    rw [candidate _ _ (List.mem_of_getElem? (i := 5) rfl)]
    rintro ⟨_, ⟨⟩⟩
  have link : shelf.isCandidate (FilePath.ofText "stories")
      (FilePath.ofText "far.txt", .link (FilePath.ofText "/home/stories/manor.txt")) = true := by
    rw [candidate _ _ (List.mem_of_getElem? (i := 6) rfl)]
    exact ⟨by decide, .link _ _ (by decide) shelf_far
      (.inl ⟨_, .inr (List.mem_of_getElem? (i := 2) rfl)⟩)⟩
  rw [candidates, listed, List.filter_cons_of_pos (by decide +kernel),
    List.filter_cons_of_pos (by decide +kernel), List.filter_cons_of_pos (by decide +kernel),
    List.filter_cons_of_neg folder, List.filter_cons_of_pos link,
    List.filter_cons_of_pos (by decide +kernel)]
  rfl

theorem shelf_accounted :
    shelf.Placed ∧ shelf.PathLeads (FilePath.ofText "stories") shelfPlace ∧
      shelf.Holds shelfPlace .directory ∧
      (shelf.catalogOfDirectory (FilePath.ofText "stories")).accounted = 5 := by
  have loads := (directory_loads_file_by_file shelf (FilePath.ofText "stories") shelf_placed
    shelfPlace (by decide) shelf_leads shelf_there).1
  refine ⟨shelf_placed, shelf_leads, shelf_there, ?_⟩
  rw [loads.counted, shelf_candidates]
  rfl

end Gamebook.FileTree
