import Gamebook.Proofs.Catalog.Loading

set_option autoImplicit false

namespace Gamebook

abbrev Loading := Except Diagnostic (Story × List Diagnostic)

namespace Loading

def stories : Loading → List Story
  | .ok (story, _) => [story]
  | .error _ => []

def reports : Loading → List Diagnostic
  | .ok (_, found) => found
  | .error found => [found]

end Loading

namespace Catalog

def ofLoadings (loadings : List Loading) : Catalog :=
  ⟨loadings.flatMap Loading.stories, loadings.flatMap Loading.reports⟩

def reportsOf (kind : Diagnostic.Kind) (catalog : Catalog) : List Diagnostic :=
  catalog.diagnostics.filter (·.kind = kind)

def accounted (catalog : Catalog) : Nat :=
  catalog.scenarios.length + (catalog.reportsOf .emptyFile).length +
    (catalog.reportsOf .readFailure).length

theorem of_loadings_cons (loading : Loading) (rest : List Loading) :
    ofLoadings (loading :: rest) = (ofLoadings [loading]).append (ofLoadings rest) := by
  simp [ofLoadings, append]

theorem append_assoc (first second third : Catalog) :
    (first.append second).append third = first.append (second.append third) := by
  simp [append, List.append_assoc]

theorem accounted_append (first second : Catalog) :
    (first.append second).accounted = first.accounted + second.accounted := by
  simp only [accounted, reportsOf, append, List.filter_append, List.length_append]
  omega

theorem accounted_loadings (loadings : List Loading)
    (each : ∀ loading ∈ loadings, (ofLoadings [loading]).accounted = 1) :
    (ofLoadings loadings).accounted = loadings.length := by
  induction loadings with
  | nil => rfl
  | cons first rest ih =>
    have others := ih fun loading member => each loading (List.mem_cons_of_mem _ member)
    rw [of_loadings_cons, accounted_append, each first List.mem_cons_self, others,
      List.length_cons, Nat.add_comm]

end Catalog

namespace FileTree

def isCandidate (tree : FileTree) (directory : FilePath) (item : FileName × FileEntry) : Bool :=
  scenarioSuffix.toList.isSuffixOf (FilePath.display item.1).toList &&
    (item.2.isRegular || tree.isFile (FilePath.join directory item.1))

def candidates (tree : FileTree) (directory : FilePath) : List FileName :=
  ((tree.entriesIn directory).filter (tree.isCandidate directory)).map (·.1)

def loadings (tree : FileTree) (directory : FilePath) : List Loading :=
  (tree.candidates directory).map fun name => tree.loadScenario (FilePath.join directory name)

-- A regular file, whether it can be opened or not, or a link whose path leads to one.
inductive Filed (tree : FileTree) (path : FilePath) : FileEntry → Prop where
  | file (content : ByteArray) : Filed tree path (.file content)
  | locked : Filed tree path .locked
  | link (target : FilePath) (goal : Place) (short : path.length < 4096)
      (leads : tree.PathLeads path goal)
      (there : (∃ content, tree.Holds goal (.file content)) ∨ tree.Holds goal .locked) :
      Filed tree path (.link target)

-- The names of the candidates are bytes that end in those of ".txt", text or not.
structure LoadsFileByFile (tree : FileTree) (directory : FilePath) (place : Place) : Prop where
  gathered : tree.catalogOfDirectory directory = .ofLoadings (tree.loadings directory)
  ordered :
    ((tree.candidates directory).map fun name => place ++ [name]).Sublist (tree.entries.map (·.1))
  once : (tree.candidates directory).Nodup
  listed : ∀ name, name ∈ tree.candidates directory ↔
    [46, 116, 120, 116] <:+ name ∧
      ∃ entry, (place ++ [name], entry) ∈ tree.entries ∧
        tree.Filed (FilePath.join directory name) entry
  direct : ∀ name entry, (place ++ [name], entry) ∈ tree.entries →
    (∀ target, entry ≠ .link target) →
      tree.PathLeads (FilePath.join directory name) (place ++ [name])
  alone : ∀ name ∈ tree.candidates directory,
    tree.LoadsAlone (FilePath.join directory name) (FilePath.display name)
  shown : ∀ text : String, FilePath.display text.toUTF8.data.toList = text
  counted : (tree.catalogOfDirectory directory).accounted = (tree.candidates directory).length

variable (tree : FileTree)

theorem catalog_of_files (paths : List FilePath) :
    tree.catalogOfFiles paths = .ofLoadings (paths.map tree.loadScenario) := by
  have gathers : ∀ (paths : List FilePath) (before : Catalog),
      (paths.map tree.catalogOfFile).foldl Catalog.append before =
        before.append (.ofLoadings (paths.map tree.loadScenario)) := by
    intro paths
    induction paths with
    | nil =>
      intro before
      simp [Catalog.append, Catalog.ofLoadings]
    | cons path rest ih =>
      intro before
      have first : tree.catalogOfFile path = .ofLoadings [tree.loadScenario path] := by
        rw [catalogOfFile]
        cases tree.loadScenario path <;> simp [Catalog.ofLoadings, Loading.stories, Loading.reports]
      rw [List.map_cons, List.foldl_cons, ih, first, List.map_cons, Catalog.append_assoc,
        ← Catalog.of_loadings_cons]
  exact gathers paths .empty

theorem loading_accounted (path : FilePath) (name : String) (loads : tree.LoadsAlone path name) :
    (Catalog.ofLoadings [tree.loadScenario path]).accounted = 1 := by
  cases result : tree.loadScenario path with
  | error found =>
    rcases loads.refused found result with rfl | rfl <;> rfl
  | ok loaded =>
    obtain ⟨story, found⟩ := loaded
    obtain ⟨_, _, lines⟩ := loads.loaded story found result
    have onLines : ∀ kind, kind = .emptyFile ∨ kind = .readFailure →
        found.filter (·.kind = kind) = [] := by
      intro kind whole
      rw [List.filter_eq_nil_iff]
      intro report member
      rcases (lines report member).1 with told | told <;> rcases whole with rfl | rfl <;>
        simp [told]
    simp [Catalog.accounted, Catalog.reportsOf, Catalog.ofLoadings, Loading.stories,
      Loading.reports, onLines]

theorem suffix_bytes (name : FileName) :
    scenarioSuffix.toList <:+ (FilePath.display name).toList ↔ [46, 116, 120, 116] <:+ name := by
  have letters : scenarioSuffix.toList =
      [46, 116, 120, 116].map fun byte : UInt8 => Char.ofNat byte.toNat := by decide
  have plain : ∀ byte ∈ ([46, 116, 120, 116] : List UInt8),
      0 < byte.toNat ∧ byte.toNat < 0x80 := by
    simp
  rw [FilePath.display, Text.lossy, String.toList_ofList, letters]
  exact Text.lossy_suffix [46, 116, 120, 116] name plain

theorem regular_iff (entry : FileEntry) :
    entry.isRegular = true ↔ (∃ content, entry = .file content) ∨ entry = .locked := by
  cases entry <;> simp [FileEntry.isRegular]

section Directory

variable (directory : FilePath) (place : Place) (placed : tree.Placed)
include placed

theorem is_file_leads (path : FilePath) :
    tree.isFile path = true ↔
      path.length < 4096 ∧ ∃ goal, tree.PathLeads path goal ∧
        ((∃ content, tree.Holds goal (.file content)) ∨ tree.Holds goal .locked) := by
  have found : tree.isFile path = true ↔
      ∃ entry, tree.entry? path = some entry ∧ entry.isRegular = true := by
    rw [isFile]
    cases tree.entry? path <;> simp
  simp only [found, tree.entry_leads placed path, regular_iff]
  constructor
  · rintro ⟨entry, ⟨short, goal, leads, there⟩, ⟨content, rfl⟩ | rfl⟩
    · exact ⟨short, goal, leads, .inl ⟨content, there⟩⟩
    · exact ⟨short, goal, leads, .inr there⟩
  · rintro ⟨short, goal, leads, ⟨content, there⟩ | there⟩
    · exact ⟨_, ⟨short, goal, leads, there⟩, .inl ⟨content, rfl⟩⟩
    · exact ⟨_, ⟨short, goal, leads, there⟩, .inr rfl⟩

theorem is_directory_leads (path : FilePath) :
    tree.isDirectory path = true ↔
      path.length < 4096 ∧ ∃ goal, tree.PathLeads path goal ∧ tree.Holds goal .directory := by
  rw [← tree.entry_leads placed, isDirectory]
  cases tree.entry? path with
  | none => simp
  | some entry => cases entry <;> simp

theorem holds_once (goal : Place) (entry other : FileEntry) (there : tree.Holds goal entry)
    (alsoThere : tree.Holds goal other) : entry = other := by
  rw [← entry_at_iff tree placed] at there alsoThere
  exact Option.some.inj (there.symm.trans alsoThere)

variable (leads : tree.PathLeads directory place)
include leads

theorem candidates_ordered :
    ((tree.candidates directory).map fun name => place ++ [name]).Sublist tree.places := by
  rw [candidates, List.map_map]
  exact (List.filter_sublist.map _).trans (tree.entries_in_order directory place placed leads)

theorem candidates_once : (tree.candidates directory).Nodup :=
  (placed.distinct.sublist (tree.candidates_ordered directory place placed leads)).of_map _

theorem candidate_loads (name : FileName) (candidate : name ∈ tree.candidates directory) :
    tree.LoadsAlone (FilePath.join directory name) (FilePath.display name) := by
  obtain ⟨⟨found, entry⟩, member, rfl⟩ := List.mem_map.mp candidate
  have listed := (List.mem_filter.mp member).1
  have named := tree.entries_in_named directory place placed leads found entry listed
  have loads := tree.loads_alone (FilePath.join directory found) placed
  rwa [FilePath.file_name_join directory found leads.1 named] at loads

variable (there : tree.Holds place .directory)
include there

theorem directory_unfiled (name : FileName)
    (listed : (place ++ [name], .directory) ∈ tree.entries) :
    tree.isFile (FilePath.join directory name) = false := by
  have onward :=
    tree.listed_leads directory place placed leads there name .directory listed (by simp)
  rw [Bool.eq_false_iff, ne_eq, tree.is_file_leads placed]
  rintro ⟨_, goal, alsoOnward, regular⟩
  obtain rfl := tree.path_leads_once placed _ _ _ onward alsoOnward
  rcases regular with ⟨content, file⟩ | locked
  · cases tree.holds_once placed _ _ _ (.inr listed) file
  · cases tree.holds_once placed _ _ _ (.inr listed) locked

theorem candidate_iff (name : FileName) (entry : FileEntry)
    (listed : (place ++ [name], entry) ∈ tree.entries) :
    tree.isCandidate directory (name, entry) = true ↔
      [46, 116, 120, 116] <:+ name ∧ tree.Filed (FilePath.join directory name) entry := by
  rw [isCandidate, Bool.and_eq_true, Bool.or_eq_true, List.isSuffixOf_iff_suffix, suffix_bytes]
  refine and_congr_right fun _ => ?_
  cases entry with
  | file content => exact iff_of_true (.inl rfl) (.file content)
  | locked => exact iff_of_true (.inl rfl) .locked
  | directory =>
    rw [tree.directory_unfiled directory place placed leads there name listed]
    exact iff_of_false (by simp [FileEntry.isRegular]) (by rintro ⟨⟩)
  | link target =>
    rw [tree.is_file_leads placed]
    constructor
    · rintro (⟨⟨⟩⟩ | ⟨short, goal, onward, regular⟩)
      exact .link target goal short onward regular
    · rintro (_ | _ | ⟨_, goal, short, onward, regular⟩)
      exact .inr ⟨short, goal, onward, regular⟩

theorem candidate_mem (name : FileName) :
    name ∈ tree.candidates directory ↔
      [46, 116, 120, 116] <:+ name ∧
        ∃ entry, (place ++ [name], entry) ∈ tree.entries ∧
          tree.Filed (FilePath.join directory name) entry := by
  rw [candidates, List.mem_map]
  constructor
  · rintro ⟨⟨found, entry⟩, member, rfl⟩
    obtain ⟨lies, candidate⟩ := List.mem_filter.mp member
    have listed := (tree.entries_in_mem directory place placed leads found entry).mp lies
    obtain ⟨suffix, filed⟩ :=
      (tree.candidate_iff directory place placed leads there found entry listed).mp candidate
    exact ⟨suffix, entry, listed, filed⟩
  · rintro ⟨suffix, entry, listed, filed⟩
    have lies := (tree.entries_in_mem directory place placed leads name entry).mpr listed
    refine ⟨(name, entry), List.mem_filter.mpr ⟨lies, ?_⟩, rfl⟩
    exact (tree.candidate_iff directory place placed leads there name entry listed).mpr
      ⟨suffix, filed⟩

theorem scenario_files_candidates :
    tree.scenarioFiles directory = (tree.candidates directory).map (FilePath.join directory) := by
  rw [scenarioFiles, candidates, List.map_map, ← List.filterMap_eq_map, List.filterMap_filter]
  apply List.filterMap_congr
  rintro ⟨name, entry⟩ lies
  cases entry with
  | file content => simp [isCandidate, FileEntry.isRegular]
  | locked => simp [isCandidate, FileEntry.isRegular]
  | link target => simp [isCandidate, FileEntry.isRegular, and_comm]
  | directory =>
    have listed := (tree.entries_in_mem directory place placed leads name .directory).mp lies
    have unfiled := tree.directory_unfiled directory place placed leads there name listed
    simp [isCandidate, FileEntry.isRegular, unfiled]

variable (short : directory.length < 4096)
include short

theorem directory_gathered :
    tree.catalogOfDirectory directory = .ofLoadings (tree.loadings directory) := by
  have opens := (tree.is_directory_leads placed directory).mpr ⟨short, place, leads, there⟩
  rw [catalogOfDirectory, if_pos opens,
    scenario_files_candidates tree directory place placed leads there, catalog_of_files,
    List.map_map]
  rfl

theorem directory_counted :
    (tree.catalogOfDirectory directory).accounted = (tree.candidates directory).length := by
  rw [tree.directory_gathered directory place placed leads there short, Catalog.accounted_loadings,
    loadings, List.length_map]
  intro loading member
  obtain ⟨name, candidate, rfl⟩ := List.mem_map.mp member
  exact tree.loading_accounted _ _
    (tree.candidate_loads directory place placed leads name candidate)

theorem loads_file_by_file : tree.LoadsFileByFile directory place where
  gathered := tree.directory_gathered directory place placed leads there short
  ordered := tree.candidates_ordered directory place placed leads
  once := tree.candidates_once directory place placed leads
  listed := tree.candidate_mem directory place placed leads there
  direct := tree.listed_leads directory place placed leads there
  alone := tree.candidate_loads directory place placed leads
  shown := FilePath.display_text
  counted := tree.directory_counted directory place placed leads there short

end Directory

end FileTree

end Gamebook
