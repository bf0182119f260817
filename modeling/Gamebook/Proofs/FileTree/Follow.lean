import Gamebook.Proofs.FileTree.Places

set_option autoImplicit false

namespace Gamebook

open FilePath (IsName)

def FileEntry.filled (content : ByteArray) : FileEntry → FileEntry
  | .file _ => .file content
  | .locked => .locked
  | .directory => .directory
  | .link target => .link target

def FileEntry.emptied (entry : FileEntry) : FileEntry := entry.filled .empty

namespace FileTree

variable (tree : FileTree)

section Steps

variable (links : Nat) (place : Place) (part : FileName) (rest : List FileName)

theorem follow_blocked (blocked : tree.entryAt? place ≠ some .directory) :
    tree.follow links place (part :: rest) = .astray := by
  rw [follow.eq_def]
  dsimp only
  split
  · contradiction
  · rfl

variable (directory : tree.entryAt? place = some .directory)
include directory

theorem follow_here (dot : part = [] ∨ part = FilePath.here) :
    tree.follow links place (part :: rest) = tree.follow links place rest := by
  rw [follow, directory]
  simp only [if_pos dot]

theorem follow_up :
    tree.follow links place (FilePath.up :: rest) = tree.follow links place.dropLast rest := by
  have full : ¬ (FilePath.up = [] ∨ FilePath.up = FilePath.here) := by decide
  rw [follow, directory]
  simp only [if_neg full, if_pos]

variable (full : ¬ (part = [] ∨ part = FilePath.here)) (notUp : part ≠ FilePath.up)
include full notUp

theorem follow_missing (missing : tree.entryAt? (place ++ [part]) = none) :
    tree.follow links place (part :: rest) =
      if rest = [] then .missing (place ++ [part]) else .astray := by
  rw [follow, directory]
  simp only [if_neg full, if_neg notUp, missing]

theorem follow_down (entry : FileEntry) (there : tree.entryAt? (place ++ [part]) = some entry)
    (direct : ∀ target, entry ≠ .link target) :
    tree.follow links place (part :: rest) = tree.follow links (place ++ [part]) rest := by
  rw [follow, directory]
  simp only [if_neg full, if_neg notUp, there]

variable (target : FilePath) (there : tree.entryAt? (place ++ [part]) = some (.link target))
include there

theorem follow_tired : tree.follow 0 place (part :: rest) = .astray := by
  rw [follow, directory]
  simp only [if_neg full, if_neg notUp, there]

theorem follow_link :
    tree.follow (links + 1) place (part :: rest) =
      tree.follow links (origin place target) (FilePath.parts target ++ rest) := by
  rw [follow, directory]
  simp only [if_neg full, if_neg notUp, there]

end Steps

theorem resolve_found (path : FilePath) (place : Place) :
    tree.resolve? path = some place ↔
      path ≠ [] ∧
        tree.follow linkLimit (origin tree.home path) (FilePath.parts path) = .found place := by
  unfold resolve?
  by_cases empty : path = []
  · simp [empty]
  · rw [if_neg empty]
    split
    · rename_i found
      simp [empty, found]
    · rename_i lost
      exact iff_of_false (by simp) fun ⟨_, found⟩ => lost place found

section Here

variable (there : tree.entryAt? tree.home = some .directory)
include there

theorem here_resolved : tree.resolve? FilePath.here = some tree.home := by
  rw [resolve_found]
  refine ⟨by decide, ?_⟩
  have parts : FilePath.parts FilePath.here = [FilePath.here] := rfl
  have relative : origin tree.home FilePath.here = tree.home := rfl
  rw [parts, relative, tree.follow_here _ _ _ [] there (.inr rfl), follow]

theorem here_file (name : FileName) (named : IsName name) (content : ByteArray)
    (held : tree.entryAt? (tree.home ++ [name]) = some (.file content))
    (short : (FilePath.join FilePath.here name).length < pathLimit) :
    tree.resolve? (FilePath.join FilePath.here name) = some (tree.home ++ [name]) ∧
      tree.entry? (FilePath.join FilePath.here name) = some (.file content) := by
  have place : tree.resolve? (FilePath.join FilePath.here name) = some (tree.home ++ [name]) := by
    have relative : origin tree.home (FilePath.join FilePath.here name) = tree.home := by
      rw [origin, FilePath.absolute_join _ name (by decide) named.single, ← origin]
      rfl
    have full : ¬ (name = [] ∨ name = FilePath.here) := not_or.mpr ⟨named.full, named.notHere⟩
    rw [resolve_found, relative, FilePath.parts_here name named.single,
      tree.follow_here _ _ _ [name] there (.inr rfl),
      tree.follow_down _ _ name [] there full named.notUp _ held (by simp), follow]
    exact ⟨FilePath.join_full _ name (by decide) named.single, rfl⟩
  refine ⟨place, ?_⟩
  unfold entry?
  rw [if_pos short, place]
  exact held

end Here

def outline? (path : FilePath) : Option FileEntry :=
  Option.map FileEntry.emptied <| tree.entry? path

theorem is_directory_outline (path : FilePath) :
    tree.isDirectory path = true ↔ tree.outline? path = some .directory := by
  rw [isDirectory, outline?]
  cases tree.entry? path with
  | none => simp
  | some entry => cases entry <;> simp [FileEntry.emptied, FileEntry.filled]

theorem is_file_outline (path : FilePath) :
    tree.isFile path = (tree.outline? path).any FileEntry.isRegular := by
  rw [isFile, outline?]
  cases tree.entry? path with
  | none => rfl
  | some entry => cases entry <;> rfl

section Contents

variable (other : FileTree)

structure Alike : Prop where
  home : other.home = tree.home
  entries : ∀ place,
    (other.entryAt? place).map FileEntry.emptied = (tree.entryAt? place).map FileEntry.emptied

variable {tree other}

theorem Alike.symm (alike : tree.Alike other) : other.Alike tree :=
  ⟨alike.home.symm, fun place => (alike.entries place).symm⟩

variable (alike : tree.Alike other)
include alike

theorem alike_missing (place : Place) (missing : tree.entryAt? place = none) :
    other.entryAt? place = none := by
  have same := alike.entries place
  rwa [missing, Option.map_none, Option.map_eq_none_iff] at same

theorem alike_there (place : Place) (entry : FileEntry) (there : tree.entryAt? place = some entry) :
    ∃ found, other.entryAt? place = some found ∧ found.emptied = entry.emptied := by
  have same := alike.entries place
  rwa [there, Option.map_some, Option.map_eq_some_iff] at same

theorem alike_directory (place : Place) (directory : tree.entryAt? place = some .directory) :
    other.entryAt? place = some .directory := by
  obtain ⟨found, there, same⟩ := alike_there alike place _ directory
  cases found with
  | directory => exact there
  | file | locked | link => cases same

theorem alike_link (place : Place) (target : FilePath)
    (link : tree.entryAt? place = some (.link target)) :
    other.entryAt? place = some (.link target) := by
  obtain ⟨found, there, same⟩ := alike_there alike place _ link
  cases found <;> cases same
  exact there

theorem follow_alike (links : Nat) (place : Place) (parts : List FileName) :
    other.follow links place parts = tree.follow links place parts := by
  fun_induction follow tree links place parts with
  | case1 => rw [follow]
  | case2 links place part rest directory dot ih =>
    rw [other.follow_here links place part rest (alike_directory alike place directory) dot, ih]
  | case3 links place rest directory up ih =>
    rw [other.follow_up links place rest (alike_directory alike place directory), ih]
  | case4 links place part directory full notUp child missing =>
    rw [other.follow_missing links place part [] (alike_directory alike place directory) full notUp
      (alike_missing alike _ missing), if_pos rfl]
  | case5 links place part rest directory full notUp child missing more =>
    rw [other.follow_missing links place part rest (alike_directory alike place directory) full
      notUp (alike_missing alike _ missing), if_neg more]
  | case6 place part rest directory full notUp child target there =>
    exact other.follow_tired place part rest (alike_directory alike place directory) full notUp
      target (alike_link alike _ target there)
  | case7 place part rest directory full notUp child target there links ih =>
    rw [other.follow_link links place part rest (alike_directory alike place directory) full notUp
      target (alike_link alike _ target there), ih]
  | case8 links place part rest directory full notUp child entry direct there ih =>
    obtain ⟨found, listed, same⟩ := alike_there alike _ entry there
    have unlinked : ∀ target, found ≠ .link target := by
      rintro target rfl
      cases entry <;> cases same
      exact direct target rfl
    rw [other.follow_down links place part rest (alike_directory alike place directory) full notUp
      found listed unlinked, ih]
  | case9 links place part rest blocked =>
    exact other.follow_blocked links place part rest fun directory =>
      blocked (alike_directory alike.symm place directory)

theorem resolve_alike (path : FilePath) : other.resolve? path = tree.resolve? path := by
  rw [resolve?, resolve?, alike.home]
  simp only [follow_alike alike]

theorem outline_alike (path : FilePath) : other.outline? path = tree.outline? path := by
  unfold outline? entry?
  rw [resolve_alike alike]
  split
  · cases tree.resolve? path with
    | none => rfl
    | some place => exact alike.entries place
  · rfl

theorem is_directory_alike (path : FilePath) : other.isDirectory path = tree.isDirectory path := by
  rw [Bool.eq_iff_iff, is_directory_outline, is_directory_outline, outline_alike alike]

theorem is_file_alike (path : FilePath) : other.isFile path = tree.isFile path := by
  rw [is_file_outline, is_file_outline, outline_alike alike]

theorem entry_kept (path : FilePath)
    (kept : ∀ place, tree.resolve? path = some place → other.entryAt? place = tree.entryAt? place) :
    other.entry? path = tree.entry? path := by
  unfold entry?
  rw [resolve_alike alike]
  cases resolved : tree.resolve? path with
  | none => rfl
  | some place => rw [Option.bind_some, Option.bind_some, kept place resolved]

theorem canonical_alike (path : FilePath) : other.canonical? path = tree.canonical? path := by
  rw [canonical?, canonical?, resolve_alike alike]

end Contents

end FileTree

end Gamebook
