import Gamebook.FilePath

/-!
A tree of files, directories and symbolic links, seen from a working directory. Paths are resolved
the usual way: links are followed, a path through anything but a directory leads nowhere, and so do
links that lead in circles.
-/

set_option autoImplicit false

namespace Gamebook

inductive FileEntry where
  | file (content : ByteArray)
  | locked
  | directory
  | link (target : FilePath)

def FileEntry.isRegular : FileEntry → Bool
  | .file _ => true
  | .locked => true
  | .directory => false
  | .link _ => false

inductive Route where
  | found (place : Place)
  | missing (place : Place)
  | astray
deriving DecidableEq

-- The working directory is at `home`. Each entry has a place of its own; the root is a directory
-- without an entry.
structure FileTree where
  home : Place
  entries : List (Place × FileEntry)

namespace FileTree

def linkLimit : Nat := 40

def pathLimit : Nat := 4096

def entryAt? (tree : FileTree) (place : Place) : Option FileEntry :=
  if place = [] then some .directory else (tree.entries.find? (·.1 = place)).map (·.2)

def origin (place : Place) (path : FilePath) : Place :=
  if FilePath.isAbsolute path then [] else place

def follow (tree : FileTree) (links : Nat) (place : Place) : List FileName → Route
  | [] => .found place
  | part :: rest =>
    match tree.entryAt? place with
    | some .directory =>
      if part = [] ∨ part = FilePath.here then tree.follow links place rest
      else if part = FilePath.up then tree.follow links place.dropLast rest
      else
        let child := place ++ [part]
        match tree.entryAt? child with
        | none => if rest = [] then .missing child else .astray
        | some (.link target) =>
          match links with
          | 0 => .astray
          | links + 1 =>
            -- the target is seen from where the link lies
            tree.follow links (origin place target) (FilePath.parts target ++ rest)
        | some _ => tree.follow links child rest
    | _ => .astray
termination_by parts => (links, parts.length)

def resolve? (tree : FileTree) (path : FilePath) : Option Place :=
  if path = [] then none
  else
    match tree.follow linkLimit (origin tree.home path) (FilePath.parts path) with
    | .found place => some place
    | _ => none

def canonical? (tree : FileTree) (path : FilePath) : Option FilePath :=
  (tree.resolve? path).map FilePath.ofPlace

def entry? (tree : FileTree) (path : FilePath) : Option FileEntry :=
  -- the absolute path of a place is known however long the way to it
  if path.length < pathLimit then (tree.resolve? path).bind tree.entryAt? else none

def isDirectory (tree : FileTree) (path : FilePath) : Bool :=
  match tree.entry? path with
  | some .directory => true
  | _ => false

def isFile (tree : FileTree) (path : FilePath) : Bool :=
  match tree.entry? path with
  | some entry => entry.isRegular
  | none => false

def readText? (tree : FileTree) (path : FilePath) : Option String :=
  match tree.entry? path with
  | some (.file content) => String.fromUTF8? content
  | _ => none

def entriesIn (tree : FileTree) (path : FilePath) : List (FileName × FileEntry) :=
  match tree.resolve? path with
  | some place =>
    tree.entries.filterMap fun (inside, entry) =>
      if inside ≠ [] ∧ inside.dropLast = place then
        inside.getLast?.map fun name => (name, entry)
      else none
  | none => []

def put (place : Place) (entry : FileEntry) (tree : FileTree) : FileTree :=
  { tree with entries := tree.entries.filter (·.1 ≠ place) ++ [(place, entry)] }

def make (start : Place) (parts : List FileName) (entry : FileEntry) (tree : FileTree) : FileTree :=
  match entry, tree.follow linkLimit start parts with
  | _, .missing place => tree.put place entry
  | .file _, .found place =>
    match tree.entryAt? place with
    | some (.file _) => tree.put place entry
    | _ => tree
  | _, _ => tree

def add (path : FilePath) (entry : FileEntry) (tree : FileTree) : FileTree :=
  let parts := FilePath.parts path
  let start := origin tree.home path
  let housed := (List.range parts.length).foldl
    (fun tree depth => tree.make start (parts.take depth) .directory) tree
  housed.make start parts entry

def bare (home : Place) : FileTree where
  home := home
  entries := (List.range home.length).map fun depth => (home.take (depth + 1), .directory)

def ofEntries (home : Place) (entries : List (FilePath × FileEntry)) : FileTree :=
  entries.foldl (fun tree (path, entry) => tree.add path entry) (bare home)

end FileTree

end Gamebook
