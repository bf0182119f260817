import Gamebook.FilePath
import Gamebook.Proofs.Text.Lossy

set_option autoImplicit false

namespace Gamebook.FilePath

structure IsName (name : FileName) : Prop where
  full : name ≠ []
  notHere : name ≠ here
  notUp : name ≠ up
  single : slash ∉ name

instance (name : FileName) : Decidable (IsName name) :=
  decidable_of_iff (name ≠ [] ∧ name ≠ here ∧ name ≠ up ∧ slash ∉ name)
    ⟨fun ⟨full, notHere, notUp, single⟩ => ⟨full, notHere, notUp, single⟩,
      fun named => ⟨named.full, named.notHere, named.notUp, named.single⟩⟩

-- The recursion is on the path: the part up to its first slash, and the parts behind that.
theorem parts_single (path : FilePath) (part : FileName) (member : part ∈ parts path) :
    slash ∉ part := by
  by_cases parted : slash ∈ path
  · obtain ⟨first, rest, whole, plain⟩ := List.eq_append_cons_of_mem parted
    have shorter : rest.length < path.length := by
      rw [whole, List.length_append, List.length_cons]
      omega
    rw [parts, whole, List.splitOn_append_cons_self_of_not_mem plain] at member
    rcases List.mem_cons.mp member with rfl | later
    · exact plain
    · exact parts_single rest part later
  · rw [parts, List.splitOn_eq_singleton parted, List.mem_singleton] at member
    exact member ▸ parted
termination_by path.length

theorem display_text (text : String) : display (ofText text) = text := by
  rw [display, ofText, Text.utf8_string, Text.lossy, Text.lossy_utf8, String.ofList_toList]

variable (directory : FilePath) (name : FileName)

theorem name_relative (single : slash ∉ name) : isAbsolute name = false := by
  cases name with
  | nil => rfl
  | cons head rest =>
    rw [List.mem_cons, not_or] at single
    simpa [isAbsolute] using Ne.symm single.1

theorem parts_behind_slash (single : slash ∉ name) (before : FilePath) :
    parts (before ++ slash :: name) = parts before ++ [name] := by
  rw [parts, parts, List.splitOn_append_cons_self, List.splitOn_eq_singleton single]

-- A slash at the end of a path adds an empty part, in whose place the name stands.
theorem parts_join (there : directory ≠ []) (single : slash ∉ name) :
    ∃ before, parts (join directory name) = before ++ [name] ∧
      (parts directory = before ∨ parts directory = before ++ [[]]) := by
  rw [join, if_neg (by simp [there, name_relative name single])]
  by_cases ends : directory.getLast? = some slash
  · obtain ⟨before, rfl⟩ := List.getLast?_eq_some_iff.mp ends
    rw [if_pos ends, List.append_assoc, List.singleton_append, parts_behind_slash name single]
    exact ⟨parts before, rfl, .inr (parts_behind_slash [] List.not_mem_nil before)⟩
  · rw [if_neg ends, parts_behind_slash name single]
    exact ⟨parts directory, rfl, .inl rfl⟩

theorem absolute_join (there : directory ≠ []) (single : slash ∉ name) :
    isAbsolute (join directory name) = isAbsolute directory := by
  obtain ⟨head, rest, rfl⟩ := List.exists_cons_of_ne_nil there
  rw [join, if_neg (by simp [name_relative name single]), isAbsolute, isAbsolute]
  split <;> rfl

theorem join_full (there : directory ≠ []) (single : slash ∉ name) : join directory name ≠ [] := by
  rw [join, if_neg (by simp [there, name_relative name single])]
  split <;> simp [there]

theorem parts_here (single : slash ∉ name) : parts (join here name) = [here, name] := by
  rw [join, if_neg (by simp [here, name_relative name single]), if_neg (by decide),
    parts_behind_slash name single]
  rfl

theorem file_name_join (there : directory ≠ []) (named : IsName name) :
    fileName (join directory name) = display name := by
  obtain ⟨before, joined, _⟩ := parts_join directory name there named.single
  have kept : names (join directory name) =
      (before.filter fun part => part ≠ [] ∧ part ≠ here) ++ [name] := by
    rw [names, joined, List.filter_append]
    simp [named.full, named.notHere]
  rw [fileName, fileName?, kept, List.getLast?_concat]
  simp [Option.filter, named.notUp]

end Gamebook.FilePath
