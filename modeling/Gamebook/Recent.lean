set_option autoImplicit false

namespace Gamebook

variable {α : Type}

def keepRecent (limit : Nat) (entries : List α) : List α :=
  entries.drop (entries.length - limit)

theorem keep_recent_length (limit : Nat) (entries : List α) :
    (keepRecent limit entries).length = min limit entries.length := by
  rw [keepRecent, List.length_drop]
  omega

theorem keep_recent_suffix (limit : Nat) (entries : List α) : keepRecent limit entries <:+ entries :=
  List.drop_suffix _ _

theorem keep_recent_append (limit : Nat) (older newer : List α) :
    keepRecent limit (keepRecent limit older ++ newer) = keepRecent limit (older ++ newer) := by
  have bound : older.length - limit ≤ (older ++ newer).length - limit := by
    rw [List.length_append]
    omega
  have joined : keepRecent limit older ++ newer = (older ++ newer).drop (older.length - limit) := by
    rw [keepRecent, List.drop_append_of_le_length (Nat.sub_le _ _)]
  rw [joined, keepRecent, keepRecent, List.drop_drop, List.length_drop]
  congr 1
  omega

theorem keep_recent_last (limit : Nat) (entries : List α) (entry : α) (room : 0 < limit) :
    (keepRecent limit (entries ++ [entry])).getLast? = some entry := by
  have bound : (entries ++ [entry]).length - limit ≤ entries.length := by
    rw [List.length_append, List.length_singleton]
    omega
  rw [keepRecent, List.drop_append_of_le_length bound, List.getLast?_concat]

end Gamebook
