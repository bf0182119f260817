import Gamebook.Wire

set_option autoImplicit false

namespace Gamebook.Json

theorem map_read {α β γ : Type} (read : β → Option γ) (form : α → β) (result : α → γ)
    (items : List α) (each : ∀ item ∈ items, read (form item) = some (result item)) :
    (items.map form).mapM read = some (items.map result) := by
  induction items with
  | nil => rfl
  | cons first rest ih =>
    have later := ih fun item listed => each item (List.mem_cons_of_mem first listed)
    rw [List.map_cons, List.mapM_cons, each first List.mem_cons_self, later]
    rfl

theorem items_read {α β : Type} (read : β → Option α) (items : List β) (values : List α)
    (found : items.mapM read = some values) :
    ∀ value ∈ values, ∃ item, read item = some value := by
  induction items generalizing values with
  | nil =>
    cases found
    intro value member
    cases member
  | cons first rest ih =>
    rw [List.mapM_cons] at found
    simp only [Option.bind_eq_bind, Option.bind_eq_some_iff] at found
    obtain ⟨head, here, others, later, same⟩ := found
    cases same
    intro value member
    rcases List.mem_cons.mp member with rfl | listed
    · exact ⟨first, here⟩
    · exact ih others later value listed

section Records

variable (members : List (String × Json))

def named (members : List (String × Json)) : List (Option String × Json) :=
  members.map fun (name, value) => (some name, value)

theorem named_other (name : String) (absent : name ∉ members.map (·.1)) :
    ∀ member ∈ named members, member.1 ≠ some name := by
  intro member listed same
  obtain ⟨field, there, rfl⟩ := List.mem_map.mp listed
  exact absent (Option.some.inj same ▸ List.mem_map_of_mem there)

theorem member_named (name : String) (value : Json) (distinct : (members.map (·.1)).Nodup)
    (listed : (name, value) ∈ members) :
    (named members).filter (·.1 = some name) = [(some name, value)] := by
  induction members with
  | nil => cases listed
  | cons first rest ih =>
    obtain ⟨fresh, later⟩ := List.nodup_cons.mp distinct
    have cons : named (first :: rest) = (some first.1, first.2) :: named rest := rfl
    rcases List.mem_cons.mp listed with rfl | inRest
    · have others : (named rest).filter (·.1 = some name) = [] :=
        List.filter_eq_nil_iff.mpr fun member there =>
          mt of_decide_eq_true (named_other rest name fresh member there)
      simp [cons, others]
    · have other : first.1 ≠ name := by
        rintro rfl
        exact fresh (List.mem_map.mpr ⟨_, inRest, rfl⟩)
      simp [cons, other, ih later inRest]

theorem fields_record (required : Nat) (distinct : (members.map (·.1)).Nodup) :
    (record members).fields? (members.map (·.1)) required = some (members.map (some ·.2)) := by
  have known : (named members).all (·.1.isSome) = true := by simp [named]
  have each : ∀ member ∈ members,
      member? member.1 (named members) = some (some member.2) := by
    intro member listed
    rw [member?, member_named members member.1 member.2 distinct listed]
  rw [record, fields?, ← named, if_pos known]
  exact map_read _ _ _ members each

theorem tagged_record (depth : Nat) (kind : String)
    (distinct : ((("kind", text kind) :: members).map (·.1)).Nodup)
    (shallow : depth + (record (("kind", .text kind) :: members)).height < nestingLimit)
    (sound : (record (("kind", .text kind) :: members)).isSound = true) :
    (record (("kind", .text kind) :: members)).tagged? depth = some (kind, record members) := by
  have found : member? "kind" (named (("kind", text kind) :: members)) =
      some (some (text kind)) := by
    rw [member?, member_named _ "kind" (text kind) distinct List.mem_cons_self]
  have absent := (List.nodup_cons.mp distinct).1
  have rest : (named (("kind", text kind) :: members)).filter (·.1 ≠ some "kind") =
      named members := by
    have kept := List.filter_eq_self.mpr fun member there =>
      decide_eq_true (named_other members "kind" absent member there)
    rw [← kept]
    exact List.filter_cons_of_neg (by simp)
  have object : record (("kind", text kind) :: members) =
      .object (named (("kind", text kind) :: members)) := rfl
  rw [tagged?.eq_def, if_pos ⟨shallow, sound⟩, object]
  simp only [found, rest]
  rfl

theorem sound_record (sound : ∀ member ∈ members, member.2.isSound = true) :
    (record members).isSound = true := by
  have each : areSoundMembers (named members) = true := by
    induction members with
    | nil => rfl
    | cons first rest ih =>
      have later := ih fun member listed => sound member (List.mem_cons_of_mem first listed)
      rw [named, List.map_cons, ← named, areSoundMembers, sound first List.mem_cons_self, later]
      rfl
  exact each

theorem field_record (name : String) (value : Json) :
    (record [(name, value)]).allFields? [name] = some [some value] :=
  fields_record [(name, value)] _ (by simp)

theorem tagged_field (depth : Nat) (kind name : String) (value : Json) (other : name ≠ "kind")
    (shallow : depth + value.height + 1 < nestingLimit) (sound : value.isSound = true) :
    (record [("kind", .text kind), (name, value)]).tagged? depth =
      some (kind, record [(name, value)]) := by
  have distinct : ([("kind", text kind), (name, value)].map (·.1)).Nodup := by
    simp [other.symm]
  have height : (record [("kind", .text kind), (name, value)]).height = value.height + 1 := by
    simp [record, Json.height, heightOfMembers, text]
  refine tagged_record [(name, value)] depth kind distinct (by omega) (sound_record _ ?_)
  intro member listed
  rcases List.mem_cons.mp listed with rfl | field
  · rfl
  · rw [List.mem_singleton.mp field]
    exact sound

end Records

-- Rounding up goes no further than one unit, and the unit is no larger than the number's bound.
theorem rounded_bound (size : Nat) (small : size < Text.Decimal.wordBound) :
    rounded size ≤ 2 * Text.Decimal.wordBound := by
  have places : size.log2 + 1 - precision ≤ 64 := by
    by_cases zero : size = 0
    · rw [zero]
      decide
    · have log := (Nat.log2_lt zero).mpr small
      omega
  have unit : Nat.pow 2 (size.log2 + 1 - precision) ≤ Text.Decimal.wordBound :=
    Nat.pow_le_pow_right (by decide) places
  have below := Nat.div_mul_le_self size (Nat.pow 2 (size.log2 + 1 - precision))
  rw [rounded]
  split
  · rw [Nat.add_mul, Nat.one_mul]
    omega
  · omega

theorem word_finite (size : Nat) (small : size < Text.Decimal.wordBound) :
    isFinite size 0 = true := by
  have kept : leading size = (size, 0) := by rw [leading, if_pos small]
  have bound := rounded_bound size small
  have one : rounded (Nat.pow 10 0) = 1 := by decide
  have room : 2 * Text.Decimal.wordBound < finiteBound := by decide +kernel
  have opened : isFinite size 0 =
      (size = 0 ||
        (0 ≤ largestPower && rounded size * rounded (Nat.pow 10 0) < finiteBound)) := by
    simp only [isFinite, kept]
    rfl
  rw [opened, one, Nat.mul_one, decide_eq_true (Nat.lt_of_le_of_lt bound room)]
  simp

theorem natural_sound (value : Nat) (small : value < Text.Decimal.wordBound) :
    (natural value).isSound = true := word_finite value small

theorem within_read (lowest highest : Int) (json : Json) (value : Int)
    (read : json.integerWithin? lowest highest = some value) :
    lowest ≤ value ∧ value ≤ highest := by
  rw [integerWithin?.eq_def] at read
  split at read
  · split at read
    · rename_i within
      cases read
      exact within
    · cases read
  · cases read

theorem text_read (value : String) : (text value).text? = some value := rfl

theorem word_read (value : Nat) (small : value < Text.Decimal.wordBound) :
    (natural value).word? = some value := by
  have within : (0 : Int) ≤ value ∧ (value : Int) ≤ Text.Decimal.wordBound - 1 := by omega
  simp only [word?, natural, integerWithin?, if_pos within]
  rfl

theorem word_small (json : Json) (value : Nat) (read : json.word? = some value) :
    value < Text.Decimal.wordBound := by
  obtain ⟨whole, within, rfl⟩ := Option.map_eq_some_iff.mp read
  have bounds := within_read _ _ json whole within
  omega

theorem int32_read (value : Int32) : (integer value.toInt).int32? = some value := by
  have within := And.intro value.minValue_le_toInt value.toInt_le
  simp only [int32?, integer, integerWithin?, if_pos within, Option.map_some, Int32.ofInt_toInt]

def InInt64 (value : Int) : Prop := Int64.minValue.toInt ≤ value ∧ value ≤ Int64.maxValue.toInt

theorem int64_read (value : Int) (within : InInt64 value) :
    (integer value).int64? = some value := if_pos within

theorem integer_sound (value : Int) (within : InInt64 value) :
    (integer value).isSound = true := by
  have lowest : Int64.minValue.toInt = -2 ^ 63 := by decide
  have highest : Int64.maxValue.toInt = 2 ^ 63 - 1 := by decide
  have word : Text.Decimal.wordBound = 2 ^ 64 := rfl
  have small : value.natAbs < Text.Decimal.wordBound := by
    obtain ⟨above, below⟩ := within
    omega
  exact word_finite value.natAbs small

theorem int64_within (json : Json) (value : Int) (read : json.int64? = some value) :
    InInt64 value := within_read _ _ json value read

end Gamebook.Json
