import Mathlib.Data.List.Nodup
import TopicReplay.Json.Overlay

/-!
# Layers of JSON values

A value is tidy if no object within it has two members of one name. Tidy values laid over
each other are tidy, and a member of them is the upper one over the lower one, where either
may be missing.

The main statements are `Tidy.overlay` and `lookup_overlayMembers`.
-/

namespace TopicReplay.Json

/-- Whether no object within a value has two members of one name. -/
inductive Tidy : Json → Prop where
  | null : Tidy .null
  | bool (b : Bool) : Tidy (.bool b)
  | int (n : Int) : Tidy (.int n)
  | real (text : String) : Tidy (.real text)
  | string (s : String) : Tidy (.string s)
  | array {items : List Json} (all : ∀ item ∈ items, Tidy item) : Tidy (.array items)
  | object {members : List (String × Json)} (names : (members.map (·.1)).Nodup)
      (all : ∀ member ∈ members, Tidy member.2) : Tidy (.object members)

/-! ## Members -/

theorem Tidy.nodup {members : List (String × Json)} (tidy : Tidy (.object members)) :
    (members.map (·.1)).Nodup := by
  cases tidy
  assumption

theorem Tidy.of_mem {members : List (String × Json)} (tidy : Tidy (.object members))
    {member : String × Json} (found : member ∈ members) : Tidy member.2 := by
  cases tidy with
  | object _ all => exact all member found

theorem Tidy.of_item {items : List Json} (tidy : Tidy (.array items)) {item : Json}
    (found : item ∈ items) : Tidy item := by
  cases tidy with
  | array all => exact all item found

theorem mem_of_lookup {members : List (String × Json)} {name : String} {json : Json}
    (found : members.lookup name = some json) : (name, json) ∈ members := by
  rcases List.lookup_eq_some_iff.mp found with ⟨before, after, rfl, -⟩
  exact List.mem_append_right before List.mem_cons_self

theorem Tidy.of_lookup {members : List (String × Json)} (tidy : Tidy (.object members))
    {name : String} {json : Json} (found : members.lookup name = some json) : Tidy json :=
  tidy.of_mem (mem_of_lookup found)

theorem lookup_cons_of_ne {held name : String} (apart : name ≠ held) (value : Json)
    (rest : List (String × Json)) : ((held, value) :: rest).lookup name = rest.lookup name := by
  rw [List.lookup_cons, beq_false_of_ne apart]

/-- No member has a name that none of them has. -/
theorem lookup_eq_none {members : List (String × Json)} {name : String}
    (fresh : name ∉ members.map (·.1)) : members.lookup name = none := by
  cases found : members.lookup name with
  | none => rfl
  | some json => exact absurd (List.mem_map.mpr ⟨_, mem_of_lookup found, rfl⟩) fresh

@[simp]
theorem lookup_setMember_self (name : String) (value : Json) (members : List (String × Json)) :
    (setMember name value members).lookup name = some value := by
  induction members with
  | nil => exact List.lookup_cons_self
  | cons first rest ih =>
      rw [setMember]
      split
      · exact List.lookup_cons_self
      · rename_i apart
        rw [lookup_cons_of_ne (Ne.symm apart), ih]

/-- Setting a member leaves all others as they are. -/
theorem lookup_setMember_of_ne {name other : String} (apart : other ≠ name) (value : Json)
    (members : List (String × Json)) :
    (setMember name value members).lookup other = members.lookup other := by
  induction members with
  | nil => exact lookup_cons_of_ne apart value []
  | cons first rest ih =>
      rcases first with ⟨held, old⟩
      rw [setMember]
      split
      · rename_i here
        rw [here, lookup_cons_of_ne apart, lookup_cons_of_ne apart]
      · by_cases found : other = held
        · rw [found, List.lookup_cons_self, List.lookup_cons_self]
        · rw [lookup_cons_of_ne found, lookup_cons_of_ne found, ih]

theorem mem_setMember {name : String} {value : Json} {members : List (String × Json)}
    {member : String × Json} (found : member ∈ setMember name value members) :
    member = (name, value) ∨ member ∈ members := by
  induction members with
  | nil => simpa [setMember] using found
  | cons first rest ih =>
      rw [setMember] at found
      split at found
      · rcases List.mem_cons.mp found with same | later
        · exact .inl same
        · exact .inr (List.mem_cons_of_mem first later)
      · rcases List.mem_cons.mp found with same | later
        · exact .inr (same ▸ List.mem_cons_self)
        · exact (ih later).imp_right (List.mem_cons_of_mem first)

/-- Setting a member makes no second one of its name. -/
theorem nodup_setMember {name : String} {value : Json} {members : List (String × Json)}
    (nodup : (members.map (·.1)).Nodup) :
    ((setMember name value members).map (·.1)).Nodup := by
  induction members with
  | nil => simp [setMember]
  | cons first rest ih =>
      rcases List.nodup_cons.mp nodup with ⟨fresh, later⟩
      rw [setMember]
      split
      case isTrue here => exact here ▸ nodup
      case isFalse apart =>
        refine List.nodup_cons.mpr ⟨fun repeated => ?_, ih later⟩
        rcases List.mem_map.mp repeated with ⟨member, found, same⟩
        rcases mem_setMember found with rfl | old
        · exact apart same.symm
        · exact fresh (List.mem_map.mpr ⟨member, old, same⟩)

/-- An object in which a member is set is tidy if the member is. -/
theorem Tidy.setMember {name : String} {value : Json} {members : List (String × Json)}
    (tidy : Tidy (.object members)) (fits : value.Tidy) :
    Tidy (.object (Json.setMember name value members)) := by
  refine .object (nodup_setMember tidy.nodup) fun member found => ?_
  rcases mem_setMember found with rfl | old
  · exact fits
  · exact tidy.of_mem old

theorem tidy_empty : Tidy (.object []) := .object .nil fun _ found => absurd found List.not_mem_nil

/-- A path leads to a tidy value if its end is one. -/
theorem Tidy.nest {value : Json} (tidy : value.Tidy) (path : List String) :
    (Json.nest path value).Tidy := by
  induction path with
  | nil => exact tidy
  | cons name path ih =>
      refine .object (List.nodup_singleton name) fun member found => ?_
      rw [List.mem_singleton.mp found]
      exact ih

/-! ## Layers -/

/-- Whether a value is an object. -/
def IsObject (json : Json) : Prop := ∃ members, json = .object members

/-- Of two values the upper one counts unless both are objects. -/
theorem overlay_eq_above {below above : Json} (plain : ¬(below.IsObject ∧ above.IsObject)) :
    below.overlay above = above := by
  cases below with
  | object members =>
      cases above with
      | object others => exact absurd ⟨⟨members, rfl⟩, ⟨others, rfl⟩⟩ plain
      | null | bool | int | real | string | array => rfl
  | null | bool | int | real | string | array => cases above <;> rfl

/-- A value over another one, where either may be missing. -/
abbrev stack (below above : Option Json) : Option Json := .merge overlay below above

/-- A member of layers is the upper one over the lower one. -/
theorem lookup_overlayMembers {above : List (String × Json)} (nodup : (above.map (·.1)).Nodup)
    (below : List (String × Json)) (name : String) :
    (overlayMembers below above).lookup name = stack (below.lookup name) (above.lookup name) := by
  induction above generalizing below with
  | nil => rw [overlayMembers]; cases below.lookup name <;> rfl
  | cons first rest ih =>
      rcases first with ⟨held, value⟩
      rcases List.nodup_cons.mp nodup with ⟨fresh, later⟩
      rw [overlayMembers, ih later]
      by_cases here : name = held
      · rw [here, lookup_setMember_self, lookup_eq_none fresh, List.lookup_cons_self]
        cases below.lookup held <;> rfl
      · rw [lookup_setMember_of_ne here, lookup_cons_of_ne here]

mutual

/-- Tidy values laid over each other are tidy. -/
theorem Tidy.overlay {below above : Json} (lower : below.Tidy) (upper : above.Tidy) :
    (below.overlay above).Tidy := by
  cases above with
  | object others =>
      cases below with
      | object members => exact lower.overlayMembers upper
      | null | bool | int | real | string | array => exact upper
  | null | bool | int | real | string | array => cases below <;> exact upper

theorem Tidy.overlayMembers {below above : List (String × Json)} (lower : Tidy (.object below))
    (upper : Tidy (.object above)) : Tidy (.object (Json.overlayMembers below above)) := by
  cases above with
  | nil => exact lower
  | cons first rest =>
      rcases first with ⟨name, value⟩
      rw [Json.overlayMembers]
      have fits : value.Tidy := upper.of_mem List.mem_cons_self
      have later : Tidy (.object rest) :=
        .object (List.nodup_cons.mp upper.nodup).2 fun member found =>
          upper.of_mem (List.mem_cons_of_mem _ found)
      apply Tidy.overlayMembers _ later
      apply lower.setMember
      cases found : below.lookup name with
      | none => exact fits
      | some old => exact (lower.of_lookup found).overlay fits

end

end TopicReplay.Json
