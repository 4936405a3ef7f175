/-!
# Ordered maps

A finite map is the list of its entries in strictly ascending key order, and the
order is part of the type. Two maps are therefore equal exactly when every key
has the same value in both, whatever the order in which the entries arrived, and
listing a map needs no sorting step.

The main statements are `get?_insert`, `get?_erase` and `ext`.
-/

namespace TopicReplay

universe u v w

/-- A finite map whose entries stand in strictly ascending key order. -/
structure OrderedMap (κ : Type u) (ν : Type v) [Ord κ] where
  entries : List (κ × ν)
  ascending : entries.Pairwise fun first second => compare first.1 second.1 = .lt

namespace OrderedMap

variable {κ : Type u} {ν : Type v} {μ : Type w} [Ord κ]

instance [DecidableEq κ] [DecidableEq ν] : DecidableEq (OrderedMap κ ν) := fun first second =>
  if h : first.entries = second.entries then
    isTrue (by cases first; cases second; cases h; rfl)
  else
    isFalse fun eq => h (congrArg entries eq)

instance [Repr κ] [Repr ν] : Repr (OrderedMap κ ν) := ⟨fun map n => reprPrec map.entries n⟩

/-- The map without entries. -/
def empty : OrderedMap κ ν := ⟨[], .nil⟩

instance : EmptyCollection (OrderedMap κ ν) := ⟨empty⟩

instance : Inhabited (OrderedMap κ ν) := ⟨empty⟩

/-- The value that an association list holds for `key`, read left to right. -/
def find (key : κ) : List (κ × ν) → Option ν
  | [] => none
  | entry :: rest => if compare key entry.1 = .eq then some entry.2 else find key rest

/-- Places an entry into an ascending association list, replacing an equal key. -/
def place (key : κ) (value : ν) : List (κ × ν) → List (κ × ν)
  | [] => [(key, value)]
  | entry :: rest =>
      match compare key entry.1 with
      | .lt => (key, value) :: entry :: rest
      | .eq => (key, value) :: rest
      | .gt => entry :: place key value rest

/-- The value stored under `key`. -/
def get? (map : OrderedMap κ ν) (key : κ) : Option ν := find key map.entries

/-- Whether `key` has a value. -/
def contains (map : OrderedMap κ ν) (key : κ) : Bool := (map.get? key).isSome

/-- The value stored under `key`, or `fallback`. -/
def getD (map : OrderedMap κ ν) (key : κ) (fallback : ν) : ν := (map.get? key).getD fallback

/-- The entries, ascending by key. -/
def toList (map : OrderedMap κ ν) : List (κ × ν) := map.entries

/-- The keys, ascending. -/
def keys (map : OrderedMap κ ν) : List κ := map.entries.map (·.1)

/-- The values, in the order of their keys. -/
def values (map : OrderedMap κ ν) : List ν := map.entries.map (·.2)

/-- How many keys have a value. -/
def size (map : OrderedMap κ ν) : Nat := map.entries.length

/-- Whether no key has a value. -/
def isEmpty (map : OrderedMap κ ν) : Bool := map.entries.isEmpty

/-- Keeps the entries that pass the test. -/
def filter (test : κ → ν → Bool) (map : OrderedMap κ ν) : OrderedMap κ ν where
  entries := map.entries.filter fun entry => test entry.1 entry.2
  ascending := map.ascending.filter _

/-- Takes the value of `key` away. -/
def erase (map : OrderedMap κ ν) (key : κ) : OrderedMap κ ν :=
  map.filter fun other _ => compare key other != .eq

/-- Changes every value, each at its key. -/
def mapValues (f : κ → ν → μ) (map : OrderedMap κ ν) : OrderedMap κ μ where
  entries := map.entries.map fun entry => (entry.1, f entry.1 entry.2)
  ascending := by
    rw [List.pairwise_map]
    exact map.ascending

theorem mem_place {key : κ} {value : ν} {entries : List (κ × ν)} {entry : κ × ν}
    (h : entry ∈ place key value entries) : entry = (key, value) ∨ entry ∈ entries := by
  induction entries with
  | nil => simpa [place] using h
  | cons head rest ih =>
      simp only [place] at h
      split at h
      · simpa using h
      · rcases List.mem_cons.mp h with h | h
        · exact .inl h
        · exact .inr (List.mem_cons_of_mem head h)
      · rcases List.mem_cons.mp h with h | h
        · exact .inr (by simp [h])
        · rcases ih h with h | h
          · exact .inl h
          · exact .inr (List.mem_cons_of_mem head h)

theorem find_eq_none_of_above {key : κ} {entries : List (κ × ν)}
    (above : ∀ entry ∈ entries, compare key entry.1 = .lt) : find key entries = none := by
  induction entries with
  | nil => rfl
  | cons head rest ih =>
      have less := above head List.mem_cons_self
      rw [find, if_neg (by simp [less])]
      exact ih fun entry member => above entry (List.mem_cons_of_mem head member)

@[simp]
theorem get?_empty (key : κ) : (empty : OrderedMap κ ν).get? key = none := rfl

section Order

variable [Std.TransOrd κ]

theorem place_ascending (key : κ) (value : ν) {entries : List (κ × ν)}
    (ascending : entries.Pairwise fun first second => compare first.1 second.1 = .lt) :
    (place key value entries).Pairwise fun first second => compare first.1 second.1 = .lt := by
  induction entries with
  | nil => simp [place]
  | cons head rest ih =>
      have above := List.pairwise_cons.mp ascending
      simp only [place]
      split
      · rename_i less
        refine List.pairwise_cons.mpr ⟨?_, ascending⟩
        intro entry member
        rcases List.mem_cons.mp member with rfl | member
        · exact less
        · exact Std.TransCmp.lt_trans less (above.1 entry member)
      · rename_i same
        refine List.pairwise_cons.mpr ⟨?_, above.2⟩
        intro entry member
        exact Std.TransCmp.lt_of_eq_of_lt same (above.1 entry member)
      · rename_i greater
        refine List.pairwise_cons.mpr ⟨?_, ih above.2⟩
        intro entry member
        rcases mem_place member with rfl | member
        · exact Std.OrientedCmp.lt_of_gt greater
        · exact above.1 entry member

/-- Stores `value` under `key`, replacing the value it had. -/
def insert (map : OrderedMap κ ν) (key : κ) (value : ν) : OrderedMap κ ν :=
  ⟨place key value map.entries, place_ascending key value map.ascending⟩

/-- Stores the value that `change` makes of the one under `key`. -/
def update (map : OrderedMap κ ν) (key : κ) (change : Option ν → ν) : OrderedMap κ ν :=
  map.insert key (change (map.get? key))

/-- The map of a list of entries, a later entry replacing an earlier one of its key. -/
def ofList (entries : List (κ × ν)) : OrderedMap κ ν :=
  entries.foldl (fun map entry => map.insert entry.1 entry.2) empty

end Order

section Lookup

variable [Std.TransOrd κ] [Std.LawfulEqOrd κ]

theorem find_place (key other : κ) (value : ν) (entries : List (κ × ν)) :
    find other (place key value entries) =
      if compare other key = .eq then some value else find other entries := by
  induction entries with
  | nil => simp [place, find]
  | cons head rest ih =>
      simp only [place]
      split
      · rfl
      · rename_i same
        have head_eq : key = head.1 := Std.LawfulEqOrd.eq_of_compare same
        simp only [find, head_eq]
        split <;> rfl
      · rename_i greater
        simp only [find, ih]
        by_cases at_head : compare other head.1 = .eq
        · have other_eq : other = head.1 := Std.LawfulEqOrd.eq_of_compare at_head
          subst other_eq
          have apart : compare head.1 key ≠ .eq := by
            rw [@Std.OrientedCmp.eq_swap κ compare, greater]
            decide
          simp [apart]
        · simp [at_head]

/-- A lookup after an insertion sees the new value at its key and the old map elsewhere. -/
theorem get?_insert (map : OrderedMap κ ν) (key other : κ) (value : ν) :
    (map.insert key value).get? other =
      if compare other key = .eq then some value else map.get? other :=
  find_place key other value map.entries

@[simp]
theorem get?_insert_self (map : OrderedMap κ ν) (key : κ) (value : ν) :
    (map.insert key value).get? key = some value := by
  rw [get?_insert, if_pos Std.ReflCmp.compare_self]

theorem get?_insert_of_ne (map : OrderedMap κ ν) {key other : κ} (value : ν) (apart : other ≠ key) :
    (map.insert key value).get? other = map.get? other := by
  rw [get?_insert, if_neg]
  exact fun same => apart (Std.LawfulEqOrd.eq_of_compare same)

@[simp]
theorem get?_update_self (map : OrderedMap κ ν) (key : κ) (change : Option ν → ν) :
    (map.update key change).get? key = some (change (map.get? key)) :=
  map.get?_insert_self key _

theorem get?_update_of_ne (map : OrderedMap κ ν) {key other : κ} (change : Option ν → ν)
    (apart : other ≠ key) : (map.update key change).get? other = map.get? other :=
  map.get?_insert_of_ne _ apart

theorem find_filter_ne (key other : κ) (entries : List (κ × ν)) :
    find other (entries.filter fun entry => compare key entry.1 != .eq) =
      if compare other key = .eq then none else find other entries := by
  induction entries with
  | nil => simp [find]
  | cons head rest ih =>
      by_cases same : compare key head.1 = .eq
      · have head_eq : key = head.1 := Std.LawfulEqOrd.eq_of_compare same
        have dropped : ¬ (compare key head.1 != .eq) = true := by simp [same]
        rw [List.filter_cons, if_neg dropped, ih, find, ← head_eq]
        split <;> rfl
      · have kept : (compare key head.1 != .eq) = true := by simpa using same
        rw [List.filter_cons, if_pos kept, find, find, ih]
        by_cases at_head : compare other head.1 = .eq
        · have other_eq : other = head.1 := Std.LawfulEqOrd.eq_of_compare at_head
          subst other_eq
          have apart : compare head.1 key ≠ .eq := by
            rw [@Std.OrientedCmp.eq_swap κ compare]
            revert same
            cases compare key head.1 <;> simp
          simp [apart]
        · simp [at_head]

/-- A lookup after an erasure finds nothing at the key and the old map elsewhere. -/
theorem get?_erase (map : OrderedMap κ ν) (key other : κ) :
    (map.erase key).get? other = if compare other key = .eq then none else map.get? other :=
  find_filter_ne key other map.entries

omit [Std.TransOrd κ] in
/-- The entry list of a map holds exactly the pairs that lookups find. -/
theorem mem_toList_iff {map : OrderedMap κ ν} {key : κ} {value : ν} :
    (key, value) ∈ map.toList ↔ map.get? key = some value := by
  rcases map with ⟨entries, ascending⟩
  simp only [toList, get?]
  induction entries with
  | nil => simp [find]
  | cons head rest ih =>
      have above := List.pairwise_cons.mp ascending
      rw [List.mem_cons, ih above.2, find]
      by_cases same : compare key head.1 = .eq
      · have key_eq : key = head.1 := Std.LawfulEqOrd.eq_of_compare same
        have absent : find key rest = none := by
          rw [key_eq]
          exact find_eq_none_of_above above.1
        rw [if_pos same, absent]
        rcases head with ⟨headKey, headValue⟩
        simp only at key_eq
        simp [key_eq, eq_comm]
      · rw [if_neg same]
        constructor
        · rintro (rfl | found)
          · exact absurd Std.ReflCmp.compare_self same
          · exact found
        · exact .inr

/-- Maps that answer every lookup alike are equal. -/
theorem ext {first second : OrderedMap κ ν} (h : ∀ key, first.get? key = second.get? key) :
    first = second := by
  rcases first with ⟨entries, ascending⟩
  rcases second with ⟨others, othersAscending⟩
  suffices entries = others by subst this; rfl
  simp only [get?] at h
  induction entries generalizing others with
  | nil =>
      cases others with
      | nil => rfl
      | cons head rest => simpa [find, Std.ReflCmp.compare_self] using h head.1
  | cons head rest ih =>
      cases others with
      | nil => simpa [find, Std.ReflCmp.compare_self] using h head.1
      | cons other others =>
          have above := List.pairwise_cons.mp ascending
          have othersAbove := List.pairwise_cons.mp othersAscending
          have keys_eq : compare head.1 other.1 = .eq := by
            cases order : compare head.1 other.1 with
            | eq => rfl
            | lt =>
                have found := h head.1
                have missing : find head.1 others = none :=
                  find_eq_none_of_above fun entry member =>
                    Std.TransCmp.lt_trans order (othersAbove.1 entry member)
                simp [find, Std.ReflCmp.compare_self, order, missing] at found
            | gt =>
                have found := h other.1
                have less : compare other.1 head.1 = .lt := Std.OrientedCmp.lt_of_gt order
                have missing : find other.1 rest = none :=
                  find_eq_none_of_above fun entry member =>
                    Std.TransCmp.lt_trans less (above.1 entry member)
                simp [find, Std.ReflCmp.compare_self, less, missing] at found
          have key_eq : head.1 = other.1 := Std.LawfulEqOrd.eq_of_compare keys_eq
          have value_eq : head.2 = other.2 := by
            have found := h head.1
            simpa [find, keys_eq, Std.ReflCmp.compare_self] using found
          have rest_eq : rest = others := by
            apply ih above.2 others othersAbove.2
            intro key
            by_cases same : compare key head.1 = .eq
            · have key_head : key = head.1 := Std.LawfulEqOrd.eq_of_compare same
              rw [key_head, find_eq_none_of_above above.1, key_eq,
                find_eq_none_of_above othersAbove.1]
            · have found := h key
              have apart : compare key other.1 ≠ .eq := key_eq ▸ same
              simpa [find, same, apart] using found
          rw [rest_eq, Prod.ext key_eq value_eq]

end Lookup

end OrderedMap

end TopicReplay
