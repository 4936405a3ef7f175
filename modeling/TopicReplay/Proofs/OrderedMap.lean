import TopicReplay.OrderedMap

/-!
# Entries of ordered maps

No key has two entries, so that the entries of a map make the map again, and no list
makes a map of other entries than its own. What a filter keeps is found as before.
-/

namespace TopicReplay.OrderedMap

variable {κ ν : Type} [Ord κ] [Std.TransOrd κ]

/-- No key has two entries. -/
theorem nodup_keys (map : OrderedMap κ ν) : map.keys.Nodup := by
  apply List.Pairwise.map _ _ map.ascending
  intro first second less same
  rw [same, @Std.ReflCmp.compare_self κ compare] at less
  cases less

/-- A map holds no entry that it was not made of. -/
theorem mem_of_mem_ofList {entries : List (κ × ν)} {entry : κ × ν}
    (member : entry ∈ (ofList entries).toList) : entry ∈ entries := by
  suffices general : ∀ map : OrderedMap κ ν,
      entry ∈ (entries.foldl (fun map entry => map.insert entry.1 entry.2) map).toList →
        entry ∈ map.toList ∨ entry ∈ entries by
    exact (general empty member).resolve_left List.not_mem_nil
  clear member
  induction entries with
  | nil => exact fun map member => .inl member
  | cons first rest ih =>
      intro map member
      rcases ih _ member with placed | later
      · rcases mem_place placed with rfl | old
        · exact .inr List.mem_cons_self
        · exact .inl old
      · exact .inr (List.mem_cons_of_mem first later)

omit [Std.TransOrd κ] in
/-- A new key is put between the others. -/
theorem perm_place {key : κ} {value : ν} {entries : List (κ × ν)}
    (absent : ∀ entry ∈ entries, compare key entry.1 ≠ .eq) :
    (place key value entries).Perm ((key, value) :: entries) := by
  induction entries with
  | nil => exact .refl _
  | cons first rest ih =>
      rw [place]
      split
      · exact .refl _
      · rename_i same
        exact absurd same (absent first List.mem_cons_self)
      · have later := ih fun entry member => absent entry (List.mem_cons_of_mem _ member)
        exact (later.cons first).trans (.swap _ _ _)

/-- Entries of different keys are all kept. -/
theorem perm_toList_ofList [Std.LawfulEqOrd κ] {entries : List (κ × ν)}
    (nodup : (entries.map (·.1)).Nodup) : (ofList entries).toList.Perm entries := by
  suffices general : ∀ (map : OrderedMap κ ν), (∀ first ∈ map.toList, ∀ second ∈ entries,
      first.1 ≠ second.1) →
      (entries.foldl (fun map entry => map.insert entry.1 entry.2) map).toList.Perm
        (map.toList ++ entries) by
    exact general empty fun first member => absurd member List.not_mem_nil
  induction entries with
  | nil => exact fun map _ => by simp
  | cons head rest ih =>
      intro map apart
      rcases List.nodup_cons.mp nodup with ⟨fresh, restNodup⟩
      have inserted : (map.insert head.1 head.2).toList.Perm (head :: map.toList) :=
        perm_place fun entry member same =>
          apart entry member head List.mem_cons_self (Std.LawfulEqOrd.eq_of_compare same).symm
      rw [List.foldl_cons]
      apply (ih restNodup (map.insert head.1 head.2) _).trans
      · exact (inserted.append_right rest).trans List.perm_middle.symm
      · intro first member second secondMember same
        rcases List.mem_cons.mp (inserted.mem_iff.mp member) with rfl | old
        · exact fresh (List.mem_map.mpr ⟨second, secondMember, same.symm⟩)
        · exact apart first old second (List.mem_cons_of_mem _ secondMember) same

/-- The entries of a map make this map. -/
@[simp]
theorem ofList_toList [Std.LawfulEqOrd κ] (map : OrderedMap κ ν) : ofList map.toList = map := by
  have perm : (ofList map.toList).toList.Perm map.toList := perm_toList_ofList map.nodup_keys
  apply ext
  intro key
  apply Option.ext
  intro value
  rw [← mem_toList_iff, ← mem_toList_iff, perm.mem_iff]

omit [Std.TransOrd κ] in
theorem eq_empty_of_isEmpty {map : OrderedMap κ ν} (bare : map.isEmpty = true) : map = empty := by
  rcases map with ⟨entries, ascending⟩
  cases entries with
  | nil => rfl
  | cons => cases bare

omit [Std.TransOrd κ] in
/-- The keys of the entries that pass a test are the keys that pass it and have a value. -/
theorem mem_keys_filter_iff [Std.LawfulEqOrd κ] {map : OrderedMap κ ν} {test : κ → Bool}
    {key : κ} :
    key ∈ (map.toList.filter fun entry => test entry.1).map (·.1) ↔
      test key = true ∧ (map.get? key).isSome := by
  rw [List.mem_map]
  constructor
  · rintro ⟨entry, member, rfl⟩
    rcases List.mem_filter.mp member with ⟨stored, passes⟩
    rw [mem_toList_iff.mp stored]
    exact ⟨passes, rfl⟩
  · rintro ⟨passes, held⟩
    rcases Option.isSome_iff_exists.mp held with ⟨value, found⟩
    exact ⟨(key, value), List.mem_filter.mpr ⟨mem_toList_iff.mpr found, passes⟩, rfl⟩

omit [Std.TransOrd κ] in
/-- A lookup after a filter finds the value that was there if it passes. -/
theorem get?_filter [Std.LawfulEqOrd κ] (map : OrderedMap κ ν) (test : κ → ν → Bool) (key : κ) :
    (map.filter test).get? key = (map.get? key).filter (test key) := by
  apply Option.ext
  intro value
  rw [← mem_toList_iff, Option.filter_eq_some_iff, ← mem_toList_iff]
  exact List.mem_filter

omit [Std.TransOrd κ] in
/-- A lookup after every value was changed finds the changed value. -/
theorem get?_mapValues [Std.LawfulEqOrd κ] {μ : Type} (f : κ → ν → μ) (map : OrderedMap κ ν)
    (key : κ) : (map.mapValues f).get? key = (map.get? key).map (f key) := by
  apply Option.ext
  intro value
  rw [← mem_toList_iff, Option.map_eq_some_iff]
  simp only [mapValues, toList, List.mem_map, Prod.exists, Prod.mk.injEq, ← mem_toList_iff]
  constructor
  · rintro ⟨_, old, member, rfl, rfl⟩
    exact ⟨old, member, rfl⟩
  · rintro ⟨old, member, rfl⟩
    exact ⟨key, old, member, rfl, rfl⟩

omit [Std.TransOrd κ] in
/-- An erasure takes away the one entry of its key, if there is one. -/
theorem size_erase_add [Std.LawfulEqOrd κ] (map : OrderedMap κ ν) (key : κ) :
    (map.erase key).size + (map.contains key).toNat = map.size := by
  rcases map with ⟨entries, ascending⟩
  simp only [size, erase, filter, contains, get?]
  induction entries with
  | nil => rfl
  | cons head rest ih =>
      rcases List.pairwise_cons.mp ascending with ⟨above, later⟩
      by_cases same : compare key head.1 = .eq
      · have key_eq : key = head.1 := Std.LawfulEqOrd.eq_of_compare same
        have others : (rest.filter fun entry => compare key entry.1 != .eq) = rest := by
          apply List.filter_eq_self.mpr
          intro entry member
          rw [key_eq, above entry member]
          rfl
        have dropped : ¬(compare key head.1 != .eq) = true := by simp [same]
        rw [List.filter_cons, if_neg dropped, others, find, if_pos same]
        rfl
      · have kept : (compare key head.1 != .eq) = true := by simpa using same
        rw [List.filter_cons, if_pos kept, find, if_neg same, List.length_cons, List.length_cons,
          Nat.add_right_comm, ih later]

end TopicReplay.OrderedMap
