/-!
# Computations that succeed

A computation in steps succeeds exactly if each of its steps does, and fails with the fault
of one of them.
-/

namespace TopicReplay

variable {ε α β : Type}

theorem bind_eq_ok_iff {first : Except ε α} {next : α → Except ε β} {result : β} :
    first >>= next = .ok result ↔ ∃ value, first = .ok value ∧ next value = .ok result := by
  cases first with
  | ok value => simp [bind, Except.bind]
  | error fault => simp [bind, Except.bind]

theorem map_eq_ok_iff {f : α → β} {first : Except ε α} {result : β} :
    first.map f = .ok result ↔ ∃ value, first = .ok value ∧ f value = result := by
  cases first with
  | ok value => simp [Except.map]
  | error fault => simp [Except.map]

theorem map_eq_error_iff {f : α → β} {first : Except ε α} {fault : ε} :
    first.map f = .error fault ↔ first = .error fault := by
  cases first with
  | ok value => simp [Except.map]
  | error other => simp [Except.map]

/-- A computation for each of a list succeeds if each does. -/
theorem mapM_eq_ok_iff {f : α → Except ε β} {items : List α} {values : List β} :
    items.mapM f = .ok values ↔ items.map f = values.map .ok := by
  induction items generalizing values with
  | nil => cases values <;> simp [pure, Except.pure]
  | cons item rest ih =>
      rw [List.mapM_cons, bind_eq_ok_iff, List.map_cons]
      constructor
      · rintro ⟨value, first, later⟩
        rcases bind_eq_ok_iff.mp later with ⟨others, found, ⟨⟩⟩
        rw [first, ih.mp found, List.map_cons]
      · intro same
        cases values with
        | nil => cases same
        | cons value others =>
            rcases List.cons.inj same with ⟨first, later⟩
            exact ⟨value, first, bind_eq_ok_iff.mpr ⟨others, ih.mpr later, rfl⟩⟩

/-- A computation for each of a list fails with the fault of one of them. -/
theorem exists_mem_of_mapM_eq_error {f : α → Except ε β} {items : List α} {fault : ε}
    (fails : items.mapM f = .error fault) : ∃ item ∈ items, f item = .error fault := by
  induction items with
  | nil => cases fails
  | cons item rest ih =>
      rw [List.mapM_cons] at fails
      cases first : f item with
      | error other =>
          rw [first] at fails
          cases fails
          exact ⟨item, List.mem_cons_self, first⟩
      | ok value =>
          rw [first] at fails
          have later : rest.mapM f = .error fault := map_eq_error_iff.mp fails
          rcases ih later with ⟨found, member, failsThere⟩
          exact ⟨found, List.mem_cons_of_mem _ member, failsThere⟩

theorem mapM_map {γ : Type} (f : α → Except ε β) (g : β → γ) (items : List α) :
    (items.mapM fun item => (f item).map g) = (items.mapM f).map (List.map g) := by
  induction items with
  | nil => rfl
  | cons item rest ih =>
      rw [List.mapM_cons, List.mapM_cons, ih]
      cases f item with
      | error fault => rfl
      | ok value => cases rest.mapM f <;> rfl

/-- Lists may be gone through one after the other. -/
theorem mapM_flatMap {γ : Type} (f : β → Except ε γ) (g : α → List β) (items : List α) :
    (items.flatMap g).mapM f =
      (items.mapM fun item => (g item).mapM f).map List.flatten := by
  induction items with
  | nil => rfl
  | cons item rest ih =>
      rw [List.flatMap_cons, List.mapM_append, List.mapM_cons, ih]
      cases (g item).mapM f with
      | error fault => rfl
      | ok values => cases rest.mapM fun item => (g item).mapM f <;> rfl

theorem toOption_eq_some_iff {computed : Except ε α} {result : α} :
    computed.toOption = some result ↔ computed = .ok result := by
  cases computed with
  | ok value => simp [Except.toOption]
  | error fault => simp [Except.toOption]

end TopicReplay
