import TopicReplay.Proofs.Store.View

/-!
# What requests leave behind

The view of a list of requests says what a store holds in terms of the requests alone:
for a partition the offset of the last commit that no deletion of its topic follows, and
for a topic the instant of the last commit to it. The answer that the view gives to a
request can be told from the requests before it.

The main statements are `View.get?_of_iff`, `View.updatedAt_of_iff` and `meets_of_gives`.
-/

namespace TopicReplay.Store

namespace Request

/-- A request stores an offset of a partition at an instant. -/
def Writes (key : TopicKey) (partition offset : Int) (stamp : Instant) : Request → Prop
  | .commit time other number value _ =>
      other = key ∧ number = partition ∧ value = offset ∧ time = stamp
  | _ => False

/-- A request changes what is stored for a partition. -/
def Replaces (key : TopicKey) (partition : Int) : Request → Prop
  | .commit _ other number _ _ => other = key ∧ number = partition
  | .delete environment topic => MemoryStore.isCovered environment topic key = true
  | _ => False

/-- A request changes the record of a topic. -/
def Touches (key : TopicKey) : Request → Prop
  | .commit _ other _ _ _ => other = key
  | .delete environment topic => MemoryStore.isCovered environment topic key = true
  | _ => False

variable {key : TopicKey} {partition offset : Int} {stamp : Instant} {request : Request}

theorem touches_of_replaces (replaces : request.Replaces key partition) :
    request.Touches key := by
  cases request with
  | commit => exact replaces.1
  | delete => exact replaces
  | read | list | reopen => exact replaces

theorem touches_of_writes (writes : request.Writes key partition offset stamp) :
    request.Touches key := by
  cases request with
  | commit => exact writes.1
  | delete | read | list | reopen => exact writes.elim

end Request

/-- A request of one kind was made, and none of another kind since. -/
def Lasts (made undoes : Request → Prop) (history : List Request) : Prop :=
  ∃ before request later, history = before ++ request :: later ∧ made request ∧
    ∀ other ∈ later, ¬undoes other

/-- The last commit for a partition stored this offset, and no deletion of its topic followed. -/
def Committed (history : List Request) (key : TopicKey) (partition offset : Int) : Prop :=
  ∃ stamp,
    Lasts (Request.Writes key partition offset stamp) (Request.Replaces key partition) history

/-- The last commit to a topic was at this instant, and no deletion of it followed. -/
def Stamped (history : List Request) (key : TopicKey) (stamp : Instant) : Prop :=
  ∃ partition offset,
    Lasts (Request.Writes key partition offset stamp) (Request.Touches key) history

section Lasts

variable {made undoes : Request → Prop} {history : List Request} {request : Request}

theorem not_lasts_nil : ¬Lasts made undoes [] := by
  rintro ⟨before, request, later, split, -⟩
  cases before <;> cases split

/-- What lasts was made last or has not been undone last. -/
theorem lasts_append_singleton :
    Lasts made undoes (history ++ [request]) ↔
      made request ∨ ¬undoes request ∧ Lasts made undoes history := by
  constructor
  · rintro ⟨before, first, later, split, firstMade, kept⟩
    rcases List.eq_nil_or_concat later with rfl | ⟨rest, last, rfl⟩
    · rcases List.append_inj' split rfl with ⟨-, same⟩
      cases same
      exact .inl firstMade
    · have longer : history ++ [request] = (before ++ first :: rest) ++ [last] := by
        rw [split, List.concat_eq_append, List.append_assoc, List.cons_append]
      rcases List.append_inj' longer rfl with ⟨rfl, same⟩
      cases same
      refine .inr ⟨kept _ (by simp), before, first, rest, rfl, firstMade, ?_⟩
      intro other member
      exact kept other (by simp [member])
  · rintro (now | ⟨kept, before, first, later, rfl, firstMade, others⟩)
    · exact ⟨history, request, [], rfl, now, fun other member => absurd member List.not_mem_nil⟩
    · refine ⟨before, first, later ++ [request], by simp, firstMade, ?_⟩
      intro other member
      rcases List.mem_append.mp member with old | new
      · exact others other old
      · rw [List.mem_singleton.mp new]
        exact kept

end Lasts

theorem committed_append_singleton {history : List Request} {request : Request} {key : TopicKey}
    {partition offset : Int} :
    Committed (history ++ [request]) key partition offset ↔
      (∃ stamp, request.Writes key partition offset stamp) ∨
        ¬request.Replaces key partition ∧ Committed history key partition offset := by
  simp only [Committed, lasts_append_singleton, exists_or, exists_and_left]

theorem stamped_append_singleton {history : List Request} {request : Request} {key : TopicKey}
    {stamp : Instant} :
    Stamped (history ++ [request]) key stamp ↔
      (∃ partition offset, request.Writes key partition offset stamp) ∨
        ¬request.Touches key ∧ Stamped history key stamp := by
  simp only [Stamped, lasts_append_singleton, exists_or, exists_and_left]

namespace View

variable {view : View} {request : Request} {key : TopicKey}

/-- A request that does not change the record of a topic leaves it alone. -/
theorem next_of_not_touches (untouched : ¬request.Touches key) :
    view.next request key = view key := by
  cases request with
  | commit _ other => exact Function.update_of_ne (fun same => untouched same.symm) _ _
  | delete => exact if_neg untouched
  | read | list | reopen => rfl

theorem read_next_of_not_touches (untouched : ¬request.Touches key) :
    (view.next request).read key = view.read key := by
  rw [read, next_of_not_touches untouched, read]

theorem read_next_commit (view : View) (time : Instant) (key : TopicKey) (number value : Int)
    (storable : Storable number value) :
    (view.next (.commit time key number value storable)).read key =
      (view.read key).set time number value := by
  rw [read, next, Function.update_self]
  rfl

theorem read_next_delete {environment : String} {topic : Option String}
    (covered : MemoryStore.isCovered environment topic key = true) :
    (view.next (.delete environment topic)).read key = {} := by
  rw [read, next_delete, if_pos covered]
  rfl

/-- What is stored for a partition after a request. -/
theorem get?_next {partition offset : Int} :
    ((view.next request).read key).get? partition = some offset ↔
      (∃ stamp, request.Writes key partition offset stamp) ∨
        ¬request.Replaces key partition ∧ (view.read key).get? partition = some offset := by
  by_cases touched : request.Touches key
  · cases request with
    | commit time other number value =>
        cases touched
        rw [read_next_commit, TopicRecord.get?, TopicRecord.set, OrderedMap.get?_insert]
        by_cases same : number = partition
        · subst same
          rw [if_pos Std.ReflCmp.compare_self]
          simp [Request.Writes, Request.Replaces]
        · have apart : compare partition number ≠ .eq := fun equal =>
            same (Std.LawfulEqOrd.eq_of_compare equal).symm
          rw [if_neg apart]
          simp [Request.Writes, Request.Replaces, same, TopicRecord.get?]
    | delete =>
        have replaced : Request.Replaces key partition (.delete _ _) := touched
        rw [read_next_delete touched]
        simp only [replaced, not_true_eq_false, false_and, or_false]
        constructor
        · intro found
          cases found
        · rintro ⟨_, writes⟩
          exact writes.elim
    | read | list | reopen => exact touched.elim
  · rw [read_next_of_not_touches touched]
    constructor
    · intro found
      exact .inr ⟨fun replaces => touched (Request.touches_of_replaces replaces), found⟩
    · rintro (⟨stamp, writes⟩ | ⟨-, found⟩)
      · exact absurd (Request.touches_of_writes writes) touched
      · exact found

/-- The instant of a record after a request. -/
theorem updatedAt_next {stamp : Instant} :
    ((view.next request).read key).updatedAt = some stamp ↔
      (∃ partition offset, request.Writes key partition offset stamp) ∨
        ¬request.Touches key ∧ (view.read key).updatedAt = some stamp := by
  by_cases touched : request.Touches key
  · simp only [touched, not_true_eq_false, false_and, or_false]
    cases request with
    | commit time other number value =>
        cases touched
        rw [read_next_commit]
        simp [TopicRecord.set, Request.Writes]
    | delete =>
        rw [read_next_delete touched]
        constructor
        · intro found
          cases found
        · rintro ⟨_, _, writes⟩
          exact writes.elim
    | read | list | reopen => exact touched.elim
  · rw [read_next_of_not_touches touched]
    constructor
    · exact fun found => .inr ⟨touched, found⟩
    · rintro (⟨_, _, writes⟩ | ⟨-, found⟩)
      · exact absurd (Request.touches_of_writes writes) touched
      · exact found

/-- A view of requests holds the offset of the last commit that no deletion followed. -/
theorem get?_of_iff {history : List Request} {key : TopicKey} {partition offset : Int} :
    ((of history).read key).get? partition = some offset ↔
      Committed history key partition offset := by
  induction history using List.reverseRecOn with
  | nil =>
      constructor
      · intro found
        cases found
      · rintro ⟨_, lasts⟩
        exact absurd lasts not_lasts_nil
  | append_singleton history request ih =>
      rw [of_append_singleton, get?_next, committed_append_singleton, ih]

/-- A view of requests holds the instant of the last commit that no deletion followed. -/
theorem updatedAt_of_iff {history : List Request} {key : TopicKey} {stamp : Instant} :
    ((of history).read key).updatedAt = some stamp ↔ Stamped history key stamp := by
  induction history using List.reverseRecOn with
  | nil =>
      constructor
      · intro found
        cases found
      · rintro ⟨_, _, lasts⟩
        exact absurd lasts not_lasts_nil
  | append_singleton history request ih =>
      rw [of_append_singleton, updatedAt_next, stamped_append_singleton, ih]

/-- Where a view of requests has a record, something was committed and not deleted. -/
theorem filled_of {history : List Request} {key : TopicKey} {record : TopicRecord}
    (held : of history key = some record) :
    (∃ partition offset, record.get? partition = some offset) ∧
      ∃ stamp, record.updatedAt = some stamp := by
  induction history using List.reverseRecOn generalizing record with
  | nil => cases held
  | append_singleton history request ih =>
      rw [of_append_singleton] at held
      by_cases touched : request.Touches key
      · cases request with
        | commit time other number value =>
            cases touched
            rw [next, Function.update_self] at held
            cases held
            exact ⟨⟨number, value, OrderedMap.get?_insert_self _ _ _⟩, time, rfl⟩
        | delete environment topic =>
            have covered : MemoryStore.isCovered environment topic key = true := touched
            rw [next_delete, if_pos covered] at held
            cases held
        | read | list | reopen => exact touched.elim
      · rw [next_of_not_touches touched] at held
        exact ih held

/-- A view of requests has a record where something was committed and not deleted. -/
theorem isSome_of_iff {history : List Request} {key : TopicKey} :
    (of history key).isSome ↔ ∃ partition offset, Committed history key partition offset := by
  rw [Option.isSome_iff_exists]
  constructor
  · rintro ⟨record, held⟩
    rcases (filled_of held).1 with ⟨partition, offset, found⟩
    refine ⟨partition, offset, get?_of_iff.mp ?_⟩
    rw [read, held]
    exact found
  · rintro ⟨partition, offset, committed⟩
    have found := get?_of_iff.mpr committed
    rw [read] at found
    cases held : of history key with
    | none =>
        rw [held] at found
        cases found
    | some record => exact ⟨record, rfl⟩

/-- A view of requests holds what was committed and not deleted. -/
theorem hasRow_of_iff {history : List Request} {row : StoredOffset} :
    (of history).HasRow row ↔ Committed history row.key row.partition row.offset ∧
      ∃ stamp, row.updatedAt = some stamp ∧ Stamped history row.key stamp := by
  constructor
  · rintro ⟨record, held, found, same⟩
    rcases (filled_of held).2 with ⟨stamp, known⟩
    have read_eq : (of history).read row.key = record := by
      rw [read, held]
      rfl
    rw [← read_eq] at found known same
    exact ⟨get?_of_iff.mp found, stamp, same.symm.trans known, updatedAt_of_iff.mp known⟩
  · rintro ⟨committed, stamp, known, stamped⟩
    rcases Option.isSome_iff_exists.mp (isSome_of_iff.mpr ⟨_, _, committed⟩) with ⟨record, held⟩
    have read_eq : (of history).read row.key = record := by
      rw [read, held]
      rfl
    have found := get?_of_iff.mpr committed
    have time := updatedAt_of_iff.mpr stamped
    rw [read_eq] at found time
    exact ⟨record, held, found, time.trans known.symm⟩

end View

/-- The answer to a request, told by the requests before it. -/
def Meets (history : List Request) : Request → Except Error Answer → Prop
  | .commit .., answer | .reopen, answer => answer = .ok .done
  | .delete environment topic, answer =>
      ∃ keys : Finset TopicKey, answer = .ok (.removed keys.card) ∧
        ∀ key, key ∈ keys ↔ MemoryStore.isCovered environment topic key = true ∧
          ∃ partition offset, Committed history key partition offset
  | .read key, answer =>
      ∃ record : TopicRecord, answer = .ok (.record record) ∧
        (∀ partition offset,
          record.get? partition = some offset ↔ Committed history key partition offset) ∧
        ∀ stamp, record.updatedAt = some stamp ↔ Stamped history key stamp
  | .list filter, answer =>
      ∃ rows, answer = .ok (.listing rows) ∧ rows.Pairwise StoredOffset.Precedes ∧
        ∀ row, row ∈ rows ↔ filter.selects row.key = true ∧
          Committed history row.key row.partition row.offset ∧
          ∃ stamp, row.updatedAt = some stamp ∧ Stamped history row.key stamp

/-- What a view of requests answers is told by the requests. -/
theorem meets_of_gives {history : List Request} {request : Request}
    {answer : Except Error Answer} (gives : (View.of history).Gives request answer) :
    Meets history request answer := by
  cases request with
  | commit | reopen => exact gives
  | delete =>
      rcases gives with ⟨_, rfl, keys, rfl, mem_iff⟩
      refine ⟨keys, rfl, ?_⟩
      intro key
      rw [mem_iff, View.isSome_of_iff]
  | read key =>
      refine ⟨_, gives, ?_, ?_⟩
      · exact fun partition offset => View.get?_of_iff
      · exact fun stamp => View.updatedAt_of_iff
  | list =>
      rcases gives with ⟨rows, rfl, lists⟩
      refine ⟨rows, rfl, lists.ascending, ?_⟩
      intro row
      rw [lists.mem_iff, View.hasRow_of_iff]

end TopicReplay.Store
