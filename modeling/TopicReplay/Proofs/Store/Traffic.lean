import Mathlib.Data.List.Nodup
import Mathlib.Logic.Relation
import TopicReplay.Proofs.Store.Forest

/-!
# Traffic on a tree store

Many calls use one tree store at the same time. A call that changes it takes a lock first,
and gives it back when it is done. A call that reads takes no lock: it looks whether there
is a tree, opens it and looks into it, and anything may happen in between. The calls still
do what they would do one after the other, in the order in which they take the lock. The
proof is an invariant of the lock: the records are those of the calls that have had it, and
of the call that has it as far as it has come.

The main statement is `serialisable`. It leaves one read out: a deletion can drop the tree that a
read has opened, and a database that refuses to look there has the read fail, though a record or
none is there to be read before the deletion and behind it (`overtaken_read_fails`).
-/

namespace TopicReplay.Store

open Relation (ReflTransGen)

/-- How far a call has come that reads the record of a topic. -/
inductive Glance where
  | waiting
  /-- It has seen that there is a tree. -/
  | noticed
  | opened (handle : Handle)
  | returned (answer : Except Error TopicRecord)

/-- The ways in which a reading call goes on: how far it comes, and what it leaves of the
trees. -/
inductive Look (gone? : Option Error) (forest : Forest) (key : TopicKey) :
    Glance → Glance → Forest → Prop
  | missTree (absent : forest.has key.environment = false) :
      Look gone? forest key .waiting (.returned (.ok {})) forest
  | noticeTree (present : forest.has key.environment = true) :
      Look gone? forest key .waiting .noticed forest
  | openTree :
      Look gone? forest key .noticed (.opened (forest.handle key.environment))
        (forest.plant key.environment)
  | readRecord {handle : Handle} :
      Look gone? forest key (.opened handle) (.returned (forest.read gone? handle key.topic)) forest

/-- The calls on a store, those that change it and those that read it, with what is answered
to a look into a tree that was dropped. -/
structure Callers (ι κ : Type) where
  change : ι → Change
  key : κ → TopicKey
  gone? : Option Error

/-- A tree store that many calls use. -/
structure Traffic (ι κ : Type) where
  forest : Forest
  /-- The call that has the lock. -/
  lock : Option ι := none
  writer : ι → Phase := fun _ => .waiting
  reader : κ → Glance := fun _ => .waiting
  /-- The calls that have taken the lock, in the order in which they did. -/
  order : List ι := []

namespace Callers

/-- The store that calls leave, one after the other. -/
def serial {ι κ : Type} (callers : Callers ι κ) (store : TreeStore) (order : List ι) : TreeStore :=
  after store (order.map fun i => (callers.change i).request)

theorem serial_append_singleton {ι κ : Type} (callers : Callers ι κ) (store : TreeStore)
    (order : List ι) (i : ι) :
    callers.serial store (order ++ [i]) =
      (ask (callers.serial store order) (callers.change i).request).2 := by
  rw [serial, List.map_append, List.map_singleton, after_append_singleton, serial]

end Callers

namespace Traffic

variable {ι κ : Type}

/-- Calls of which none has begun. -/
def start (store : TreeStore) : Traffic ι κ where
  forest := { store }

section

variable [DecidableEq ι] [DecidableEq κ]

/-- One step of one call. -/
inductive Step (callers : Callers ι κ) (traffic : Traffic ι κ) : Traffic ι κ → Prop where
  | enter {i : ι} (waits : traffic.writer i = .waiting) (free : traffic.lock = none) :
      Step callers traffic { traffic with
        lock := some i
        writer := Function.update traffic.writer i .entered
        order := traffic.order ++ [i] }
  | work {i : ι} {next : Phase} {forest : Forest}
      (move : Move callers.gone? traffic.forest (callers.change i) (traffic.writer i) next forest) :
      Step callers traffic { traffic with
        forest
        writer := Function.update traffic.writer i next }
  | leave {i : ι} {answer : Except Error Answer} (done : traffic.writer i = .leaving answer) :
      Step callers traffic { traffic with
        lock := none
        writer := Function.update traffic.writer i (.returned answer) }
  | look {k : κ} {next : Glance} {forest : Forest}
      (looks : Look callers.gone? traffic.forest (callers.key k) (traffic.reader k) next forest) :
      Step callers traffic { traffic with
        forest
        reader := Function.update traffic.reader k next }

end

variable {callers : Callers ι κ} {store : TreeStore} {traffic after : Traffic ι κ}

/-! ## The lock -/

/-- What is true whenever calls that found `store` have done some steps. -/
structure Serial (callers : Callers ι κ) (store : TreeStore) (traffic : Traffic ι κ) : Prop where
  nodup : traffic.order.Nodup
  mem_order_iff : ∀ i, i ∈ traffic.order ↔ traffic.writer i ≠ .waiting
  isInside_iff : ∀ i, (traffic.writer i).IsInside ↔ traffic.lock = some i
  free : traffic.lock = none →
    traffic.forest.store.Agrees (callers.serial store traffic.order)
  held : ∀ i, traffic.lock = some i → ∃ earlier, traffic.order = earlier ++ [i] ∧
    Stands (callers.serial store earlier) traffic.forest (callers.change i) (traffic.writer i)
  answered : ∀ i answer, traffic.writer i = .returned answer →
    ∃ earlier, earlier ++ [i] <+: traffic.order ∧
      answer = (ask (callers.serial store earlier) (callers.change i).request).1

theorem serial_start (callers : Callers ι κ) (store : TreeStore) :
    Serial callers store (start store) where
  nodup := .nil
  mem_order_iff i := by simp [start]
  isInside_iff i := by simp [start, Phase.IsInside]
  free _ _ := rfl
  held i held := by cases held
  answered i answer returned := by cases returned

/-- `earlier` are the calls that had the lock first, and all calls of `past` are among them. -/
structure Since (past : ι → Prop) (order earlier : List ι) : Prop where
  first : earlier <+: order
  covers : ∀ i, past i → i ∈ earlier

theorem Since.mono {past : ι → Prop} {order longer earlier : List ι}
    (since : Since past order earlier) (grows : order <+: longer) : Since past longer earlier where
  first := since.first.trans grows
  covers := since.covers

/-- The records are those of some first calls that had the lock, and of all that have returned. -/
theorem Serial.exists_since (serial : Serial callers store traffic) {past : ι → Prop}
    (returned : ∀ i, past i → ∃ answer, traffic.writer i = .returned answer) :
    ∃ earlier, Since past traffic.order earlier ∧
      traffic.forest.store.Agrees (callers.serial store earlier) := by
  have member (i : ι) (before : past i) : i ∈ traffic.order := by
    rcases returned i before with ⟨answer, phase⟩
    rw [serial.mem_order_iff, phase]
    exact Phase.noConfusion
  cases lock : traffic.lock with
  | none => exact ⟨traffic.order, ⟨List.prefix_rfl, member⟩, serial.free lock⟩
  | some holder =>
      rcases serial.held holder lock with ⟨earlier, order_eq, stands⟩
      rcases stands.agrees_or with agrees | agrees
      · refine ⟨earlier, ⟨order_eq ▸ List.prefix_append _ _, ?_⟩, agrees⟩
        intro i before
        -- The call that has the lock has not returned.
        have apart : i ≠ holder := by
          rintro rfl
          have inside := (serial.isInside_iff i).mpr lock
          rcases returned i before with ⟨answer, phase⟩
          rw [phase] at inside
          exact inside
        have either := member i before
        rw [order_eq, List.mem_append, List.mem_singleton] at either
        exact either.resolve_right apart
      · refine ⟨traffic.order, ⟨List.prefix_rfl, member⟩, ?_⟩
        rw [order_eq, callers.serial_append_singleton]
        exact agrees

/-- A reading call changes no record and drops no tree. -/
theorem plant_of_look {gone? : Option Error} {forest later : Forest} {key : TopicKey}
    {glance next : Glance} (looks : Look gone? forest key glance next later) :
    later = forest ∨ ∃ environment, later = forest.plant environment := by
  cases looks with
  | openTree => exact .inr ⟨_, rfl⟩
  | missTree | noticeTree | readRecord => exact .inl rfl

/-- A reading call can go on until it returns. -/
theorem exists_look (gone? : Option Error) (forest : Forest) (key : TopicKey) (glance : Glance) :
    (∃ answer, glance = .returned answer) ∨
      ∃ next later, Look gone? forest key glance next later := by
  cases glance with
  | waiting =>
      cases present : forest.has key.environment with
      | false => exact .inr ⟨_, _, .missTree present⟩
      | true => exact .inr ⟨_, _, .noticeTree present⟩
  | noticed => exact .inr ⟨_, _, .openTree⟩
  | opened => exact .inr ⟨_, _, .readRecord⟩
  | returned answer => exact .inl ⟨answer, rfl⟩

section

variable [DecidableEq ι] [DecidableEq κ]

omit [DecidableEq κ] in
theorem Serial.enter (serial : Serial callers store traffic) {i : ι}
    (waits : traffic.writer i = .waiting) (free : traffic.lock = none) :
    Serial callers store { traffic with
      lock := some i
      writer := Function.update traffic.writer i .entered
      order := traffic.order ++ [i] } := by
  have absent : i ∉ traffic.order := fun member => (serial.mem_order_iff i).mp member waits
  constructor
  · exact List.nodup_append.mpr ⟨serial.nodup, List.nodup_singleton i, by
      rintro j member _ new rfl
      exact absent (List.mem_singleton.mp new ▸ member)⟩
  · intro j
    rw [List.mem_append, List.mem_singleton, serial.mem_order_iff]
    by_cases same : j = i
    · simp [same]
    · simp [same]
  · intro j
    by_cases same : j = i
    · simp [same, Phase.IsInside]
    · simp [same, serial.isInside_iff, free, Ne.symm same]
  · intro none
    cases none
  · rintro _ ⟨⟩
    refine ⟨traffic.order, rfl, ?_⟩
    simp only [Function.update_self]
    exact .entered (serial.free free)
  · intro j answer returned
    by_cases same : j = i
    · simp [same] at returned
    · simp only [Function.update_of_ne same] at returned
      rcases serial.answered j answer returned with ⟨earlier, prior, answer_eq⟩
      exact ⟨earlier, prior.trans (List.prefix_append _ _), answer_eq⟩

omit [DecidableEq κ] in
theorem Serial.work (serial : Serial callers store traffic) {i : ι} {next : Phase}
    {forest : Forest}
    (move : Move callers.gone? traffic.forest (callers.change i) (traffic.writer i) next forest) :
    Serial callers store { traffic with
      forest
      writer := Function.update traffic.writer i next } := by
  have lock := (serial.isInside_iff i).mp move.isInside.1
  constructor
  · exact serial.nodup
  · intro j
    by_cases same : j = i
    · subst same
      have member : j ∈ traffic.order := by
        rcases serial.held j lock with ⟨earlier, order_eq, -⟩
        simp [order_eq]
      have inside := move.isInside.2
      simp only [member, Function.update_self, true_iff]
      rintro rfl
      exact inside
    · simp [same, serial.mem_order_iff]
  · intro j
    by_cases same : j = i
    · simp [same, move.isInside.2, lock]
    · simp [same, serial.isInside_iff]
  · intro free
    rw [lock] at free
    cases free
  · intro j held
    have same : i = j := Option.some.inj (lock.symm.trans held)
    subst same
    rcases serial.held i lock with ⟨earlier, order_eq, stands⟩
    refine ⟨earlier, order_eq, ?_⟩
    simp only [Function.update_self]
    exact stands.move move
  · intro j answer returned
    by_cases same : j = i
    · subst same
      have inside := move.isInside.2
      simp only [Function.update_self] at returned
      rw [returned] at inside
      exact inside.elim
    · simp only [Function.update_of_ne same] at returned
      exact serial.answered j answer returned

omit [DecidableEq κ] in
theorem Serial.leave (serial : Serial callers store traffic) {i : ι}
    {answer : Except Error Answer} (done : traffic.writer i = .leaving answer) :
    Serial callers store { traffic with
      lock := none
      writer := Function.update traffic.writer i (.returned answer) } := by
  have inside : (traffic.writer i).IsInside := by
    rw [done]
    trivial
  have lock := (serial.isInside_iff i).mp inside
  rcases serial.held i lock with ⟨earlier, order_eq, stands⟩
  rw [done] at stands
  rcases stands.of_leaving with ⟨answer_eq, agrees⟩
  constructor
  · exact serial.nodup
  · intro j
    by_cases same : j = i
    · simp [same, order_eq]
    · simp [same, serial.mem_order_iff]
  · intro j
    by_cases same : j = i
    · simp [same, Phase.IsInside]
    · simp [same, serial.isInside_iff, lock, Ne.symm same]
  · intro free
    simp only [order_eq, callers.serial_append_singleton]
    exact agrees
  · intro j held
    cases held
  · intro j answer returned
    by_cases same : j = i
    · subst same
      simp only [Function.update_self, Phase.returned.injEq] at returned
      exact ⟨earlier, order_eq ▸ List.prefix_rfl, returned.symm.trans answer_eq⟩
    · simp only [Function.update_of_ne same] at returned
      exact serial.answered j answer returned

omit [DecidableEq ι] in
theorem Serial.look (serial : Serial callers store traffic) {k : κ} {next : Glance}
    {forest : Forest}
    (looks : Look callers.gone? traffic.forest (callers.key k) (traffic.reader k) next forest) :
    Serial callers store { traffic with
      forest
      reader := Function.update traffic.reader k next } := by
  rcases plant_of_look looks with rfl | ⟨environment, rfl⟩
  · exact { serial with }
  · constructor
    · exact serial.nodup
    · exact serial.mem_order_iff
    · exact serial.isInside_iff
    · intro free other
      rw [Forest.tree_plant, serial.free free]
    · intro i held
      rcases serial.held i held with ⟨earlier, order_eq, stands⟩
      exact ⟨earlier, order_eq, stands.plant environment⟩
    · exact serial.answered

theorem Serial.step (serial : Serial callers store traffic) (step : Step callers traffic after) :
    Serial callers store after := by
  cases step with
  | enter waits free => exact serial.enter waits free
  | work move => exact serial.work move
  | leave done => exact serial.leave done
  | look looks => exact serial.look looks

theorem Serial.run (serial : Serial callers store traffic)
    (runs : ReflTransGen (Step callers) traffic after) : Serial callers store after := by
  induction runs with
  | refl => exact serial
  | tail _ step ih => exact ih.step step

/-- Calls never keep each other from going on. -/
theorem Serial.exists_step (serial : Serial callers store traffic)
    (unfinished : (∃ i, ∀ answer, traffic.writer i ≠ .returned answer) ∨
      ∃ k, ∀ answer, traffic.reader k ≠ .returned answer) :
    ∃ after, Step callers traffic after := by
  rcases unfinished with ⟨i, busy⟩ | ⟨k, busy⟩
  · cases lock : traffic.lock with
    | some holder =>
        rcases serial.held holder lock with ⟨earlier, -, stands⟩
        rcases stands.exists_move with ⟨answer, done⟩ | ⟨next, forest, move⟩
        · exact ⟨_, .leave done⟩
        · exact ⟨_, .work move⟩
    | none =>
        have outside : ¬(traffic.writer i).IsInside := by
          rw [serial.isInside_iff, lock]
          exact (Option.some_ne_none i).symm
        cases phase : traffic.writer i with
        | waiting => exact ⟨_, .enter phase lock⟩
        | returned answer => exact absurd phase (busy answer)
        | entered | noticed | opened | found | taken | dropping | leaving =>
            rw [phase] at outside
            exact absurd trivial outside
  · rcases exists_look callers.gone? traffic.forest (callers.key k) (traffic.reader k) with
      ⟨answer, returned⟩ | ⟨next, forest, looks⟩
    · exact absurd returned (busy answer)
    · exact ⟨_, .look looks⟩

end

/-! ## Reads -/

/-- The tree of an environment was dropped by a call that had not returned before, and that was
the last of some first calls that had the lock. -/
def Felled (callers : Callers ι κ) (store : TreeStore) (past : ι → Prop) (order : List ι)
    (environment : String) : Prop :=
  ∃ earlier i topic, Since past order (earlier ++ [i]) ∧ ¬past i ∧
    callers.change i = .delete environment topic ∧
    (callers.serial store (earlier ++ [i])).tree environment = .empty

/-- A read has the answer that it would have after some first calls that had the lock, or its
tree was dropped under it and it was refused. -/
def Sees (callers : Callers ι κ) (store : TreeStore) (past : ι → Prop) (order : List ι)
    (key : TopicKey) (answer : Except Error TopicRecord) : Prop :=
  (∃ earlier, Since past order earlier ∧ answer = (callers.serial store earlier).read key) ∨
    ∃ fault, callers.gone? = some fault ∧ answer = .error fault ∧
      Felled callers store past order key.environment

/-- What is true of a read that began when the calls of `past` had returned. -/
structure Watched (callers : Callers ι κ) (store : TreeStore) (past : ι → Prop)
    (traffic : Traffic ι κ) (k : κ) : Prop where
  returned : ∀ i, past i → ∃ answer, traffic.writer i = .returned answer
  opened : ∀ handle, traffic.reader k = .opened handle →
    handle.environment = (callers.key k).environment ∧
      (traffic.forest.Holds handle ∨
        Felled callers store past traffic.order (callers.key k).environment)
  answered : ∀ answer, traffic.reader k = .returned answer →
    Sees callers store past traffic.order (callers.key k) answer

variable {past : ι → Prop} {order longer : List ι} {k : κ}

/-- Nothing can be said yet of a read that has not begun. -/
theorem watched_of_waiting (callers : Callers ι κ) (store : TreeStore)
    (waits : traffic.reader k = .waiting) :
    Watched callers store (fun i => ∃ answer, traffic.writer i = .returned answer) traffic k where
  returned _ before := before
  opened handle opened := by
    rw [waits] at opened
    cases opened
  answered answer returned := by
    rw [waits] at returned
    cases returned

theorem Felled.mono {environment : String} (felled : Felled callers store past order environment)
    (grows : order <+: longer) : Felled callers store past longer environment := by
  rcases felled with ⟨earlier, i, topic, since, fresh, rest⟩
  exact ⟨earlier, i, topic, since.mono grows, fresh, rest⟩

theorem Sees.mono {key : TopicKey} {answer : Except Error TopicRecord}
    (sees : Sees callers store past order key answer) (grows : order <+: longer) :
    Sees callers store past longer key answer := by
  rcases sees with ⟨earlier, since, answer_eq⟩ | ⟨fault, gone, answer_eq, felled⟩
  · exact .inl ⟨earlier, since.mono grows, answer_eq⟩
  · exact .inr ⟨fault, gone, answer_eq, felled.mono grows⟩

/-- What is read now is what would be read after some first calls that had the lock. -/
theorem Watched.sees_now (watched : Watched callers store past traffic k)
    (serial : Serial callers store traffic) (key : TopicKey) :
    Sees callers store past traffic.order key (traffic.forest.store.read key) := by
  rcases serial.exists_since watched.returned with ⟨earlier, since, agrees⟩
  exact .inl ⟨earlier, since, agrees.read key⟩

/-- A look into a tree that was dropped sees the store after the deletion, or is refused. -/
theorem Felled.sees {key : TopicKey} {handle : Handle}
    (felled : Felled callers store past order key.environment)
    (dropped : ¬traffic.forest.Holds handle) :
    Sees callers store past order key
      (traffic.forest.read callers.gone? handle key.topic) := by
  rw [Forest.read_of_not_holds dropped]
  cases gone : callers.gone? with
  | some fault => exact .inr ⟨fault, gone, rfl, felled⟩
  | none =>
      rcases felled with ⟨earlier, i, topic, since, -, -, bare⟩
      refine .inl ⟨earlier ++ [i], since, ?_⟩
      rw [TreeStore.read, bare]
      rfl

/-- The call that has the lock is not among those that returned before. -/
theorem Watched.not_past (watched : Watched callers store past traffic k) {i : ι}
    (busy : ∀ answer, traffic.writer i ≠ .returned answer) : ¬past i := by
  intro before
  rcases watched.returned i before with ⟨answer, phase⟩
  exact busy answer phase

theorem Watched.returned_update [DecidableEq ι] (watched : Watched callers store past traffic k)
    {i : ι} (busy : ∀ answer, traffic.writer i ≠ .returned answer) (next : Phase) :
    ∀ j, past j → ∃ answer, Function.update traffic.writer i next j = .returned answer := by
  intro j before
  have apart : j ≠ i := by
    rintro rfl
    exact watched.not_past busy before
  rw [Function.update_of_ne apart]
  exact watched.returned j before

/-- A tree that a read has opened stays, or is dropped by the call that has the lock. -/
theorem Watched.holds_or (watched : Watched callers store past traffic k)
    (serial : Serial callers store traffic) {i : ι} {next : Phase} {forest : Forest}
    (move : Move callers.gone? traffic.forest (callers.change i) (traffic.writer i) next forest)
    {handle : Handle} (holds : traffic.forest.Holds handle) :
    forest.Holds handle ∨ Felled callers store past traffic.order handle.environment := by
  refine (move.holds_or holds).imp_right ?_
  rintro ⟨topic, count, change_eq, phase⟩
  rcases serial.held i ((serial.isInside_iff i).mp move.isInside.1) with
    ⟨earlier, order_eq, stands⟩
  refine ⟨earlier, i, topic, ⟨order_eq ▸ List.prefix_rfl, ?_⟩, ?_, change_eq, ?_⟩
  · intro j before
    rcases watched.returned j before with ⟨answer, returned⟩
    rw [← order_eq, serial.mem_order_iff, returned]
    exact Phase.noConfusion
  · apply watched.not_past
    intro answer
    rw [phase]
    exact Phase.noConfusion
  · rw [callers.serial_append_singleton, change_eq]
    rw [change_eq, phase] at stands
    exact stands.bare_of_dropping

section

variable [DecidableEq κ]

/-- A read that goes on keeps what is true of it. -/
theorem Watched.look_self (watched : Watched callers store past traffic k)
    (serial : Serial callers store traffic) {glance next : Glance} {forest : Forest}
    (reads : traffic.reader k = glance)
    (looks : Look callers.gone? traffic.forest (callers.key k) glance next forest) :
    Watched callers store past { traffic with
      forest
      reader := Function.update traffic.reader k next } k where
  returned := watched.returned
  opened := by
    intro handle opened
    simp only [Function.update_self] at opened
    subst opened
    cases looks with
    | openTree => exact ⟨rfl, .inl (Forest.holds_handle_plant _ _)⟩
  answered := by
    intro answer returned
    simp only [Function.update_self] at returned
    subst returned
    cases looks with
    | missTree absent =>
        have seen := watched.sees_now serial (callers.key k)
        rw [TreeStore.read, Forest.tree_of_not_has absent] at seen
        exact seen
    | @readRecord handle =>
        rcases watched.opened handle reads with ⟨own, held⟩
        by_cases holds : traffic.forest.Holds handle
        · rw [Forest.read_of_holds holds, own]
          exact watched.sees_now serial (callers.key k)
        · exact (held.resolve_left holds).sees holds

/-- A read that waits while another one goes on keeps what is true of it. -/
theorem Watched.look_of_ne (watched : Watched callers store past traffic k) {other : κ}
    {next : Glance} {forest : Forest} (apart : k ≠ other)
    (looks : Look callers.gone? traffic.forest (callers.key other) (traffic.reader other) next
      forest) :
    Watched callers store past { traffic with
      forest
      reader := Function.update traffic.reader other next } k where
  returned := watched.returned
  opened := by
    intro handle opened
    simp only [Function.update_of_ne apart] at opened
    rcases watched.opened handle opened with ⟨own, holds | felled⟩
    · refine ⟨own, .inl ?_⟩
      rcases plant_of_look looks with rfl | ⟨environment, rfl⟩
      · exact holds
      · rw [Forest.Holds, Forest.drops_plant]
        exact holds
    · exact ⟨own, .inr felled⟩
  answered := by
    intro answer returned
    simp only [Function.update_of_ne apart] at returned
    exact watched.answered answer returned

end

section

variable [DecidableEq ι] [DecidableEq κ]

/-- Every step of a call keeps what is true of a read. -/
theorem Watched.step (watched : Watched callers store past traffic k)
    (serial : Serial callers store traffic) (step : Step callers traffic after) :
    Watched callers store past after k := by
  cases step with
  | @enter i waits free =>
      have longer : traffic.order <+: traffic.order ++ [i] := List.prefix_append _ _
      constructor
      · apply watched.returned_update
        intro answer
        rw [waits]
        exact Phase.noConfusion
      · intro handle opened
        rcases watched.opened handle opened with ⟨own, holds | felled⟩
        · exact ⟨own, .inl holds⟩
        · exact ⟨own, .inr (felled.mono longer)⟩
      · intro answer returned
        exact (watched.answered answer returned).mono longer
  | @work i next forest move =>
      constructor
      · apply watched.returned_update
        intro answer returned
        have inside := move.isInside.1
        rw [returned] at inside
        exact inside
      · intro handle opened
        rcases watched.opened handle opened with ⟨own, holds | felled⟩
        · exact ⟨own, own ▸ watched.holds_or serial move holds⟩
        · exact ⟨own, .inr felled⟩
      · exact watched.answered
  | leave done =>
      constructor
      · apply watched.returned_update
        intro answer
        rw [done]
        exact Phase.noConfusion
      · exact watched.opened
      · exact watched.answered
  | @look other next forest looks =>
      by_cases same : k = other
      · subst same
        exact watched.look_self serial rfl looks
      · exact watched.look_of_ne same looks

theorem Watched.run (watched : Watched callers store past traffic k)
    (serial : Serial callers store traffic)
    (runs : ReflTransGen (Step callers) traffic after) :
    Watched callers store past after k := by
  induction runs with
  | refl => exact watched
  | tail earlier step ih => exact ih.step (serial.run earlier) step

end

/-- What a commit has stored is there as long as no later call replaces it. -/
theorem stores_serial {earlier later : List ι} {i : ι} {stamp : Instant} {key : TopicKey}
    {partition offset : Int} {storable : Storable partition offset}
    (commits : callers.change i = .commit stamp key partition offset storable)
    (done : (ask (callers.serial store earlier) (callers.change i).request).1 = .ok .done)
    (spared : ∀ j ∈ later, ¬(callers.change j).request.Replaces key partition) :
    (callers.serial store (earlier ++ i :: later)).Stores key partition offset := by
  induction later using List.reverseRecOn with
  | nil =>
      rw [callers.serial_append_singleton]
      rw [commits] at done ⊢
      exact TreeStore.stores_ask_commit storable done
  | append_singleton later j ih =>
      rw [← List.cons_append, ← List.append_assoc, callers.serial_append_singleton]
      exact (ih fun other member => spared other (List.mem_append_left _ member)).ask
        (spared j (by simp))

section

variable [DecidableEq ι] [DecidableEq κ]

/-- Calls do what they would do one after the other, in the order in which they take the lock. -/
structure Serialised (callers : Callers ι κ) (store : TreeStore) (begun last : Traffic ι κ) :
    Prop where
  /-- A call takes the lock when it begins, and no call takes it twice. -/
  mem_order_iff : ∀ i, i ∈ last.order ↔ last.writer i ≠ .waiting
  nodup : last.order.Nodup
  exclusive : ∀ i j, (last.writer i).IsInside → (last.writer j).IsInside → i = j
  /-- When no call is under way, the records are those that all calls leave. -/
  contents : (∀ i, ¬(last.writer i).IsInside) →
    last.forest.store.Agrees (callers.serial store last.order)
  /-- A call is answered as it would be after the calls before it. -/
  answered : ∀ i answer, last.writer i = .returned answer →
    ∃ earlier, earlier ++ [i] <+: last.order ∧
      answer = (ask (callers.serial store earlier) (callers.change i).request).1
  /-- What could be read at once is at any time what some first calls leave, and all that have
  returned are among them. -/
  shown : ∃ earlier,
    Since (fun i => ∃ answer, last.writer i = .returned answer) last.order earlier ∧
      ∀ key, last.forest.store.read key = (callers.serial store earlier).read key
  /-- A record that was read is what some first calls leave, and all that had returned before
  the read began are among them. -/
  read_record : ∀ k record, begun.reader k = .waiting → last.reader k = .returned (.ok record) →
    ∃ earlier, Since (fun i => ∃ answer, begun.writer i = .returned answer) last.order earlier ∧
      (callers.serial store earlier).read (callers.key k) = .ok record
  /-- A read fails if some first calls leave a record that cannot be read, or if a deletion
  beside it dropped the tree that it had opened, and the database refuses to look there. -/
  read_fault : ∀ k fault, begun.reader k = .waiting → last.reader k = .returned (.error fault) →
    (∃ earlier, Since (fun i => ∃ answer, begun.writer i = .returned answer) last.order earlier ∧
      (callers.serial store earlier).read (callers.key k) = .error fault) ∨
    callers.gone? = some fault ∧
      Felled callers store (fun i => ∃ answer, begun.writer i = .returned answer) last.order
        (callers.key k).environment
  /-- When no call is under way, every offset that was committed is stored, unless a later call
  has replaced it: a commit for the same partition, or a deletion. -/
  kept : (∀ i, ¬(last.writer i).IsInside) → ∀ earlier i later stamp key partition offset storable,
    last.order = earlier ++ i :: later →
    callers.change i = .commit stamp key partition offset storable →
    last.writer i = .returned (.ok .done) →
    (∀ j ∈ later, ¬(callers.change j).request.Replaces key partition) →
      last.forest.store.Stores key partition offset
  /-- As long as a call has not returned, some call can go on. -/
  goes_on : ((∃ i, ∀ answer, last.writer i ≠ .returned answer) ∨
    ∃ k, ∀ answer, last.reader k ≠ .returned answer) → ∃ next, Step callers last next

/-- Calls that use one tree store at the same time, whatever their steps come between, do
what they would do one after the other in the order in which they take the lock, but for reads
whose tree is dropped under them. -/
theorem serialisable {callers : Callers ι κ} {store : TreeStore} {begun last : Traffic ι κ}
    (begins : ReflTransGen (Step callers) (start store) begun)
    (runs : ReflTransGen (Step callers) begun last) :
    Serialised callers store begun last := by
  have before : Serial callers store begun := (serial_start callers store).run begins
  have serial : Serial callers store last := before.run runs
  have unlocked (idle : ∀ i, ¬(last.writer i).IsInside) : last.lock = none := by
    cases lock : last.lock with
    | none => rfl
    | some i => exact absurd ((serial.isInside_iff i).mpr lock) (idle i)
  have sees {k : κ} {answer : Except Error TopicRecord} (waits : begun.reader k = .waiting)
      (returned : last.reader k = .returned answer) :=
    ((watched_of_waiting callers store waits).run before runs).answered answer returned
  constructor
  · exact serial.mem_order_iff
  · exact serial.nodup
  · intro i j first second
    rw [serial.isInside_iff] at first second
    exact Option.some.inj (first.symm.trans second)
  · exact fun idle => serial.free (unlocked idle)
  · exact serial.answered
  · rcases serial.exists_since fun _ returned => returned with ⟨earlier, since, agrees⟩
    exact ⟨earlier, since, agrees.read⟩
  · intro k record waits returned
    rcases sees waits returned with ⟨earlier, since, answer_eq⟩ | ⟨fault, -, answer_eq, -⟩
    · exact ⟨earlier, since, answer_eq.symm⟩
    · cases answer_eq
  · intro k fault waits returned
    rcases sees waits returned with ⟨earlier, since, answer_eq⟩ | ⟨_, gone, answer_eq, felled⟩
    · exact .inl ⟨earlier, since, answer_eq.symm⟩
    · cases answer_eq
      exact .inr ⟨gone, felled⟩
  · intro idle earlier i later stamp key partition offset storable order_eq commits done spared
    rcases serial.answered i _ done with ⟨first, ⟨rest, split⟩, answer_eq⟩
    have alone := serial.nodup
    rw [order_eq] at alone
    have same : first = earlier := by
      rw [order_eq, List.append_assoc, List.singleton_append] at split
      have apart := List.nodup_middle.mp alone
      rw [List.nodup_cons, List.mem_append, not_or] at apart
      exact ((List.append_cons_inj_of_notMem apart.1.1 apart.1.2).mp split.symm).1.symm
    subst same
    rcases stores_serial commits answer_eq.symm spared with ⟨record, reads, found⟩
    refine ⟨record, ?_, found⟩
    rw [(serial.free (unlocked idle)).read, order_eq]
    exact reads
  · exact serial.exists_step

end

theorem exists_of_step {callers : Callers Bool Unit} {p : Traffic Bool Unit → Prop}
    {traffic after : Traffic Bool Unit} (step : Step callers traffic after)
    (later : ∃ last, ReflTransGen (Step callers) after last ∧ p last) :
    ∃ last, ReflTransGen (Step callers) traffic last ∧ p last := by
  rcases later with ⟨last, runs, holds⟩
  exact ⟨last, .head step runs, holds⟩

section Beside

/-- Two commits for partitions of one topic, and a read of it. -/
def besideCallers : Callers Bool Unit where
  change
    | false => .commit .epoch ⟨"default", "orders"⟩ 0 5 (by decide)
    | true => .commit .epoch ⟨"default", "orders"⟩ 1 9 (by decide)
  key _ := ⟨"default", "orders"⟩
  gone? := none

/-- The read looks when one commit has returned and the other one has the lock. -/
theorem exists_beside : ∃ last, ReflTransGen (Step besideCallers) (start {}) last ∧
    last.order = [true, false] ∧ (∀ i, last.writer i = .returned (.ok .done)) ∧
    ∃ record, last.reader () = .returned (.ok record) ∧ record.offsets.toList = [(1, 9)] := by
  refine exists_of_step (.enter (i := true) rfl rfl) ?_
  refine exists_of_step (.work (i := true) .openTree) ?_
  refine exists_of_step (.look (k := ()) (.noticeTree rfl)) ?_
  refine exists_of_step (.work (i := true) (.readRecord rfl)) ?_
  refine exists_of_step (.work (i := true) (.insertRecord rfl)) ?_
  refine exists_of_step (.look (k := ()) .openTree) ?_
  refine exists_of_step (.leave (i := true) rfl) ?_
  refine exists_of_step (.enter (i := false) rfl rfl) ?_
  refine exists_of_step (.work (i := false) .openTree) ?_
  refine exists_of_step (.look (k := ()) .readRecord) ?_
  refine exists_of_step (.work (i := false) (.readRecord rfl)) ?_
  refine exists_of_step (.work (i := false) (.insertRecord rfl)) ?_
  refine exists_of_step (.leave (i := false) rfl) ?_
  exact ⟨_, .refl, rfl, fun i => by cases i <;> rfl, _, rfl, rfl⟩

/-- Both commits are kept, and the read has seen the one that took the lock first. -/
theorem serialisable_beside : ∃ last : Traffic Bool Unit,
    Serialised besideCallers {} (start {}) last ∧ last.order = [true, false] ∧
    last.forest.store.Stores ⟨"default", "orders"⟩ 0 5 ∧
    last.forest.store.Stores ⟨"default", "orders"⟩ 1 9 ∧
    ∃ record, last.reader () = .returned (.ok record) ∧ record.offsets.toList = [(1, 9)] := by
  rcases exists_beside with ⟨last, runs, order_eq, done, read⟩
  have serialised : Serialised besideCallers {} (start {}) last := serialisable .refl runs
  have idle : ∀ i, ¬(last.writer i).IsInside := by
    intro i
    rw [done i]
    exact id
  refine ⟨last, serialised, order_eq, ?_, ?_, read⟩
  · exact serialised.kept idle [true] false [] _ _ _ _ _ order_eq rfl (done false)
      fun j member => absurd member List.not_mem_nil
  · refine serialised.kept idle [] true [false] _ _ _ _ _ order_eq rfl (done true) ?_
    intro j member
    rw [List.mem_singleton.mp member]
    rintro ⟨-, partition⟩
    cases partition

end Beside

section Overtaken

/-- A commit, the deletion of its environment, and a read of the record, over a database that
refuses to look into a tree that was dropped. -/
def overtakenCallers : Callers Bool Unit where
  change
    | false => .commit .epoch ⟨"dev", "orders"⟩ 0 5 (by decide)
    | true => .delete "dev" none
  key _ := ⟨"dev", "orders"⟩
  gone? := some (databaseError "Collection [101, 110, 118, 58, 100, 101, 118] does not exist")

/-- The read opens its tree, and the deletion drops that tree before the read looks into it. -/
theorem exists_overtaken : ∃ last, ReflTransGen (Step overtakenCallers) (start {}) last ∧
    last.order = [false, true] ∧ (∀ i, ∃ answer, last.writer i = .returned (.ok answer)) ∧
    ∃ fault, last.reader () = .returned (.error fault) := by
  refine exists_of_step (.enter (i := false) rfl rfl) ?_
  refine exists_of_step (.work (i := false) .openTree) ?_
  refine exists_of_step (.work (i := false) (.readRecord rfl)) ?_
  refine exists_of_step (.work (i := false) (.insertRecord rfl)) ?_
  refine exists_of_step (.leave (i := false) rfl) ?_
  refine exists_of_step (.look (k := ()) (.noticeTree rfl)) ?_
  refine exists_of_step (.look (k := ()) .openTree) ?_
  refine exists_of_step (.enter (i := true) rfl rfl) ?_
  refine exists_of_step (.work (i := true) (.noticeTree rfl)) ?_
  refine exists_of_step (.work (i := true) .reopenTree) ?_
  refine exists_of_step (.work (i := true) (.countRecords rfl)) ?_
  refine exists_of_step (.work (i := true) (.condemnTree (.inl rfl))) ?_
  refine exists_of_step (.work (i := true) .dropTree) ?_
  refine exists_of_step (.leave (i := true) rfl) ?_
  refine exists_of_step (.look (k := ()) .readRecord) ?_
  exact ⟨_, .refl, rfl, fun i => by cases i <;> exact ⟨_, rfl⟩, _, rfl⟩

/-- A read that a deletion overtakes returns an error, though each beginning of the order of the
calls leaves a record that can be read. -/
theorem overtaken_read_fails : ∃ last : Traffic Bool Unit,
    ReflTransGen (Step overtakenCallers) (start {}) last ∧
    (∀ i, ∃ answer, last.writer i = .returned (.ok answer)) ∧
    (∃ fault, last.reader () = .returned (.error fault)) ∧
    ∀ earlier, earlier <+: last.order →
      ∃ record, (overtakenCallers.serial {} earlier).read (overtakenCallers.key ()) =
        .ok record := by
  rcases exists_overtaken with ⟨last, runs, order_eq, done, failed⟩
  refine ⟨last, runs, done, failed, fun earlier first => ?_⟩
  rw [order_eq, ← List.mem_inits] at first
  have either : earlier = [] ∨ earlier = [false] ∨ earlier = [false, true] := by
    simpa [List.inits] using first
  rcases either with rfl | rfl | rfl <;> exact ⟨_, rfl⟩

end Overtaken

end Traffic

end TopicReplay.Store
