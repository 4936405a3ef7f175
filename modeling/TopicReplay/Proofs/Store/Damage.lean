import TopicReplay.Consumer.Bounds
import TopicReplay.Proofs.Store.Contents
import TopicReplay.Proofs.Store.Traffic

/-!
# Damaged records

A tree store may hold bytes that are no record. They are in the way where they are needed:
a commit on their topic fails, and so does a listing that comes across them. They are never
written over, not even by calls that go on at the same time, and they can be deleted. All
other requests are answered as if they were not there. This is an instance of a general
fact: requests that avoid some places are answered alike by stores that differ in these
places alone.

The main statements are `Alike.run`, `bytes?_traffic` and `damage_contained`.
-/

namespace TopicReplay.Store

open Relation (ReflTransGen)
open Text (Bytes)
open TreeStore (Place)

/-! ## Requests and places -/

/-- Whether a deletion takes what stands in a place: one topic of an environment, or all. -/
def TreeStore.Place.isCovered (environment : String) (topic : Option String)
    (place : Place) : Bool :=
  place.environment == environment && topic.all (Text.bytesOf · == place.topic)

/-- Where the record of a topic stands. -/
def TopicKey.place (key : TopicKey) : Place := ⟨key.environment, Text.bytesOf key.topic⟩

theorem isCovered_topic_iff {key : TopicKey} {place : Place} :
    place.isCovered key.environment (some key.topic) = true ↔ place = key.place := by
  rw [Place.isCovered, Option.all_some, Bool.and_eq_true, beq_iff_eq, beq_iff_eq, Place.ext_iff]
  exact and_congr_right fun _ => eq_comm

/-- A request that deletes what stands in a place. -/
def Request.Removes (place : Place) : Request → Prop
  | .delete environment topic => place.isCovered environment topic = true
  | _ => False

/-- A request that has nothing to do with some places. -/
def Request.Avoids (aside : Place → Prop) : Request → Prop
  | .commit _ key _ _ _ | .read key => ¬aside key.place
  | .delete environment topic => ∀ place, aside place → ¬place.isCovered environment topic = true
  | .list filter => ∀ place, aside place → ¬filter.selects place.key = true
  | .reopen => True

namespace TreeStore

/-- The bytes that stand in a place are no record. -/
def Damaged (store : TreeStore) (place : Place) : Prop :=
  ∃ bytes fault, store.bytes? place = some bytes ∧ TopicRecord.decode bytes = .error fault

variable {store other : TreeStore} {place : Place}

theorem Damaged.read {key : TopicKey} (damaged : store.Damaged key.place) :
    ∃ details, store.read key = .error (.serialization details) := by
  rcases damaged with ⟨bytes, fault, found, reads⟩
  change (store.tree key.environment).get? (Text.bytesOf key.topic) = some bytes at found
  refine ⟨fault.text, ?_⟩
  rw [TreeStore.read, found]
  simp only [decode, reads]
  rfl

theorem get?_kept (store : TreeStore) (topic : Option String) (place : Place) :
    (store.kept place.environment topic).get? place.topic =
      if place.isCovered place.environment topic = true then none else store.bytes? place := by
  cases topic with
  | none => simp [kept, Place.isCovered]
  | some topic =>
      rw [kept, OrderedMap.get?_erase]
      by_cases named : place.topic = Text.bytesOf topic
      · have covered : place.isCovered place.environment (some topic) = true := by
          simp [Place.isCovered, named]
        rw [if_pos (Std.LawfulEqOrd.compare_eq_iff_eq.mpr named), if_pos covered]
      · have spared : ¬place.isCovered place.environment (some topic) = true := by
          simp [Place.isCovered, Ne.symm named]
        rw [if_neg fun same => named (Std.LawfulEqOrd.eq_of_compare same), if_neg spared]
        rfl

/-- A deletion takes what stands in the places that it covers, and nothing else. -/
theorem bytes?_delete (store : TreeStore) (environment : String) (topic : Option String)
    (place : Place) :
    (store.delete environment topic).2.bytes? place =
      if place.isCovered environment topic = true then none else store.bytes? place := by
  rw [bytes?, (store.delete_spec environment topic).2]
  by_cases same : place.environment = environment
  · subst same
    rw [if_pos rfl]
    exact store.get?_kept topic place
  · have spared : ¬place.isCovered environment topic = true := by simp [Place.isCovered, same]
    rw [if_neg same, if_neg spared]
    rfl

/-- What a request does not delete stays as it is, unless it is a commit that can read it. -/
theorem bytes?_ask {request : Request} (stays : ¬request.Removes place)
    (unwritten : ∀ {stamp key partition offset storable},
      request = .commit stamp key partition offset storable → place = key.place →
        ∃ fault, store.read key = .error fault) :
    (ask store request).2.bytes? place = store.bytes? place := by
  cases request with
  | read | list | reopen => rfl
  | delete environment topic =>
      exact (store.bytes?_delete environment topic place).trans (if_neg stays)
  | commit stamp key partition offset storable =>
      cases reads : store.read key with
      | error fault => rw [ask_commit_of_error storable reads]
      | ok record =>
          have apart : place ≠ key.place := by
            intro same
            rcases unwritten rfl same with ⟨fault, fails⟩
            rw [reads] at fails
            cases fails
          rw [ask_commit_of_ok storable reads]
          exact (store.bytes?_put key.place place _).trans (if_neg apart)

/-! ## Stores that differ in some places -/

/-- Two stores hold the same bytes everywhere but in some places. -/
def Alike (aside : Place → Prop) (store other : TreeStore) : Prop :=
  ∀ place, ¬aside place → store.bytes? place = other.bytes? place

variable {aside : Place → Prop}

theorem Alike.read (alike : Alike aside store other) {key : TopicKey} (apart : ¬aside key.place) :
    store.read key = other.read key := by
  have same : (store.tree key.environment).get? (Text.bytesOf key.topic) =
      (other.tree key.environment).get? (Text.bytesOf key.topic) := alike key.place apart
  rw [TreeStore.read, TreeStore.read, same]

theorem Alike.put (alike : Alike aside store other) (place : Place) (record : Bytes) :
    Alike aside (store.put place.environment place.topic record)
      (other.put place.environment place.topic record) := by
  intro somewhere apart
  rw [bytes?_put, bytes?_put, alike somewhere apart]

theorem Alike.delete (alike : Alike aside store other) (environment : String)
    (topic : Option String) :
    Alike aside (store.delete environment topic).2 (other.delete environment topic).2 := by
  intro somewhere apart
  rw [bytes?_delete, bytes?_delete, alike somewhere apart]

/-- A deletion counts the records that it takes. -/
theorem count_delete_topic (store : TreeStore) (environment topic : String) :
    (store.delete environment (some topic)).1 =
      ((store.tree environment).contains (Text.bytesOf topic)).toNat := by
  rw [(store.delete_spec environment _).1, kept,
    ← OrderedMap.size_erase_add (store.tree environment) (Text.bytesOf topic),
    Nat.add_sub_cancel_left]

theorem count_delete_environment (store : TreeStore) (environment : String) :
    (store.delete environment none).1 = (store.tree environment).size :=
  (store.delete_spec environment none).1

theorem Alike.count_delete (alike : Alike aside store other) {environment : String}
    {topic : Option String} (avoids : (Request.delete environment topic).Avoids aside) :
    (store.delete environment topic).1 = (other.delete environment topic).1 := by
  cases topic with
  | some topic =>
      have apart : ¬aside ⟨environment, Text.bytesOf topic⟩ := by
        intro within
        exact avoids _ within (by simp [Place.isCovered])
      have same := alike _ apart
      rw [bytes?, bytes?] at same
      rw [count_delete_topic, count_delete_topic, OrderedMap.contains, OrderedMap.contains, same]
  | none =>
      have same : store.tree environment = other.tree environment := by
        apply OrderedMap.ext
        intro topic
        have apart : ¬aside ⟨environment, topic⟩ := by
          intro within
          exact avoids _ within (by simp [Place.isCovered])
        exact alike ⟨environment, topic⟩ apart
      rw [count_delete_environment, count_delete_environment, same]

theorem Alike.records (alike : Alike aside store other) {filter : Filter}
    (avoids : (Request.list filter).Avoids aside) :
    store.records filter = other.records filter := by
  apply (store.pairwise_records filter).eq_of_mem_iff (other.pairwise_records filter)
  intro held
  rw [mem_records_iff, mem_records_iff]
  apply and_congr_right
  intro selects
  rw [alike held.place fun within => avoids _ within selects]

/-- A request that avoids the places where two stores differ is answered alike by both, and
they differ in these places alone afterwards. -/
theorem Alike.ask (alike : Alike aside store other) {request : Request}
    (avoids : request.Avoids aside) :
    (Store.ask store request).1 = (Store.ask other request).1 ∧
      Alike aside (Store.ask store request).2 (Store.ask other request).2 := by
  cases request with
  | reopen => exact ⟨rfl, alike⟩
  | read key => exact ⟨congrArg (Except.map Answer.record) (alike.read avoids), alike⟩
  | list filter =>
      refine ⟨congrArg (Except.map Answer.listing) ?_, alike⟩
      change store.list filter = other.list filter
      rw [list_eq, list_eq, alike.records avoids]
  | delete environment topic =>
      exact ⟨congrArg (fun count => Except.ok (Answer.removed count)) (alike.count_delete avoids),
        alike.delete environment topic⟩
  | commit stamp key partition offset storable =>
      cases reads : store.read key with
      | error fault =>
          rw [ask_commit_of_error storable reads,
            ask_commit_of_error storable ((alike.read avoids).symm.trans reads)]
          exact ⟨rfl, alike⟩
      | ok record =>
          rw [ask_commit_of_ok storable reads,
            ask_commit_of_ok storable ((alike.read avoids).symm.trans reads)]
          exact ⟨rfl, alike.put key.place _⟩

/-- What stands in some places stays when a request avoids them. -/
theorem bytes?_ask_of_avoids {request : Request} (avoids : request.Avoids aside)
    (within : aside place) : (ask store request).2.bytes? place = store.bytes? place := by
  apply bytes?_ask
  · intro removes
    cases request with
    | delete => exact avoids place within removes
    | commit | read | list | reopen => exact removes
  · rintro stamp key partition offset storable rfl rfl
    exact absurd within avoids

/-- Requests that avoid the places where two stores differ are all answered alike. -/
theorem Alike.run (alike : Alike aside store other) {requests : List Request}
    (avoid : ∀ request ∈ requests, request.Avoids aside) :
    answers store requests = answers other requests ∧
      Alike aside (after store requests) (after other requests) := by
  induction requests generalizing store other with
  | nil => exact ⟨rfl, alike⟩
  | cons request rest ih =>
      rcases alike.ask (avoid request List.mem_cons_self) with ⟨answer, later⟩
      rcases ih later fun next member => avoid next (List.mem_cons_of_mem _ member) with
        ⟨others, last⟩
      rw [answers, answers, answer, others]
      exact ⟨rfl, last⟩

theorem bytes?_after_of_avoid {requests : List Request}
    (avoid : ∀ request ∈ requests, request.Avoids aside) (within : aside place) :
    (after store requests).bytes? place = store.bytes? place := by
  induction requests using List.reverseRecOn with
  | nil => rfl
  | append_singleton requests request ih =>
      rw [after_append_singleton, bytes?_ask_of_avoids (avoid request (by simp)) within]
      exact ih fun other member => avoid other (List.mem_append_left _ member)

/-! ## Damaged records -/

/-- The store without its damaged records. -/
def cleared (store : TreeStore) : TreeStore where
  trees := store.trees.mapValues fun _ tree =>
    tree.filter fun _ bytes => (TopicRecord.decode bytes).isOk

theorem bytes?_cleared (store : TreeStore) (place : Place) :
    store.cleared.bytes? place =
      (store.bytes? place).filter fun bytes => (TopicRecord.decode bytes).isOk := by
  rw [bytes?, bytes?, tree, tree, cleared, OrderedMap.getD, OrderedMap.getD,
    OrderedMap.get?_mapValues]
  cases store.trees.get? (treeName place.environment) with
  | none => rfl
  | some tree => exact tree.get?_filter (fun _ bytes => (TopicRecord.decode bytes).isOk) _

/-- A store differs from what is left of it without its damaged records in their places alone. -/
theorem alike_cleared (store : TreeStore) : Alike store.Damaged store store.cleared := by
  intro place sound
  rw [bytes?_cleared]
  cases found : store.bytes? place with
  | none => rfl
  | some bytes =>
      cases reads : TopicRecord.decode bytes with
      | error fault => exact absurd ⟨bytes, fault, found, reads⟩ sound
      | ok record =>
          symm
          rw [Option.filter_eq_some_iff, reads]
          exact ⟨rfl, rfl⟩

/-- A damaged record stays through every request that does not delete it. -/
theorem Damaged.bytes?_ask (damaged : store.Damaged place) {request : Request}
    (stays : ¬request.Removes place) : (ask store request).2.bytes? place = store.bytes? place := by
  apply TreeStore.bytes?_ask stays
  rintro stamp key partition offset storable rfl rfl
  rcases damaged.read with ⟨details, fails⟩
  exact ⟨_, fails⟩

theorem Damaged.of_bytes?_eq (damaged : store.Damaged place)
    (same : other.bytes? place = store.bytes? place) : other.Damaged place := by
  rcases damaged with ⟨bytes, fault, found, reads⟩
  exact ⟨bytes, fault, same.trans found, reads⟩

theorem Damaged.bytes?_after (damaged : store.Damaged place) {requests : List Request}
    (stays : ∀ request ∈ requests, ¬request.Removes place) :
    (after store requests).bytes? place = store.bytes? place := by
  induction requests using List.reverseRecOn with
  | nil => rfl
  | append_singleton requests request ih =>
      have earlier := ih fun other member => stays other (List.mem_append_left _ member)
      rw [after_append_singleton,
        (damaged.of_bytes?_eq earlier).bytes?_ask (stays request (by simp))]
      exact earlier

/-- A commit on the topic of a damaged record fails and changes nothing. -/
theorem Damaged.ask_commit {key : TopicKey} (damaged : store.Damaged key.place) (stamp : Instant)
    {partition offset : Int} (storable : Storable partition offset) :
    ∃ details, ask store (.commit stamp key partition offset storable) =
      (.error (.serialization details), store) := by
  rcases damaged.read with ⟨details, fails⟩
  exact ⟨details, ask_commit_of_error storable fails⟩

end TreeStore

/-! ## Many calls at the same time -/

namespace Traffic

variable {ι κ : Type} [DecidableEq ι] [DecidableEq κ] {callers : Callers ι κ} {store : TreeStore}
  {last : Traffic ι κ} {place : Place}

theorem bytes?_of_agrees {other : TreeStore} (agrees : store.Agrees other) (place : Place) :
    store.bytes? place = other.bytes? place := by
  rw [TreeStore.bytes?, TreeStore.bytes?, agrees]

/-- No call writes over a damaged record, in no moment of it. -/
theorem bytes?_eq (runs : ReflTransGen (Step callers) (start store) last)
    (damaged : store.Damaged place) (stays : ∀ i, ¬(callers.change i).request.Removes place) :
    last.forest.store.bytes? place = store.bytes? place := by
  have serial := (serial_start callers store).run runs
  rcases serial.exists_since fun i (returned : False) => returned.elim with ⟨earlier, -, agrees⟩
  rw [bytes?_of_agrees agrees, Callers.serial]
  apply damaged.bytes?_after
  intro request member
  rcases List.mem_map.mp member with ⟨i, -, rfl⟩
  exact stays i

/-- A commit on the topic of a damaged record is told so, whatever else goes on. -/
theorem answer_of_damaged (runs : ReflTransGen (Step callers) (start store) last) {key : TopicKey}
    (damaged : store.Damaged key.place) (stays : ∀ i, ¬(callers.change i).request.Removes key.place)
    {i : ι} {stamp : Instant} {partition offset : Int} {storable : Storable partition offset}
    (commits : callers.change i = .commit stamp key partition offset storable)
    {answer : Except Error Answer} (returned : last.writer i = .returned answer) :
    ∃ details, answer = .error (.serialization details) := by
  have serial := (serial_start callers store).run runs
  rcases serial.answered i answer returned with ⟨earlier, -, rfl⟩
  have same : (callers.serial store earlier).bytes? key.place = store.bytes? key.place := by
    apply damaged.bytes?_after
    intro request member
    rcases List.mem_map.mp member with ⟨j, -, rfl⟩
    exact stays j
  rcases (damaged.of_bytes?_eq same).ask_commit stamp storable with ⟨details, asked⟩
  rw [commits]
  exact ⟨details, congrArg Prod.fst asked⟩

/-- As long as there are only commits on topics of damaged records, nothing changes at all. -/
theorem agrees_of_damaged (runs : ReflTransGen (Step callers) (start store) last)
    (damaged : ∀ i, ∃ stamp key partition offset storable, store.Damaged (TopicKey.place key) ∧
      callers.change i = .commit stamp key partition offset storable) :
    last.forest.store.Agrees store := by
  have serial := (serial_start callers store).run runs
  rcases serial.exists_since fun i (returned : False) => returned.elim with ⟨earlier, -, agrees⟩
  have kept : callers.serial store earlier = store := by
    clear agrees
    induction earlier using List.reverseRecOn with
    | nil => rfl
    | append_singleton earlier i ih =>
        rcases damaged i with ⟨stamp, key, partition, offset, storable, spoilt, commits⟩
        rcases spoilt.ask_commit stamp storable with ⟨details, asked⟩
        rw [callers.serial_append_singleton, ih, commits]
        exact congrArg Prod.snd asked
  rwa [kept] at agrees

end Traffic

namespace TreeStore

variable {store : TreeStore} {filter : Filter}

/-! ## Listings and starts -/

theorem decode_eq_error {bytes : Bytes} {fault : Error} (fails : decode bytes = .error fault) :
    ∃ recordFault : RecordFault, TopicRecord.decode bytes = .error recordFault ∧
      fault = .serialization recordFault.text := by
  rw [decode] at fails
  cases reads : TopicRecord.decode bytes with
  | ok record =>
      rw [reads] at fails
      cases fails
  | error recordFault =>
      rw [reads] at fails
      cases fails
      exact ⟨recordFault, rfl, rfl⟩

/-- A listing that fails comes across a damaged record. -/
theorem exists_damaged_of_list {fault : Error} (fails : store.list filter = .error fault) :
    (∃ details, fault = .serialization details) ∧
      ∃ place, store.Damaged place ∧ filter.selects place.key = true := by
  rcases exists_held_of_list fails with ⟨held, member, reads⟩
  rcases mem_records_iff.mp member with ⟨selects, found⟩
  rcases decode_eq_error reads with ⟨recordFault, spoilt, same⟩
  exact ⟨⟨_, same⟩, held.place, ⟨held.bytes, recordFault, found, spoilt⟩, selects⟩

/-- A listing that succeeds comes across no damaged record. -/
theorem not_damaged_of_list {rows : List StoredOffset} (lists : store.list filter = .ok rows)
    {place : Place} (selects : filter.selects place.key = true) : ¬store.Damaged place := by
  rintro ⟨bytes, fault, found, spoilt⟩
  have member : Held.mk place bytes ∈ store.records filter := mem_records_iff.mpr ⟨selects, found⟩
  rcases (list_eq_ok_iff.mp lists).1 _ member with ⟨record, reads⟩
  rw [decode, spoilt] at reads
  cases reads

/-- The rows of a record that can be read are those that it stores. -/
theorem Held.rows_of_decode {held : Held} {record : TopicRecord}
    (reads : decode held.bytes = .ok record) :
    TopicRecord.decode held.bytes = .ok record ∧ held.rows = record.stored held.place.key := by
  constructor
  · rw [decode] at reads
    cases found : TopicRecord.decode held.bytes with
    | ok other =>
        rw [found] at reads
        cases reads
        rfl
    | error fault =>
        rw [found] at reads
        cases reads
  · rw [rows, read, reads]
    rfl

theorem list_fails_iff :
    (∃ fault, store.list filter = .error fault) ↔
      ∃ place, store.Damaged place ∧ filter.selects place.key = true := by
  constructor
  · rintro ⟨fault, fails⟩
    exact (exists_damaged_of_list fails).2
  · rintro ⟨place, damaged, selects⟩
    cases lists : store.list filter with
    | ok rows => exact absurd damaged (not_damaged_of_list lists selects)
    | error fault => exact ⟨fault, rfl⟩

/-- Where the record is damaged, a consumer that is to start where the last one stopped starts at
the end of the partition. -/
theorem Damaged.resolve {β σ : Type} [Broker.Client β σ] {environment : String}
    {part : TopicPartition} (damaged : store.Damaged (TopicKey.place ⟨environment, part.topic⟩))
    (client : β) (stop : Option Checkpoint) :
    Consumer.resolve client store environment part ⟨.stored, stop⟩ =
      Consumer.resolve client store environment part ⟨.newest, stop⟩ := by
  rcases damaged.read with ⟨details, fails⟩
  have nothing : Consumer.storedOffset? store environment part = none := by
    have unread : OffsetStore.read store ⟨environment, part.topic⟩ = .error _ := fails
    rw [Consumer.storedOffset?, unread]
  have start : Consumer.resolveStart client store environment part .stored =
      Consumer.resolveStart client store environment part .newest := by
    simp only [Consumer.resolveStart, nothing]
  rw [Consumer.resolve, Consumer.resolve, start]

/-! ## Containment -/

/-- Damaged records hurt the requests that need them, and no others. -/
structure Contained (store : TreeStore) : Prop where
  /-- A commit on the topic of a damaged record fails and changes nothing. -/
  commit : ∀ {stamp key partition offset} (storable : Storable partition offset),
    store.Damaged (TopicKey.place key) → ∃ details,
      ask store (.commit stamp key partition offset storable) =
        (.error (.serialization details), store)
  /-- It changes nothing in any of its steps, however many such commits and reads there are. -/
  commits : ∀ {ι κ : Type} [DecidableEq ι] [DecidableEq κ] {callers : Callers ι κ}
    {last : Traffic ι κ}, ReflTransGen (Traffic.Step callers) (.start store) last →
    (∀ i, ∃ stamp key partition offset storable, store.Damaged (TopicKey.place key) ∧
      callers.change i = .commit stamp key partition offset storable) →
    last.forest.store.Agrees store
  /-- No calls write over a damaged record, and all commits on its topic are told so, as long as
  none deletes it. -/
  stays : ∀ {ι κ : Type} [DecidableEq ι] [DecidableEq κ] {callers : Callers ι κ}
    {last : Traffic ι κ} {place : Place}, ReflTransGen (Traffic.Step callers) (.start store) last →
    store.Damaged place → (∀ i, ¬(callers.change i).request.Removes place) →
    last.forest.store.bytes? place = store.bytes? place ∧
      ∀ {i stamp key partition offset storable answer}, place = TopicKey.place key →
        callers.change i = .commit stamp key partition offset storable →
        last.writer i = .returned answer → ∃ details, answer = .error (.serialization details)
  /-- Requests that have nothing to do with damaged records are answered as if there were none,
  leave the same records, and leave the damaged ones as they are. -/
  others : ∀ {requests : List Request}, (∀ request ∈ requests, request.Avoids store.Damaged) →
    answers store requests = answers store.cleared requests ∧
      ∀ place, (store.Damaged place → (after store requests).bytes? place = store.bytes? place) ∧
        (¬store.Damaged place →
          (after store requests).bytes? place = (after store.cleared requests).bytes? place)
  /-- A listing fails if a record is damaged that its filter selects. -/
  list_fails : ∀ {filter}, (∃ fault, store.list filter = .error fault) ↔
    ∃ place, store.Damaged place ∧ filter.selects place.key = true
  list_fault : ∀ {filter fault}, store.list filter = .error fault →
    ∃ details, fault = .serialization details
  /-- Otherwise it has the rows of all records that its filter selects, in order. -/
  lists : ∀ {filter rows}, store.list filter = .ok rows → ∃ held : List Held,
    held.Pairwise Held.Precedes ∧
      (∀ record, record ∈ held ↔
        filter.selects record.place.key = true ∧ store.bytes? record.place = some record.bytes) ∧
      (∀ record ∈ held, ∃ read, TopicRecord.decode record.bytes = .ok read ∧
        record.rows = read.stored record.place.key) ∧
      rows = held.flatMap Held.rows
  /-- A damaged record is counted when its topic is deleted. -/
  delete_topic : ∀ {key}, store.Damaged (TopicKey.place key) →
    (ask store (.delete key.environment (some key.topic))).1 = .ok (.removed 1) ∧
      ∀ place, (ask store (.delete key.environment (some key.topic))).2.bytes? place =
        if place = key.place then none else store.bytes? place
  /-- All records are counted when an environment is deleted, damaged or not. -/
  delete_environment : ∀ {environment},
    (ask store (.delete environment none)).1 = .ok (.removed (store.tree environment).size) ∧
      ∀ place, (ask store (.delete environment none)).2.bytes? place =
        if place.environment = environment then none else store.bytes? place
  /-- A consumer that is to start where the last one stopped starts at the end. -/
  starts : ∀ {β σ : Type} [Broker.Client β σ] {environment part},
    store.Damaged (TopicKey.place ⟨environment, part.topic⟩) → ∀ (client : β) stop,
      Consumer.resolve client store environment part ⟨.stored, stop⟩ =
        Consumer.resolve client store environment part ⟨.newest, stop⟩

/-- Whatever bytes a tree store holds, its damaged records are contained. -/
theorem damage_contained (store : TreeStore) : store.Contained where
  commit storable damaged := damaged.ask_commit _ storable
  commits := Traffic.agrees_of_damaged
  stays := by
    rintro ι κ _ _ callers last place runs damaged stays
    refine ⟨Traffic.bytes?_eq runs damaged stays, ?_⟩
    rintro i stamp key partition offset storable answer rfl commits returned
    exact Traffic.answer_of_damaged runs damaged stays commits returned
  others := by
    intro requests avoid
    rcases store.alike_cleared.run avoid with ⟨same, alike⟩
    exact ⟨same, fun place => ⟨bytes?_after_of_avoid avoid, alike place⟩⟩
  list_fails := list_fails_iff
  list_fault fails := (exists_damaged_of_list fails).1
  lists := by
    intro filter rows lists
    rcases list_eq_ok_iff.mp lists with ⟨sound, rows_eq⟩
    refine ⟨_, store.pairwise_records filter, fun _ => mem_records_iff, ?_, rows_eq⟩
    intro held member
    rcases sound held member with ⟨record, reads⟩
    exact ⟨record, Held.rows_of_decode reads⟩
  delete_topic := by
    rintro key ⟨bytes, fault, found, -⟩
    constructor
    · have present : (store.tree key.environment).contains (Text.bytesOf key.topic) = true :=
        Option.isSome_of_eq_some found
      change Except.ok (Answer.removed (store.delete key.environment (some key.topic)).1) = _
      rw [count_delete_topic, present]
      rfl
    · intro place
      exact (store.bytes?_delete key.environment (some key.topic) place).trans
        (if_congr isCovered_topic_iff rfl rfl)
  delete_environment := by
    intro environment
    constructor
    · exact congrArg (fun count => Except.ok (Answer.removed count))
        (store.count_delete_environment environment)
    · intro place
      refine (store.bytes?_delete environment none place).trans (if_congr ?_ rfl rfl)
      simp [Place.isCovered]
  starts damaged := damaged.resolve

/-- A store with bytes that are no record for one topic, and a record for another. -/
def spoilt : TreeStore :=
  (TreeStore.put {} "prod" (Text.bytesOf "orders") [1, 2, 3]).put "prod" (Text.bytesOf "users")
    (TopicRecord.encode ⟨.ofList [(0, 5)], none⟩)

/-- Three bytes are too few for a record. A commit on its topic fails, and so does a listing of
all topics; a commit on the other topic succeeds, and what is damaged can be deleted. -/
theorem damage_contained_spoilt :
    spoilt.Damaged (TopicKey.place ⟨"prod", "orders"⟩) ∧
      (∃ details, ask spoilt (.commit .epoch ⟨"prod", "orders"⟩ 0 42 (by decide)) =
        (.error (.serialization details), spoilt)) ∧
      (∃ fault, spoilt.list {} = .error fault) ∧
      answers spoilt [.commit .epoch ⟨"prod", "users"⟩ 1 7 (by decide), .read ⟨"prod", "users"⟩] =
        [.ok .done, .ok (.record ⟨.ofList [(0, 5), (1, 7)], some .epoch⟩)] ∧
      (ask spoilt (.delete "prod" (some "orders"))).1 = .ok (.removed 1) ∧
      (ask spoilt (.delete "prod" none)).1 = .ok (.removed 2) := by
  have contained := damage_contained spoilt
  have damaged : spoilt.Damaged (TopicKey.place ⟨"prod", "orders"⟩) :=
    ⟨[1, 2, 3], .truncated, rfl, rfl⟩
  have sound : ¬spoilt.Damaged (TopicKey.place ⟨"prod", "users"⟩) := by
    rintro ⟨bytes, fault, found, reads⟩
    cases found
    cases reads
  have avoid : ∀ request ∈ [Request.commit .epoch ⟨"prod", "users"⟩ 1 7 (by decide),
      .read ⟨"prod", "users"⟩], request.Avoids spoilt.Damaged := by
    simp [Request.Avoids, sound]
  refine ⟨damaged, contained.commit _ damaged, contained.list_fails.mpr ⟨_, damaged, rfl⟩, ?_,
    (contained.delete_topic damaged).1, contained.delete_environment.1⟩
  rw [(contained.others avoid).1]
  rfl

end TreeStore

end TopicReplay.Store
