import TopicReplay.Proofs.Broker.Operation

/-!
# Streams that wait

A partition counts how often it was changed. Whoever changes it does so first and announces
the change afterwards, which makes the count go up. A stream marks the count that it has seen,
reads, and where there was nothing to read it waits for the count to be another one. Any number
of streams and of changes can be under way at the same time, each one step at a time.

`streams_faithful` says that streams lose and repeat nothing, that each injected error is given
to one of them, and that no stream waits while there is something to read for it. The last part
is due to the order of the steps: marking before reading, and changing before announcing.

Where a stream stands is a number of 64 bits. There is none behind the last of them, so that a
stream that is given a message there has nowhere to go (`last_message_repeated`). This is the one
thing that keeps a stream from being served.
-/

namespace TopicReplay.Broker

open Relation (ReflTransGen)

/-! ## Numbers of 64 bits -/

/-- Whether a whole number is one of 64 bits. -/
def IsInt64 (n : Int) : Prop := Text.minInt64 ≤ n ∧ n ≤ Text.maxInt64

instance (n : Int) : Decidable (IsInt64 n) := inferInstanceAs (Decidable (_ ∧ _))

/-- What becomes of a sum that is no number of 64 bits. -/
inductive Overflow where
  /-- Its lowest 64 bits are left of it. -/
  | wraps
  /-- The computation breaks off. -/
  | breaks

/-- The number of 64 bits that a sum becomes, if it becomes one. -/
def Overflow.settle? : Overflow → Int → Option Int
  | .wraps, n => some (Int64.ofInt n).toInt
  | .breaks, n => if IsInt64 n then some n else none

namespace Overflow

/-- A sum that is a number of 64 bits stays what it is. -/
theorem settle?_of_isInt64 (overflow : Overflow) {n : Int} (sized : IsInt64 n) :
    overflow.settle? n = some n := by
  unfold IsInt64 Text.minInt64 Text.maxInt64 at sized
  cases overflow with
  | wraps => exact congrArg some (Int64.toInt_ofInt_of_le (by omega) (by omega))
  | breaks => exact if_pos sized

theorem isInt64_of_settle? {overflow : Overflow} {n settled : Int}
    (settles : overflow.settle? n = some settled) : IsInt64 settled := by
  cases overflow with
  | wraps =>
      cases settles
      have least := (Int64.ofInt n).le_toInt
      have most := (Int64.ofInt n).toInt_lt
      unfold IsInt64 Text.minInt64 Text.maxInt64
      omega
  | breaks =>
      rcases Option.ite_none_right_eq_some.mp settles with ⟨sized, same⟩
      exact Option.some.inj same ▸ sized

theorem eq_breaks_of_settle? {overflow : Overflow} {n : Int} (lost : overflow.settle? n = none) :
    overflow = .breaks := by
  cases overflow with
  | wraps => cases lost
  | breaks => rfl

end Overflow

/-! ## Streams over a partition -/

/-- How far a stream has come. -/
inductive Attention where
  /-- It is about to look. -/
  | idle
  /-- It has marked a count as seen and is about to read. -/
  | marked (seen : Nat)
  /-- It has found nothing and waits for another count than the one that it has seen. -/
  | waiting (seen : Nat)
  | ended
  /-- It has broken off on its way behind a message, which is lost to it. -/
  | broken
  /-- It was given up. -/
  | released
  deriving DecidableEq, Repr

/-- Where a stream that has marked a count is after reading. -/
def Attention.after (seen : Nat) : Reading → Attention
  | .message _ | .fault _ => .idle
  | .waiting => .waiting seen
  | .ended => .ended

/-- One stream over a partition. -/
structure Listener where
  start : Int
  cursor : Cursor
  attention : Attention := .idle
  deriving DecidableEq, Repr

/-- What one read has given to a stream, with where its cursor stood and the lowest offset that
the log had. -/
structure Gift where
  listener : Nat
  position : Int
  low : Int
  item : Except Error Message

/-- What a reading gives. -/
def Reading.item? : Reading → Option (Except Error Message)
  | .message m => some (.ok m)
  | .fault e => some (.error e)
  | .waiting | .ended => none

namespace Gift

/-- The message that was given, if it was one. -/
def message? (gift : Gift) : Option Message := gift.item.toOption

/-- The error that was given, if it was one. -/
def fault? (gift : Gift) : Option Error :=
  match gift.item with
  | .ok _ => none
  | .error e => some e

end Gift

/-- The error that an operation injects, if it does. -/
def Operation.fault? : Operation → Option Error
  | .inject e => some e
  | .produce _ _ _ | .truncate _ | .close => none

/-- Whether the offset that an operation is called with, if it is, is a number of 64 bits. -/
def Operation.IsSized : Operation → Prop
  | .truncate offset => IsInt64 offset
  | .produce _ _ _ | .close | .inject _ => True

/-- A partition with the streams over it. -/
structure Audience where
  broker : LogBroker
  listeners : List Listener := []
  /-- How many changes were announced. -/
  count : Nat := 0
  /-- How many changes were made and are yet to be announced. -/
  unannounced : Nat := 0
  /-- The errors that were injected, in order. -/
  injected : List Error := []
  /-- What was given to streams, in order. -/
  given : List Gift := []

namespace Audience

/-- Whatever can happen to a partition and the streams over it. The offsets that callers ask for
are numbers of 64 bits. Messages that are appended behind the last of these have offsets here that
no stream comes to. -/
inductive Step (overflow : Overflow) (place : TopicPartition) (audience : Audience) :
    Audience → Prop where
  | attach {start : Int} {cursor : Cursor} {broker : LogBroker} (sized : IsInt64 start)
      (attaches : audience.broker.attach place start = .ok (cursor, broker)) :
      Step overflow place audience
        { audience with broker, listeners := audience.listeners ++ [{ start, cursor }] }
  | change {operation : Operation} {offset? : Option Int} {broker : LogBroker}
      (sized : operation.IsSized)
      (changes : audience.broker.operate place operation = .ok (offset?, broker)) :
      Step overflow place audience
        { audience with
          broker
          unannounced := audience.unannounced + 1
          injected := audience.injected ++ operation.fault?.toList }
  | announce {others : Nat} (changed : audience.unannounced = others + 1) :
      Step overflow place audience
        { audience with count := audience.count + 1, unannounced := others }
  | mark {i : Nat} {listener : Listener} (at_i : audience.listeners[i]? = some listener)
      (idle : listener.attention = .idle) :
      Step overflow place audience
        { audience with
          listeners :=
            audience.listeners.set i { listener with attention := .marked audience.count } }
  | read {i seen : Nat} {listener : Listener} {reading : Reading} {cursor : Cursor}
      {broker : LogBroker} {next : Int} (at_i : audience.listeners[i]? = some listener)
      (marked : listener.attention = .marked seen)
      (polls : audience.broker.poll listener.cursor = (reading, cursor, broker))
      (settles : overflow.settle? cursor.next = some next) :
      Step overflow place audience
        { audience with
          broker
          listeners := audience.listeners.set i
            { listener with
              cursor := { cursor with next }
              attention := .after seen reading }
          given := audience.given ++ (reading.item?.map
            (Gift.mk i listener.cursor.next (audience.broker.log listener.cursor.log).low)).toList }
  | breakOff {i seen : Nat} {listener : Listener} {reading : Reading} {cursor : Cursor}
      {broker : LogBroker} (at_i : audience.listeners[i]? = some listener)
      (marked : listener.attention = .marked seen)
      (polls : audience.broker.poll listener.cursor = (reading, cursor, broker))
      (lost : overflow.settle? cursor.next = none) :
      Step overflow place audience
        { audience with
          broker
          listeners := audience.listeners.set i { listener with attention := .broken } }
  | wake {i seen : Nat} {listener : Listener} (at_i : audience.listeners[i]? = some listener)
      (waiting : listener.attention = .waiting seen) (another : audience.count ≠ seen) :
      Step overflow place audience
        { audience with
          listeners := audience.listeners.set i { listener with attention := .idle } }
  | release {i : Nat} {listener : Listener} (at_i : audience.listeners[i]? = some listener)
      (held : listener.attention ≠ .released) :
      Step overflow place audience
        { audience with
          broker := audience.broker.release
          listeners := audience.listeners.set i { listener with attention := .released } }

end Audience

/-! ## What one stream has been given -/

/-- The messages among gifts. -/
def messagesOf (gifts : List Gift) : List Message := gifts.filterMap Gift.message?

/-- The errors among gifts. -/
def faultsOf (gifts : List Gift) : List Error := gifts.filterMap Gift.fault?

theorem messagesOf_append (gifts more : List Gift) :
    messagesOf (gifts ++ more) = messagesOf gifts ++ messagesOf more :=
  List.filterMap_append

theorem faultsOf_append (gifts more : List Gift) :
    faultsOf (gifts ++ more) = faultsOf gifts ++ faultsOf more :=
  List.filterMap_append

/-- Whether gifts are what a stream has to be given on its way from one offset to another. -/
structure Served (start next : Int) (gifts : List Gift) : Prop where
  start_le : start ≤ next
  within : ∀ m ∈ messagesOf gifts, start ≤ m.offset ∧ m.offset < next
  ascending : (messagesOf gifts).Pairwise fun first second => first.offset < second.offset
  /-- Every offset on the way was given, or lay below the log when a read passed it. -/
  complete : ∀ offset, start ≤ offset → offset < next →
    (∃ m ∈ messagesOf gifts, m.offset = offset) ∨
      ∃ gift ∈ gifts, ∃ m, gift.message? = some m ∧ gift.position ≤ offset ∧ offset < m.offset ∧
        offset < gift.low

theorem served_start (start : Int) : Served start start [] where
  start_le := Int.le_refl start
  within _ member := absurd member List.not_mem_nil
  ascending := .nil
  complete _ le lt := absurd lt (Int.not_lt.mpr le)

/-- An error leaves a stream where it is. -/
theorem Served.fault {start next : Int} {gifts : List Gift} (served : Served start next gifts)
    {gift : Gift} (no_message : gift.message? = none) : Served start next (gifts ++ [gift]) := by
  have same : messagesOf (gifts ++ [gift]) = messagesOf gifts := by simp [messagesOf, no_message]
  constructor
  · exact served.start_le
  · rw [same]
    exact served.within
  · rw [same]
    exact served.ascending
  · rw [same]
    intro offset le lt
    rcases served.complete offset le lt with given | ⟨other, member, passed⟩
    · exact .inl given
    · exact .inr ⟨other, List.mem_append_left _ member, passed⟩

/-- A message takes a stream behind it, over what the log has lost before it. -/
theorem Served.message {start next : Int} {gifts : List Gift} (served : Served start next gifts)
    {gift : Gift} {m : Message} (gives : gift.message? = some m) (position : gift.position = next)
    (offset_eq : m.offset = max next gift.low) :
    Served start (m.offset + 1) (gifts ++ [gift]) := by
  have messages_eq : messagesOf (gifts ++ [gift]) = messagesOf gifts ++ [m] := by
    simp [messagesOf, gives]
  have start_le := served.start_le
  constructor
  · omega
  · intro other member
    rw [messages_eq] at member
    rcases List.mem_append.mp member with old | new
    · have bounds := served.within other old
      omega
    · cases List.mem_singleton.mp new
      omega
  · rw [messages_eq]
    refine List.pairwise_append.mpr
      ⟨served.ascending, List.pairwise_singleton _ _, fun other old last new => ?_⟩
    cases List.mem_singleton.mp new
    have bounds := served.within other old
    omega
  · intro offset le lt
    rw [messages_eq]
    by_cases before : offset < next
    · rcases served.complete offset le before with
        ⟨other, member, other_eq⟩ | ⟨other, member, passed⟩
      · exact .inl ⟨other, List.mem_append_left _ member, other_eq⟩
      · exact .inr ⟨other, List.mem_append_left _ member, passed⟩
    · by_cases here : offset = m.offset
      · exact .inl ⟨m, List.mem_append_right _ (List.mem_singleton_self m), here.symm⟩
      · exact .inr ⟨gift, List.mem_append_right _ (List.mem_singleton_self gift), m, gives,
          by omega, by omega, by omega⟩

/-- Reading serves a stream. -/
theorem Served.read {log : PartitionLog} (dense : log.Dense) {start : Int} {cursor : Cursor}
    {gifts : List Gift} (served : Served start cursor.next gifts) (i : Nat) {reading : Reading}
    (reads : (log.read cursor.next).1 = reading) :
    Served start (cursor.advance reading).next
      (gifts ++ (reading.item?.map (Gift.mk i cursor.next log.low)).toList) := by
  cases reading with
  | message m =>
      have found := (PartitionLog.read_eq_message_iff.mp reads).2
      exact served.message rfl rfl (dense.of_messageAt? found).1
  | fault e => exact served.fault rfl
  | waiting =>
      rw [Reading.item?, Option.map_none, Option.toList_none, List.append_nil]
      exact served
  | ended =>
      rw [Reading.item?, Option.map_none, Option.toList_none, List.append_nil]
      exact served

namespace PartitionLog

/-! ## Errors that wait for a reader -/

theorem faults_change (operation : Operation) (log : PartitionLog) :
    (operation.change log).faults = log.faults ++ operation.fault?.toList := by
  cases operation with
  | produce key value timestamp => exact (List.append_nil _).symm
  | truncate offset =>
      simp only [Operation.change, truncate, Operation.fault?, Option.toList_none, List.append_nil]
      split <;> rfl
  | close => exact (List.append_nil _).symm
  | inject e => rfl

/-- A read hands out the first error that waits, if one does, and no other. -/
theorem faults_read (log : PartitionLog) (offset : Int) (i : Nat) (position low : Int) :
    log.faults = faultsOf ((log.read offset).1.item?.map (Gift.mk i position low)).toList ++
      (log.read offset).2.faults := by
  cases waiting : log.faults with
  | nil =>
      rw [read_of_no_faults waiting, waiting, List.append_nil]
      cases reading : (log.read offset).1 with
      | message m => rfl
      | fault e =>
          obtain ⟨rest, faults_eq⟩ := read_eq_fault_iff.mp reading
          rw [waiting] at faults_eq
          cases faults_eq
      | waiting => rfl
      | ended => rfl
  | cons e rest =>
      rw [read_of_faults waiting, read_eq_fault_iff.mpr ⟨rest, waiting⟩]
      rfl

/-- Where a reader has found nothing, reading has left the log as it was. -/
theorem read_of_waiting {log : PartitionLog} {offset : Int}
    (waiting : (log.read offset).1 = .waiting) (other : Int) : (log.read other).2 = log :=
  read_of_no_faults (read_eq_waiting_iff.mp waiting).1 other

/-- Behind the end of a log there is no message that is left. -/
theorem Dense.lt_of_messageAt?_eq_none {log : PartitionLog} (dense : log.Dense) {offset : Int}
    (missing : log.messageAt? offset = none) : ∀ m ∈ log.messages, m.offset < offset := by
  intro m member
  have bounds := dense.bounds member
  have beyond := (log.messageAt?_eq_none_iff offset).mp missing
  omega

/-- No message at a place of 64 bits has an offset beyond them. -/
theorem Dense.offset_le {log : PartitionLog} (dense : log.Dense) (low_le : log.low ≤ Text.maxInt64)
    {offset : Int} (sized : IsInt64 offset) {m : Message}
    (reads : (log.read offset).1 = .message m) : m.offset ≤ Text.maxInt64 := by
  have offset_eq := (dense.of_messageAt? (read_eq_message_iff.mp reads).2).1
  rw [offset_eq]
  exact Int.max_le.mpr ⟨sized.2, low_le⟩

/-- Behind every other offset than the last one there is a place of 64 bits. -/
theorem Dense.isInt64_advance {log : PartitionLog} (dense : log.Dense)
    (low_le : log.low ≤ Text.maxInt64) {cursor : Cursor} (sized : IsInt64 cursor.next)
    {reading : Reading} (reads : (log.read cursor.next).1 = reading)
    (spared : ∀ m, reading = .message m → m.offset ≠ Text.maxInt64) :
    IsInt64 (cursor.advance reading).next := by
  cases reading with
  | message m =>
      have most := dense.offset_le low_le sized reads
      have offset_eq := (dense.of_messageAt? (read_eq_message_iff.mp reads).2).1
      have last := spared m rfl
      have least := sized.1
      simp only [IsInt64, Cursor.advance]
      omega
  | fault e => exact sized
  | waiting => exact sized
  | ended => exact sized

end PartitionLog

/-- No operation takes the lowest offset of a log beyond the numbers of 64 bits. -/
theorem Operation.low_change_le {operation : Operation} (sized : operation.IsSized)
    {log : PartitionLog} (low_le : log.low ≤ Text.maxInt64) :
    (operation.change log).low ≤ Text.maxInt64 := by
  cases operation with
  | produce key value timestamp => exact low_le
  | truncate offset =>
      rw [change, PartitionLog.low_truncate]
      exact Int.max_le.mpr ⟨low_le, sized.2⟩
  | close => exact low_le
  | inject e => exact low_le

/-- A message that is given is the one that was read. -/
theorem eq_message_of_mem {reading : Reading} {i : Nat} {position low : Int} {m : Message}
    (member : m ∈ messagesOf (reading.item?.map (Gift.mk i position low)).toList) :
    reading = .message m := by
  cases reading with
  | message other =>
      cases List.mem_singleton.mp member
      rfl
  | fault e => cases member
  | waiting => cases member
  | ended => cases member

namespace Audience

/-! ## What is true of all streams -/

/-- What was given to one stream, in order. -/
def givenTo (audience : Audience) (i : Nat) : List Gift :=
  audience.given.filter (·.listener = i)

/-- Whether a stream has not missed a change: what it has marked was announced, and where it
waits there is nothing to read, or a count that it has not seen was reached or is about to be. -/
def IsAttentive (n : Nat) (audience : Audience) (listener : Listener) : Prop :=
  match listener.attention with
  | .marked seen => seen ≤ audience.count
  | .waiting seen => seen ≤ audience.count ∧
      (((audience.broker.log n).read listener.cursor.next).1 = .waiting ∨
        seen < audience.count + audience.unannounced)
  | .idle | .ended | .broken | .released => True

/-- What is true of each stream over a log. -/
structure Heard (n : Nat) (audience : Audience) (i : Nat) (listener : Listener) : Prop where
  log_eq : listener.cursor.log = n
  sized : IsInt64 listener.cursor.next
  within : ∀ m ∈ messagesOf (audience.givenTo i), m.offset ≤ Text.maxInt64
  served : (∀ m ∈ messagesOf (audience.givenTo i), m.offset ≠ Text.maxInt64) →
    Served listener.start listener.cursor.next (audience.givenTo i)
  attentive : audience.IsAttentive n listener

/-- What is true of a partition and the streams over it. -/
structure Sound (place : TopicPartition) (n : Nat) (audience : Audience) : Prop where
  keeps : LogBroker.KeepsAt place n audience.broker
  dense : (audience.broker.log n).Dense
  low_le : (audience.broker.log n).low ≤ Text.maxInt64
  heard : ∀ i listener, audience.listeners[i]? = some listener → audience.Heard n i listener
  /-- Errors are handed out in the order in which they were injected. -/
  handed : audience.injected = faultsOf audience.given ++ (audience.broker.log n).faults
  known : ∀ gift ∈ audience.given, gift.listener < audience.listeners.length

variable {overflow : Overflow} {place : TopicPartition} {n i : Nat} {audience after : Audience}
  {listener : Listener}

/-- What others do does not concern a stream, but for a change of the log, which it will be told
of. -/
theorem Heard.aside (heard : audience.Heard n i listener)
    (given_eq : after.givenTo i = audience.givenTo i) (count_le : audience.count ≤ after.count)
    (sum_le : audience.count + audience.unannounced ≤ after.count + after.unannounced)
    (told : ((audience.broker.log n).read listener.cursor.next).1 = .waiting →
      ((after.broker.log n).read listener.cursor.next).1 = .waiting ∨
        audience.count + audience.unannounced < after.count + after.unannounced) :
    after.Heard n i listener := by
  refine ⟨heard.log_eq, heard.sized, given_eq ▸ heard.within, given_eq ▸ heard.served, ?_⟩
  have attentive := heard.attentive
  unfold IsAttentive at attentive ⊢
  split
  · rename_i marked
    rw [marked] at attentive
    exact Nat.le_trans attentive count_le
  · rename_i waiting
    rw [waiting] at attentive
    rcases attentive with ⟨seen_le, nothing | coming⟩
    · refine ⟨Nat.le_trans seen_le count_le, (told nothing).imp_right fun more => ?_⟩
      omega
    · exact ⟨Nat.le_trans seen_le count_le, .inr (Nat.lt_of_lt_of_le coming sum_le)⟩
  all_goals trivial

/-- A stream that is new was given nothing, and has missed nothing. -/
theorem heard_attached {start : Int} (sized : IsInt64 start)
    (none_given : audience.givenTo i = []) :
    audience.Heard n i { start, cursor := ⟨n, start⟩ } where
  log_eq := rfl
  sized := sized
  within m member := by
    rw [none_given] at member
    cases member
  served _ := none_given ▸ served_start start
  attentive := trivial

/-- Each step that a stream takes without reading leaves it with what it was given. -/
theorem Heard.turn (heard : audience.Heard n i listener) {attention : Attention}
    (attentive : after.IsAttentive n { listener with attention })
    (given_eq : after.givenTo i = audience.givenTo i) :
    after.Heard n i { listener with attention } :=
  ⟨heard.log_eq, heard.sized, given_eq ▸ heard.within, given_eq ▸ heard.served, attentive⟩

/-- A stream that has not gone on is as it was. -/
theorem getElem?_set_cases {listeners : List Listener} {next other : Listener} {j : Nat}
    (found : (listeners.set i next)[j]? = some other) :
    (j = i ∧ other = next) ∨ (j ≠ i ∧ listeners[j]? = some other) := by
  by_cases same : j = i
  · subst same
    have inside : j < listeners.length := by
      simpa using (List.getElem?_eq_some_iff.mp found).choose
    rw [List.getElem?_set_self inside] at found
    exact .inl ⟨rfl, (Option.some.inj found).symm⟩
  · rw [List.getElem?_set_ne (Ne.symm same)] at found
    exact .inr ⟨same, found⟩

/-- A stream that goes on without reading. -/
theorem Sound.turn (sound : audience.Sound place n) (at_i : audience.listeners[i]? = some listener)
    {attention : Attention}
    (attentive : audience.IsAttentive n { listener with attention }) :
    Sound place n { audience with
      listeners := audience.listeners.set i { listener with attention } } where
  keeps := sound.keeps
  dense := sound.dense
  low_le := sound.low_le
  heard := by
    intro j other found
    rcases getElem?_set_cases found with ⟨rfl, rfl⟩ | ⟨-, found⟩
    · exact (sound.heard j listener at_i).turn attentive rfl
    · exact (sound.heard j other found).aside rfl (Nat.le_refl _) (Nat.le_refl _) .inl
  handed := sound.handed
  known := by simpa using sound.known

/-- What leaves the log alone leaves the streams over it alone. -/
theorem Sound.of_log_eq (sound : audience.Sound place n) {broker : LogBroker}
    (keeps : LogBroker.KeepsAt place n broker) (log_eq : broker.log n = audience.broker.log n) :
    Sound place n { audience with broker } where
  keeps := keeps
  dense := log_eq ▸ sound.dense
  low_le := log_eq ▸ sound.low_le
  heard j other found := by
    refine (sound.heard j other found).aside rfl (Nat.le_refl _) (Nat.le_refl _) fun waiting => ?_
    rw [log_eq]
    exact .inl waiting
  handed := log_eq ▸ sound.handed
  known := sound.known

theorem Sound.attach (sound : audience.Sound place n) {start : Int} (sized : IsInt64 start)
    {cursor : Cursor} {broker : LogBroker}
    (attaches : audience.broker.attach place start = .ok (cursor, broker)) :
    Sound place n
      { audience with broker, listeners := audience.listeners ++ [{ start, cursor }] } := by
  rcases LogBroker.attach_eq_ok_iff.mp attaches with ⟨located, located_eq, rfl, rfl⟩
  cases sound.keeps.located.symm.trans located_eq
  constructor
  · exact ⟨sound.keeps.located, sound.keeps.inside⟩
  · exact sound.dense
  · exact sound.low_le
  · intro j other found
    by_cases old : j < audience.listeners.length
    · rw [List.getElem?_append_left old] at found
      exact (sound.heard j other found).aside rfl (Nat.le_refl _) (Nat.le_refl _) .inl
    · rw [List.getElem?_append_right (Nat.not_lt.mp old), List.getElem?_singleton] at found
      split at found
      · cases found
        apply heard_attached sized
        -- all gifts are for streams that were there before
        rw [givenTo, List.filter_eq_nil_iff]
        intro gift member
        have known := sound.known gift member
        rw [decide_eq_true_eq]
        omega
      · cases found
  · exact sound.handed
  · intro gift member
    rw [List.length_append]
    exact Nat.lt_add_right _ (sound.known gift member)

theorem Sound.change (sound : audience.Sound place n) {operation : Operation}
    (sized : operation.IsSized) {offset? : Option Int} {broker : LogBroker}
    (changes : audience.broker.operate place operation = .ok (offset?, broker)) :
    Sound place n
      { audience with
        broker
        unannounced := audience.unannounced + 1
        injected := audience.injected ++ operation.fault?.toList } := by
  rw [sound.keeps.operate_eq] at changes
  cases changes
  have log_eq := sound.keeps.log_modify operation.change
  constructor
  · exact sound.keeps.modify operation.change
  · rw [log_eq]
    exact operation.dense_change sound.dense
  · rw [log_eq]
    exact operation.low_change_le sized sound.low_le
  · intro j other found
    refine (sound.heard j other found).aside rfl (Nat.le_refl _) ?_ fun _ => .inr ?_
    · exact Nat.le_succ _
    · exact Nat.lt_succ_self _
  · rw [log_eq, PartitionLog.faults_change, sound.handed, List.append_assoc]
  · exact sound.known

theorem Sound.announce (sound : audience.Sound place n) {others : Nat}
    (changed : audience.unannounced = others + 1) :
    Sound place n { audience with count := audience.count + 1, unannounced := others } where
  keeps := sound.keeps
  dense := sound.dense
  low_le := sound.low_le
  heard j other found := by
    refine (sound.heard j other found).aside rfl (Nat.le_succ _) ?_ .inl
    simp only
    omega
  handed := sound.handed
  known := sound.known

/-- What one read gives is for the stream that reads. -/
theorem givenTo_append (given : List Gift) (i j : Nat) (position low : Int)
    (item? : Option (Except Error Message)) :
    ((given ++ (item?.map (Gift.mk i position low)).toList).filter fun gift => gift.listener = j) =
      (given.filter fun gift => gift.listener = j) ++
        if j = i then (item?.map (Gift.mk i position low)).toList else [] := by
  rw [List.filter_append]
  cases item? with
  | none => simp
  | some item => by_cases same : j = i <;> simp [same, Ne.symm]

/-- A stream that has read stands where reading takes it, and was given what is to be given to it
there. -/
theorem Heard.read (heard : audience.Heard n i listener) (dense : (audience.broker.log n).Dense)
    (low_le : (audience.broker.log n).low ≤ Text.maxInt64) {reading : Reading}
    (reads : ((audience.broker.log n).read listener.cursor.next).1 = reading) {next : Int}
    (settles : overflow.settle? (listener.cursor.advance reading).next = some next)
    (given_eq : after.givenTo i = audience.givenTo i ++ (reading.item?.map
      (Gift.mk i listener.cursor.next (audience.broker.log n).low)).toList)
    {attention : Attention} (attentive : after.IsAttentive n
      { listener with cursor := { listener.cursor.advance reading with next }, attention }) :
    after.Heard n i
      { listener with cursor := { listener.cursor.advance reading with next }, attention } := by
  have messages_eq : messagesOf (after.givenTo i) =
      messagesOf (audience.givenTo i) ++ messagesOf (reading.item?.map
        (Gift.mk i listener.cursor.next (audience.broker.log n).low)).toList := by
    rw [given_eq, messagesOf_append]
  constructor
  · cases reading <;> exact heard.log_eq
  · exact Overflow.isInt64_of_settle? settles
  · intro m member
    rw [messages_eq] at member
    rcases List.mem_append.mp member with old | new
    · exact heard.within m old
    · exact dense.offset_le low_le heard.sized (reads.trans (eq_message_of_mem new))
  · intro spared
    rw [messages_eq] at spared
    have served := heard.served fun m member => spared m (List.mem_append_left _ member)
    have sized : IsInt64 (listener.cursor.advance reading).next := by
      apply dense.isInt64_advance low_le heard.sized reads
      rintro m rfl
      exact spared m (List.mem_append_right _ List.mem_cons_self)
    cases settles.symm.trans (overflow.settle?_of_isInt64 sized)
    rw [given_eq]
    exact served.read dense i reads
  · exact attentive

theorem Sound.read (sound : audience.Sound place n) {seen : Nat} {reading : Reading}
    {cursor : Cursor} {broker : LogBroker} {next : Int}
    (at_i : audience.listeners[i]? = some listener)
    (marked : listener.attention = .marked seen)
    (polls : audience.broker.poll listener.cursor = (reading, cursor, broker))
    (settles : overflow.settle? cursor.next = some next) :
    Sound place n
      { audience with
        broker
        listeners := audience.listeners.set i
          { listener with
            cursor := { cursor with next }
            attention := .after seen reading }
        given := audience.given ++ (reading.item?.map (Gift.mk i listener.cursor.next
          (audience.broker.log listener.cursor.log).low)).toList } := by
  have heard := sound.heard i listener at_i
  have seen_le := heard.attentive
  rw [IsAttentive, marked] at seen_le
  rw [LogBroker.poll_eq, heard.log_eq] at polls
  rw [heard.log_eq]
  cases polls
  have log_eq := sound.keeps.log_modify fun log => (log.read listener.cursor.next).2
  constructor
  · exact sound.keeps.modify _
  · rw [log_eq]
    exact sound.dense.read _
  · rw [log_eq, PartitionLog.low_read]
    exact sound.low_le
  · intro j other found
    rcases getElem?_set_cases found with ⟨rfl, rfl⟩ | ⟨apart, found⟩
    · apply heard.read sound.dense sound.low_le rfl settles
      · rw [givenTo, givenTo_append, if_pos rfl]
        rfl
      · cases reads : ((audience.broker.log n).read listener.cursor.next).1 with
        | message m => trivial
        | fault e => trivial
        | waiting =>
            rw [reads] at settles
            cases settles.symm.trans (overflow.settle?_of_isInt64 heard.sized)
            refine ⟨seen_le, .inl ?_⟩
            rw [log_eq, PartitionLog.read_of_waiting reads]
            exact reads
        | ended => trivial
    · refine (sound.heard j other found).aside ?_ (Nat.le_refl _) (Nat.le_refl _) fun waiting => ?_
      · rw [givenTo, givenTo_append, if_neg apart, List.append_nil]
        rfl
      · rw [log_eq, PartitionLog.read_of_waiting waiting]
        exact .inl waiting
  · rw [log_eq, faultsOf_append, List.append_assoc, ← PartitionLog.faults_read]
    exact sound.handed
  · intro gift member
    rw [List.length_set]
    rcases List.mem_append.mp member with old | new
    · exact sound.known gift old
    · obtain ⟨item, -, rfl⟩ := Option.map_eq_some_iff.mp (Option.mem_toList.mp new)
      exact (List.getElem?_eq_some_iff.mp at_i).choose

/-- A stream has nowhere to go only behind a message at the last offset. -/
theorem Heard.of_lost (heard : audience.Heard n i listener)
    (dense : (audience.broker.log n).Dense)
    (low_le : (audience.broker.log n).low ≤ Text.maxInt64)
    (lost : overflow.settle? (listener.cursor.advance
      ((audience.broker.log n).read listener.cursor.next).1).next = none) :
    ∃ m, ((audience.broker.log n).read listener.cursor.next).1 = .message m ∧
      m.offset = Text.maxInt64 := by
  rcases Classical.em (∃ m, ((audience.broker.log n).read listener.cursor.next).1 = .message m ∧
    m.offset = Text.maxInt64) with found | elsewhere
  · exact found
  · have sized := dense.isInt64_advance low_le heard.sized rfl fun m reads last =>
      elsewhere ⟨m, reads, last⟩
    rw [overflow.settle?_of_isInt64 sized] at lost
    cases lost

theorem Sound.breakOff (sound : audience.Sound place n) {reading : Reading} {cursor : Cursor}
    {broker : LogBroker} (at_i : audience.listeners[i]? = some listener)
    (polls : audience.broker.poll listener.cursor = (reading, cursor, broker))
    (lost : overflow.settle? cursor.next = none) :
    Sound place n
      { audience with
        broker
        listeners := audience.listeners.set i { listener with attention := .broken } } := by
  have heard := sound.heard i listener at_i
  rw [LogBroker.poll_eq, heard.log_eq] at polls
  cases polls
  obtain ⟨m, reads, -⟩ := heard.of_lost sound.dense sound.low_le lost
  have attentive : audience.IsAttentive n { listener with attention := .broken } := trivial
  apply (sound.turn at_i attentive).of_log_eq (sound.keeps.modify _)
  rw [sound.keeps.log_modify]
  exact PartitionLog.read_of_no_faults (PartitionLog.read_eq_message_iff.mp reads).1 _

/-- Every step keeps all this. -/
theorem Sound.step (sound : audience.Sound place n) (step : Step overflow place audience after) :
    after.Sound place n := by
  cases step with
  | attach sized attaches => exact sound.attach sized attaches
  | change sized changes => exact sound.change sized changes
  | announce changed => exact sound.announce changed
  | mark at_i idle => exact sound.turn at_i (Nat.le_refl _)
  | read at_i marked polls settles => exact sound.read at_i marked polls settles
  | breakOff at_i marked polls lost => exact sound.breakOff at_i polls lost
  | wake at_i waiting another => exact sound.turn at_i trivial
  | @release i listener at_i held =>
      have attentive : audience.IsAttentive n { listener with attention := .released } := trivial
      exact (sound.turn at_i attentive).of_log_eq ⟨sound.keeps.located, sound.keeps.inside⟩ rfl

theorem Sound.run (sound : audience.Sound place n)
    (runs : ReflTransGen (Step overflow place) audience after) : after.Sound place n := by
  induction runs with
  | refl => exact sound
  | tail _ step ih => exact ih.step step

/-- A new partition without streams. -/
theorem sound_new {broker : LogBroker} (keeps : LogBroker.KeepsAt place n broker)
    (log_eq : broker.log n = {}) : Sound place n { broker } where
  keeps := keeps
  dense := log_eq ▸ PartitionLog.dense_default
  low_le := by rw [log_eq]; decide
  heard _ _ found := by cases found
  handed := by rw [log_eq]; rfl
  known _ member := absurd member List.not_mem_nil

/-- A stream stops by itself only by a read: it ends where the read has found the end of a closed
log, and it breaks off where it has nowhere to go. -/
theorem Step.of_stopped {stopped : Listener} (step : Step overflow place audience after)
    (at_i : audience.listeners[i]? = some listener) (after_i : after.listeners[i]? = some stopped)
    (going : listener.attention ≠ stopped.attention)
    (stops : stopped.attention = .ended ∨ stopped.attention = .broken) :
    ∃ reading, ((audience.broker.log listener.cursor.log).read listener.cursor.next).1 = reading ∧
      (stopped.attention = .ended ∧ reading = .ended ∨ stopped.attention = .broken ∧
        overflow.settle? (listener.cursor.advance reading).next = none) := by
  have moved : audience.listeners[i]? ≠ some stopped := by
    intro same
    cases at_i.symm.trans same
    exact going rfl
  -- only a stream that the step has set has stopped by it
  have set_here {k : Nat} {next : Listener}
      (set_k : (audience.listeners.set k next)[i]? = some stopped) : i = k ∧ stopped = next := by
    rcases getElem?_set_cases set_k with here | ⟨-, same⟩
    · exact here
    · exact absurd same moved
  have not_stopped {k : Nat} {next : Listener}
      (set_k : (audience.listeners.set k next)[i]? = some stopped)
      (goes : next.attention ≠ .ended ∧ next.attention ≠ .broken) : False := by
    obtain ⟨-, rfl⟩ := set_here set_k
    exact stops.elim goes.1 goes.2
  cases step with
  | attach sized attaches =>
      have inside := (List.getElem?_eq_some_iff.mp at_i).choose
      rw [List.getElem?_append_left inside] at after_i
      exact absurd after_i moved
  | change sized changes => exact absurd after_i moved
  | announce changed => exact absurd after_i moved
  | mark at_j idle => exact (not_stopped after_i ⟨by simp, by simp⟩).elim
  | @read j seen other reading cursor broker next at_j marked polls settles =>
      obtain ⟨rfl, rfl⟩ := set_here after_i
      cases at_i.symm.trans at_j
      rw [LogBroker.poll_eq] at polls
      refine ⟨reading, congrArg Prod.fst polls, .inl ?_⟩
      cases reading with
      | ended => exact ⟨rfl, rfl⟩
      | message m => simp [Attention.after] at stops
      | fault e => simp [Attention.after] at stops
      | waiting => simp [Attention.after] at stops
  | @breakOff j seen other reading cursor broker at_j marked polls lost =>
      obtain ⟨rfl, rfl⟩ := set_here after_i
      cases at_i.symm.trans at_j
      rw [LogBroker.poll_eq] at polls
      cases polls
      exact ⟨_, rfl, .inr ⟨rfl, lost⟩⟩
  | wake at_j waiting another => exact (not_stopped after_i ⟨by simp, by simp⟩).elim
  | release at_j held => exact (not_stopped after_i ⟨by simp, by simp⟩).elim

/-- Whatever happens to a new partition and to any number of streams over it: each stream is
given messages with ascending offsets from its start on, and passes no other offset than those
of messages that the log had lost, and this exactly as long as it is not given a message at the
last offset of 64 bits; each injected error is given once, to one stream, in the order of
injection, or still waits in the log; a stream ends only where the log is closed and has neither
an error nor a message for it, and breaks off only at the last offset, where sums are checked;
and while no change is under way there is neither for a stream that waits and has seen the last
change. -/
theorem streams_faithful (overflow : Overflow) {broker : LogBroker} {topic : String}
    {count partition : Int} (inside : 0 ≤ partition ∧ partition < count)
    (runs : ReflTransGen (Step overflow ⟨topic, partition⟩)
      { broker := broker.addTopic topic count } audience) :
    ∃ log, audience.broker.part ⟨topic, partition⟩ = .ok log ∧
      (∀ i listener, audience.listeners[i]? = some listener →
        (∀ m ∈ messagesOf (audience.givenTo i), m.offset ≤ Text.maxInt64) ∧
        (Served listener.start listener.cursor.next (audience.givenTo i) ↔
          ∀ m ∈ messagesOf (audience.givenTo i), m.offset ≠ Text.maxInt64)) ∧
      (audience.injected = faultsOf audience.given ++ log.faults ∧
        ∀ gift ∈ audience.given, gift.listener < audience.listeners.length) ∧
      (∀ (after : Audience) (i : Nat) (listener stopped : Listener),
        Step overflow ⟨topic, partition⟩ audience after →
        audience.listeners[i]? = some listener → after.listeners[i]? = some stopped →
        listener.attention ≠ stopped.attention →
          (stopped.attention = .ended →
            log.closed = true ∧ log.faults = [] ∧
              ∀ m ∈ log.messages, m.offset < listener.cursor.next) ∧
          (stopped.attention = .broken →
            overflow = .breaks ∧ ∃ m, log.messageAt? listener.cursor.next = some m ∧
              m.offset = Text.maxInt64)) ∧
      ∀ (i : Nat) (listener : Listener), audience.listeners[i]? = some listener →
        listener.attention = .waiting audience.count → audience.unannounced = 0 →
          log.faults = [] ∧ ∀ m ∈ log.messages, m.offset < listener.cursor.next := by
  obtain ⟨keeps, log_new⟩ := broker.keepsAt_addTopic topic inside
  have sound := (sound_new keeps log_new).run runs
  refine ⟨_, sound.keeps.part, fun i listener at_i => ?_, ⟨sound.handed, sound.known⟩, ?_, ?_⟩
  · have heard := sound.heard i listener at_i
    refine ⟨heard.within, fun served m member last => ?_, heard.served⟩
    -- no place is behind the last one
    have before := (served.within m member).2
    have most := heard.sized.2
    omega
  · intro after i listener stopped step at_i after_i going
    have heard := sound.heard i listener at_i
    refine ⟨fun ends => ?_, fun breaks => ?_⟩
    · obtain ⟨reading, reads, ⟨-, rfl⟩ | ⟨breaks, -⟩⟩ :=
        step.of_stopped at_i after_i going (.inl ends)
      · rw [heard.log_eq] at reads
        obtain ⟨no_faults, missing, closed⟩ := PartitionLog.read_eq_ended_iff.mp reads
        exact ⟨closed, no_faults, sound.dense.lt_of_messageAt?_eq_none missing⟩
      · cases ends.symm.trans breaks
    · obtain ⟨reading, rfl, ⟨ends, -⟩ | ⟨-, lost⟩⟩ :=
        step.of_stopped at_i after_i going (.inr breaks)
      · cases breaks.symm.trans ends
      · rw [heard.log_eq] at lost
        obtain ⟨m, reads, last⟩ := heard.of_lost sound.dense sound.low_le lost
        exact ⟨Overflow.eq_breaks_of_settle? lost, m,
          (PartitionLog.read_eq_message_iff.mp reads).2, last⟩
  · intro i listener at_i waiting settled
    have attentive := (sound.heard i listener at_i).attentive
    rw [IsAttentive, waiting] at attentive
    -- no count beyond the last one was reached, and none is about to be
    have nothing := attentive.2.resolve_right (by omega)
    obtain ⟨no_faults, missing, -⟩ := PartitionLog.read_eq_waiting_iff.mp nothing
    exact ⟨no_faults, sound.dense.lt_of_messageAt?_eq_none missing⟩

/-- Two streams over a partition, of which one starts behind its end. The other one is given the
first message and the one behind those that were dropped, and the error goes to the one that had
waited, which then waits again. -/
theorem exists_audience (overflow : Overflow) :
    ∃ audience, ReflTransGen (Step overflow ⟨"orders", 0⟩)
        { broker := ({} : LogBroker).addTopic "orders" 1 } audience ∧
      audience.listeners = [⟨0, ⟨0, 4⟩, .idle⟩, ⟨5, ⟨0, 5⟩, .waiting 4⟩] ∧
      audience.count = 4 ∧ audience.unannounced = 0 ∧
      audience.injected = [.communication "lost"] ∧
      (messagesOf (audience.givenTo 0)).map (·.offset) = [0, 3] := by
  have stays {n : Int} (sized : IsInt64 n) := overflow.settle?_of_isInt64 sized
  exact ⟨_,
    .head (@Step.attach _ _ _ 0 _ _ (by decide) rfl) <|
    .head (@Step.attach _ _ _ 5 _ _ (by decide) rfl) <|
    .head (@Step.mark _ _ _ 1 _ rfl rfl) <|
    .head (@Step.read _ _ _ 1 0 _ _ _ _ 5 rfl rfl rfl (stays (by decide))) <|
    .head (@Step.change _ _ _ (.produce none [] .epoch) _ _ trivial rfl) <|
    .head (@Step.announce _ _ _ 0 rfl) <|
    .head (@Step.mark _ _ _ 0 _ rfl rfl) <|
    .head (@Step.read _ _ _ 0 1 _ _ _ _ 1 rfl rfl rfl (stays (by decide))) <|
    .head (@Step.change _ _ _ (.truncate 3) _ _ (show IsInt64 3 by decide) rfl) <|
    .head (@Step.change _ _ _ (.produce none [] .epoch) _ _ trivial rfl) <|
    .head (@Step.announce _ _ _ 1 rfl) <|
    .head (@Step.announce _ _ _ 0 rfl) <|
    .head (@Step.mark _ _ _ 0 _ rfl rfl) <|
    .head (@Step.read _ _ _ 0 3 _ _ _ _ 4 rfl rfl rfl (stays (by decide))) <|
    .head (@Step.change _ _ _ (.inject (.communication "lost")) _ _ trivial rfl) <|
    .head (@Step.announce _ _ _ 0 rfl) <|
    .head (@Step.wake _ _ _ 1 0 _ rfl rfl (by decide)) <|
    .head (@Step.mark _ _ _ 1 _ rfl rfl) <|
    .head (@Step.read _ _ _ 1 4 _ _ _ _ 5 rfl rfl rfl (stays (by decide))) <|
    .head (@Step.mark _ _ _ 1 _ rfl rfl) <|
    .head (@Step.read _ _ _ 1 4 _ _ _ _ 5 rfl rfl rfl (stays (by decide))) <|
    .refl, rfl, rfl, rfl, rfl, rfl⟩

/-- The first stream has passed the offsets from 1 to 2, which were dropped, and the second one
waits with nothing to read, since it was given the error. -/
theorem streams_faithful_parked :
    ∃ (audience : Audience) (log : PartitionLog),
      audience.broker.part ⟨"orders", 0⟩ = .ok log ∧ Served 0 4 (audience.givenTo 0) ∧
        [.communication "lost"] = faultsOf audience.given ++ log.faults ∧ log.faults = [] ∧
        ∀ m ∈ log.messages, m.offset < 5 := by
  obtain ⟨audience, runs, listeners_eq, count_eq, unannounced_eq, injected_eq, offsets_eq⟩ :=
    exists_audience .wraps
  obtain ⟨log, part_eq, served, ⟨handed, -⟩, -, parked⟩ :=
    streams_faithful .wraps ⟨Int.le_refl 0, Int.zero_lt_one⟩ runs
  have first := served 0 ⟨0, ⟨0, 4⟩, .idle⟩ (by rw [listeners_eq]; rfl)
  have nothing := parked 1 ⟨5, ⟨0, 5⟩, .waiting 4⟩ (by rw [listeners_eq]; rfl)
    (by rw [count_eq]) unannounced_eq
  have before (m : Message) (member : m ∈ messagesOf (audience.givenTo 0)) :
      m.offset ≠ Text.maxInt64 := by
    have listed : m.offset ∈ [0, 3] := offsets_eq ▸ List.mem_map_of_mem member
    intro last
    rw [last] at listed
    exact absurd listed (by decide)
  rw [injected_eq] at handed
  exact ⟨audience, log, part_eq, first.2.mpr before, handed, nothing⟩

/-- A partition is truncated at the last offset of 64 bits, and a message is appended there. Where
sums wrap, a stream that has been given it stands before all offsets, and is given it again. -/
theorem last_message_repeated :
    ∃ audience, ReflTransGen (Step .wraps ⟨"orders", 0⟩)
        { broker := ({} : LogBroker).addTopic "orders" 1 } audience ∧
      audience.listeners = [⟨0, ⟨0, Text.minInt64⟩, .idle⟩] ∧
      (messagesOf (audience.givenTo 0)).map (·.offset) = [Text.maxInt64, Text.maxInt64] ∧
      ¬((messagesOf (audience.givenTo 0)).Pairwise fun first second =>
        first.offset < second.offset) := by
  exact ⟨_,
    .head (@Step.attach _ _ _ 0 _ _ (by decide) rfl) <|
    .head (@Step.change _ _ _ (.truncate Text.maxInt64) _ _
      (show IsInt64 Text.maxInt64 by decide) rfl) <|
    .head (@Step.announce _ _ _ 0 rfl) <|
    .head (@Step.change _ _ _ (.produce none [] .epoch) _ _ trivial rfl) <|
    .head (@Step.announce _ _ _ 0 rfl) <|
    .head (@Step.mark _ _ _ 0 _ rfl rfl) <|
    .head (@Step.read _ _ _ 0 2 _ _ _ _ Text.minInt64 rfl rfl rfl rfl) <|
    .head (@Step.mark _ _ _ 0 _ rfl rfl) <|
    .head (@Step.read _ _ _ 0 2 _ _ _ _ Text.minInt64 rfl rfl rfl rfl) <|
    .refl, rfl, rfl, by decide⟩

end Audience
end TopicReplay.Broker
