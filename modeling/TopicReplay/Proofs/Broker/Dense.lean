import TopicReplay.Broker.Log

/-!
# Dense logs

The messages of a partition log have consecutive offsets from its lowest one on. Every
operation keeps this, so that reading at an offset finds the message at that offset, or
the first one behind what was dropped, whenever the log reaches that far.
-/

namespace TopicReplay.Broker.PartitionLog

/-- The messages of a log have consecutive offsets from its lowest one on. -/
def Dense (log : PartitionLog) : Prop :=
  ∀ (i : Nat) (m : Message), log.messages[i]? = some m → m.offset = log.low + i

theorem dense_default : Dense {} := by
  intro i m found
  simp at found

theorem low_le_high (log : PartitionLog) : log.low ≤ log.high := by
  unfold high
  omega

theorem Dense.append {log : PartitionLog} (dense : log.Dense) (key value : Option Text.Bytes)
    (timestamp : Option Instant) : (log.append key value timestamp).Dense := by
  intro i m found
  simp only [PartitionLog.append] at found ⊢
  by_cases inside : i < log.messages.length
  · rw [List.getElem?_append_left inside] at found
    exact dense i m found
  · rw [List.getElem?_append_right (by omega)] at found
    have last : i - log.messages.length < 1 := (List.getElem?_eq_some_iff.mp found).choose
    rw [show i - log.messages.length = 0 by omega] at found
    cases found
    simp only [high]
    omega

theorem Dense.truncate {log : PartitionLog} (dense : log.Dense) (offset : Int) :
    (log.truncate offset).Dense := by
  unfold PartitionLog.truncate
  split
  · exact dense
  · rename_i above
    intro i m found
    rw [List.getElem?_drop] at found
    have offset_eq := dense _ m found
    push_cast at offset_eq
    simp only
    omega

theorem Dense.read {log : PartitionLog} (dense : log.Dense) (offset : Int) :
    (log.read offset).2.Dense := by
  unfold PartitionLog.read
  split
  · exact dense
  · split <;> exact dense

@[simp]
theorem low_read (log : PartitionLog) (offset : Int) : (log.read offset).2.low = log.low := by
  unfold read
  split
  · rfl
  · split <;> rfl

@[simp]
theorem messages_read (log : PartitionLog) (offset : Int) :
    (log.read offset).2.messages = log.messages := by
  unfold read
  split
  · rfl
  · split <;> rfl

@[simp]
theorem high_read (log : PartitionLog) (offset : Int) : (log.read offset).2.high = log.high := by
  simp [high]

theorem high_append (log : PartitionLog) (key value : Option Text.Bytes)
    (timestamp : Option Instant) : (log.append key value timestamp).high = log.high + 1 := by
  simp only [append, high, List.length_append, List.length_singleton]
  omega

theorem low_le_low_truncate (log : PartitionLog) (offset : Int) :
    log.low ≤ (log.truncate offset).low := by
  unfold truncate
  split
  · exact Int.le_refl _
  · simp only
    omega

theorem high_le_high_truncate (log : PartitionLog) (offset : Int) :
    log.high ≤ (log.truncate offset).high := by
  unfold truncate
  split
  · exact Int.le_refl _
  · simp only [high, List.length_drop]
    omega

/-- No query is answered with an offset that was dropped. -/
theorem Dense.low_le_lookup {log : PartitionLog} (dense : log.Dense) (query : OffsetQuery) :
    log.low ≤ log.lookup query := by
  cases query with
  | oldest => exact Int.le_refl _
  | newest => exact log.low_le_high
  | time t =>
      simp only [lookup]
      cases found : log.messages.find? (isFrom t) with
      | none => exact log.low_le_high
      | some m =>
          rcases List.getElem?_of_mem (List.mem_of_find?_eq_some found) with ⟨i, atI⟩
          have offset_eq := dense i m atI
          simp only [Option.map_some, Option.getD_some]
          omega

/-- What is found at an offset is the message of that offset, or the first one that is
left, and lies below the end of the log. -/
theorem Dense.of_messageAt? {log : PartitionLog} (dense : log.Dense) {offset : Int} {m : Message}
    (found : log.messageAt? offset = some m) :
    m.offset = max offset log.low ∧ m.offset < log.high := by
  have offset_eq := dense _ m found
  have inside := (List.getElem?_eq_some_iff.mp found).choose
  simp only [high]
  omega

theorem messageAt?_eq_none_iff (log : PartitionLog) (offset : Int) :
    log.messageAt? offset = none ↔ log.high ≤ max offset log.low := by
  rw [messageAt?, List.getElem?_eq_none_iff]
  simp only [high]
  omega

theorem read_eq_message_iff {log : PartitionLog} {offset : Int} {m : Message} :
    (log.read offset).1 = .message m ↔ log.faults = [] ∧ log.messageAt? offset = some m := by
  unfold read
  cases log.faults with
  | cons e rest => simp
  | nil =>
      cases log.messageAt? offset with
      | some found => simp
      | none => cases log.closed <;> simp

theorem read_eq_fault_iff {log : PartitionLog} {offset : Int} {e : Error} :
    (log.read offset).1 = .fault e ↔ ∃ rest, log.faults = e :: rest := by
  unfold read
  cases log.faults with
  | cons first rest => simp
  | nil =>
      cases log.messageAt? offset with
      | some found => simp
      | none => cases log.closed <;> simp

theorem read_eq_ended_iff {log : PartitionLog} {offset : Int} :
    (log.read offset).1 = .ended ↔
      log.faults = [] ∧ log.messageAt? offset = none ∧ log.closed = true := by
  unfold read
  cases log.faults with
  | cons e rest => simp
  | nil =>
      cases log.messageAt? offset with
      | some found => simp
      | none => cases log.closed <;> simp

theorem read_eq_waiting_iff {log : PartitionLog} {offset : Int} :
    (log.read offset).1 = .waiting ↔
      log.faults = [] ∧ log.messageAt? offset = none ∧ log.closed = false := by
  unfold read
  cases log.faults with
  | cons e rest => simp
  | nil =>
      cases log.messageAt? offset with
      | some found => simp
      | none => cases log.closed <;> simp

theorem read_of_faults {log : PartitionLog} {e : Error} {rest : List Error}
    (faults : log.faults = e :: rest) (offset : Int) :
    (log.read offset).2 = { log with faults := rest } := by
  rw [read, faults]

theorem read_of_no_faults {log : PartitionLog} (faults : log.faults = []) (offset : Int) :
    (log.read offset).2 = log := by
  rw [read, faults]
  simp only
  split <;> rfl

/-- The messages that are left from an offset on. -/
def onward (log : PartitionLog) (offset : Int) : List Message :=
  log.messages.drop (max offset log.low - log.low).toNat

theorem onward_of_messageAt?_eq_none {log : PartitionLog} {offset : Int}
    (missing : log.messageAt? offset = none) : log.onward offset = [] :=
  List.drop_eq_nil_iff.mpr (List.getElem?_eq_none_iff.mp missing)

/-- Reading a message splits it off the messages that are left. -/
theorem Dense.onward_eq_cons {log : PartitionLog} (dense : log.Dense) {offset : Int} {m : Message}
    (found : log.messageAt? offset = some m) :
    log.onward offset = m :: log.onward (m.offset + 1) := by
  rcases List.getElem?_eq_some_iff.mp found with ⟨inside, message_eq⟩
  have offset_eq := (dense.of_messageAt? found).1
  rw [onward, onward, List.drop_eq_getElem_cons inside, message_eq]
  congr 2
  omega

/-- The messages that are left from an offset on have all the offsets from there to the
end of the log, in order. -/
theorem Dense.offsets_onward {log : PartitionLog} (dense : log.Dense) (offset : Int) :
    (log.onward offset).map (·.offset) =
      (List.range (log.high - max offset log.low).toNat).map fun i : Nat =>
        max offset log.low + i := by
  apply List.ext_getElem?
  intro i
  simp only [onward, List.getElem?_map, List.getElem?_drop]
  cases found : log.messages[(max offset log.low - log.low).toNat + i]? with
  | none =>
      have beyond := List.getElem?_eq_none_iff.mp found
      have outside : (log.high - max offset log.low).toNat ≤ i := by
        simp only [high]
        omega
      rw [List.getElem?_eq_none (by simpa using outside)]
      rfl
  | some m =>
      have inside := (List.getElem?_eq_some_iff.mp found).choose
      have offset_eq := dense _ m found
      have below : i < (log.high - max offset log.low).toNat := by
        simp only [high]
        omega
      rw [List.getElem?_range below]
      simp only [Option.map_some, Option.some.injEq]
      omega

end TopicReplay.Broker.PartitionLog
