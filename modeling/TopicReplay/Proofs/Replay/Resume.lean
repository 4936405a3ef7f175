import TopicReplay.Proofs.Consumer.Remainder
import TopicReplay.Proofs.Replay.Record
import TopicReplay.Proofs.Session.Fair
import TopicReplay.Proofs.Session.Gapless
import TopicReplay.Proofs.Session.Plan

/-!
# Resuming a replay

A replay that commits leaves behind, for every partition that it wrote, the offset behind
the last line. A later session that goes on from the stored offset delivers exactly the
messages from there to the end of the log. Nothing of the log is lost between the two and
nothing comes twice, wherever the first one was broken off.
-/

namespace TopicReplay

open Broker (Client Cursor LogBroker PartitionLog)
open Consumer (storedOffset?)
open Relation (ReflTransGen)
open Store (OffsetStore LawfulStore Storable)

namespace Broker.LogBroker

variable {broker after : LogBroker} {place : TopicPartition} {n : Nat}

/-- What others may do to a broker without touching a partition. -/
def ChangeBeside (place : TopicPartition) (broker after : LogBroker) : Prop :=
  broker.Change after ∧ broker.Same place after

/-- The events of a partition from an offset on, when its log is the `n`-th one. -/
def eventsFrom (broker : LogBroker) (place : TopicPartition) (n : Nat) (offset : Int) :
    List Event :=
  ((broker.log n).onward offset).map (·.toEvent place)

/-- These are events with all the offsets from there to the end of the log, in order. -/
theorem Sound.offsets_eventsFrom (sound : broker.Sound) (place : TopicPartition) {offset : Int}
    (low_le : (broker.log n).low ≤ offset) :
    (broker.eventsFrom place n offset).map (·.offset) =
      (List.range ((broker.log n).high - offset).toNat).map fun i : Nat => offset + i := by
  have offsets := (sound.dense n).offsets_onward offset
  rw [Int.max_eq_left low_le] at offsets
  rw [← offsets, eventsFrom, List.map_map]
  rfl

theorem sound_of_changes (changes : ReflTransGen Change broker after) (sound : broker.Sound) :
    after.Sound := by
  induction changes with
  | refl => exact sound
  | tail _ change ih => exact change.sound ih

theorem follows_of_changes (changes : ReflTransGen Change broker after) :
    broker.Follows after := by
  induction changes with
  | refl => exact .refl broker
  | tail _ change ih => exact ih.trans change.follows

end Broker.LogBroker

open Broker.LogBroker

namespace Scene

variable {ρ : Type} [OffsetStore ρ] {settings : Settings} {born now n : Nat}
  {topics : Session.Topics} {broker : LogBroker} {store : ρ} {place : TopicPartition}
  {selection : Selection} {offset : Int} {begun : Scene LogBroker Cursor ρ}

/-- A session that goes on from the stored offset is on its way to deliver what is left. -/
theorem faithful_of_remainder (sound : broker.Sound) (readable : broker.Readable place n)
    (low_le : (broker.log n).low ≤ offset) (asked : topics.get? place.topic = some selection)
    (chosen : (selection.choose place.partition).span? = some .remainder)
    (stored : storedOffset? store settings.environment place = some offset)
    (started : start settings born false topics now broker store = (.ok (), begun)) :
    place ∈ begun.places ∧ begun.Faithful place
      { events := broker.eventsFrom place n offset, ending := some (.finished .stopped) } := by
  obtain ⟨fresh, soundBegun⟩ := fresh_start sound started
  obtain ⟨same, consumer, member, rfl, span⟩ :=
    planned_of_start readable.located asked chosen started
  obtain ⟨environment, phase⟩ := fresh.consumers consumer member
  have log_eq := same.log n readable.located
  have fate_eq : consumer.fate begun.client begun.store =
      { events := broker.eventsFrom consumer.place n offset
        ending := some (.finished .stopped) } := by
    rw [eventsFrom, ← log_eq]
    apply Consumer.fate_of_remainder soundBegun (readable.same same) phase span
    · rw [environment, store_start started]
      exact stored
    · rw [log_eq]
      exact low_le
  rw [← fate_eq]
  exact ⟨List.mem_map_of_mem member, fresh.faithful member⟩

end Scene

namespace Stage

variable {ρ ω φ : Type} [OffsetStore ρ] {settings next : Settings}
  {born now laterBorn laterNow n : Nat} {cancelled commits : Bool}
  {topics remaining : Session.Topics} {client later : LogBroker} {store : ρ} {format : φ}
  {writer : ω} {place : TopicPartition} {first last : Event} {selection : Selection}
  {stage : Stage LogBroker Cursor ρ ω φ} {begun : Scene LogBroker Cursor ρ}

section First

variable [Formatter φ]

omit [OffsetStore ρ] in
/-- What was written of a partition is a beginning of what was sent of it. -/
theorem Lined.output_prefix (lined : stage.Lined format commits)
    (conserved : stage.scene.Conserved) (place : TopicPartition) :
    eventsOf place stage.output <+: eventsOf place stage.scene.sent := by
  have heard := conserved.heard
  rw [lined.received] at heard
  exact ((List.prefix_append _ _).trans heard).filter _

/-- With every commit done, the offset behind the last line is stored. -/
theorem Sound.storedOffset?_eq (sound : stage.Sound settings store format true)
    (succeeded : ∀ commit ∈ stage.commits, commit.2 = true)
    (written : (eventsOf place stage.output).getLast? = some last) :
    storedOffset? stage.scene.store settings.environment place = some (last.offset + 1) := by
  rw [sound.stored.stored, if_pos rfl, sound.lined.kept_eq succeeded, written]
  rfl

variable [Writer ω] [LawfulStore ρ]

/-- Between the first and the last line of a partition, a replay has written all that is
still in the log. -/
theorem mem_output_of_between (sound : client.Sound)
    (runs : ReflTransGen (Step Change)
      (start settings born cancelled topics now client store format commits writer) stage)
    (fits : ∀ event ∈ stage.scene.committed,
      Storable event.place.partition (event.offset + 1))
    (launched : (start settings born cancelled topics now client store format commits
      writer).scene.client.locate place = .ok n)
    (between : ReflTransGen Change stage.scene.client later)
    (located : later.locate place = .ok n)
    (head : (eventsOf place stage.output).head? = some first)
    (tail : (eventsOf place stage.output).getLast? = some last) {offset : Int}
    (above : first.offset ≤ offset) (below : offset ≤ last.offset)
    (there : (later.log n).low ≤ offset) :
    offset ∈ (eventsOf place stage.output).map (·.offset) := by
  have holds := (sound_start sound).run (fun change sound => change.sound sound) runs fits
  obtain ⟨result, scene, phase, started, stage_eq, -⟩ :=
    start_cases settings born cancelled topics now client store format commits writer
  rw [stage_eq] at runs launched
  obtain ⟨fresh, soundFirst⟩ := Scene.fresh_start sound started
  have inside : n < scene.client.logs.length := soundFirst.lt_of_locate launched
  have reaches := reaches_scene runs
  have follows := Scene.follows_of_reaches reaches fun change => change.follows
  have onward := follows_of_changes between
  have insideLast := Nat.lt_of_lt_of_le inside follows.length_le
  have gapless := (fresh.gapless place n).run (fresh.ordered soundFirst) inside
    (fun change sound => change.sound sound) (fun change => change.follows) reaches
    (onward.located insideLast located)
  obtain ⟨rest, sent_eq⟩ := holds.lined.output_prefix holds.conserved place
  have chain := (gapless.of_low_le (onward.low_le n insideLast)).2
  rw [← sent_eq, List.map_append] at chain
  apply mem_of_isChain_adjacent chain.left_of_append _ _ above below there
  · rw [List.head?_map, head]
    rfl
  · rw [List.getLast?_map, tail]
    rfl

omit [Writer ω] [LawfulStore ρ] in
/-- The lines of a partition and what is left behind them are in the order of the offsets. -/
theorem pairwise_offsets (holds : stage.Sound settings store format commits)
    (soundLater : later.Sound)
    (tail : (eventsOf place stage.output).getLast? = some last)
    (low_le : (later.log n).low ≤ last.offset + 1) :
    ((eventsOf place stage.output ++ later.eventsFrom place n (last.offset + 1)).map
      (·.offset)).Pairwise (· < ·) := by
  have ascending : ((eventsOf place stage.output).map (·.offset)).Pairwise (· < ·) :=
    (holds.ordered.ascending place).sublist
      ((holds.lined.output_prefix holds.conserved place).sublist.map _)
  rw [List.map_append, soundLater.offsets_eventsFrom place low_le]
  refine List.pairwise_append.mpr ⟨ascending, ?_, ?_⟩
  · apply List.Pairwise.map _ _ List.pairwise_lt_range
    intro i j less
    omega
  · intro older olderMember offset member
    rcases List.mem_map.mp member with ⟨i, -, rfl⟩
    have le : older ≤ last.offset := by
      rcases List.getLast?_eq_some_iff.mp tail with ⟨before, output_eq⟩
      rw [output_eq, List.map_append] at ascending olderMember
      rcases List.mem_append.mp olderMember with earlier | final
      · exact Int.le_of_lt ((List.pairwise_append.mp ascending).2.2 older earlier last.offset
          List.mem_cons_self)
      · exact Int.le_of_eq (List.mem_singleton.mp final)
    omega

/-- Resuming is exact. A replay that commits is broken off anywhere, and all its commits were
done. Then a session that goes on from the stored offset to the end delivers exactly the
messages behind the last one that was written, in order and each once, and stops there. No
message that is still in the log is missing between the two runs, and none comes twice. The offsets
behind what was committed are taken to have the size that stores keep. -/
theorem resume_exact (sound : client.Sound)
    (runs : ReflTransGen (Step Change)
      (start settings born cancelled topics now client store format true writer) stage)
    (fits : ∀ event ∈ stage.scene.committed,
      Storable event.place.partition (event.offset + 1))
    (succeeded : ∀ commit ∈ stage.commits, commit.2 = true)
    (written : (eventsOf place stage.output).getLast? = some last)
    (launched : (start settings born cancelled topics now client store format true
      writer).scene.client.locate place = .ok n)
    (between : ReflTransGen Change stage.scene.client later) (readable : later.Readable place n)
    (low_le : (later.log n).low ≤ last.offset + 1)
    (environment : next.environment = settings.environment) (capacity : 0 < next.capacity)
    (asked : remaining.get? place.topic = some selection)
    (chosen : (selection.choose place.partition).span? = some .remainder)
    (started : Scene.start next laterBorn false remaining laterNow later stage.scene.store =
      (.ok (), begun)) :
    ((later.eventsFrom place n (last.offset + 1)).map (·.offset) =
      (List.range ((later.log n).high - (last.offset + 1)).toNat).map
        fun i : Nat => last.offset + 1 + i) ∧
    (∀ {scene}, ReflTransGen (Scene.Step (ChangeBeside place)) begun scene →
      (∀ event ∈ scene.committed, Storable event.place.partition (event.offset + 1)) →
      scene.session.crew.stop = false → scene.session.crew.channel.receiving = true →
        eventsOf place scene.channelled <+: later.eventsFrom place n (last.offset + 1) ∧
        ∀ consumer ∈ scene.session.crew.consumers, consumer.place = place →
          ∀ ending, consumer.ending? = some ending → ending = .finished .stopped ∧
            eventsOf place scene.channelled = later.eventsFrom place n (last.offset + 1)) ∧
    (∀ {run : Nat → Scene LogBroker Cursor ρ}, run 0 = begun →
      Scene.Fair (ChangeBeside place) run →
      (∀ l, ∀ event ∈ (run l).committed,
        Storable event.place.partition (event.offset + 1)) → ∃ m, ∀ l ≥ m,
        eventsOf place (run l).received = later.eventsFrom place n (last.offset + 1) ∧
        ∃ consumer ∈ (run l).session.crew.consumers,
          consumer.place = place ∧ consumer.ending? = some (.finished .stopped)) ∧
    ((eventsOf place stage.output ++ later.eventsFrom place n (last.offset + 1)).map
      (·.offset)).Pairwise (· < ·) ∧
    ∀ first offset, (eventsOf place stage.output).head? = some first → first.offset ≤ offset →
      (later.log n).low ≤ offset → offset < (later.log n).high →
        offset ∈ (eventsOf place stage.output ++
          later.eventsFrom place n (last.offset + 1)).map (·.offset) := by
  have holds := (sound_start sound).run (fun change sound => change.sound sound) runs fits
  have soundLater := sound_of_changes between holds.ordered.sound
  have stored := holds.storedOffset?_eq succeeded written
  rw [← environment] at stored
  obtain ⟨fresh, soundBegun⟩ := Scene.fresh_start soundLater started
  obtain ⟨planned, faithful⟩ :=
    Scene.faithful_of_remainder soundLater readable low_le asked chosen stored started
  have steady := fresh.steady soundBegun
  have keeps {broker after : LogBroker} (changed : ChangeBeside place broker after)
      (sound : broker.Sound) : after.Sound := changed.1.sound sound
  have untouched {broker after : LogBroker} (changed : ChangeBeside place broker after) :
      broker.Same place after := changed.2
  have offsets := soundLater.offsets_eventsFrom place low_le
  refine ⟨offsets, fun reaches small untold heard => ?_, fun {run} begins fair small => ?_,
    pairwise_offsets holds soundLater written low_le,
    fun first offset head above there below => ?_⟩
  · have on_way := faithful.run steady keeps untouched reaches small
    have stays := Scene.places_eq_of_reaches reaches ▸ planned
    obtain ⟨comes, whole⟩ :=
      on_way.eventsOf_channelled (steady.run keeps reaches small).conserved stays untold heard
    refine ⟨comes, fun consumer member here ending ended => ?_⟩
    obtain ⟨events_eq, ending_eq⟩ := whole consumer member here ending ended
    exact ⟨(Option.some.inj ending_eq).symm, events_eq⟩
  · subst begins
    have capacity_eq : (run 0).session.crew.channel.capacity = next.capacity := by
      rw [fresh.channel]
    exact fair.comes_to_fate small keeps untouched steady faithful fresh.bounded
      (capacity_eq ▸ capacity) planned
  · rw [List.map_append]
    by_cases old : offset ≤ last.offset
    · exact List.mem_append_left _
        (mem_output_of_between sound runs fits launched between readable.located head written above
          old there)
    · apply List.mem_append_right _
      rw [offsets]
      exact List.mem_map.mpr
        ⟨(offset - (last.offset + 1)).toNat, List.mem_range.mpr (by omega), by omega⟩

end First

section Broken

open Store (MemoryStore)

/-- A replay of two partitions from the oldest messages on. -/
def breakable : Stage LogBroker Cursor MemoryStore LineWriter OutputFormat :=
  start {} 0 false (OrderedMap.empty.insert "orders" { common := ⟨.oldest, some .newest⟩ }) 0
    .orders {} .plain true {}

/-- It is broken off behind the first line, while the second message waits to be sent. -/
def broken : Stage LogBroker Cursor MemoryStore LineWriter OutputFormat :=
  (breakable.play? [.work 0, .work 0, .work 0, .work 0, .read, .work 0]).get (by decide +kernel)

/-- Meanwhile a third message is added. -/
def grown : LogBroker := broken.scene.client.modify 0 fun log => log.append none none none

/-- A session that goes on from the stored offsets. -/
def resumed : Except RunError Unit × Scene LogBroker Cursor MemoryStore :=
  Scene.start {} 0 false (OrderedMap.empty.insert "orders" { common := .remainder }) 0 grown
    broken.scene.store

/-- The first partition is read to its end, and the second one has nothing left. -/
def resumedSchedule : List Scene.Pick :=
  [.work 0, .work 0, .work 0, .work 0, .work 1, .read, .work 0, .work 0, .read]

/-- The first run wrote one message of the partition, and the second one delivers the two
others. -/
theorem resume_exact_broken :
    (eventsOf ⟨"orders", 0⟩ broken.output).map (·.offset) = [0] ∧
      ∃ run : Nat → Scene LogBroker Cursor MemoryStore, run 0 = resumed.2 ∧
        ∃ m, ∀ l ≥ m, (eventsOf ⟨"orders", 0⟩ (run l).received).map (·.offset) = [1, 2] := by
  have output_eq : (eventsOf ⟨"orders", 0⟩ broken.output).map (·.offset) = [0] := by
    decide +kernel
  have played : breakable.play? [.work 0, .work 0, .work 0, .work 0, .read, .work 0] =
      some broken := (Option.some_get _).symm
  obtain ⟨last, written⟩ : ∃ last, (eventsOf ⟨"orders", 0⟩ broken.output).getLast? = some last :=
    Option.isSome_iff_exists.mp (by decide +kernel)
  have last_eq : last.offset = 0 := by
    have offsets := congrArg List.getLast? output_eq
    rw [List.getLast?_map, written] at offsets
    exact Option.some.inj offsets
  have produced : broken.scene.client.produce ⟨"orders", 0⟩ none none none = .ok (2, grown) :=
    produce_eq_ok_iff.mpr ⟨0, by decide +kernel, by decide +kernel, rfl⟩
  have readable : grown.Readable ⟨"orders", 0⟩ 0 :=
    ⟨by decide +kernel, by decide +kernel, by decide +kernel⟩
  have started : resumed = (.ok (), resumed.2) := Prod.ext (by decide +kernel) rfl
  have low_le : (grown.log 0).low ≤ last.offset + 1 := by
    rw [last_eq]
    decide +kernel
  obtain ⟨offsets, -, comes, -⟩ := resume_exact LogBroker.sound_orders
    (reaches_of_play? Change played) (by decide +kernel) (by decide +kernel) written
    (by decide +kernel) (.single (.produce produced)) readable low_le rfl (by decide)
    (OrderedMap.get?_insert_self _ _ _) (by decide +kernel) started
  rw [last_eq] at offsets comes
  have size : (List.range ((grown.log 0).high - (0 + 1)).toNat).map
      (fun i : Nat => (0 : Int) + 1 + i) = [1, 2] := by
    decide +kernel
  obtain ⟨scene, ended⟩ : ∃ scene, resumed.2.play? resumedSchedule = some scene :=
    Option.isSome_iff_exists.mp (by decide +kernel)
  have seen : (resumed.2.play? resumedSchedule).map (fun scene => (scene.session.crew.isDry,
      scene.session.crew.stop, scene.session.crew.channel.receiving)) =
        some (true, false, true) := by
    decide +kernel
  have small : (resumed.2.play? resumedSchedule).map (fun scene => decide (∀ event ∈
      scene.committed, Storable event.place.partition (event.offset + 1))) = some true := by
    decide +kernel
  rw [ended] at seen small
  obtain ⟨dry, untold, heard⟩ := by simpa using seen
  obtain ⟨run, begins, fair, committed⟩ := Scene.exists_fair
    (Scene.reaches_of_play? (ChangeBeside ⟨"orders", 0⟩) ended) dry untold heard
  obtain ⟨m, settled⟩ := comes begins fair fun l event member =>
    of_decide_eq_true (Option.some.inj small) event ((committed l).subset member)
  refine ⟨output_eq, run, begins, m, fun l later => ?_⟩
  rw [(settled l later).1, offsets, size]

end Broken

end Stage

end TopicReplay
