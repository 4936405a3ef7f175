import TopicReplay.Consumer.Bounds
import TopicReplay.Proofs.Checkpoint.Grammar
import TopicReplay.Proofs.Checkpoint.Selection

/-!
# Spans that can be run

A span can be run if its offsets are no less than zero, its stop can stop a reader, and its
ends stand in order where they can be compared. Expressions name no other offsets, and only
those for stops are asked whether they can stop; what a partition inherits from the span of
all partitions is checked with its own. So every span of a selection that was built can be
run. Resolving it asks the broker, and nothing else can refuse it.

The main statements are `runnable_of_build` and `Span.Runnable.resolve_eq_error`.
-/

namespace TopicReplay

open Broker (Client OffsetQuery)
open Consumer (Resolved resolve resolveStart resolveStop)
open Selection (Token build)
open Store (OffsetStore)

/-- A checkpoint that is no offset below zero. -/
def Checkpoint.Placed (checkpoint : Checkpoint) : Prop := ∀ n, checkpoint = .offset n → 0 ≤ n

/-- A span that a consumer can be sent out with. -/
structure Span.Runnable (span : Span) : Prop where
  start_placed : span.start.Placed
  stop_placed : ∀ stop, span.stop = some stop → stop.Placed
  stops : ∀ stop, span.stop = some stop →
    (∃ n, stop = .offset n) ∨ (∃ t, stop = .time t) ∨ stop = .newest
  offsets_ordered : ∀ first last, span.start = .offset first → span.stop = some (.offset last) →
    first ≤ last
  times_ordered : ∀ first last, span.start = .time first → span.stop = some (.time last) →
    (compare first last).isLE

/-- Spans are checked for all that makes them runnable but for offsets below zero. -/
theorem Span.runnable_of_fault? {span : Span} (start_placed : span.start.Placed)
    (stop_placed : ∀ stop, span.stop = some stop → stop.Placed) (valid : span.fault? = none) :
    span.Runnable where
  start_placed := start_placed
  stop_placed := stop_placed
  stops := by
    intro stop found
    rw [← Checkpoint.canStop_eq_true_iff]
    by_contra unable
    simp [fault?, found, unable] at valid
  offsets_ordered := by
    intro first last start stop
    simpa [fault?, start, stop, Checkpoint.canStop] using valid
  times_ordered := by
    intro first last start stop
    have ordered : first.after last = false := by
      simpa [fault?, start, stop, Checkpoint.canStop] using valid
    rw [Instant.after, beq_eq_false_iff_ne] at ordered
    exact Ordering.ne_gt_iff_isLE.mp ordered

/-! ## Checkpoints that are read -/

namespace Checkpoint

variable {raw : String} {isStop : Bool} {checkpoint : Checkpoint}

/-- No expression names an offset below zero. -/
theorem placed_of_parse (read : parse raw isStop = .ok checkpoint) : checkpoint.Placed := by
  rintro n rfl
  rcases ofText_eq_ok_iff.mp (parse_false_eq_ok_iff.mp (parse_false_of_parse read)) with
    ⟨way, -, names⟩
  cases names with
  | keyword known => exact absurd known (by simp [keywords])
  | offset _ nonneg => exact nonneg

end Checkpoint

namespace Selection

section Tokens

variable {raws : List String} {isStop : Bool} {tokens starts stops : List Token}

theorem placed_of_reads (reads : Reads isStop raws tokens) : ∀ token ∈ tokens, token.2.Placed := by
  rw [(reads_iff.mp reads).2]
  rintro ⟨scope, checkpoint⟩ member
  rcases List.mem_filterMap.mp member with ⟨raw, -, found⟩
  cases parseToken_eq_ok_iff.mp (toOption_eq_some_iff.mp found) with
  | all _ reads => exact Checkpoint.placed_of_parse reads
  | partition _ _ _ _ _ reads => exact Checkpoint.placed_of_parse reads

theorem placed_of_lastOf? {scope : PartitionScope} {checkpoint : Checkpoint}
    (placed : ∀ token ∈ tokens, token.2.Placed) (last : lastOf? scope tokens = some checkpoint) :
    checkpoint.Placed := by
  rcases Option.map_eq_some_iff.mp last with ⟨token, found, rfl⟩
  exact placed token (List.mem_filter.mp (List.mem_of_getLast? found)).1

/-- The span that tokens mean for all partitions can be run. -/
theorem runnable_commonOf (placed : ∀ token ∈ starts, token.2.Placed)
    (stop_placed : ∀ token ∈ stops, token.2.Placed) (valid : AllValid starts stops) :
    (commonOf starts stops).Runnable := by
  refine Span.runnable_of_fault? ?_ (fun stop => placed_of_lastOf? stop_placed) valid.1
  intro n start
  cases last : lastOf? .all starts with
  | none => simp [commonOf, last] at start
  | some checkpoint =>
      refine placed_of_lastOf? placed last n ?_
      simpa [commonOf, last] using start

/-- So can that of a partition that they speak of, which may inherit from it. -/
theorem runnable_spanOf (placed : ∀ token ∈ starts, token.2.Placed)
    (stop_placed : ∀ token ∈ stops, token.2.Placed) (valid : AllValid starts stops)
    {partition : Int} (speaks : Speaks starts stops partition) :
    (spanOf starts stops partition).Runnable := by
  have common := runnable_commonOf placed stop_placed valid
  refine Span.runnable_of_fault? ?_ ?_ (valid.2 partition speaks)
  · intro n start
    cases last : lastOf? (.partition partition) starts with
    | none => exact common.start_placed n (by simpa [spanOf, last] using start)
    | some checkpoint =>
        refine placed_of_lastOf? placed last n ?_
        simpa [spanOf, last] using start
  · intro stop found
    rcases Option.or_eq_some_iff.mp found with own | ⟨-, inherited⟩
    · exact placed_of_lastOf? stop_placed own
    · exact common.stop_placed stop inherited

end Tokens

/-- Every span of a selection that was built can be run, be it a partition's own or that of
all partitions. -/
theorem runnable_of_build {starts stops : List String} {exclusive : Bool} {selection : Selection}
    (built : build starts stops exclusive = .ok selection) {partition : Int} {span : Span}
    (chosen : (selection.choose partition).span? = some span) : span.Runnable := by
  rcases build_eq_ok_iff.mp built with ⟨starting, stopping, startReads, stopReads, valid, rfl⟩
  have placed := placed_of_reads startReads
  have stop_placed := placed_of_reads stopReads
  have realised := (means_foldl starting stopping).realises exclusive
  by_cases speaks : Speaks starting stopping partition
  · rw [realised.chosen partition speaks] at chosen
    cases chosen
    exact runnable_spanOf placed stop_placed valid speaks
  · by_cases free : exclusive = false ∨ ∀ other, ¬Speaks starting stopping other
    · rw [realised.followed partition speaks free] at chosen
      cases chosen
      exact runnable_commonOf placed stop_placed valid
    · rw [not_or, Bool.not_eq_false, not_forall_not] at free
      rw [realised.excluded partition speaks free.1 free.2] at chosen
      cases chosen

end Selection

/-! ## Resolving -/

section Resolving

variable {β σ ρ : Type} [Client β σ] [OffsetStore ρ] {client : β} {store : ρ}
  {environment : String} {place : TopicPartition} {span : Span} {e : RunError}

/-- An error is what the broker said to a question about one of the partition's offsets. -/
def Refuses (client : β) (place : TopicPartition) (e : RunError) : Prop :=
  ∃ query fault, e = .broker fault ∧ Client.lookup client place query = .refusal fault

omit [OffsetStore ρ] in
theorem refuses_of_ofReply {query : OffsetQuery}
    (failed : Resolved.ofReply (Client.lookup client place query) = .error e) :
    Refuses client place e := by
  cases reply : Client.lookup client place query with
  | answer offset =>
      rw [reply] at failed
      cases failed
  | breakdown =>
      rw [reply] at failed
      cases failed
  | refusal fault =>
      rw [reply] at failed
      cases failed
      exact ⟨query, fault, rfl, reply⟩

theorem refuses_of_resolveStart {start : Checkpoint}
    (failed : resolveStart client store environment place start = .error e) :
    Refuses client place e := by
  cases start with
  | offset n => cases failed
  | oldest => exact refuses_of_ofReply failed
  | newest => exact refuses_of_ofReply failed
  | time t => exact refuses_of_ofReply failed
  | stored =>
      simp only [resolveStart] at failed
      split at failed
      · cases failed
      · exact refuses_of_ofReply failed

theorem Consumer.Resolved.andThen_eq_error_iff {α γ : Type} {resolved : Resolved α}
    {f : α → Resolved γ} :
    resolved.andThen f = .error e ↔
      resolved = .error e ∨ ∃ a, resolved = .value a ∧ f a = .error e := by
  cases resolved <;> simp [Resolved.andThen]

omit [OffsetStore ρ] in
theorem refuses_of_resolveStop {stop : Checkpoint}
    (stops : (∃ n, stop = .offset n) ∨ (∃ t, stop = .time t) ∨ stop = .newest)
    (failed : resolveStop client place stop = .error e) : Refuses client place e := by
  rcases stops with ⟨n, rfl⟩ | ⟨t, rfl⟩ | rfl
  · cases failed
  · cases failed
  · rcases Resolved.andThen_eq_error_iff.mp failed with asked | ⟨_, -, computed⟩
    · exact refuses_of_ofReply asked
    · cases computed

/-- Only the broker can refuse to resolve a span that can be run. -/
theorem Span.Runnable.resolve_eq_error (runnable : span.Runnable)
    (failed : resolve client store environment place span = .error e) :
    Refuses client place e := by
  rcases Resolved.andThen_eq_error_iff.mp failed with started | ⟨first, -, rest⟩
  · exact refuses_of_resolveStart started
  · split at rest
    · cases rest
    · rename_i stop found
      rcases Resolved.andThen_eq_error_iff.mp rest with stopped | ⟨_, -, computed⟩
      · exact refuses_of_resolveStop (runnable.stops stop found) stopped
      · cases computed

end Resolving

end TopicReplay
