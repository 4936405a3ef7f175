import Mathlib.Data.List.Induction
import TopicReplay.Checkpoint.Selection
import TopicReplay.Proofs.OrderedMap

/-!
# What selections mean

A selection is built in two passes over a map that grows: partitions inherit what the span
of all partitions says when they are met, and a later stop for all is carried over to those
that have none of their own. What comes of it can be said without an order of the scopes.
The last expression of each scope counts, and a partition that some expression speaks of
has what its own expressions say and, where they say nothing, what is said of all.

The main statement is `build_order_free`.
-/

namespace TopicReplay.Selection

open Checkpoint (Error)

/-- An expression that was read: its scope and its checkpoint. -/
abbrev Token := PartitionScope × Checkpoint

/-- The last checkpoint that tokens give for a scope. -/
def lastOf? (scope : PartitionScope) (tokens : List Token) : Option Checkpoint :=
  (tokens.filter (·.1 = scope)).getLast?.map (·.2)

section LastOf

variable {scope other : PartitionScope} {tokens : List Token}

@[simp]
theorem lastOf?_nil : lastOf? scope [] = none := rfl

@[simp]
theorem lastOf?_append_self (tokens : List Token) (scope : PartitionScope)
    (checkpoint : Checkpoint) :
    lastOf? scope (tokens ++ [(scope, checkpoint)]) = some checkpoint := by
  simp [lastOf?]

theorem lastOf?_append_of_ne (tokens : List Token) (checkpoint : Checkpoint)
    (apart : other ≠ scope) :
    lastOf? scope (tokens ++ [(other, checkpoint)]) = lastOf? scope tokens := by
  simp [lastOf?, apart]

theorem isSome_lastOf?_iff :
    (lastOf? scope tokens).isSome ↔ ∃ token ∈ tokens, token.1 = scope := by
  simp [lastOf?]

end LastOf

/-! ## Meanings -/

section Meaning

variable (starts stops : List Token)

/-- The span that tokens for start and stop mean for all partitions. -/
def commonOf : Span where
  start := (lastOf? .all starts).getD .newest
  stop := lastOf? .all stops

/-- Whether some token speaks of one partition alone. -/
def Speaks (partition : Int) : Prop := ∃ token ∈ starts ++ stops, token.1 = .partition partition

instance (partition : Int) : Decidable (Speaks starts stops partition) :=
  inferInstanceAs (Decidable (∃ token ∈ starts ++ stops, token.1 = .partition partition))

/-- The span that tokens mean for a partition that they speak of. -/
def spanOf (partition : Int) : Span where
  start := (lastOf? (.partition partition) starts).getD (commonOf starts stops).start
  stop := (lastOf? (.partition partition) stops).or (commonOf starts stops).stop

/-- The span of its own that tokens mean for a partition, if they speak of it. -/
def ownOf? (partition : Int) : Option Span :=
  if Speaks starts stops partition then some (spanOf starts stops partition) else none

/-- Whether all spans that tokens mean are valid. -/
def AllValid : Prop :=
  (commonOf starts stops).fault? = none ∧
    ∀ partition, Speaks starts stops partition → (spanOf starts stops partition).fault? = none

variable {starts stops}

theorem speaks_iff {partition : Int} :
    Speaks starts stops partition ↔
      (lastOf? (.partition partition) starts).isSome ∨
        (lastOf? (.partition partition) stops).isSome := by
  simp only [Speaks, isSome_lastOf?_iff, List.mem_append, or_and_right, exists_or]

/-- What tokens mean depends on the last checkpoint of each scope alone. -/
theorem commonOf_congr {otherStarts otherStops : List Token}
    (first : ∀ scope, lastOf? scope otherStarts = lastOf? scope starts)
    (last : ∀ scope, lastOf? scope otherStops = lastOf? scope stops) :
    commonOf otherStarts otherStops = commonOf starts stops := by
  simp only [commonOf, first, last]

theorem ownOf?_congr {otherStarts otherStops : List Token}
    (first : ∀ scope, lastOf? scope otherStarts = lastOf? scope starts)
    (last : ∀ scope, lastOf? scope otherStops = lastOf? scope stops) (partition : Int) :
    ownOf? otherStarts otherStops partition = ownOf? starts stops partition := by
  simp only [ownOf?, spanOf, speaks_iff, commonOf_congr first last, first, last]

end Meaning

/-! ## Gathering -/

section Gathering

variable {gathered : Gathered} {starts stops : List Token}

/-- What was gathered from tokens is what they mean. -/
structure Means (gathered : Gathered) (starts stops : List Token) : Prop where
  common : gathered.common = commonOf starts stops
  own : ∀ partition, gathered.own.get? partition = ownOf? starts stops partition
  stopped : ∀ partition, partition ∈ gathered.stopped ↔
    (lastOf? (.partition partition) stops).isSome

theorem means_nil : Means {} [] [] := ⟨rfl, fun _ => rfl, fun _ => by simp⟩

/-- As long as there are no stops, a partition has a span if a start speaks of it. -/
theorem ownOf?_nil_right (starts : List Token) (partition : Int) :
    ownOf? starts [] partition = (lastOf? (.partition partition) starts).map (⟨·, none⟩) := by
  simp only [ownOf?, speaks_iff, spanOf, commonOf, lastOf?_nil]
  cases lastOf? (.partition partition) starts <;> simp

theorem Means.addStart (means : Means gathered starts []) (token : Token) :
    Means (addStart gathered token) (starts ++ [token]) [] := by
  rcases token with ⟨scope, checkpoint⟩
  cases scope with
  | all =>
      refine ⟨?_, fun partition => ?_, means.stopped⟩
      · simp [Selection.addStart, means.common, commonOf]
      · have apart : PartitionScope.all ≠ .partition partition := PartitionScope.noConfusion
        rw [ownOf?_nil_right, lastOf?_append_of_ne _ _ apart, ← ownOf?_nil_right]
        exact means.own partition
  | partition number =>
      refine ⟨?_, fun partition => ?_, means.stopped⟩
      · have apart : PartitionScope.partition number ≠ .all := PartitionScope.noConfusion
        rw [commonOf, lastOf?_append_of_ne _ _ apart]
        exact means.common
      · rw [ownOf?_nil_right]
        by_cases same : partition = number
        · subst same
          simp only [Selection.addStart, OrderedMap.get?_update_self, means.own, ownOf?_nil_right,
            means.common, lastOf?_append_self]
          cases lastOf? (.partition partition) starts <;> rfl
        · have apart : PartitionScope.partition number ≠ .partition partition := fun equal =>
            same (PartitionScope.partition.inj equal).symm
          rw [lastOf?_append_of_ne _ _ apart, ← ownOf?_nil_right, ← means.own]
          exact OrderedMap.get?_update_of_ne _ _ same

theorem Means.addStop (means : Means gathered starts stops) (token : Token) :
    Means (addStop gathered token) starts (stops ++ [token]) := by
  rcases token with ⟨scope, checkpoint⟩
  cases scope with
  | all =>
      have kept (partition : Int) : lastOf? (.partition partition) (stops ++ [(.all, checkpoint)]) =
          lastOf? (.partition partition) stops :=
        lastOf?_append_of_ne _ _ PartitionScope.noConfusion
      refine ⟨?_, fun partition => ?_, fun partition => ?_⟩
      · simp [Selection.addStop, means.common, commonOf]
      · have still : Speaks starts (stops ++ [(.all, checkpoint)]) partition ↔
            Speaks starts stops partition := by
          rw [speaks_iff, speaks_iff, kept]
        simp only [Selection.addStop, OrderedMap.get?_mapValues, means.own, means.stopped, ownOf?,
          still]
        by_cases speaks : Speaks starts stops partition
        · -- A partition with a stop of its own keeps it.
          rw [if_pos speaks, if_pos speaks]
          cases own : lastOf? (.partition partition) stops <;> simp [spanOf, commonOf, kept, own]
        · rw [if_neg speaks, if_neg speaks]
          rfl
      · rw [kept]
        exact means.stopped partition
  | partition number =>
      have common_eq : commonOf starts (stops ++ [(.partition number, checkpoint)]) =
          commonOf starts stops := by
        simp only [commonOf, lastOf?_append_of_ne stops checkpoint
          (show PartitionScope.partition number ≠ .all from PartitionScope.noConfusion)]
      have kept {partition : Int} (apart : partition ≠ number) :
          lastOf? (.partition partition) (stops ++ [(.partition number, checkpoint)]) =
            lastOf? (.partition partition) stops :=
        lastOf?_append_of_ne _ _ fun equal => apart (PartitionScope.partition.inj equal).symm
      refine ⟨?_, fun partition => ?_, fun partition => ?_⟩
      · rw [common_eq]
        exact means.common
      · by_cases same : partition = number
        · subst same
          simp only [Selection.addStop, OrderedMap.get?_update_self, means.own, means.common,
            ownOf?, speaks_iff, spanOf, common_eq, lastOf?_append_self]
          cases lastOf? (.partition partition) starts <;>
            cases lastOf? (.partition partition) stops <;> simp
        · simp only [ownOf?, speaks_iff, spanOf, common_eq, kept same]
          have found := OrderedMap.get?_update_of_ne gathered.own
            (fun span =>
              { span.getD { start := gathered.common.start } with stop := some checkpoint })
            same
          rw [Selection.addStop, found, means.own]
          simp only [ownOf?, speaks_iff, spanOf]
      · by_cases same : partition = number
        · subst same
          simp [Selection.addStop]
        · rw [kept same, ← means.stopped]
          simp [Selection.addStop, same]

theorem means_starts (starts : List Token) : Means (starts.foldl addStart {}) starts [] := by
  induction starts using List.reverseRecOn with
  | nil => exact means_nil
  | append_singleton starts token ih =>
      rw [List.foldl_append]
      exact ih.addStart token

theorem means_foldl (starts stops : List Token) :
    Means (stops.foldl addStop (starts.foldl addStart {})) starts stops := by
  induction stops using List.reverseRecOn with
  | nil => exact means_starts starts
  | append_singleton stops token ih =>
      rw [List.foldl_append]
      exact ih.addStop token

end Gathering

/-! ## Reading -/

section Reading

variable {isStop : Bool} {raws others : List String} {tokens : List Token}

/-- Expressions are read one by one, each as one token. -/
def Reads (isStop : Bool) (raws : List String) (tokens : List Token) : Prop :=
  raws.map (parseToken · isStop) = tokens.map .ok

/-- The token that an expression is read as, if it can be read. -/
def token? (isStop : Bool) (raw : String) : Option Token := (parseToken raw isStop).toOption

/-- The scope of an expression, if it can be read. -/
def scopeOf? (isStop : Bool) (raw : String) : Option PartitionScope :=
  (token? isStop raw).map (·.1)

/-- The same expressions in another order, which is kept within each scope. -/
structure Reorders (isStop : Bool) (raws others : List String) : Prop where
  perm : others.Perm raws
  order : ∀ scope, others.filter (scopeOf? isStop · = some scope) =
    raws.filter (scopeOf? isStop · = some scope)

instance : Decidable (Reads isStop raws tokens) :=
  inferInstanceAs (Decidable (raws.map (parseToken · isStop) = tokens.map .ok))

/-- Only the scopes of the expressions have to be looked at. -/
theorem reorders_iff :
    Reorders isStop raws others ↔
      others.Perm raws ∧ ∀ raw ∈ raws, ∀ scope ∈ scopeOf? isStop raw,
        others.filter (scopeOf? isStop · = some scope) =
          raws.filter (scopeOf? isStop · = some scope) := by
  constructor
  · exact fun reorders => ⟨reorders.perm, fun _ _ scope _ => reorders.order scope⟩
  · rintro ⟨perm, order⟩
    refine ⟨perm, fun scope => ?_⟩
    by_cases used : ∃ raw ∈ raws, scopeOf? isStop raw = some scope
    · rcases used with ⟨raw, member, scope_eq⟩
      exact order raw member scope scope_eq
    · have unused (raw : String) (member : raw ∈ raws) : scopeOf? isStop raw ≠ some scope :=
        fun scope_eq => used ⟨raw, member, scope_eq⟩
      have none_here : raws.filter (scopeOf? isStop · = some scope) = [] := by
        simpa [List.filter_eq_nil_iff] using unused
      have none_there : others.filter (scopeOf? isStop · = some scope) = [] := by
        simpa [List.filter_eq_nil_iff, perm.mem_iff] using unused
      rw [none_here, none_there]

instance : Decidable (Reorders isStop raws others) := decidable_of_iff _ reorders_iff.symm

theorem reads_nil_iff : Reads isStop [] tokens ↔ tokens = [] := by
  cases tokens <;> simp [Reads]

theorem reads_cons_iff {raw : String} :
    Reads isStop (raw :: raws) tokens ↔
      ∃ token rest, tokens = token :: rest ∧ parseToken raw isStop = .ok token ∧
        Reads isStop raws rest := by
  cases tokens with
  | nil => simp [Reads]
  | cons token rest => simp [Reads]

theorem reads_iff :
    Reads isStop raws tokens ↔
      (∀ raw ∈ raws, ∃ token, parseToken raw isStop = .ok token) ∧
        tokens = raws.filterMap (token? isStop) := by
  induction raws generalizing tokens with
  | nil => simp [reads_nil_iff]
  | cons raw rest ih =>
      simp only [reads_cons_iff, ih, List.forall_mem_cons]
      constructor
      · rintro ⟨token, _, rfl, parses, others, rfl⟩
        exact ⟨⟨⟨token, parses⟩, others⟩, by simp [token?, parses, Except.toOption]⟩
      · rintro ⟨⟨⟨token, parses⟩, others⟩, rfl⟩
        exact ⟨token, _, by simp [token?, parses, Except.toOption], parses, others, rfl⟩

theorem not_reads_of_error {raw : String} {e : Error} (member : raw ∈ raws)
    (refused : parseToken raw isStop = .error e) : ¬Reads isStop raws tokens := by
  intro reads
  rcases (reads_iff.mp reads).1 raw member with ⟨token, parses⟩
  rw [refused] at parses
  cases parses

/-- The last checkpoint of a scope is that of the last expression with the scope. -/
theorem lastOf?_filterMap (isStop : Bool) (raws : List String) (scope : PartitionScope) :
    lastOf? scope (raws.filterMap (token? isStop)) =
      ((raws.filter (scopeOf? isStop · = some scope)).filterMap (token? isStop)).getLast?.map
        (·.2) := by
  rw [lastOf?, List.filter_filterMap, List.filterMap_filter]
  congr 3
  funext raw
  cases read : token? isStop raw <;> simp [scopeOf?, read, Option.filter]

/-- Other orders are read, too, and keep the last checkpoint of each scope. -/
theorem Reorders.exists_reads (reorders : Reorders isStop raws others)
    (reads : Reads isStop raws tokens) :
    ∃ otherTokens, Reads isStop others otherTokens ∧
      ∀ scope, lastOf? scope otherTokens = lastOf? scope tokens := by
  rcases reads_iff.mp reads with ⟨parse, rfl⟩
  refine ⟨_, reads_iff.mpr ⟨fun raw member => parse raw (reorders.perm.mem_iff.mp member), rfl⟩, ?_⟩
  intro scope
  rw [lastOf?_filterMap, lastOf?_filterMap, reorders.order]

/-- Gathering goes on as long as expressions can be read. -/
theorem gather_eq_ok_iff {add : Gathered → Token → Gathered} {gathered after : Gathered} :
    gather isStop add raws gathered = .ok after ↔
      ∃ tokens, Reads isStop raws tokens ∧ tokens.foldl add gathered = after := by
  induction raws generalizing gathered with
  | nil => simp [gather, reads_nil_iff]
  | cons raw rest ih =>
      simp only [reads_cons_iff]
      cases parses : parseToken raw isStop with
      | error e => simp [gather, parses]
      | ok token =>
          simp only [gather, parses, ih, Except.ok.injEq]
          constructor
          · rintro ⟨tokens, reads, rfl⟩
            exact ⟨_, ⟨token, tokens, rfl, rfl, reads⟩, rfl⟩
          · rintro ⟨_, ⟨_, tokens, rfl, rfl, reads⟩, rfl⟩
            exact ⟨tokens, reads, rfl⟩

end Reading

/-! ## Building -/

section Building

theorem check_eq_ok_iff (scope : String) {span : Span} :
    span.check scope = .ok () ↔ span.fault? = none := by
  rw [Span.check]
  cases span.fault? <;> simp

theorem forM_eq_ok_iff {α ε : Type} {items : List α} {f : α → Except ε Unit} :
    forM items f = .ok () ↔ ∀ item ∈ items, f item = .ok () := by
  induction items with
  | nil => simp [pure, Except.pure]
  | cons item rest ih =>
      rw [List.forM_cons, List.forall_mem_cons]
      cases done : f item <;> simp [bind, Except.bind, ih]

/-- The spans that were gathered are valid exactly when those are that the tokens mean. -/
theorem Means.checkSpans_eq_ok_iff {gathered : Gathered} {starts stops : List Token}
    (means : Means gathered starts stops) :
    checkSpans gathered = .ok () ↔ AllValid starts stops := by
  have common : checkSpans gathered = .ok () ↔ gathered.common.fault? = none ∧
      ∀ entry ∈ gathered.own.toList, entry.2.fault? = none := by
    simp only [← check_eq_ok_iff PartitionScope.all.display, checkSpans]
    cases gathered.common.check PartitionScope.all.display with
    | error e => simp [bind, Except.bind]
    | ok => simp [bind, Except.bind, forM_eq_ok_iff, check_eq_ok_iff]
  rw [common, means.common, AllValid]
  apply and_congr_right
  intro _
  simp only [Prod.forall, OrderedMap.mem_toList_iff, means.own, ownOf?]
  constructor
  · exact fun valid partition speaks => valid partition _ (if_pos speaks)
  · intro valid partition span found
    split at found
    · rename_i speaks
      cases found
      exact valid partition speaks
    · cases found

/-- A selection is what tokens mean: who has a span of its own, which one, and what becomes
of each partition. -/
structure Realises (selection : Selection) (starts stops : List Token) (exclusive : Bool) :
    Prop where
  common : selection.common = commonOf starts stops
  own : ∀ partition, selection.own.get? partition = ownOf? starts stops partition
  chosen : ∀ partition, Speaks starts stops partition →
    selection.choose partition = .own (spanOf starts stops partition)
  excluded : ∀ partition, ¬Speaks starts stops partition → exclusive = true →
    (∃ other, Speaks starts stops other) → selection.choose partition = .excluded
  followed : ∀ partition, ¬Speaks starts stops partition →
    (exclusive = false ∨ ∀ other, ¬Speaks starts stops other) →
      selection.choose partition = .common (commonOf starts stops)

variable {starts stops : List String} {exclusive : Bool} {selection : Selection}

/-- What becomes of what was gathered from valid expressions. -/
def ofGathered (gathered : Gathered) (exclusive : Bool) : Selection where
  common := gathered.common
  own := gathered.own
  exclusive := exclusive && !gathered.own.isEmpty

/-- A selection is built exactly when all expressions are read and all spans are valid. -/
theorem build_eq_ok_iff :
    build starts stops exclusive = .ok selection ↔
      ∃ starting stopping, Reads false starts starting ∧ Reads true stops stopping ∧
        AllValid starting stopping ∧
        ofGathered (stopping.foldl addStop (starting.foldl addStart {})) exclusive = selection := by
  have build_eq : build starts stops exclusive = .ok selection ↔
      ∃ begun gathered, gather false addStart starts {} = .ok begun ∧
        gather true addStop stops begun = .ok gathered ∧ checkSpans gathered = .ok () ∧
        ofGathered gathered exclusive = selection := by
    simp only [build, ofGathered]
    cases gather false addStart starts {} with
    | error e => simp [bind, Except.bind]
    | ok begun =>
        cases gathers : gather true addStop stops begun with
        | error e => simp [bind, Except.bind, gathers]
        | ok gathered =>
            cases checks : checkSpans gathered <;>
              simp [bind, Except.bind, pure, Except.pure, gathers, checks]
  rw [build_eq]
  simp only [gather_eq_ok_iff]
  constructor
  · rintro ⟨_, _, ⟨starting, startReads, rfl⟩, ⟨stopping, stopReads, rfl⟩, checks, rfl⟩
    have valid := (means_foldl starting stopping).checkSpans_eq_ok_iff.mp checks
    exact ⟨starting, stopping, startReads, stopReads, valid, rfl⟩
  · rintro ⟨starting, stopping, startReads, stopReads, valid, rfl⟩
    have checks := (means_foldl starting stopping).checkSpans_eq_ok_iff.mpr valid
    exact ⟨_, _, ⟨starting, startReads, rfl⟩, ⟨stopping, stopReads, rfl⟩, checks, rfl⟩

theorem Means.isEmpty_eq_true_iff {gathered : Gathered} {starts stops : List Token}
    (means : Means gathered starts stops) :
    gathered.own.isEmpty = true ↔ ∀ partition, ¬Speaks starts stops partition := by
  constructor
  · intro bare partition speaks
    have found := means.own partition
    rw [OrderedMap.eq_empty_of_isEmpty bare, ownOf?, if_pos speaks] at found
    cases found
  · intro silent
    have none_own : gathered.own = .empty := by
      apply OrderedMap.ext
      intro partition
      rw [means.own, ownOf?, if_neg (silent partition)]
      rfl
    rw [none_own]
    rfl

/-- What is built of what was gathered from tokens is what they mean. -/
theorem Means.realises {gathered : Gathered} {starts stops : List Token}
    (means : Means gathered starts stops) (exclusive : Bool) :
    (ofGathered gathered exclusive).Realises starts stops exclusive := by
  have unnamed {partition : Int} (silent : ¬Speaks starts stops partition) :
      gathered.own.get? partition = none := by
    rw [means.own, ownOf?, if_neg silent]
  refine ⟨means.common, means.own, fun partition speaks => ?_, fun partition silent only some => ?_,
    fun partition silent free => ?_⟩
  · rw [choose, ofGathered, means.own, ownOf?, if_pos speaks]
  · have filled : gathered.own.isEmpty = false := by
      rw [← Bool.not_eq_true, means.isEmpty_eq_true_iff]
      exact fun none => some.elim none
    simp [choose, ofGathered, unnamed silent, only, filled]
  · have included : (exclusive && !gathered.own.isEmpty) = false := by
      rcases free with free | none
      · rw [free, Bool.false_and]
      · rw [means.isEmpty_eq_true_iff.mpr none, Bool.not_true, Bool.and_false]
    simp [choose, ofGathered, unnamed silent, included, means.common]

/-- What is built depends on the last checkpoint of each scope alone. -/
theorem ofGathered_congr {gathered other : Gathered}
    {starts stops otherStarts otherStops : List Token} (means : Means gathered starts stops)
    (also : Means other otherStarts otherStops)
    (start : ∀ scope, lastOf? scope otherStarts = lastOf? scope starts)
    (stop : ∀ scope, lastOf? scope otherStops = lastOf? scope stops) (exclusive : Bool) :
    ofGathered other exclusive = ofGathered gathered exclusive := by
  have own_eq : other.own = gathered.own := by
    apply OrderedMap.ext
    intro partition
    rw [also.own, means.own, ownOf?_congr start stop]
  have common_eq : other.common = gathered.common := by
    rw [also.common, means.common, commonOf_congr start stop]
  rw [ofGathered, ofGathered, own_eq, common_eq]

theorem allValid_congr {starts stops otherStarts otherStops : List Token}
    (start : ∀ scope, lastOf? scope otherStarts = lastOf? scope starts)
    (stop : ∀ scope, lastOf? scope otherStops = lastOf? scope stops) :
    AllValid otherStarts otherStops ↔ AllValid starts stops := by
  simp only [AllValid, spanOf, speaks_iff, commonOf_congr start stop, start, stop]

/-- Building is blind to the order of the scopes. Where all expressions are read, it succeeds
exactly if all spans are valid that the last expressions of each scope mean, and the selection
is what they mean. In another order that is kept within each scope the same selection is built.
An expression that cannot be read makes it fail, wherever it stands. -/
theorem build_order_free (starts stops : List String) (exclusive : Bool) :
    (∀ starting stopping, Reads false starts starting → Reads true stops stopping →
      ((∃ selection, build starts stops exclusive = .ok selection) ↔ AllValid starting stopping) ∧
        ∀ selection, build starts stops exclusive = .ok selection →
          selection.Realises starting stopping exclusive) ∧
      (∀ selection otherStarts otherStops, build starts stops exclusive = .ok selection →
        Reorders false starts otherStarts → Reorders true stops otherStops →
          build otherStarts otherStops exclusive = .ok selection) ∧
      ((∃ raw ∈ starts, ∃ e, parseToken raw false = .error e) ∨
          (∃ raw ∈ stops, ∃ e, parseToken raw true = .error e) →
        ∃ e, build starts stops exclusive = .error e) := by
  refine ⟨fun starting stopping startReads stopReads => ?_, ?_, ?_⟩
  · have same {others : List Token} {isStop : Bool} {raws : List String} {tokens : List Token}
        (reads : Reads isStop raws tokens) (also : Reads isStop raws others) : others = tokens :=
      (reads_iff.mp also).2.trans (reads_iff.mp reads).2.symm
    constructor
    · constructor
      · rintro ⟨selection, built⟩
        rcases build_eq_ok_iff.mp built with ⟨_, _, startAlso, stopAlso, valid, -⟩
        rwa [same startReads startAlso, same stopReads stopAlso] at valid
      · intro valid
        exact ⟨_, build_eq_ok_iff.mpr ⟨starting, stopping, startReads, stopReads, valid, rfl⟩⟩
    · intro selection built
      rcases build_eq_ok_iff.mp built with ⟨_, _, startAlso, stopAlso, -, rfl⟩
      rw [same startReads startAlso, same stopReads stopAlso]
      exact (means_foldl starting stopping).realises exclusive
  · intro selection otherStarts otherStops built startOrder stopOrder
    rcases build_eq_ok_iff.mp built with ⟨starting, stopping, startReads, stopReads, valid, rfl⟩
    rcases startOrder.exists_reads startReads with ⟨otherStarting, otherStartReads, start⟩
    rcases stopOrder.exists_reads stopReads with ⟨otherStopping, otherStopReads, stop⟩
    have otherValid := (allValid_congr start stop).mpr valid
    have alike := ofGathered_congr (means_foldl starting stopping)
      (means_foldl otherStarting otherStopping) start stop exclusive
    exact build_eq_ok_iff.mpr
      ⟨otherStarting, otherStopping, otherStartReads, otherStopReads, otherValid, alike⟩
  · intro refused
    cases built : build starts stops exclusive with
    | error e => exact ⟨e, rfl⟩
    | ok selection =>
        rcases build_eq_ok_iff.mp built with ⟨starting, stopping, startReads, stopReads, -, -⟩
        rcases refused with ⟨raw, member, e, error⟩ | ⟨raw, member, e, error⟩
        · exact absurd startReads (not_reads_of_error member error)
        · exact absurd stopReads (not_reads_of_error member error)

/-- Starts and stops of two partitions and of all, and the same in another order. A word that
names no checkpoint is not mended by an expression that replaces it. -/
theorem build_order_free_mixed :
    ∃ selection,
      build ["0#50", "oldest", "0#60", "100"] ["1#300", "newest"] true = .ok selection ∧
        selection.choose 0 = .own ⟨.offset 60, some .newest⟩ ∧
        selection.choose 1 = .own ⟨.offset 100, some (.offset 300)⟩ ∧
        selection.choose 2 = .excluded ∧
        build ["oldest", "100", "0#50", "0#60"] ["newest", "1#300"] true = .ok selection ∧
        ∃ e, build ["soon", "100"] [] true = .error e := by
  let starting : List Token :=
    [(.partition 0, .offset 50), (.all, .oldest), (.partition 0, .offset 60), (.all, .offset 100)]
  let stopping : List Token := [(.partition 1, .offset 300), (.all, .newest)]
  obtain ⟨meant, reordered, -⟩ :=
    build_order_free ["0#50", "oldest", "0#60", "100"] ["1#300", "newest"] true
  obtain ⟨built_iff, realises⟩ :=
    meant starting stopping (by decide +kernel) (by decide +kernel)
  have valid : AllValid starting stopping := by
    refine ⟨by decide, fun partition speaks => ?_⟩
    have named : partition = 0 ∨ partition = 1 := by
      simpa [Speaks, starting, stopping, eq_comm] using speaks
    rcases named with rfl | rfl <;> decide
  obtain ⟨selection, built⟩ := built_iff.mpr valid
  have realised := realises selection built
  refine ⟨selection, built, realised.chosen 0 (by decide), realised.chosen 1 (by decide),
    realised.excluded 2 (by decide) rfl ⟨0, by decide⟩, ?_, ?_⟩
  · exact reordered selection _ _ built (by decide +kernel) (by decide +kernel)
  · exact (build_order_free ["soon", "100"] [] true).2.2 (.inl ⟨"soon", by simp, _, rfl⟩)

end Building

end TopicReplay.Selection
