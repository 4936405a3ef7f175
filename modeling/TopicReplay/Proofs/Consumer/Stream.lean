import Mathlib.Data.List.TakeWhile
import TopicReplay.Broker.Canned
import TopicReplay.Proofs.Consumer.Stuck
import TopicReplay.Store.Memory

/-!
# Consumers of any stream

What a consumer makes of a stream can be told from the items of the stream alone, without
its loop. It delivers the messages from its start on that come before the first error that
does not pass, cut behind the first of them that reaches its stop bound. That message, or
else that error, or else the end of the stream is how it ends, and the errors before it are
the ones it reports. This holds of every client and of every stream of it that ends.

The main statement is `delivers_share`.
-/

namespace TopicReplay

open Broker (Client)
open Consumer (Surroundings resolve)
open Store (OffsetStore)

/-! ## Streams by their items -/

/-- An item of a stream: a message, or an error in its place. -/
abbrev StreamItem := Except Broker.Error Message

section Gives

variable {β σ : Type} [Client β σ]

/-- What a stream gives, one item after the other, until it ends. -/
inductive Gives : β → σ → List StreamItem → Prop where
  | ended {client after : β} {stream next : σ}
      (polled : Client.poll client stream = (.ended, next, after)) : Gives client stream []
  | message {client after : β} {stream next : σ} {m : Message} {items : List StreamItem}
      (polled : Client.poll client stream = (.message m, next, after))
      (rest : Gives after next items) : Gives client stream (.ok m :: items)
  | fault {client after : β} {stream next : σ} {e : Broker.Error} {items : List StreamItem}
      (polled : Client.poll client stream = (.fault e, next, after))
      (rest : Gives after next items) : Gives client stream (.error e :: items)

end Gives

/-- The error of an item, if it is one that does not pass. -/
def fatal? : StreamItem → Option Broker.Error
  | .ok _ => none
  | .error e => if e.isRetryable then none else some e

/-- The first error of a stream that does not pass. -/
def firstFatal? (items : List StreamItem) : Option Broker.Error := items.findSome? fatal?

/-- The messages of a stream before its first error that does not pass. -/
def readable (items : List StreamItem) : List Message :=
  (items.takeWhile fun item => (fatal? item).isNone).filterMap (·.toOption)

/-- The errors among some items. -/
def errorsOf (items : List StreamItem) : List Broker.Error :=
  items.filterMap fun item => match item with
    | .ok _ => none
    | .error e => some e

/-- What a consumer makes of a stream. -/
structure Account where
  delivered : List Message
  reported : List Broker.Error
  ending : Ending
  deriving DecidableEq

namespace Bounds

variable (bounds : Bounds)

/-- The messages of a stream that count: those from the start on that can be read. -/
def wanted (items : List StreamItem) : List Message :=
  (readable items).filter fun m => bounds.start ≤ m.offset

/-- The messages to deliver: those that count, cut behind the first that reaches the bound. -/
def share (items : List StreamItem) : List Message :=
  (bounds.wanted items).take ((bounds.wanted items).findIdx bounds.endAt + 1)

/-- How reading a stream ends: at a message that counts and reaches the bound, else at an error
that does not pass, else with the stream. -/
def conclusion (items : List StreamItem) : Ending :=
  if (bounds.wanted items).any bounds.endAt then .finished .stopped
  else
    match firstFatal? items with
    | some e => .failed (.broker e)
    | none => .finished .streamEnded

/-- Whether reading ends at an item. -/
def isPoint : StreamItem → Bool
  | .ok m => bounds.start ≤ m.offset && bounds.endAt m
  | .error e => !e.isRetryable

/-- The errors to report: those before the item at which reading ends. -/
def passed (items : List StreamItem) : List Broker.Error :=
  errorsOf (items.takeWhile fun item => !bounds.isPoint item)

/-- What a consumer with these bounds is to make of a stream. -/
def account (items : List StreamItem) : Account where
  delivered := bounds.share items
  reported := bounds.passed items
  ending := bounds.conclusion items

/-! ## Item by item -/

section Items

variable {bounds : Bounds} {m : Message} {e : Broker.Error} {items : List StreamItem}

theorem account_nil : bounds.account [] = ⟨[], [], .finished .streamEnded⟩ := rfl

/-- A message before the start does not show. -/
theorem account_early (early : m.offset < bounds.start) :
    bounds.account (.ok m :: items) = bounds.account items := by
  have wanted : bounds.wanted (.ok m :: items) = bounds.wanted items := by
    simp [wanted, readable, fatal?, Except.toOption, early]
  simp [account, share, conclusion, passed, wanted, firstFatal?, List.findSome?_cons, fatal?,
    isPoint, errorsOf, early]

/-- A message from the start on that reaches the bound is the last one. -/
theorem account_point (onward : bounds.start ≤ m.offset) (last : bounds.endAt m = true) :
    bounds.account (.ok m :: items) = ⟨[m], [], .finished .stopped⟩ := by
  have wanted : bounds.wanted (.ok m :: items) = m :: bounds.wanted items := by
    simp [wanted, readable, fatal?, Except.toOption, onward]
  simp [account, share, conclusion, passed, wanted, isPoint, errorsOf, onward, last,
    List.findIdx_cons]

/-- Another message from the start on is delivered before the rest. -/
theorem account_onward (onward : bounds.start ≤ m.offset) (more : bounds.endAt m = false) :
    bounds.account (.ok m :: items) =
      { bounds.account items with delivered := m :: (bounds.account items).delivered } := by
  have wanted : bounds.wanted (.ok m :: items) = m :: bounds.wanted items := by
    simp [wanted, readable, fatal?, Except.toOption, onward]
  simp [account, share, conclusion, passed, wanted, firstFatal?, List.findSome?_cons, fatal?,
    isPoint, errorsOf, more, List.findIdx_cons]

/-- An error that passes is reported before the rest. -/
theorem account_passing (passing : e.isRetryable = true) :
    bounds.account (.error e :: items) =
      { bounds.account items with reported := e :: (bounds.account items).reported } := by
  have wanted : bounds.wanted (.error e :: items) = bounds.wanted items := by
    simp [wanted, readable, fatal?, Except.toOption, passing]
  simp [account, share, conclusion, passed, wanted, firstFatal?, fatal?, isPoint, errorsOf, passing]

/-- An error that does not pass ends all. -/
theorem account_fatal (lasting : e.isRetryable = false) :
    bounds.account (.error e :: items) = ⟨[], [], .failed (.broker e)⟩ := by
  simp [account, share, conclusion, passed, wanted, readable, firstFatal?, fatal?, isPoint,
    errorsOf, lasting]

/-- Wherever a message before the start stands, it does not show. -/
theorem account_append_early (before : List StreamItem) (early : m.offset < bounds.start) :
    bounds.account (before ++ .ok m :: items) = bounds.account (before ++ items) := by
  induction before with
  | nil => exact account_early early
  | cons item before ih =>
      rw [List.cons_append, List.cons_append]
      cases item with
      | ok other =>
          by_cases sooner : other.offset < bounds.start
          · rw [account_early sooner, account_early sooner, ih]
          · have onward : bounds.start ≤ other.offset := Int.not_lt.mp sooner
            cases last : bounds.endAt other with
            | true => rw [account_point onward last, account_point onward last]
            | false => rw [account_onward onward last, account_onward onward last, ih]
      | error e =>
          cases passing : e.isRetryable with
          | true => rw [account_passing passing, account_passing passing, ih]
          | false => rw [account_fatal passing, account_fatal passing]

end Items

end Bounds

/-! ## Runs -/

/-- A consumer with its client, and what it has given off. -/
structure Solo (β σ : Type) where
  client : β
  consumer : Consumer σ
  delivered : List Event := []
  reported : List RunError := []

namespace Solo

variable {β σ ρ : Type} [Client β σ] [OffsetStore ρ]

/-- The step of a consumer that is not told to stop. -/
def step? (solo : Solo β σ) (store : ρ) (channel : Channel) (now : Nat) :
    Option (Consumer.Outcome β σ) :=
  solo.consumer.step? { client := solo.client, store, channel, stop := false, now }

/-- What a step leaves, and all that was given off. -/
def advance (solo : Solo β σ) (outcome : Consumer.Outcome β σ) : Solo β σ where
  client := outcome.client
  consumer := outcome.consumer
  delivered := solo.delivered ++ outcome.emission.events
  reported := solo.reported ++ outcome.emission.reports

/-- A step of a consumer that is heard and not told to stop, at any time. -/
inductive Step (store : ρ) (solo : Solo β σ) : Solo β σ → Prop where
  | step {channel : Channel} {now : Nat} {outcome : Consumer.Outcome β σ}
      (heard : channel.receiving = true) (steps : solo.step? store channel now = some outcome) :
      Step store solo (solo.advance outcome)

/-- Whether every run comes to a state with a property. -/
inductive Comes (store : ρ) (P : Solo β σ → Prop) : Solo β σ → Prop where
  | here {solo : Solo β σ} (holds : P solo) : Comes store P solo
  | step {solo : Solo β σ} (goes : ∃ after, Step store solo after)
      (all : ∀ after, Step store solo after → Comes store P after) : Comes store P solo

variable {store : ρ} {solo after last : Solo β σ} {P Q : Solo β σ → Prop}
  {outcome : Consumer.Outcome β σ} {bounds : Bounds} {client : β} {stream : σ}

theorem Comes.imp (imp : ∀ last, P last → Q last) (comes : Comes store P solo) :
    Comes store Q solo := by
  induction comes with
  | here holds => exact .here (imp _ holds)
  | step goes _ ih => exact .step goes ih

/-- A run goes on with the only step that there is. -/
theorem Comes.of_step? {channel : Channel} {now : Nat} (heard : channel.receiving = true)
    (steps : solo.step? store channel now = some outcome)
    (only : ∀ channel now other, channel.receiving = true →
      solo.step? store channel now = some other → other = outcome)
    (comes : Comes store P (solo.advance outcome)) : Comes store P solo := by
  apply Comes.step ⟨_, .step heard steps⟩
  intro after step
  cases step with
  | step heard steps =>
      rw [only _ _ _ heard steps]
      exact comes

/-- A run goes on with a step that depends neither on the channel nor on the time. -/
theorem Comes.of_forall (steps : ∀ channel now, solo.step? store channel now = some outcome)
    (comes : Comes store P (solo.advance outcome)) : Comes store P solo := by
  have here := steps { capacity := 1 } 0
  apply Comes.of_step? rfl here _ comes
  intro channel now other _ also
  rw [steps] at also
  exact (Option.some.inj also).symm

/-- A consumer has ended, having added to what it had given off what an account says. -/
structure Settled (before : Solo β σ) (account : Account) (last : Solo β σ) : Prop where
  ended : last.consumer.ending? = some account.ending
  delivered : last.delivered =
    before.delivered ++ account.delivered.map (·.toEvent before.consumer.place)
  reported : last.reported = before.reported ++ account.reported.map .broker

omit [Client β σ] in
/-- What was given off on the way stands before the account of the rest. -/
theorem Settled.onto {account : Account} (settled : Settled after account last)
    (first : List Message) (errors : List Broker.Error)
    (place : after.consumer.place = solo.consumer.place)
    (delivered : after.delivered = solo.delivered ++ first.map (·.toEvent solo.consumer.place))
    (reported : after.reported = solo.reported ++ errors.map .broker) :
    Settled solo ⟨first ++ account.delivered, errors ++ account.reported, account.ending⟩ last := by
  refine ⟨settled.ended, ?_, ?_⟩
  · rw [settled.delivered, delivered, place, List.map_append, List.append_assoc]
  · rw [settled.reported, reported, List.map_append, List.append_assoc]

theorem step?_of_reading (phase : solo.consumer.phase = .reading bounds stream) (channel : Channel)
    (now : Nat) : solo.step? store channel now =
      solo.consumer.stepReading solo.client now bounds stream := by
  simp [step?, Consumer.step?, phase]

/-- A consumer that rests reads its stream again. -/
theorem comes_of_resting {wake : Nat} (phase : solo.consumer.phase = .resting bounds stream wake)
    (comes : Comes store P (solo.advance
      { consumer := solo.consumer.enter (.reading bounds stream), client := solo.client })) :
    Comes store P solo := by
  have steps (channel : Channel) (now : Nat) : solo.step? store channel now =
      if wake ≤ now then
        some { consumer := solo.consumer.enter (.reading bounds stream), client := solo.client }
      else none := by
    simp [step?, Consumer.step?, phase]
  have wakes := (steps { capacity := 1 } wake).trans (if_pos (Nat.le_refl wake))
  refine Comes.of_step? rfl wakes (fun channel now other _ also => ?_) comes
  rw [steps] at also
  split at also
  · exact (Option.some.inj also).symm
  · cases also

/-- A consumer delivers the event that it holds. -/
theorem comes_of_sending {event : Event} {isLast : Bool}
    (phase : solo.consumer.phase = .sending bounds stream event isLast)
    (comes : Comes store P (solo.advance (
      if isLast then
        { solo.consumer.finish solo.client (.finished .stopped) with emission := .delivery event }
      else {
        consumer := solo.consumer.enter (.reading bounds stream)
        client := solo.client
        emission := .delivery event }))) :
    Comes store P solo := by
  have steps (channel : Channel) (now : Nat) (heard : channel.receiving = true) :
      solo.step? store channel now = if channel.hasRoom then some (
        if isLast then
          { solo.consumer.finish solo.client (.finished .stopped) with emission := .delivery event }
        else {
          consumer := solo.consumer.enter (.reading bounds stream)
          client := solo.client
          emission := .delivery event }) else none := by
    cases room : channel.hasRoom <;> cases isLast <;>
      simp [step?, Consumer.step?, phase, Consumer.stepSending, heard, room]
  have fits := (steps { capacity := 1 } 0 rfl).trans (if_pos rfl)
  refine Comes.of_step? rfl fits (fun channel now other heard also => ?_) comes
  rw [steps channel now heard] at also
  split at also
  · exact (Option.some.inj also).symm
  · cases also

/-- A consumer that reads a stream makes of it what its bounds tell. -/
theorem comes_account {items : List StreamItem} (gives : Gives client stream items)
    (client_eq : solo.client = client) (phase : solo.consumer.phase = .reading bounds stream) :
    Comes store (Settled solo (bounds.account items)) solo := by
  induction gives generalizing solo with
  | @ended client after stream next polled =>
      subst client_eq
      have steps (channel : Channel) (now : Nat) : solo.step? store channel now = some
          ((solo.consumer.enter (.reading bounds next)).finish after (.finished .streamEnded)) := by
        rw [step?_of_reading phase, Consumer.stepReading, polled]
      apply Comes.of_forall steps
      apply Comes.here
      rw [Bounds.account_nil]
      exact ⟨rfl, by simp [advance], by simp [advance]⟩
  | @message client after stream next m items polled rest ih =>
      subst client_eq
      by_cases early : m.offset < bounds.start
      · have steps (channel : Channel) (now : Nat) : solo.step? store channel now =
            some { consumer := solo.consumer.enter (.reading bounds next), client := after } := by
          simp [step?_of_reading phase, Consumer.stepReading, polled, early]
        apply Comes.of_forall steps
        rw [Bounds.account_early early]
        refine (ih rfl rfl).imp fun last settled => ?_
        exact settled.onto [] [] rfl (by simp [advance]) (by simp [advance])
      · have onward := Int.not_lt.mp early
        have steps (channel : Channel) (now : Nat) : solo.step? store channel now =
            some {
              consumer := solo.consumer.enter
                (.sending bounds next (m.toEvent solo.consumer.place) (bounds.endAt m))
              client := after } := by
          simp [step?_of_reading phase, Consumer.stepReading, polled, early, Consumer.enter]
        apply Comes.of_forall steps
        apply comes_of_sending rfl
        cases last : bounds.endAt m with
        | true =>
            apply Comes.here
            rw [Bounds.account_point onward last]
            exact ⟨rfl, by simp [advance], by simp [advance]⟩
        | false =>
            rw [Bounds.account_onward onward last]
            refine (ih rfl rfl).imp fun last settled => ?_
            exact settled.onto [m] [] rfl (by simp [advance]) (by simp [advance])
  | @fault client after stream next e items polled rest ih =>
      subst client_eq
      cases passing : e.isRetryable with
      | false =>
          have steps (channel : Channel) (now : Nat) : solo.step? store channel now =
              some ((solo.consumer.enter (.reading bounds next)).finish after
                (.failed (.broker e))) := by
            simp [step?_of_reading phase, Consumer.stepReading, polled, passing]
          apply Comes.of_forall steps
          apply Comes.here
          rw [Bounds.account_fatal passing]
          exact ⟨rfl, by simp [advance], by simp [advance]⟩
      | true =>
          have steps (channel : Channel) (now : Nat) : solo.step? store channel now = some {
              consumer := solo.consumer.enter (.resting bounds next (now + Consumer.restTime))
              client := after
              emission := .report (.broker e) } := by
            simp [step?_of_reading phase, Consumer.stepReading, polled, passing, Consumer.enter]
          have heard : ({ capacity := 1 } : Channel).receiving = true := rfl
          apply Comes.step ⟨_, .step heard (steps _ 0)⟩
          intro resting step
          cases step with
          | step heard also =>
              cases (steps _ _).symm.trans also
              apply comes_of_resting rfl
              rw [Bounds.account_passing passing]
              refine (ih rfl rfl).imp fun last settled => ?_
              exact settled.onto [] [e] rfl (by simp [advance]) (by simp [advance])

end Solo

/-! ## Whole consumers -/

theorem Bounds.areCrossed_iff {bounds : Bounds} :
    bounds.areCrossed = true ↔ ∃ stop, bounds.stop = some (.offset stop) ∧ stop < bounds.start := by
  unfold areCrossed
  split
  · rename_i stop bound
    simp [bound]
  · rename_i other
    simp only [Bool.false_eq_true, false_iff, not_exists]
    exact fun stop both => other stop both.1

section Whole

variable {β σ ρ : Type} [Client β σ] [OffsetStore ρ] {client : β} {store : ρ} {bounds : Bounds}
  {consumer : Consumer σ}

/-- A consumer that is heard and not told to stop always comes to an end, whatever its stream
gives. If its stop lies before its start, it stops and has read nothing. Otherwise it delivers
the messages from the start on that come before the first error that does not pass, cut behind
the first of them that reaches the bound, and reports the errors before the item at which it
ends. Messages before the start make no difference to any of this. -/
theorem delivers_share (phase : consumer.phase = .resolving)
    (resolves : resolve client store consumer.environment consumer.place consumer.span =
      .value bounds) :
    (∀ stop, bounds.stop = some (.offset stop) → stop < bounds.start →
        Solo.Comes store
          (fun last => last = { client, consumer := consumer.enter (.ended (.finished .stopped)) })
          { client, consumer }) ∧
      (∀ stream opened items, (∀ stop, bounds.stop = some (.offset stop) → bounds.start ≤ stop) →
        Client.attach client consumer.place bounds.start = .ok (stream, opened) →
        Gives opened stream items →
          Solo.Comes store
            (fun last => last.consumer.ending? = some (bounds.conclusion items) ∧
              last.delivered = (bounds.share items).map (·.toEvent consumer.place) ∧
              last.reported = (bounds.passed items).map .broker)
            { client, consumer }) ∧
      ∀ before m items, m.offset < bounds.start →
        bounds.account (before ++ .ok m :: items) = bounds.account (before ++ items) := by
  refine ⟨fun stop bound crossed => ?_, fun stream opened items ordered attaches gives => ?_, ?_⟩
  · have crossed := Bounds.areCrossed_iff.mpr ⟨stop, bound, crossed⟩
    have stops (channel : Channel) (now : Nat) :
        Solo.step? { client, consumer } store channel now =
          some (consumer.finish client (.finished .stopped)) := by
      simp [Solo.step?, Consumer.step?, phase, Consumer.stepResolving, resolves, crossed]
    apply Solo.Comes.of_forall stops
    apply Solo.Comes.here
    simp [Solo.advance, Consumer.finish, phase, Phase.stream?]
  · have uncrossed : bounds.areCrossed = false := by
      rw [Bool.eq_false_iff]
      intro crossed
      rcases Bounds.areCrossed_iff.mp crossed with ⟨stop, bound, less⟩
      exact absurd (ordered stop bound) (Int.not_le.mpr less)
    have begins (channel : Channel) (now : Nat) :
        Solo.step? { client, consumer } store channel now =
          some { consumer := consumer.enter (.attaching bounds), client } := by
      simp [Solo.step?, Consumer.step?, phase, Consumer.stepResolving, resolves, uncrossed]
    have opens (channel : Channel) (now : Nat) :
        Solo.step? { client, consumer := consumer.enter (.attaching bounds) } store channel now =
          some { consumer := consumer.enter (.reading bounds stream), client := opened } := by
      simp [Solo.step?, Consumer.step?, Consumer.stepAttaching, attaches, Consumer.enter]
    apply Solo.Comes.of_forall begins
    apply Solo.Comes.of_forall opens
    apply (Solo.comes_account gives rfl rfl).imp
    intro last settled
    exact ⟨settled.ended, settled.delivered, settled.reported⟩
  · exact fun before m items early => Bounds.account_append_early before early

end Whole

/-! ## Streams by script -/

section Script

open Broker (Cluster ClusterStream)
open Store (MemoryStore)

/-- A stream by script that does not wait behind its items gives them. -/
theorem gives_canned (cluster : Cluster) (items : List StreamItem) :
    Gives cluster (.canned ⟨items, false⟩) items := by
  induction items with
  | nil => exact .ended rfl
  | cons item items ih =>
      cases item with
      | ok m => exact .message rfl ih
      | error e => exact .fault rfl ih

/-- A message at an offset, with nothing in it. -/
def bare (offset : Int) (timestamp : Option Instant) : Message := ⟨offset, none, none, timestamp⟩

/-- Messages out of order, the first of which has a late timestamp, and errors of both kinds. -/
def mixed : List StreamItem :=
  [.ok (bare 3 (some ⟨9, 0, by decide⟩)), .error (.timeout "poll" 5), .ok (bare 5 none),
    .ok (bare 4 (some ⟨1, 0, by decide⟩)), .error (.communication "reset"),
    .ok (bare 9 (some ⟨5, 0, by decide⟩)), .error (.client "gone" none), .ok (bare 10 none)]

/-- A client with one partition that gives these items. -/
def mixedCluster : Cluster where
  canned := some {
    topics := .ofList [("orders", {
      partitions := .ok [0], oldest := .answer 0, newest := .answer 11, time := .answer 0,
      refusal := none, items := .ofList [(0, mixed)], pending := false })] }

/-- A consumer of this partition. -/
def mixedConsumer (span : Span) : Consumer ClusterStream where
  environment := "default"
  place := ⟨"orders", 0⟩
  span := span

/-- Reading from offset 4 to the fifth second stops at the message of that second and not at the
late one before the start, which makes no difference. A span from 7 to 6 ends the consumer at
once. -/
theorem delivers_share_mixed :
    Solo.Comes ({} : MemoryStore)
        (fun last => last.delivered.map (·.offset) = [5, 4, 9] ∧
          last.reported = [.broker (.timeout "poll" 5), .broker (.communication "reset")] ∧
          last.consumer.ending? = some (.finished .stopped))
        { client := mixedCluster
          consumer := mixedConsumer ⟨.offset 4, some (.time ⟨5, 0, by decide⟩)⟩ } ∧
      Solo.Comes ({} : MemoryStore)
        (fun last => last.delivered = [] ∧ last.consumer.ending? = some (.finished .stopped))
        { client := mixedCluster
          consumer := mixedConsumer ⟨.offset 7, some (.offset 6)⟩ } ∧
      (⟨4, some (.time ⟨5, 0, by decide⟩)⟩ : Bounds).account mixed =
        (⟨4, some (.time ⟨5, 0, by decide⟩)⟩ : Bounds).account mixed.tail := by
  have resolved (start : Int) (stop : Checkpoint) (bound : StopBound)
      (meant : Consumer.resolveStop mixedCluster ⟨"orders", 0⟩ stop = .value bound) :
      resolve mixedCluster ({} : MemoryStore) "default" ⟨"orders", 0⟩ ⟨.offset start, some stop⟩ =
        .value ⟨start, some bound⟩ := by
    simp only [resolve, Consumer.resolveStart, meant, Consumer.Resolved.andThen]
  obtain ⟨-, reads, early⟩ := @delivers_share _ _ _ _ _ mixedCluster ({} : MemoryStore) _
    (mixedConsumer ⟨.offset 4, some (.time ⟨5, 0, by decide⟩)⟩) rfl (resolved 4 _ _ rfl)
  refine ⟨?_, ?_, early [] _ _ (by decide)⟩
  · have opens : Client.attach mixedCluster ⟨"orders", 0⟩ 4 =
        .ok (.canned ⟨mixed, false⟩, mixedCluster) := rfl
    refine (reads _ _ mixed (fun stop bound => ?_) opens (gives_canned _ _)).imp ?_
    · cases bound
    · rintro last ⟨ended, delivered, reported⟩
      refine ⟨?_, ?_, ?_⟩
      · rw [delivered]
        decide +kernel
      · rw [reported]
        decide +kernel
      · rw [ended]
        decide +kernel
  · obtain ⟨crossed, -⟩ := @delivers_share _ _ _ _ _ mixedCluster ({} : MemoryStore) _
      (mixedConsumer ⟨.offset 7, some (.offset 6)⟩) rfl (resolved 7 _ _ rfl)
    refine (crossed 6 rfl (by decide)).imp ?_
    rintro last rfl
    exact ⟨rfl, rfl⟩

end Script

end TopicReplay
