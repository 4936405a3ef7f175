import TopicReplay.Proofs.Broker.Sound
import TopicReplay.Proofs.Replay.Stage

/-!
# What a replay records

A replay commits an event only after its line was written, so that what is stored never
runs ahead of the output. The lines are those of the received events in the order of the
channel. A replay that ends without an error, with every line written and every commit
done, has stored exactly how far it has written, and its summary counts the lines.
-/

namespace TopicReplay

open Broker (Client OrderedClient)
open Consumer (storedOffset?)
open Relation (ReflTransGen)
open Store (OffsetStore LawfulStore Storable)

namespace Stage

variable {β σ ρ ω φ : Type} [Client β σ] [OffsetStore ρ] [Writer ω] [Formatter φ]
  {others : β → β → Prop} {stage after : Stage β σ ρ ω φ} {settings : Settings} {store : ρ}
  {format : φ} {commits : Bool}

/-- The events whose lines were written. -/
def output (stage : Stage β σ ρ ω φ) : List Event := stage.written.map (·.1)

/-- The events that were committed with success. -/
def kept (stage : Stage β σ ρ ω φ) : List Event :=
  (stage.commits.filter (·.2)).map (·.1)

/-- Whether the output is the lines of what was received, up to one line that failed. -/
structure Lined (format : φ) (commits : Bool) (stage : Stage β σ ρ ω φ) : Prop where
  format_eq : stage.replay.format = format
  commits_eq : stage.replay.commits = commits
  lines : ∀ pair ∈ stage.written, Formatter.line format pair.1 = .ok pair.2
  received : stage.scene.received = stage.output ++ stage.refused
  /-- A replay that still receives has written all that it has received. -/
  unrefused : stage.replay.phase = .receiving → stage.refused = []
  once : stage.refused.length ≤ 1
  tried : stage.commits.map (·.1) = if commits then stage.output else []

theorem Lined.step (lined : stage.Lined format commits) (step : Step others stage after) :
    after.Lined format commits := by
  cases step with
  | beside turn =>
      rcases lined with ⟨format_eq, commits_eq, lines, received, unrefused, once, tried⟩
      exact ⟨format_eq, commits_eq, lines, turn.unread.received.trans received, unrefused, once,
        tried⟩
  | @replay stamp deed replay session store does steps =>
      have moves := Replay.move_of_step? steps
      rw [does] at moves
      rcases lined with ⟨format_eq, commits_eq, lines, received, unrefused, once, tried⟩
      rcases moves.kind with ⟨kind, before, behind⟩
      have kept := moves.format_eq
      rw [format_eq, commits_eq] at kind
      constructor
      · exact kept.1.trans format_eq
      · exact kept.2.trans commits_eq
      · intro pair member
        rcases List.mem_append.mp member with old | new
        · exact lines pair old
        · cases kind with
          | wrote prints tries =>
              rw [List.mem_singleton.mp new]
              exact prints
          | refused event => cases new
          | idle => cases new
      · simp only [output, List.map_append, received]
        cases kind with
        | wrote prints tries =>
            rcases before with phase | ⟨none, -⟩
            · simp [unrefused phase]
            · cases none
        | refused event => simp
        | idle => simp
      · intro phase
        obtain ⟨none, still⟩ := behind phase
        simp [unrefused still, none]
      · cases kind with
        | refused event =>
            rcases before with phase | ⟨none, -⟩
            · simp [unrefused phase]
            · cases none
        | wrote prints tries => simpa using once
        | idle => simpa using once
      · simp only [output, List.map_append, tried]
        cases kind with
        | wrote prints tries =>
            rw [tries]
            cases commits <;> simp
        | refused event => cases commits <;> simp
        | idle => cases commits <;> simp

/-- Whether the store has what was stored before the replay and the successful commits of
the replay on top of it, and progress is behind events that were committed. -/
structure Stored (settings : Settings) (store : ρ) (stage : Stage β σ ρ ω φ) : Prop where
  settings_eq : stage.scene.session.settings = settings
  behind : ∀ place next, stage.scene.session.next? place = some next →
    ∃ event ∈ stage.commits.map (·.1), event.place = place ∧ event.offset + 1 = next
  stored : ∀ environment place, storedOffset? stage.scene.store environment place =
    (if environment = settings.environment then
        (eventsOf place stage.kept).getLast?.map (·.offset + 1)
      else none).or
      (storedOffset? store environment place)

omit [Client β σ] [Writer ω] [Formatter φ] in
/-- Nothing that leaves store, progress and commits alone changes what is stored. -/
theorem Stored.of_eq (stored : stage.Stored settings store)
    (settings_eq : after.scene.session.settings = stage.scene.session.settings)
    (progress : after.scene.session.progress = stage.scene.session.progress)
    (store_eq : after.scene.store = stage.scene.store) (commits : after.commits = stage.commits) :
    after.Stored settings store where
  settings_eq := settings_eq.trans stored.settings_eq
  behind := by
    simp only [Session.next?, progress, commits]
    exact stored.behind
  stored := by
    simp only [kept, store_eq, commits]
    exact stored.stored

omit [Client β σ] [Writer ω] [Formatter φ] in
/-- A commit of an event that is behind all earlier ones. -/
theorem Stored.commit [LawfulStore ρ] (stored : stage.Stored settings store) {event : Event}
    {stamp : Instant} {session committed : Session σ} {result : Except Store.Error ρ}
    (settings_eq : session.settings = stage.scene.session.settings)
    (progress : session.progress = stage.scene.session.progress)
    (fits : Storable event.place.partition (event.offset + 1))
    (last : ∀ older ∈ stage.commits.map (·.1), older.place = event.place →
      older.offset < event.offset)
    (commits : session.commit stage.scene.store stamp event.place event.offset =
      (committed, result))
    (session_eq : after.scene.session = committed)
    (store_eq : after.scene.store = result.toOption.getD stage.scene.store)
    (commits_eq : after.commits = stage.commits ++ [(event, result.toBool)]) :
    after.Stored settings store := by
  have le : ∀ next, session.next? event.place = some next → next ≤ event.offset + 1 := by
    intro next found
    rw [Session.next?, progress] at found
    obtain ⟨older, member, here, rfl⟩ := stored.behind _ _ found
    have below := last older member here
    omega
  obtain ⟨rfl, persists⟩ := Session.commit_of_le le commits
  have environment_eq : session.settings.environment = settings.environment := by
    rw [settings_eq, stored.settings_eq]
  constructor
  · rw [session_eq, Session.settings_advance, settings_eq, stored.settings_eq]
  · intro place next found
    rw [session_eq] at found
    rw [commits_eq, List.map_append]
    by_cases here : place = event.place
    · subst here
      rw [Session.next?_advance_self] at found
      refine ⟨event, by simp, rfl, ?_⟩
      cases current : session.next? event.place with
      | none => simpa [current] using found
      | some n =>
          have below := le n current
          simp only [current, Option.map_some, Option.getD_some, Option.some.injEq] at found
          omega
    · rw [Session.next?_advance_of_ne _ _ here, Session.next?, progress] at found
      obtain ⟨older, member, rest⟩ := stored.behind place next found
      exact ⟨older, List.mem_append_left _ member, rest⟩
  · intro environment place
    rw [store_eq, kept, commits_eq]
    cases result with
    | error e =>
        have same := stored.stored environment place
        simpa [kept, Except.toOption, Except.toBool] using same
    | ok storeAfter =>
        rw [environment_eq] at persists
        have after_eq := LawfulStore.storedOffset?_commit fits persists environment place
        simp only [Except.toOption, Option.getD_some, after_eq, Except.toBool, List.filter_append,
          List.map_append, eventsOf_append, List.filter_cons, ite_true, List.filter_nil,
          List.map_cons, List.map_nil]
        by_cases same : environment = settings.environment ∧ place = event.place
        · rcases same with ⟨rfl, rfl⟩
          rw [if_pos ⟨rfl, rfl⟩, if_pos rfl, eventsOf_singleton_self, List.getLast?_concat]
          rfl
        · rw [if_neg same, stored.stored]
          by_cases here : environment = settings.environment
          · have apart : event.place ≠ place := fun same_place => same ⟨here, same_place.symm⟩
            rw [eventsOf_singleton_of_ne apart, List.append_nil]
            rfl
          · rw [if_neg here, if_neg here]

theorem Stored.step [OrderedClient β σ] [LawfulStore ρ] (stored : stage.Stored settings store)
    (lined : stage.Lined format commits) (ordered : after.scene.Ordered)
    (heard : after.scene.received <+: after.scene.sent)
    (fits : ∀ event ∈ after.scene.committed,
      Storable event.place.partition (event.offset + 1))
    (step : Step others stage after) : after.Stored settings store := by
  cases step with
  | beside turn =>
      exact stored.of_eq turn.unread.settings turn.unread.progress turn.unread.store rfl
  | @replay stamp deed replay session storeAfter does steps =>
      have moves := Replay.move_of_step? steps
      rw [does] at moves
      -- The event that is committed was received after all that were committed before.
      have last {event : Event} (received : deed.received = [event]) :
          ∀ older ∈ stage.commits.map (·.1), older.place = event.place →
            older.offset < event.offset := by
        intro older member same
        have next : stage.scene.received ++ [event] <+: stage.scene.sent := by
          simpa [received] using heard
        apply ordered.lt_of_prefix next _ same
        rw [lined.tried] at member
        rw [lined.received]
        split at member
        · exact List.mem_append_left _ member
        · cases member
      cases moves with
      | wrote phase receives prints writes quiet =>
          rcases Replay.receive?_eq_some_iff.mp receives with ⟨channel, -, rfl⟩
          exact stored.of_eq rfl rfl rfl (List.append_nil _)
      | @committed event rest _ line writer _ phase receives prints writes asked commits =>
          rcases Replay.receive?_eq_some_iff.mp receives with ⟨channel, -, rfl⟩
          refine stored.commit ?_ ?_ (fits event (by simp)) (last rfl) commits rfl rfl rfl
          · rfl
          · rfl
      | @uncommitted event rest _ line writer e phase receives prints writes asked commits =>
          rcases Replay.receive?_eq_some_iff.mp receives with ⟨channel, -, rfl⟩
          refine stored.commit ?_ ?_ (fits event (by simp)) (last rfl) commits rfl rfl rfl
          · rfl
          · rfl
      | unprinted phase receives unprintable =>
          rcases Replay.receive?_eq_some_iff.mp receives with ⟨channel, -, rfl⟩
          exact stored.of_eq rfl rfl rfl (List.append_nil _)
      | broke phase receives prints breaks =>
          rcases Replay.receive?_eq_some_iff.mp receives with ⟨channel, -, rfl⟩
          exact stored.of_eq rfl rfl rfl (List.append_nil _)
      | closed phase receives prints closes =>
          rcases Replay.receive?_eq_some_iff.mp receives with ⟨channel, -, rfl⟩
          refine stored.of_eq ?_ ?_ rfl (List.append_nil _)
          · rw [Replay.session_complete]
            rfl
          · rw [Replay.session_complete]
            rfl
      | exhausted phase none dry =>
          refine stored.of_eq ?_ ?_ rfl (List.append_nil _)
          · rw [Replay.session_complete]
            rfl
          · rw [Replay.session_complete]
            rfl
      | finished phase drawn => exact stored.of_eq rfl rfl rfl (List.append_nil _)

/-- Whether a replay that does not commit has left store and progress alone. -/
def Untouched (store : ρ) (stage : Stage β σ ρ ω φ) : Prop :=
  stage.replay.commits = false →
    stage.scene.store = store ∧ stage.scene.session.progress = .empty

theorem Untouched.step (untouched : stage.Untouched store) (step : Step others stage after) :
    after.Untouched store := by
  intro quiet
  cases step with
  | beside turn =>
      obtain ⟨store_eq, progress⟩ := untouched quiet
      exact ⟨turn.unread.store.trans store_eq, turn.unread.progress.trans progress⟩
  | replay stamp does steps =>
      have moves := Replay.move_of_step? steps
      rw [does] at moves
      have before : stage.replay.commits = false := moves.format_eq.2.symm.trans quiet
      obtain ⟨store_eq, progress⟩ := untouched before
      cases moves with
      | wrote phase receives prints writes quiet =>
          rcases Replay.receive?_eq_some_iff.mp receives with ⟨channel, -, rfl⟩
          exact ⟨store_eq, progress⟩
      | committed phase receives prints writes asked commits => simp [before] at asked
      | uncommitted phase receives prints writes asked commits => simp [before] at asked
      | unprinted phase receives unprintable =>
          rcases Replay.receive?_eq_some_iff.mp receives with ⟨channel, -, rfl⟩
          exact ⟨store_eq, progress⟩
      | broke phase receives prints breaks =>
          rcases Replay.receive?_eq_some_iff.mp receives with ⟨channel, -, rfl⟩
          exact ⟨store_eq, progress⟩
      | closed phase receives prints closes =>
          rcases Replay.receive?_eq_some_iff.mp receives with ⟨channel, -, rfl⟩
          rw [Replay.session_complete]
          exact ⟨store_eq, progress⟩
      | exhausted phase none dry =>
          rw [Replay.session_complete]
          exact ⟨store_eq, progress⟩
      | finished phase drawn => exact ⟨store_eq, progress⟩

/-- Whether a replay that has come to the end of its events without losing one has written
all that was ever sent, and has this in its summary. -/
structure Through (stage : Stage β σ ρ ω φ) : Prop where
  /-- A replay that receives has not been cut off from the channel. -/
  listening : stage.replay.phase = .receiving →
    stage.scene.session.crew.channel.receiving = true
  ceased : stage.replay.phase = .awaiting → stage.refused = [] →
    stage.scene.session.crew.isOver = true ∧ stage.scene.sent = stage.scene.received
  total : ∀ summary, stage.replay.phase = .done (.ok summary) → stage.refused = [] →
    summary.total = stage.output.length

omit [Formatter φ] [OffsetStore ρ] [Writer ω] [Client β σ] in
theorem receiving_of_receive? {session rest : Session σ} {event : Event}
    (receives : Replay.receive? session = some (event, rest)) :
    rest.crew.channel.receiving = session.crew.channel.receiving := by
  rcases Replay.receive?_eq_some_iff.mp receives with ⟨channel, popped, rfl⟩
  unfold Channel.pop? at popped
  split at popped
  · cases popped
  · cases popped
    rfl

theorem Through.step (through : stage.Through) (lined : stage.Lined format commits)
    (conserved : stage.scene.Conserved) (counted : stage.scene.Counted)
    (drawn : stage.scene.Drawn) (nodup : stage.scene.places.Nodup)
    (step : Step others stage after) : after.Through := by
  cases step with
  | beside turn =>
      constructor
      · intro phase
        rw [turn.receiving_eq]
        exact through.listening phase
      · intro phase unrefused
        obtain ⟨ceased, sent_eq⟩ := through.ceased phase unrefused
        obtain ⟨afterOver, afterSent⟩ := turn.ceased ceased
        exact ⟨afterOver, by rw [afterSent, sent_eq, turn.unread.received]⟩
      · exact through.total
  | @replay stamp deed replay session storeAfter does steps =>
      have moves := Replay.move_of_step? steps
      rw [does] at moves
      constructor
      · intro phase
        have before := (moves.kind.2.2 phase).2
        have listening := through.listening before
        cases moves with
        | wrote phase receives prints writes quiet =>
            exact (receiving_of_receive? receives).trans listening
        | committed phase receives prints writes asked commits =>
            rcases Prod.mk.inj commits with ⟨rfl, -⟩
            exact (receiving_of_receive? receives).trans listening
        | uncommitted phase receives prints writes asked commits =>
            rcases Prod.mk.inj commits with ⟨rfl, -⟩
            exact (receiving_of_receive? receives).trans listening
        | unprinted phase receives unprintable => cases phase
        | broke phase receives prints breaks => cases phase
        | closed phase receives prints closes =>
            exact absurd ‹_› (Replay.not_receiving_complete _ _)
        | exhausted phase none dry => exact absurd ‹_› (Replay.not_receiving_complete _ _)
        | finished phase drawn => cases phase
      · intro awaiting unrefused
        cases moves with
        | wrote phase receives prints writes quiet => simp [phase] at awaiting
        | committed phase receives prints writes asked commits => simp [phase] at awaiting
        | uncommitted phase receives prints writes asked commits => simp [phase] at awaiting
        | unprinted phase receives unprintable => cases awaiting
        | broke phase receives prints breaks => cases awaiting
        | closed phase receives prints closes => simp at unrefused
        | exhausted phase none dry =>
            rcases Bool.and_eq_true_iff.mp dry with ⟨ceased, empty⟩
            have sent_eq := conserved.waiting (through.listening phase)
            rw [List.isEmpty_iff.mp empty, List.append_nil] at sent_eq
            rw [Replay.session_complete]
            exact ⟨ceased, by simpa using sent_eq⟩
        | finished phase drawn => cases awaiting
      · intro summary done unrefused
        cases moves with
        | wrote phase receives prints writes quiet => simp [phase] at done
        | committed phase receives prints writes asked commits => simp [phase] at done
        | uncommitted phase receives prints writes asked commits => simp [phase] at done
        | unprinted phase receives unprintable => cases done
        | broke phase receives prints breaks => cases done
        | closed phase receives prints closes => simp at unrefused
        | exhausted phase none dry =>
            rcases stage.replay.phase_complete stage.scene.session with awaiting | ⟨e, failed⟩
            · rw [awaiting] at done
              cases done
            · rw [failed] at done
              cases done
        | finished phase found =>
            cases done
            simp only [List.append_nil] at unrefused
            have total_eq := drawn.total_eq_length counted nodup found
            rw [(through.ceased phase unrefused).2, lined.received, unrefused,
              List.append_nil] at total_eq
            simpa [output] using total_eq

/-! ## The start of a replay -/

variable {born now : Nat} {cancelled : Bool} {topics : Session.Topics} {client : β} {writer : ω}

section

omit [OffsetStore ρ] [Writer ω] [Formatter φ]

/-- The scene of a replay is that of the session that it starts. -/
theorem start_cases (settings : Settings) (born : Nat) (cancelled : Bool)
    (topics : Session.Topics) (now : Nat) (client : β) (store : ρ) (format : φ) (commits : Bool)
    (writer : ω) :
    ∃ result scene phase, Scene.start settings born cancelled topics now client store =
        (result, scene) ∧
      start settings born cancelled topics now client store format commits writer =
        { scene, replay := { format, commits, writer, phase } } ∧
      (phase = .receiving ∨ ∃ e, phase = .done (.error e)) := by
  unfold start
  rcases started : Scene.start settings born cancelled topics now client store with ⟨result, scene⟩
  cases result with
  | ok => exact ⟨_, scene, .receiving, rfl, rfl, .inl rfl⟩
  | error e => exact ⟨_, scene, _, rfl, rfl, .inr ⟨_, rfl⟩⟩

end

omit [Writer ω] [OffsetStore ρ] in
theorem lined_start (settings : Settings) (born : Nat) (cancelled : Bool) (topics : Session.Topics)
    (now : Nat) (client : β) (store : ρ) (format : φ) (commits : Bool) (writer : ω) :
    (start settings born cancelled topics now client store format commits writer :
      Stage β σ ρ ω φ).Lined format commits := by
  obtain ⟨result, scene, phase, started, stage_eq, -⟩ :=
    start_cases settings born cancelled topics now client store format commits writer
  obtain ⟨session, after, rfl, -⟩ := Scene.exists_starts started
  rw [stage_eq]
  exact {
    format_eq := rfl
    commits_eq := rfl
    lines := fun pair member => absurd member List.not_mem_nil
    received := rfl
    unrefused := fun _ => rfl
    once := Nat.zero_le _
    tried := by cases commits <;> rfl }

theorem Lined.run (lined : stage.Lined format commits)
    (runs : ReflTransGen (Step others) stage after) : after.Lined format commits := by
  induction runs with
  | refl => exact lined
  | tail _ step ih => exact ih.step step

/-- All that holds of a replay whatever happens on its stage. -/
structure Sound [OrderedClient β σ] (settings : Settings) (store : ρ) (format : φ)
    (commits : Bool) (stage : Stage β σ ρ ω φ) : Prop where
  ordered : stage.scene.Ordered
  conserved : stage.scene.Conserved
  counted : stage.scene.Counted
  drawn : stage.scene.Drawn
  lined : stage.Lined format commits
  stored : stage.Stored settings store
  untouched : stage.Untouched store
  through : stage.Through

omit [Writer ω] in
theorem sound_start [OrderedClient β σ] (sound : OrderedClient.Sound client) :
    (start settings born cancelled topics now client store format commits writer :
      Stage β σ ρ ω φ).Sound settings store format commits := by
  obtain ⟨result, scene, phase, started, stage_eq, phases⟩ :=
    start_cases settings born cancelled topics now client store format commits writer
  obtain ⟨fresh, soundAfter⟩ := Scene.fresh_start sound started
  have lined : Stage.Lined format commits (start settings born cancelled topics now client store
      format commits writer : Stage β σ ρ ω φ) :=
    lined_start settings born cancelled topics now client store format commits writer
  rw [stage_eq] at lined ⊢
  exact {
    ordered := fresh.ordered soundAfter
    conserved := fresh.conserved
    counted := fresh.counted
    drawn := fresh.drawn
    lined
    stored := {
      settings_eq := fresh.settings_eq
      behind := fun place next found => by
        rw [fresh.progress] at found
        cases found
      stored := fun environment place => by
        rw [Scene.store_start started]
        split <;> rfl }
    untouched := fun _ => ⟨Scene.store_start started, OrderedMap.ext fresh.progress⟩
    through := {
      listening := fun _ => by rw [fresh.channel]
      ceased := fun awaiting => by
        rcases phases with receiving | ⟨e, failed⟩
        · simp [receiving] at awaiting
        · simp [failed] at awaiting
      total := fun summary done => by
        rcases phases with receiving | ⟨e, failed⟩
        · simp [receiving] at done
        · simp [failed] at done } }

theorem Sound.step [OrderedClient β σ] [LawfulStore ρ]
    (sound : stage.Sound settings store format commits)
    (keeps : ∀ {client after}, others client after → OrderedClient.Sound client →
      OrderedClient.Sound after)
    (fits : ∀ event ∈ after.scene.committed,
      Storable event.place.partition (event.offset + 1))
    (step : Step others stage after) : after.Sound settings store format commits := by
  have ordered := sound.ordered.run keeps step.reaches_scene
  have conserved := sound.conserved.run step.reaches_scene
  exact {
    ordered
    conserved
    counted := sound.counted.run step.reaches_scene
    drawn := sound.drawn.run step.reaches_scene
    lined := sound.lined.step step
    stored := sound.stored.step sound.lined ordered conserved.heard fits step
    untouched := sound.untouched.step step
    through :=
      sound.through.step sound.lined sound.conserved sound.counted sound.drawn sound.ordered.nodup
        step }

theorem Sound.run [OrderedClient β σ] [LawfulStore ρ]
    (sound : stage.Sound settings store format commits)
    (keeps : ∀ {client after}, others client after → OrderedClient.Sound client →
      OrderedClient.Sound after)
    (runs : ReflTransGen (Step others) stage after)
    (fits : ∀ event ∈ after.scene.committed,
      Storable event.place.partition (event.offset + 1)) :
    after.Sound settings store format commits := by
  induction runs with
  | refl => exact sound
  | tail _ step ih =>
      exact (ih fun event member => fits event (step.committed_prefix.subset member)).step keeps
        fits step

variable [OrderedClient β σ]

omit [OffsetStore ρ] [Writer ω] [Formatter φ] in
/-- The last event of a partition in the output is the furthest one. -/
theorem offset_le_of_getLast? {place : TopicPartition} (ordered : stage.scene.Ordered)
    (written : stage.output <+: stage.scene.sent) {event last : Event}
    (member : event ∈ stage.output) (here : event.place = place)
    (found : (eventsOf place stage.output).getLast? = some last) : event.offset ≤ last.offset := by
  have ascending := (ordered.ascending place).sublist
    ((written.sublist.filter _).map fun event => event.offset)
  rcases List.getLast?_eq_some_iff.mp found with ⟨before, split_eq⟩
  have split : (stage.output.filter (·.place = place)) = before ++ [last] := split_eq
  rw [split, List.map_append] at ascending
  have either : event ∈ before ++ [last] := split_eq ▸ mem_eventsOf_iff.mpr ⟨member, here⟩
  rcases List.mem_append.mp either with early | late
  · refine Int.le_of_lt ((List.pairwise_append.mp ascending).2.2 _ (List.mem_map_of_mem early) _ ?_)
    simp
  · exact Int.le_of_eq (congrArg (·.offset) (List.mem_singleton.mp late))

omit [Writer ω] in
/-- A successful commit is stored, and nothing beyond the output is. -/
theorem Sound.stored_le (sound : stage.Sound settings store format commits) {event : Event}
    (committed : (event, true) ∈ stage.commits) :
    ∃ next last, storedOffset? stage.scene.store settings.environment event.place = some next ∧
      (eventsOf event.place stage.output).getLast? = some last ∧ next ≤ last.offset + 1 := by
  have output_of_kept {other : Event} (member : other ∈ stage.kept) : other ∈ stage.output := by
    rcases List.mem_map.mp member with ⟨commit, commitMember, rfl⟩
    have tried := List.mem_map_of_mem (f := (·.1)) (List.mem_filter.mp commitMember).1
    rw [sound.lined.tried] at tried
    split at tried
    · exact tried
    · cases tried
  have kept : event ∈ stage.kept := by
    simpa [Stage.kept] using committed
  have written : stage.output <+: stage.scene.sent := by
    refine .trans ?_ sound.conserved.heard
    rw [sound.lined.received]
    exact List.prefix_append _ _
  have keptHere : eventsOf event.place stage.kept ≠ [] :=
    List.ne_nil_of_mem (mem_eventsOf_iff.mpr ⟨kept, rfl⟩)
  have outputHere : eventsOf event.place stage.output ≠ [] :=
    List.ne_nil_of_mem (mem_eventsOf_iff.mpr ⟨output_of_kept kept, rfl⟩)
  have keptLast := List.getLast_mem keptHere
  rcases mem_eventsOf_iff.mp keptLast with ⟨member, here⟩
  refine ⟨((eventsOf event.place stage.kept).getLast keptHere).offset + 1, _, ?_,
    List.getLast?_eq_some_getLast outputHere, ?_⟩
  · rw [sound.stored.stored, if_pos rfl, List.getLast?_eq_some_getLast keptHere]
    rfl
  · have le := offset_le_of_getLast? sound.ordered written (output_of_kept member) here
      (List.getLast?_eq_some_getLast outputHere)
    omega

omit [OrderedClient β σ] [Client β σ] [OffsetStore ρ] [Writer ω] in
/-- Where every commit succeeds, all that was written is kept. -/
theorem Lined.kept_eq (lined : stage.Lined format true)
    (all : ∀ commit ∈ stage.commits, commit.2 = true) : stage.kept = stage.output := by
  rw [kept, List.filter_eq_self.mpr all, lined.tried]
  rfl

/-- Whatever the order of events, and whichever writes and commits fail: the output of a
replay is the lines of what it received, each event once and in the order of the channel,
and for no partition that was committed is more stored than was written. When it ends
without an error, and neither a line nor a commit has failed, the store has exactly what
was written, everything else as before, and the summary counts the lines. A replay that
does not commit leaves store and progress alone. The offsets behind what was committed are
taken to have the size that stores keep. -/
theorem stored_follows_output [LawfulStore ρ] (sound : OrderedClient.Sound client)
    (keeps : ∀ {client after}, others client after → OrderedClient.Sound client →
      OrderedClient.Sound after)
    (runs : ReflTransGen (Step others)
      (start settings born cancelled topics now client store format commits writer) stage)
    (fits : ∀ event ∈ stage.scene.committed,
      Storable event.place.partition (event.offset + 1)) :
    ((∀ pair ∈ stage.written, Formatter.line format pair.1 = .ok pair.2) ∧
      stage.scene.received = stage.output ++ stage.refused ∧ stage.refused.length ≤ 1 ∧
      stage.scene.received <+: stage.scene.sent ∧ stage.scene.received.Nodup) ∧
    (∀ event, (event, true) ∈ stage.commits →
      ∃ next last, storedOffset? stage.scene.store settings.environment event.place = some next ∧
        (eventsOf event.place stage.output).getLast? = some last ∧ next ≤ last.offset + 1) ∧
    (commits = true → ∀ summary, stage.replay.result? = some (.ok summary) →
      stage.refused = [] → (∀ commit ∈ stage.commits, commit.2 = true) →
        (∀ place last, (eventsOf place stage.output).getLast? = some last →
          storedOffset? stage.scene.store settings.environment place = some (last.offset + 1)) ∧
        (∀ environment place,
          ¬(environment = settings.environment ∧ ∃ event ∈ stage.output, event.place = place) →
            storedOffset? stage.scene.store environment place =
              storedOffset? store environment place) ∧
        summary.total = stage.written.length) ∧
    (commits = false → stage.scene.store = store ∧ stage.scene.session.progress = .empty) := by
  have holds := (sound_start sound).run keeps runs fits
  refine ⟨⟨holds.lined.lines, holds.lined.received, holds.lined.once, holds.conserved.heard, ?_⟩,
    fun event => holds.stored_le, ?_, ?_⟩
  · exact holds.ordered.nodup_sent.sublist holds.conserved.heard.sublist
  · rintro rfl summary result unrefused succeeded
    have kept_eq := holds.lined.kept_eq succeeded
    refine ⟨fun place last found => ?_, fun environment place apart => ?_, ?_⟩
    · rw [holds.stored.stored, if_pos rfl, kept_eq, found]
      rfl
    · rw [holds.stored.stored, kept_eq]
      split
      · rename_i here
        have none : eventsOf place stage.output = [] :=
          eventsOf_eq_nil_iff.mpr fun event member same => apart ⟨here, event, member, same⟩
        rw [none]
        rfl
      · rfl
    · have done : stage.replay.phase = .done (.ok summary) := by
        unfold Replay.result? at result
        split at result
        · rename_i phase
          rw [phase, Option.some.inj result]
        · cases result
      rw [holds.through.total summary done unrefused, output, List.length_map]
  · rintro rfl
    exact holds.untouched holds.lined.commits_eq

section Full

open Broker (Cursor LogBroker)
open Store (MemoryStore)

/-- A replay of two partitions with three messages whose output has room for two lines. -/
def fullOutput : Stage LogBroker Cursor MemoryStore LineWriter OutputFormat :=
  start {} 0 false (OrderedMap.empty.insert "orders" { common := ⟨.oldest, some .newest⟩ }) 0
    .orders {} .plain true { limit := some (2, .other "disk full") }

/-- The first partition is read, then the second, and the first one again. -/
def fullSchedule : List Scene.Pick :=
  [.work 0, .work 0, .work 0, .work 0, .work 1, .work 1, .work 1, .work 1, .read, .work 0, .work 0,
    .read, .read]

/-- A replay whose last line could not be written: the offsets behind the two lines that
were written are stored. -/
theorem stored_follows_output_full :
    ∃ stage, fullOutput.play? fullSchedule = some stage ∧
      stage.refused.map (·.offset) = [1] ∧ stage.scene.received.Nodup ∧
      ∀ event, (event, true) ∈ stage.commits →
        ∃ next last, storedOffset? stage.scene.store "default" event.place = some next ∧
          (eventsOf event.place stage.output).getLast? = some last ∧ next ≤ last.offset + 1 := by
  obtain ⟨stage, played⟩ : ∃ stage, fullOutput.play? fullSchedule = some stage :=
    Option.isSome_iff_exists.mp (by decide +kernel)
  have refused : (fullOutput.play? fullSchedule).map (fun stage => stage.refused.map (·.offset)) =
      some [1] := by decide +kernel
  have fits : (fullOutput.play? fullSchedule).map (fun stage => decide (∀ event ∈
      stage.scene.committed, Storable event.place.partition (event.offset + 1))) = some true := by
    decide +kernel
  rw [played] at refused fits
  have runs := reaches_of_play? LogBroker.Change played
  obtain ⟨⟨-, -, -, -, once⟩, bounded, -⟩ :=
    stored_follows_output LogBroker.sound_orders (fun change sound => change.sound sound) runs
      (of_decide_eq_true (Option.some.inj fits))
  exact ⟨stage, played, Option.some.inj refused, once, bounded⟩

end Full

end Stage

end TopicReplay
