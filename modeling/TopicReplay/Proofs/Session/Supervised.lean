import TopicReplay.Proofs.Session.Crew
import TopicReplay.Session.Supervise

/-!
# What a supervisor does

The steps of a supervisor as a relation. Where several of them are possible at once, the
supervisor of a session prefers to take note of consumers that have ended, while the
relation lets it do any of them: what is proved of it holds whatever a supervisor prefers.
-/

namespace TopicReplay

open Broker (Client)

namespace Crew

variable {β σ : Type} [Client β σ]

theorem consumers_abort (crew : Crew σ) (client : β) :
    (crew.abort client).1.consumers = crew.consumers.map retire := by
  simp only [abort]
  induction crew.consumers with
  | nil => rfl
  | cons first rest ih =>
      rw [List.map_cons, ← ih, List.foldr_cons]
      by_cases ended : first.ending?.isSome = true <;> simp [ended, retire]

/-- What every release keeps is kept when a crew is given up. -/
theorem of_abort {kept : β → Prop} (release : ∀ client stream, kept client →
    kept (Client.release client stream)) (crew : Crew σ) {client : β} (holds : kept client) :
    kept (crew.abort client).2 := by
  simp only [abort]
  induction crew.consumers with
  | nil => exact holds
  | cons first rest ih =>
      rw [List.foldr_cons]
      by_cases ended : first.ending?.isSome = true
      · simpa [ended] using ih
      · simp only [ended, Bool.false_eq_true, ite_false, Consumer.finish]
        split
        · exact release _ _ ih
        · exact ih

theorem isOver_abort (crew : Crew σ) (client : β) : (crew.abort client).1.isOver = true := by
  rw [isOver, consumers_abort, List.all_map]
  exact List.all_eq_true.mpr fun consumer _ => ending?_retire consumer

end Crew

namespace Session

variable {β σ : Type} [Client β σ]

/-- Everything that a supervisor may do at a time. -/
inductive Supervised (session : Session σ) (client : β) (now : Nat) : Session σ → β → Prop where
  | noted {after : Session σ} (undone : session.summary? = none)
      (joined : session.join? = some after) : Supervised session client now after client
  | completed (watching : session.supervisor = .watching)
      (settled : session.crew.isSettled = true) :
      Supervised session client now (session.close .completed) client
  | told {reason : Reason} (watching : session.supervisor = .watching)
      (why : session.cancelled = true ∨ session.isIdle now = true) :
      Supervised session client now (session.drain reason now) client
  | drained {reason : Reason} {deadline : Nat}
      (draining : session.supervisor = .draining reason deadline)
      (settled : session.crew.isSettled = true) :
      Supervised session client now (session.close reason) client
  | gaveUp {reason : Reason} {deadline : Nat} {crew : Crew σ} {clientAfter : β}
      (draining : session.supervisor = .draining reason deadline) (late : deadline ≤ now)
      (aborted : session.crew.abort client = (crew, clientAfter)) :
      Supervised session client now (close { session with crew } reason) clientAfter

variable {session after : Session σ} {client clientAfter : β} {now : Nat}

/-- What the supervisor of a session does is one of the things that a supervisor may do. -/
theorem supervised_of_supervise?
    (done : session.supervise? client now = some (after, clientAfter)) :
    session.Supervised client now after clientAfter := by
  unfold supervise? at done
  split at done
  · cases done
  · cases done
  · rename_i watching
    rcases Option.map_eq_some_iff.mp done with ⟨watched, found, pair_eq⟩
    cases pair_eq
    unfold watch? at found
    split at found
    · rename_i settled
      cases found
      exact .completed watching settled
    · split at found
      · rename_i joined
        cases found
        exact .noted (by simp [summary?, watching]) joined
      · split at found
        · rename_i cancelled
          cases found
          exact .told watching (.inl cancelled)
        · split at found
          · rename_i idle
            cases found
            exact .told watching (.inr idle)
          · cases found
  · rename_i reason deadline draining
    split at done
    · rename_i settled
      cases done
      exact .drained draining settled
    · split at done
      · rename_i joined
        cases done
        exact .noted (by simp [summary?, draining]) joined
      · split at done
        · rename_i late
          cases done
          exact .gaveUp draining late rfl
        · cases done

/-- What a supervisor leaves alone: everything but the stage of the session, what it has
taken note of, the signal to stop, and the consumers that it gives up. -/
structure Kept (session after : Session σ) : Prop where
  settings : after.settings = session.settings
  started : after.started = session.started
  progress : after.progress = session.progress
  channel : after.crew.channel = session.crew.channel
  stats : after.crew.stats = session.crew.stats
  stop : session.crew.stop = true → after.crew.stop = true
  /-- Consumers are given up only while the session is drained. -/
  consumers : after.crew.consumers = session.crew.consumers ∨
    after.crew.consumers = session.crew.consumers.map Crew.retire ∧
      ∃ reason deadline, session.supervisor = .draining reason deadline

omit [Client β σ] in
theorem Kept.mem_or_retired (kept : session.Kept after) {consumer : Consumer σ}
    (member : consumer ∈ after.crew.consumers) :
    consumer ∈ session.crew.consumers ∨
      ∃ old ∈ session.crew.consumers, Crew.retire old = consumer := by
  rcases kept.consumers with same | ⟨retired, -⟩
  · exact .inl (same ▸ member)
  · exact .inr (List.mem_map.mp (retired ▸ member))

omit [Client β σ] in
theorem Kept.untold (kept : session.Kept after) (untold : after.crew.stop = false) :
    session.crew.stop = false := by
  cases told : session.crew.stop with
  | false => rfl
  | true => exact (kept.stop told).symm.trans untold

omit [Client β σ] in
theorem kept_note (session : Session σ) (place : TopicPartition) (ending : Ending) :
    session.Kept (session.note place ending) := by
  cases ending <;> exact ⟨rfl, rfl, rfl, rfl, rfl, id, .inl rfl⟩

omit [Client β σ] in
theorem kept_of_join? (joined : session.join? = some after) : session.Kept after := by
  unfold join? at joined
  split at joined
  · cases joined
  · rename_i index rest _
    simp only at joined
    split at joined
    · cases joined
      have kept := kept_note { session with crew := { session.crew with unnoted := rest } }
      exact ⟨(kept _ _).settings, (kept _ _).started, (kept _ _).progress, (kept _ _).channel,
        (kept _ _).stats, (kept _ _).stop, (kept _ _).consumers.imp_right fun retired =>
          ⟨retired.1, retired.2⟩⟩
    · cases joined
      exact ⟨rfl, rfl, rfl, rfl, rfl, id, .inl rfl⟩

omit [Client β σ] in
/-- Taking note of a consumer tells nobody to stop. -/
theorem signals_of_join? (joined : session.join? = some after) :
    after.supervisor = session.supervisor ∧ after.cancelled = session.cancelled ∧
      after.crew.stop = session.crew.stop := by
  have noted (session : Session σ) (place : TopicPartition) (ending : Ending) :
      (session.note place ending).supervisor = session.supervisor ∧
        (session.note place ending).cancelled = session.cancelled ∧
        (session.note place ending).crew.stop = session.crew.stop := by
    cases ending <;> exact ⟨rfl, rfl, rfl⟩
  unfold join? at joined
  split at joined
  · cases joined
  · simp only at joined
    split at joined
    · cases joined
      exact noted _ _ _
    · cases joined
      exact ⟨rfl, rfl, rfl⟩

omit [Client β σ] in
theorem supervisor_of_join? (joined : session.join? = some after) :
    after.supervisor = session.supervisor :=
  (signals_of_join? joined).1

omit [Client β σ] in
theorem join?_eq_none_iff : session.join? = none ↔ session.crew.unnoted = [] := by
  unfold join?
  cases session.crew.unnoted with
  | nil => simp
  | cons index rest =>
      simp only [reduceCtorEq, iff_false]
      split <;> simp

/-- What has to be so when the consumers of a session are told to stop for a reason. -/
def Warrants (session : Session σ) (now : Nat) : Reason → Prop
  | .completed => False
  | .cancelled => session.cancelled = true
  | .idleTimeout => session.isIdle now = true

/-- The supervisor of a session tells consumers to stop for no reason but one that there is. -/
theorem warrants_of_supervise? (done : session.supervise? client now = some (after, clientAfter))
    (watching : session.supervisor = .watching) {reason : Reason} {deadline : Nat}
    (draining : after.supervisor = .draining reason deadline) : session.Warrants now reason := by
  simp only [supervise?, watching] at done
  rcases Option.map_eq_some_iff.mp done with ⟨watched, found, pair_eq⟩
  cases pair_eq
  unfold watch? at found
  split at found
  · cases found
    cases draining
  · split at found
    · rename_i joined
      cases found
      rw [(signals_of_join? joined).1, watching] at draining
      cases draining
    · split at found
      · rename_i cancelled
        cases found
        cases draining
        exact cancelled
      · split at found
        · rename_i idle
          cases found
          cases draining
          exact idle
        · cases found

section Note

omit [Client β σ]

variable (session : Session σ) (place : TopicPartition) (ending : Ending)

@[simp]
theorem supervisor_note : (session.note place ending).supervisor = session.supervisor := by
  cases ending <;> rfl

@[simp]
theorem lifecycle_note : (session.note place ending).lifecycle = session.lifecycle := by
  cases ending <;> rfl

@[simp]
theorem cancelled_note : (session.note place ending).cancelled = session.cancelled := by
  cases ending <;> rfl

@[simp]
theorem consumers_note :
    (session.note place ending).crew.consumers = session.crew.consumers := by
  cases ending <;> rfl

@[simp]
theorem unnoted_note : (session.note place ending).crew.unnoted = session.crew.unnoted := by
  cases ending <;> rfl

@[simp]
theorem stop_note : (session.note place ending).crew.stop = session.crew.stop := by
  cases ending <;> rfl

@[simp]
theorem channel_note : (session.note place ending).crew.channel = session.crew.channel := by
  cases ending <;> rfl

end Note

/-- The session in which `rest` are left to be taken note of. -/
def leave (session : Session σ) (rest : List Nat) : Session σ :=
  { session with crew := { session.crew with unnoted := rest } }

/-- The session in which the consumer at a place was taken note of, and `rest` are left. -/
def noteAt (session : Session σ) (index : Nat) (rest : List Nat) : Session σ :=
  match session.crew.consumers[index]? with
  | some consumer => (session.leave rest).note consumer.place (consumer.ending?.getD .aborted)
  | none => session.leave rest

omit [Client β σ] in
theorem join?_of_unnoted {index : Nat} {rest : List Nat}
    (unnoted_eq : session.crew.unnoted = index :: rest) :
    session.join? = some (session.noteAt index rest) := by
  simp only [join?, noteAt, leave, unnoted_eq]
  cases session.crew.consumers[index]? with
  | none => rfl
  | some consumer => rfl

omit [Client β σ] in
/-- The next consumer to take note of is the one that has waited for it the longest. -/
theorem join?_eq_some_iff :
    session.join? = some after ↔
      ∃ index rest, session.crew.unnoted = index :: rest ∧ session.noteAt index rest = after := by
  constructor
  · intro joined
    cases unnoted_eq : session.crew.unnoted with
    | nil =>
        rw [join?_eq_none_iff.mpr unnoted_eq] at joined
        cases joined
    | cons index rest =>
        rw [join?_of_unnoted unnoted_eq] at joined
        exact ⟨index, rest, rfl, Option.some.inj joined⟩
  · rintro ⟨index, rest, unnoted_eq, rfl⟩
    exact join?_of_unnoted unnoted_eq

section NoteAt

omit [Client β σ]

variable (session : Session σ) (index : Nat) (rest : List Nat)

/-- What no note changes stays as it is when the next consumer is taken note of. -/
theorem noteAt_eq_leave {α : Type} (part : Session σ → α)
    (kept : ∀ (session : Session σ) place ending, part (session.note place ending) = part session) :
    part (session.noteAt index rest) = part (session.leave rest) := by
  unfold noteAt
  cases session.crew.consumers[index]? with
  | none => rfl
  | some consumer => exact kept _ _ _

/-- Taking note of a consumer leaves the crew as it is but for those that wait for it. -/
@[simp]
theorem consumers_noteAt : (session.noteAt index rest).crew.consumers = session.crew.consumers :=
  noteAt_eq_leave _ _ _ (·.crew.consumers) consumers_note

@[simp]
theorem unnoted_noteAt : (session.noteAt index rest).crew.unnoted = rest :=
  noteAt_eq_leave _ _ _ (·.crew.unnoted) unnoted_note

@[simp]
theorem supervisor_noteAt : (session.noteAt index rest).supervisor = session.supervisor :=
  noteAt_eq_leave _ _ _ (·.supervisor) supervisor_note

@[simp]
theorem lifecycle_noteAt : (session.noteAt index rest).lifecycle = session.lifecycle :=
  noteAt_eq_leave _ _ _ (·.lifecycle) lifecycle_note

@[simp]
theorem cancelled_noteAt : (session.noteAt index rest).cancelled = session.cancelled :=
  noteAt_eq_leave _ _ _ (·.cancelled) cancelled_note

@[simp]
theorem stop_noteAt : (session.noteAt index rest).crew.stop = session.crew.stop :=
  noteAt_eq_leave _ _ _ (·.crew.stop) stop_note

@[simp]
theorem channel_noteAt : (session.noteAt index rest).crew.channel = session.crew.channel :=
  noteAt_eq_leave _ _ _ (·.crew.channel) channel_note

end NoteAt

omit [Client β σ] in
/-- A session without a timeout is never idle for too long. -/
theorem isIdle_eq_false (patient : session.settings.idleTimeout = none) (now : Nat) :
    session.isIdle now = false := by
  rw [isIdle, idleDeadline?, patient]
  rfl

omit [Client β σ] in
/-- A supervisor that watches lacks a step when some consumer goes on, all that have ended were
taken note of, and there is no reason to stop. -/
theorem watch?_eq_none_iff :
    session.watch? now = none ↔
      session.crew.isOver = false ∧ session.crew.unnoted = [] ∧ session.cancelled = false ∧
        session.isIdle now = false := by
  unfold watch? Crew.isSettled
  cases joined : session.join? with
  | some after =>
      have unnoted : session.crew.unnoted ≠ [] := fun none => by
        rw [join?_eq_none_iff.mpr none] at joined
        cases joined
      cases session.crew.isOver <;> simp [unnoted]
  | none =>
      have unnoted := join?_eq_none_iff.mp joined
      cases session.crew.isOver <;> cases session.cancelled <;> cases session.isIdle now <;>
        simp [unnoted]

theorem Supervised.kept (supervised : session.Supervised client now after clientAfter) :
    session.Kept after := by
  cases supervised with
  | noted undone joined => exact kept_of_join? joined
  | completed watching settled => exact ⟨rfl, rfl, rfl, rfl, rfl, id, .inl rfl⟩
  | told watching why => exact ⟨rfl, rfl, rfl, rfl, rfl, fun _ => rfl, .inl rfl⟩
  | drained draining settled => exact ⟨rfl, rfl, rfl, rfl, rfl, id, .inl rfl⟩
  | gaveUp draining late aborted =>
      have consumers_eq := session.crew.consumers_abort client
      rw [aborted] at consumers_eq
      cases aborted
      exact ⟨rfl, rfl, rfl, rfl, rfl, id, .inr ⟨consumers_eq, _, _, draining⟩⟩

/-- What every release keeps is kept by a supervisor. -/
theorem Supervised.of_client {kept : β → Prop} (release : ∀ client stream, kept client →
    kept (Client.release client stream))
    (supervised : session.Supervised client now after clientAfter) (holds : kept client) :
    kept clientAfter := by
  cases supervised with
  | gaveUp draining late aborted =>
      have given := session.crew.of_abort release holds
      rwa [aborted] at given
  | _ => exact holds

end Session

end TopicReplay
