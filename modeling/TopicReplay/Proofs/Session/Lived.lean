import TopicReplay.Proofs.Session.Lifecycle

/-!
# The life of a session

What one step of a life keeps: at most one call is let in, the session stands where this
call has brought it, and the others have changed nothing.
-/

namespace TopicReplay

open Broker (Client)
open Relation (ReflTransGen)
open Store (OffsetStore)

namespace Life

variable {β σ ρ : Type}

/-- Whether no call was let in but the one at `index`. -/
def Alone (calls : List Call) (index : Nat) : Prop :=
  ∀ other call, calls[other]? = some call → other ≠ index → call.isOutside = true

theorem Alone.set {calls : List Call} {index : Nat} (alone : Alone calls index) (call : Call) :
    Alone (calls.set index call) index := by
  intro other otherCall found apart
  rw [List.getElem?_set_ne apart.symm] at found
  exact alone other otherCall found apart

/-- How far things have come before a call was let in and afterwards. -/
inductive Stage (life : Life β σ ρ) : Prop where
  | before (unstarted : life.session.started = false) (vacant : life.session.Vacant .idle)
      (unwritten : life.written = []) (outside : ∀ call ∈ life.calls, call.isOutside = true)
  | after (started : life.session.started = true) {index : Nat} {call : Call}
      (at_index : life.calls[index]? = some call) (stands : life.session.Stands life.written call)
      (alone : Alone life.calls index)

/-- What is always so in the life of a session. -/
structure Lived (life : Life β σ ρ) : Prop where
  drawn : life.scene.Drawn
  heeded : life.scene.Heeded
  refused : ∀ e, .refused e ∈ life.calls → e = .noTopics ∨ e = .alreadyStarted
  stage : life.Stage

section Facts

variable {scene : Scene β σ ρ} {life after : Life β σ ρ}

/-- Who is refused has no topics or comes too late. -/
theorem refused_of_claim {session : Session σ} {topics : Session.Topics} {e : RunError}
    (refuses : session.claim topics = .error e) : e = .noTopics ∨ e = .alreadyStarted := by
  unfold Session.claim at refuses
  split at refuses
  · cases refuses
    exact .inl rfl
  · split at refuses
    · cases refuses
      exact .inr rfl
    · cases refuses

theorem Stage.of_inside (stage : life.Stage) {index : Nat} {call : Call}
    (at_index : life.calls[index]? = some call) (inside : call.isOutside = false) :
    life.session.started = true ∧ life.session.Stands life.written call ∧
      Alone life.calls index := by
  cases stage with
  | before unstarted vacant unwritten outside =>
      rw [outside call (List.mem_of_getElem? at_index)] at inside
      cases inside
  | @after started there other found stands alone =>
      have index_eq : index = there := by
        by_contra apart
        rw [alone index call at_index apart] at inside
        cases inside
      subst index_eq
      rw [at_index] at found
      cases found
      exact ⟨started, stands, alone⟩

/-- A call that was let in comes further. -/
theorem Lived.proceed (lived : life.Lived) {index : Nat} {call next : Call}
    {session : Session σ} {client : β} {stages : List Lifecycle}
    (at_index : life.calls[index]? = some call) (alone : Alone life.calls index)
    (inside : next.isOutside = false) (started : session.started = true)
    (stands : session.Stands (life.written ++ stages) next)
    (drawn : Scene.Drawn { life.scene with session, client })
    (heeded : Scene.Heeded { life.scene with session, client }) :
    (life.proceed index next session client stages).Lived where
  drawn := drawn
  heeded := heeded
  refused e member := by
    rcases List.mem_or_eq_of_mem_set member with old | new
    · exact lived.refused e old
    · rw [← new] at inside
      cases inside
  stage := by
    apply Stage.after
    · exact started
    · exact getElem?_proceed_self _ _ _ _ _ _ at_index
    · exact stands
    · exact alone.set next

end Facts

section Run

variable [Client β σ] [OffsetStore ρ] {others : β → β → Prop} {life after : Life β σ ρ}

theorem Lived.run_scene (lived : life.Lived) {scene : Scene β σ ρ}
    (warranted : Scene.Warranted others life.scene scene) :
    Lived { life with scene, written := life.written ++ life.session.writes scene.session } where
  drawn := lived.drawn.step warranted.step
  heeded := lived.heeded.step warranted.step
  refused := lived.refused
  stage := by
    have started_eq : scene.session.started = life.session.started := warranted.step.started_eq
    cases lived.stage with
    | before unstarted vacant unwritten outside =>
        obtain ⟨still, silent, -⟩ := warranted.step.vacant vacant
        exact .before (started_eq.trans unstarted) still (by simp [silent, unwritten, session])
          outside
    | after started at_index stands alone =>
        exact .after (started_eq.trans started) at_index (warranted.stands stands) alone

omit [Client β σ] [OffsetStore ρ] in
/-- A session that only goes on to another stage is as vacant as it was. -/
theorem vacant_of_lifecycle {session : Session σ} {before : Lifecycle}
    (vacant : session.Vacant before) (stage : Lifecycle) :
    Session.Vacant { session with lifecycle := stage } stage where
  unmanned := ⟨vacant.unmanned.consumers, vacant.unmanned.unnoted, vacant.unmanned.stop,
    vacant.unmanned.outcomes⟩
  supervisor := vacant.supervisor
  lifecycle := rfl

omit [Client β σ] [OffsetStore ρ] in
theorem Lived.call (lived : life.Lived) (topics : Session.Topics) :
    Lived { life with calls := life.calls ++ [.waiting topics] } where
  drawn := lived.drawn
  heeded := lived.heeded
  refused e member := by
    rcases List.mem_append.mp member with old | new
    · exact lived.refused e old
    · simp at new
  stage := by
    cases lived.stage with
    | before unstarted vacant unwritten outside =>
        refine .before unstarted vacant unwritten fun call member => ?_
        rcases List.mem_append.mp member with old | new
        · exact outside call old
        · rw [List.mem_singleton.mp new]
          rfl
    | @after started index call at_index stands alone =>
        have inside := (List.getElem?_eq_some_iff.mp at_index).choose
        refine .after started ((List.getElem?_append_left inside).trans at_index) stands ?_
        intro other otherCall found apart
        by_cases old : other < life.calls.length
        · exact alone other otherCall ((List.getElem?_append_left old).symm.trans found) apart
        · rw [List.getElem?_append_right (Nat.not_lt.mp old)] at found
          rw [List.mem_singleton.mp (List.mem_of_getElem? found)]
          rfl

omit [Client β σ] [OffsetStore ρ] in
theorem Lived.refuse (lived : life.Lived) {index : Nat} {topics : Session.Topics} {e : RunError}
    (at_index : life.calls[index]? = some (.waiting topics))
    (refuses : life.session.claim topics = .error e) :
    (life.proceed index (.refused e) life.session life.scene.client []).Lived where
  drawn := lived.drawn
  heeded := lived.heeded
  refused other member := by
    rcases List.mem_or_eq_of_mem_set member with old | new
    · exact lived.refused other old
    · cases new
      exact refused_of_claim refuses
  stage := by
    cases lived.stage with
    | before unstarted vacant unwritten outside =>
        refine .before unstarted vacant ?_ fun call member => ?_
        · rw [written_proceed, unwritten, List.append_nil]
        · rcases List.mem_or_eq_of_mem_set member with old | new
          · exact outside call old
          · rw [new]
            rfl
    | @after started there call found stands alone =>
        have apart : index ≠ there := by
          rintro rfl
          rw [at_index] at found
          cases found
          exact stands
        refine .after started ((List.getElem?_set_ne apart).trans found) ?_ ?_
        · rw [written_proceed, List.append_nil]
          exact stands
        · intro other otherCall otherFound otherApart
          by_cases here : other = index
          · subst here
            have inside := (List.getElem?_eq_some_iff.mp at_index).choose
            rw [calls_proceed, List.getElem?_set_self inside] at otherFound
            cases otherFound
            rfl
          · rw [calls_proceed, List.getElem?_set_ne (Ne.symm here)] at otherFound
            exact alone other otherCall otherFound otherApart

omit [Client β σ] [OffsetStore ρ] in
theorem Lived.enter (lived : life.Lived) {index : Nat} {topics : Session.Topics}
    {claimed : Session σ} (at_index : life.calls[index]? = some (.waiting topics))
    (claims : life.session.claim topics = .ok claimed) :
    (life.proceed index (.admitted topics) { claimed with lifecycle := life.session.lifecycle }
      life.scene.client []).Lived := by
  obtain ⟨-, fresh, rfl⟩ := Session.claim_eq_ok_iff.mp claims
  cases lived.stage with
  | after started =>
      rw [fresh] at started
      cases started
  | before unstarted vacant unwritten outside =>
      refine lived.proceed at_index ?_ rfl rfl ?_ ?_ ?_
      · exact fun other call found _ => outside call (List.mem_of_getElem? found)
      · rw [unwritten]
        exact ⟨⟨⟨vacant.unmanned.1, vacant.unmanned.2, vacant.unmanned.3, vacant.unmanned.4⟩,
          vacant.supervisor, vacant.lifecycle⟩, rfl⟩
      · exact lived.drawn.of_eq rfl rfl rfl rfl
      · exact lived.heeded.of_eq rfl rfl id id

theorem Lived.step (lived : life.Lived) (step : Step others life after) : after.Lived := by
  cases step with
  | call topics => exact lived.call topics
  | refuse at_index refuses => exact lived.refuse at_index refuses
  | enter at_index claims => exact lived.enter at_index claims
  | begin at_index =>
      obtain ⟨started, ⟨vacant, unwritten⟩, alone⟩ := lived.stage.of_inside at_index rfl
      refine lived.proceed at_index alone rfl started ?_ ?_ ?_
      · rw [unwritten]
        exact ⟨vacant_of_lifecycle vacant .fetchingMetadata, rfl⟩
      · exact lived.drawn.of_eq rfl rfl rfl rfl
      · exact lived.heeded.of_eq rfl rfl id id
  | fetch at_index untold fetched =>
      obtain ⟨started, ⟨vacant, path⟩, alone⟩ := lived.stage.of_inside at_index rfl
      refine lived.proceed at_index alone rfl started ?_ ?_ ?_
      · rw [path]
        exact ⟨vacant, rfl⟩
      · exact lived.drawn.of_eq rfl rfl rfl rfl
      · exact lived.heeded.of_eq rfl rfl id id
  | fail at_index untold fetched =>
      obtain ⟨started, ⟨vacant, path⟩, alone⟩ := lived.stage.of_inside at_index rfl
      refine lived.proceed at_index alone rfl started ?_ ?_ ?_
      · rw [path]
        exact ⟨vacant_of_lifecycle vacant .closed, rfl⟩
      · exact lived.drawn.of_eq rfl rfl rfl rfl
      · exact lived.heeded.of_eq rfl rfl id id
  | endEarly client at_index told =>
      obtain ⟨started, ⟨vacant, path⟩, alone⟩ := lived.stage.of_inside at_index rfl
      have unmanned := (vacant_of_lifecycle vacant .closed).unmanned
      refine lived.proceed at_index alone rfl started ?_ ?_ ?_
      · rw [path]
        exact ⟨⟨unmanned.1, unmanned.2, unmanned.3, unmanned.4⟩, rfl, told, rfl, rfl⟩
      · intro summary found
        cases found
        have none := unmanned.consumers
        simp only [session] at none
        exact ⟨by simp [Crew.isOver, Session.endEarly, none],
          by simp [Session.summarise, Session.endEarly, none, OrderedMap.ofList]⟩
      · exact lived.heeded.of_eq rfl rfl id id
  | launch at_index =>
      obtain ⟨started, ⟨vacant, path⟩, alone⟩ := lived.stage.of_inside at_index rfl
      refine lived.proceed at_index alone rfl started ?_ ?_ ?_
      · rw [path]
        exact ⟨rfl, vacant.unmanned.stop, rfl⟩
      · intro summary found
        cases found
      · have none := vacant.unmanned.outcomes
        refine ⟨fun _ _ consumer member => ?_, fun _ _ place => ?_⟩
        · rcases List.mem_map.mp member with ⟨plan, -, rfl⟩
          intro cancelled
          cases cancelled
        · simp only [session] at none
          simp [Session.launch, none]
  | run warranted => exact lived.run_scene warranted

theorem Lived.run (lived : life.Lived) (runs : ReflTransGen (Step others) life after) :
    after.Lived := by
  induction runs with
  | refl => exact lived
  | tail _ step ih => exact ih.step step

end Run

end Life

end TopicReplay
