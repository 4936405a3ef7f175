import TopicReplay.Replay

/-!
# Moves of a replay

The step of a replay as a relation, with a record of what the step did: which event it
received, which line it wrote, and what came of committing. `move_iff` says that the
relation and the step are the same.
-/

namespace TopicReplay.Replay

open Store (OffsetStore)

/-- What one step of a replay did. -/
structure Deed where
  /-- The event that was received, if there was one. -/
  received : List Event := []
  /-- The event whose line was written, with its line. -/
  written : List (Event × String) := []
  /-- The event whose line could not be made or written. -/
  refused : List Event := []
  /-- The event that was committed, and whether that succeeded. -/
  commits : List (Event × Bool) := []

variable {ω φ σ ρ : Type} [Writer ω] [Formatter φ] [OffsetStore ρ]

/-- What the next step of a replay does. -/
def deed (replay : Replay ω φ) (session : Session σ) (store : ρ) (stamp : Instant) : Deed :=
  match replay.phase, receive? session with
  | .receiving, some (event, rest) =>
      match Formatter.line replay.format event with
      | .error _ => { received := [event], refused := [event] }
      | .ok line =>
          match (Writer.write replay.writer line).1 with
          | some _ => { received := [event], refused := [event] }
          | none =>
              let stored := (rest.commit store stamp event.place event.offset).2
              { received := [event]
                written := [(event, line)]
                commits := if replay.commits then [(event, stored.toBool)] else [] }
  | _, _ => {}

/-- What a replay does in one step. -/
inductive Move (replay : Replay ω φ) (session : Session σ) (store : ρ) (stamp : Instant) :
    Deed → Replay ω φ × Session σ × ρ → Prop where
  /-- It wrote an event that is not to be committed. -/
  | wrote {event : Event} {rest : Session σ} {line : String} {writer : ω}
      (phase : replay.phase = .receiving) (receives : receive? session = some (event, rest))
      (prints : Formatter.line replay.format event = .ok line)
      (writes : Writer.write replay.writer line = (none, writer))
      (quiet : replay.commits = false) :
      Move replay session store stamp { received := [event], written := [(event, line)] }
        ({ replay with writer }, rest, store)
  | committed {event : Event} {rest after : Session σ} {line : String} {writer : ω} {stored : ρ}
      (phase : replay.phase = .receiving) (receives : receive? session = some (event, rest))
      (prints : Formatter.line replay.format event = .ok line)
      (writes : Writer.write replay.writer line = (none, writer))
      (asked : replay.commits = true)
      (commits : rest.commit store stamp event.place event.offset = (after, .ok stored)) :
      Move replay session store stamp
        { received := [event], written := [(event, line)], commits := [(event, true)] }
        ({ replay with writer }, after, stored)
  | uncommitted {event : Event} {rest after : Session σ} {line : String} {writer : ω}
      {e : Store.Error} (phase : replay.phase = .receiving)
      (receives : receive? session = some (event, rest))
      (prints : Formatter.line replay.format event = .ok line)
      (writes : Writer.write replay.writer line = (none, writer))
      (asked : replay.commits = true)
      (commits : rest.commit store stamp event.place event.offset = (after, .error e)) :
      Move replay session store stamp
        { received := [event], written := [(event, line)], commits := [(event, false)] }
        ({ replay with writer }, after, store)
  | unprinted {event : Event} {rest : Session σ} {e : Command.Error}
      (phase : replay.phase = .receiving) (receives : receive? session = some (event, rest))
      (unprintable : Formatter.line replay.format event = .error e) :
      Move replay session store stamp { received := [event], refused := [event] }
        ((replay.fail rest e).1, (replay.fail rest e).2, store)
  | broke {event : Event} {rest : Session σ} {line text : String} {writer : ω}
      (phase : replay.phase = .receiving) (receives : receive? session = some (event, rest))
      (prints : Formatter.line replay.format event = .ok line)
      (breaks : Writer.write replay.writer line = (some (.other text), writer)) :
      Move replay session store stamp { received := [event], refused := [event] }
        ((fail { replay with writer } rest (.io text)).1,
          (fail { replay with writer } rest (.io text)).2, store)
  /-- The reader of the output has closed it. -/
  | closed {event : Event} {rest : Session σ} {line text : String} {writer : ω}
      (phase : replay.phase = .receiving) (receives : receive? session = some (event, rest))
      (prints : Formatter.line replay.format event = .ok line)
      (closes : Writer.write replay.writer line = (some (.closed text), writer)) :
      Move replay session store stamp { received := [event], refused := [event] }
        ((complete { replay with writer } rest).1, (complete { replay with writer } rest).2, store)
  /-- There is nothing more to receive. -/
  | exhausted (phase : replay.phase = .receiving) (none : receive? session = none)
      (dry : session.crew.isDry = true) :
      Move replay session store stamp {}
        ((replay.complete session).1, (replay.complete session).2, store)
  | finished {summary : Summary} (phase : replay.phase = .awaiting)
      (drawn : session.summary? = some summary) :
      Move replay session store stamp {}
        ({ replay with phase := .done (.ok summary) }, session, store)

variable {replay : Replay ω φ} {session : Session σ} {store : ρ} {stamp : Instant}
  {result : Replay ω φ × Session σ × ρ}

section Commit

variable (replay : Replay ω φ) {session after : Session σ} {store stored : ρ} {stamp : Instant}
  {event : Event}

omit [Writer ω] [Formatter φ]

theorem commit_of_quiet (quiet : replay.commits = false) :
    replay.commit session store stamp event = (session, store) := by
  rw [Replay.commit, quiet]
  rfl

theorem commit_of_ok (asked : replay.commits = true)
    (commits : session.commit store stamp event.place event.offset = (after, .ok stored)) :
    replay.commit session store stamp event = (after, stored) := by
  rw [Replay.commit, asked, commits]
  rfl

theorem commit_of_error {e : Store.Error} (asked : replay.commits = true)
    (commits : session.commit store stamp event.place event.offset = (after, .error e)) :
    replay.commit session store stamp event = (after, store) := by
  rw [Replay.commit, asked, commits]
  rfl

end Commit

omit [Writer ω] [Formatter φ] [OffsetStore ρ] in
theorem receive?_eq_some_iff {event : Event} {rest : Session σ} :
    receive? session = some (event, rest) ↔
      ∃ channel, session.crew.channel.pop? = some (event, channel) ∧
        { session with crew := { session.crew with channel } } = rest := by
  simp only [receive?, Option.map_eq_some_iff, Prod.exists, Prod.mk.injEq]
  constructor
  · rintro ⟨_, channel, popped, rfl, rest_eq⟩
    exact ⟨channel, popped, rest_eq⟩
  · rintro ⟨channel, popped, rest_eq⟩
    exact ⟨event, channel, popped, rfl, rest_eq⟩

/-- Writing a line and committing its event is one of five moves. -/
theorem move_putLine {event : Event} {rest : Session σ} {line : String}
    (phase : replay.phase = .receiving) (receives : receive? session = some (event, rest))
    (prints : Formatter.line replay.format event = .ok line) :
    Move replay session store stamp (replay.deed session store stamp)
      (replay.putLine rest store stamp event line) := by
  simp only [deed, phase, receives, prints]
  unfold putLine
  rcases writes : Writer.write replay.writer line with ⟨fault, writer⟩
  cases fault with
  | none =>
      simp only
      rcases Bool.eq_false_or_eq_true replay.commits with asked | quiet
      · rw [if_pos asked]
        rcases commits : rest.commit store stamp event.place event.offset with ⟨after, stored⟩
        cases stored with
        | ok stored =>
            rw [commit_of_ok { replay with writer } asked commits]
            exact .committed phase receives prints writes asked commits
        | error e =>
            rw [commit_of_error { replay with writer } asked commits]
            exact .uncommitted phase receives prints writes asked commits
      · have same : Replay.commit { replay with writer } rest store stamp event = (rest, store) :=
          commit_of_quiet _ quiet
        rw [same, if_neg (by simp [quiet])]
        exact .wrote phase receives prints writes quiet
  | some fault =>
      cases fault with
      | closed text => exact .closed phase receives prints writes
      | other text => exact .broke phase receives prints writes

theorem move_of_step? (stepped : replay.step? session store stamp = some result) :
    Move replay session store stamp (replay.deed session store stamp) result := by
  unfold step? at stepped
  split at stepped
  · cases stepped
  · rename_i phase
    rcases Option.map_eq_some_iff.mp stepped with ⟨summary, drawn, rfl⟩
    rw [deed, phase]
    exact .finished phase drawn
  · rename_i phase
    split at stepped
    · rename_i event rest receives
      cases stepped
      unfold put
      split
      · rename_i prints
        exact move_putLine phase receives prints
      · rename_i unprintable
        simp only [deed, phase, receives, unprintable]
        exact .unprinted phase receives unprintable
    · rename_i none
      split at stepped
      · rename_i dry
        cases stepped
        simp only [deed, phase, none]
        exact .exhausted phase none dry
      · cases stepped

theorem step?_of_move {deed : Deed} (move : Move replay session store stamp deed result) :
    replay.step? session store stamp = some result := by
  cases move with
  | wrote phase receives prints writes quiet =>
      simp [step?, phase, receives, put, prints, putLine, writes, Replay.commit, quiet]
  | committed phase receives prints writes asked commits =>
      simp [step?, phase, receives, put, prints, putLine, writes, Replay.commit, asked, commits]
  | uncommitted phase receives prints writes asked commits =>
      simp [step?, phase, receives, put, prints, putLine, writes, Replay.commit, asked, commits]
  | unprinted phase receives unprintable => simp [step?, phase, receives, put, unprintable]
  | broke phase receives prints breaks =>
      simp [step?, phase, receives, put, prints, putLine, breaks]
  | closed phase receives prints closes =>
      simp [step?, phase, receives, put, prints, putLine, closes]
  | exhausted phase none dry => simp [step?, phase, none, dry]
  | finished phase drawn => simp [step?, phase, drawn]

/-- A replay has exactly the steps that are moves. -/
theorem move_iff : replay.step? session store stamp = some result ↔
    Move replay session store stamp (replay.deed session store stamp) result :=
  ⟨move_of_step?, step?_of_move⟩

section Parts

omit [Formatter φ]

@[simp]
theorem session_complete (replay : Replay ω φ) (session : Session σ) :
    (replay.complete session).2 = session.hangUp := by
  unfold complete
  split <;> rfl

/-- A replay whose output is complete waits for its session, unless flushing failed. -/
theorem phase_complete (replay : Replay ω φ) (session : Session σ) :
    (replay.complete session).1.phase = .awaiting ∨
      ∃ e, (replay.complete session).1.phase = .done (.error e) := by
  unfold complete
  split
  · exact .inl rfl
  · exact .inr ⟨_, rfl⟩

theorem not_receiving_complete (replay : Replay ω φ) (session : Session σ) :
    (replay.complete session).1.phase ≠ .receiving := by
  rcases replay.phase_complete session with awaiting | ⟨e, done⟩
  · simp [awaiting]
  · simp [done]

@[simp]
theorem commits_complete (replay : Replay ω φ) (session : Session σ) :
    (replay.complete session).1.commits = replay.commits := by
  unfold complete
  split <;> rfl

@[simp]
theorem format_complete (replay : Replay ω φ) (session : Session σ) :
    (replay.complete session).1.format = replay.format := by
  unfold complete
  split <;> rfl

end Parts

/-- A replay keeps its format, and whether it commits. -/
theorem Move.format_eq {deed : Deed} (move : Move replay session store stamp deed result) :
    result.1.format = replay.format ∧ result.1.commits = replay.commits := by
  cases move with
  | closed phase receives prints closes => exact ⟨format_complete _ _, commits_complete _ _⟩
  | exhausted phase none dry => exact ⟨format_complete _ _, commits_complete _ _⟩
  | _ => exact ⟨rfl, rfl⟩

/-- What a deed can be: a line was written, and its event committed if that is wanted; or
an event was received without a line to show for it; or nothing was received. -/
inductive Deed.Kind (format : φ) (commits : Bool) : Deed → Prop where
  | wrote {event : Event} {line : String} {tried : List (Event × Bool)}
      (prints : Formatter.line format event = .ok line)
      (tries : tried.map (·.1) = if commits then [event] else []) :
      Kind format commits { received := [event], written := [(event, line)], commits := tried }
  | refused (event : Event) : Kind format commits { received := [event], refused := [event] }
  | idle : Kind format commits {}

/-- A replay goes on receiving exactly as long as it writes. -/
theorem Move.kind {deed : Deed} (move : Move replay session store stamp deed result) :
    deed.Kind replay.format replay.commits ∧
      (replay.phase = .receiving ∨ deed.received = [] ∧ deed.refused = []) ∧
      (result.1.phase = .receiving → deed.refused = [] ∧ replay.phase = .receiving) := by
  cases move with
  | wrote phase receives prints writes quiet =>
      exact ⟨.wrote prints (by simp [quiet]), .inl phase, fun _ => ⟨rfl, phase⟩⟩
  | committed phase receives prints writes asked commits =>
      exact ⟨.wrote prints (by simp [asked]), .inl phase, fun _ => ⟨rfl, phase⟩⟩
  | uncommitted phase receives prints writes asked commits =>
      exact ⟨.wrote prints (by simp [asked]), .inl phase, fun _ => ⟨rfl, phase⟩⟩
  | unprinted phase receives unprintable => exact ⟨.refused _, .inl phase, nofun⟩
  | broke phase receives prints breaks => exact ⟨.refused _, .inl phase, nofun⟩
  | closed phase receives prints closes =>
      exact ⟨.refused _, .inl phase, fun still => absurd still (not_receiving_complete _ _)⟩
  | exhausted phase none dry =>
      exact ⟨.idle, .inl phase, fun still => absurd still (not_receiving_complete _ _)⟩
  | finished phase drawn => exact ⟨.idle, .inr ⟨rfl, rfl⟩, nofun⟩

end TopicReplay.Replay
