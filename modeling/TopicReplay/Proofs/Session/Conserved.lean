import TopicReplay.Proofs.Session.Begin

/-!
# Nothing is lost on the way

The channel keeps the events in the order in which they were put in: while somebody
receives, the events that were sent are those that were received and those that wait, in
this order.
-/

namespace TopicReplay

open Broker (Client OrderedClient)
open Relation (ReflTransGen)
open Store (OffsetStore)

namespace Consumer

variable {β σ ρ : Type} [Client β σ] [OffsetStore ρ] {around : Surroundings β ρ}
  {consumer : Consumer σ} {outcome : Outcome β σ}

/-- Nothing is delivered after the signal to stop, or when nobody receives. -/
theorem Move.events_of_spoilt (move : Move around consumer outcome)
    (spoilt : ¬(around.stop = false ∧ around.channel.receiving = true)) :
    outcome.emission.events = [] := by
  cases move with
  | delivered untold phase heard room => exact absurd ⟨untold, heard⟩ spoilt
  | stopped untold phase heard room => exact absurd ⟨untold, heard⟩ spoilt
  | _ => rfl

end Consumer

namespace Scene

variable {β σ ρ : Type} [Client β σ] [OffsetStore ρ] {others : β → β → Prop}
  {scene after : Scene β σ ρ}

/-- What the channel keeps. -/
structure Conserved (scene : Scene β σ ρ) : Prop where
  waiting : scene.session.crew.channel.receiving = true →
    scene.sent = scene.received ++ scene.session.crew.channel.buffer
  gone : scene.session.crew.channel.receiving = false → scene.session.crew.channel.buffer = []
  heard : scene.received <+: scene.sent

omit [Client β σ] [OffsetStore ρ] in
theorem Fresh.conserved {settings : Settings} (fresh : scene.Fresh settings) :
    scene.Conserved where
  waiting _ := by simp [fresh.sent, fresh.received, fresh.channel]
  gone _ := by rw [fresh.channel]
  heard := by simp [fresh.sent, fresh.received]

theorem Conserved.work (conserved : scene.Conserved) {index : Nat} {consumer : Consumer σ}
    {outcome : Consumer.Outcome β σ} (works : scene.Works index consumer outcome) :
    (scene.work index consumer outcome).Conserved where
  waiting receiving := by
    rw [receiving_work] at receiving
    simp [conserved.waiting receiving]
  gone deaf := by
    rw [receiving_work] at deaf
    have silent := works.moves.events_of_spoilt fun unspoilt =>
      absurd (unspoilt.2.symm.trans deaf) (by simp)
    simp [conserved.gone deaf, silent]
  heard := conserved.heard.trans (List.prefix_append _ _)

omit [Client β σ] [OffsetStore ρ] in
/-- What leaves the channel and the histories alone conserves them. -/
theorem Conserved.of_eq (conserved : scene.Conserved)
    (channel : after.session.crew.channel = scene.session.crew.channel)
    (sent : after.sent = scene.sent) (received : after.received = scene.received) :
    after.Conserved where
  waiting := by rw [channel, sent, received]; exact conserved.waiting
  gone := by rw [channel]; exact conserved.gone
  heard := by rw [sent, received]; exact conserved.heard

theorem Conserved.turn (conserved : scene.Conserved) (turn : Turn others scene after) :
    after.Conserved := by
  cases turn with
  | work worked =>
      rcases workAt?_eq_some_iff.mp worked with ⟨consumer, outcome, works, rfl⟩
      exact conserved.work works
  | supervise supervised => exact conserved.of_eq supervised.kept.channel rfl rfl
  | pass later => exact conserved.of_eq rfl rfl rfl
  | cancel => exact conserved.of_eq rfl rfl rfl
  | change changed => exact conserved.of_eq rfl rfl rfl

theorem Conserved.step (conserved : scene.Conserved) (step : Step others scene after) :
    after.Conserved := by
  cases step with
  | turn turn => exact conserved.turn turn
  | receive receives =>
      rcases receive?_eq_some_iff.mp receives with ⟨event, rest, buffer_eq, rfl⟩
      have listened : scene.session.crew.channel.receiving = true := by
        cases heard : scene.session.crew.channel.receiving with
        | true => rfl
        | false =>
            rw [conserved.gone heard] at buffer_eq
            cases buffer_eq
      have sent_eq := conserved.waiting listened
      rw [buffer_eq] at sent_eq
      constructor
      · intro _
        simp [sent_eq]
      · intro deaf
        simp [listened] at deaf
      · exact ⟨rest, by simp [sent_eq]⟩
  | hangUp => exact ⟨nofun, fun _ => rfl, conserved.heard⟩
  | commit stamp member => exact conserved.of_eq (by simp) (by simp) (by simp)

theorem Conserved.run (conserved : scene.Conserved)
    (runs : ReflTransGen (Step others) scene after) : after.Conserved := by
  induction runs with
  | refl => exact conserved
  | tail _ step ih => exact ih.step step

end Scene

end TopicReplay
