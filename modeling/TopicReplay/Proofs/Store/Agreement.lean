import TopicReplay.Proofs.Store.Database
import TopicReplay.Proofs.Store.History
import TopicReplay.Proofs.Store.Memory

/-!
# Stores agree

A memory store and a database that both start empty answer every list of requests alike,
however often the database is closed and opened again in between. Each answer is told by
the requests before it, as if the store were a map from topics to offsets by partition,
and a request leaves the records of all topics alone that it does not speak of.

The main statement is `stores_agree`.
-/

namespace TopicReplay.Store

/-- A store answers as a map does to which the requests were made. -/
structure Serves {ρ : Type} [OffsetStore ρ] [Reopens ρ] (start : ρ) : Prop where
  /-- The requests before a request tell the answer. -/
  meets : ∀ history request, Meets history request (ask (after start history) request).1
  /-- What a request does not touch reads as it read before. -/
  frame : ∀ history (request : Request) key, ¬request.Touches key →
    (ask (after start (history ++ [request])) (.read key)).1 =
      (ask (after start history) (.read key)).1

/-- Faithful stores serve from the time when they are empty. -/
theorem Faithful.serves {ρ : Type} [OffsetStore ρ] [Reopens ρ] {shows : ρ → View → Prop}
    (faithful : Faithful ρ shows) {start : ρ} (empty : shows start fun _ => none) :
    Serves start where
  meets := by
    intro history request
    exact meets_of_gives (faithful.gives (faithful.run empty history) request)
  frame := by
    intro history request key untouched
    have earlier : (ask (after start history) (.read key)).1 =
        .ok (.record ((View.of history).read key)) :=
      faithful.gives (faithful.run empty history) (.read key)
    have later : (ask (after start (history ++ [request])) (.read key)).1 =
        .ok (.record ((View.of (history ++ [request])).read key)) :=
      faithful.gives (faithful.run empty (history ++ [request])) (.read key)
    rw [earlier, later, View.of_append_singleton, View.read_next_of_not_touches untouched]

/-- A database opened where nothing is stored and an empty memory store answer alike, and
both answer as the requests before tell. -/
theorem stores_agree {disk : Disk} {path : String} (fresh : disk.openStore path = .ok {}) :
    ∃ database, Database.load disk path = .ok database ∧
      (∀ requests, answers database requests = answers ({} : MemoryStore) requests) ∧
        Serves ({} : MemoryStore) ∧ Serves database := by
  rcases Database.exists_load fresh TreeStore.shows_empty with ⟨database, loaded, shown⟩
  refine ⟨database, loaded, ?_, ?_, ?_⟩
  · exact Database.faithful.answers_eq MemoryStore.faithful shown MemoryStore.shows_empty
  · exact MemoryStore.faithful.serves MemoryStore.shows_empty
  · exact Database.faithful.serves shown

/-- An empty disk has room for a database, which keeps an offset when it is closed and
keeps nothing of it once it was deleted. -/
theorem stores_agree_on_empty_disk :
    ∃ database, Database.load {} "offsets" = .ok database ∧
      answers database
          [.commit .epoch ⟨"prod", "orders"⟩ 0 42 (by decide), .reopen,
            .read ⟨"prod", "orders"⟩, .delete "prod" none, .reopen,
            .read ⟨"prod", "orders"⟩] =
        [.ok .done, .ok .done, .ok (.record ⟨.ofList [(0, 42)], some .epoch⟩),
          .ok (.removed 1), .ok .done, .ok (.record {})] := by
  have fresh : ({} : Disk).openStore "offsets" = .ok {} := rfl
  rcases stores_agree fresh with ⟨database, loaded, agree, -, -⟩
  refine ⟨database, loaded, ?_⟩
  rw [agree]
  rfl

end TopicReplay.Store
