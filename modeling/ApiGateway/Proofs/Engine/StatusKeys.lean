import ApiGateway.Proofs.Engine.Execution
import ApiGateway.Proofs.Engine.StatusEvent

/-!
# Whose statuses there are

The keys of the statuses are those of the backends at the start, and no execution adds
or removes one.
-/

namespace ApiGateway

namespace Backend.StatusBook

/-- The keys with a status. -/
def keys (book : StatusBook) : List String := book.entries.map (·.1)

@[simp] theorem keys_update (key : String) (change : Status → Status) (book : StatusBook) :
    (book.update key change).keys = book.keys := by
  simp only [keys, update, List.map_map]
  apply List.map_congr_left
  intro entry _
  simp only [Function.comp_apply]
  split <;> rfl

theorem exists_get?_of_mem_keys {key : String} {book : StatusBook} (member : key ∈ book.keys) :
    ∃ status, book.get? key = some status := by
  rw [← Option.isSome_iff_exists, get?, List.lookup_isSome_iff]
  obtain ⟨entry, found, rfl⟩ := List.mem_map.mp member
  exact ⟨entry, found, by simp⟩

/-- The place that the status of a key has in the book. -/
def slot (key : String) (book : StatusBook) : Nat := book.keys.idxOf key

theorem get?_eq_slot (key : String) (book : StatusBook) :
    book.get? key = book.entries[book.slot key]?.map (·.2) := by
  obtain ⟨entries⟩ := book
  simp only [get?, slot, keys]
  induction entries with
  | nil => rfl
  | cons entry rest inductionHypothesis =>
      obtain ⟨name, status⟩ := entry
      by_cases found : key = name
      · subst found
        simp
      · have absent : (key == name) = false := by simpa using found
        have differs : (name == key) = false := by simpa using Ne.symm found
        simp [List.lookup_cons, absent, List.idxOf_cons, differs, inductionHypothesis]

end Backend.StatusBook

namespace Engine

open Backend (StatusBook)

/-- The statuses are those of the same backends all the time. -/
theorem StatusEvent.keys_apply (policy : Backend.CircuitPolicy) (now : Instant)
    (statuses : StatusBook) (event : StatusEvent) :
    (event.apply policy now statuses).keys = statuses.keys := by
  cases event <;> exact StatusBook.keys_update ..

theorem Steps.keys {engine : Engine} {first last : World} (steps : Steps engine first last) :
    last.statuses.keys = first.statuses.keys := by
  refine steps.preserves (fun world => world.statuses.keys = first.statuses.keys) ?_ rfl
  intro world next same step
  cases step with
  | move move =>
      rw [World.statuses_move, ← same]
      generalize world.events engine move = events
      generalize world.statuses = statuses
      induction events generalizing statuses with
      | nil => rfl
      | cons event rest inductionHypothesis =>
          rw [List.foldl_cons, inductionHypothesis]
          exact event.keys_apply ..
  | delay => exact same
  | report key finding => rw [StatusBook.keys_update, same]

theorem keys_initial (engine : Engine) (network : Network) (start : Instant) :
    (World.initial engine network start).statuses.keys =
      engine.table.backends.map Backend.key := by
  simp [World.initial, StatusBook.new, StatusBook.keys, Function.comp_def]

end Engine

end ApiGateway
