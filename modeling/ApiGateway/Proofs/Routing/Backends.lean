import ApiGateway.Proofs.Routing.Built
import Mathlib.Data.String.Basic

/-!
# The backends of a table

A table has one backend for each canonical locator of its routes: the keys of the
backends are those of the routes (`mem_keys_build_iff`), in ascending order and each of
them once (`ascending_keys_build`, `nodup_keys_build`).
-/

namespace ApiGateway.Routing

variable {definitions : List Definition} {defaultTimeout : Duration}

/-- Backends are inserted in the order of their keys. -/
theorem pairwise_insertBackend (backend : Backend) {backends : List Backend}
    (ascending : (backends.map Backend.key).Pairwise (· < ·)) :
    ((insertBackend backend backends).map Backend.key).Pairwise (· < ·) := by
  induction backends with
  | nil => simp [insertBackend]
  | cons first rest inductionHypothesis =>
      obtain ⟨isFirst, ascendingRest⟩ := List.pairwise_cons.mp ascending
      simp only [insertBackend]
      split
      · next before =>
          refine List.pairwise_cons.mpr ⟨fun key member => ?_, ascending⟩
          rcases List.mem_cons.mp member with rfl | later
          · exact before
          · exact before.trans (isFirst key later)
      · next notBefore =>
          split
          · exact ascending
          · next different =>
              have ascendingAll := inductionHypothesis ascendingRest
              refine List.pairwise_cons.mpr ⟨fun key member => ?_, ascendingAll⟩
              rcases mem_keys_insertBackend.mp member with rfl | known
              · exact lt_of_le_of_ne (not_lt.mp notBefore) (Ne.symm different)
              · exact isFirst key known

namespace Table

variable {table : Table} {shadowings : List Shadowing}
  (built : Table.build definitions defaultTimeout = .ok (table, shadowings))
include built

/-- The backends of a table come in the order of their keys. -/
theorem ascending_keys_build : (table.backends.map Backend.key).Pairwise (· < ·) := by
  obtain ⟨draft, drafted, -, backends⟩ := draft_of_build built
  rw [backends]
  refine draft_preserves (fun draft => (draft.backends.map Backend.key).Pairwise (· < ·))
    .nil ?_ drafted
  intro draft next definition _ _ sorted added
  obtain ⟨url, methods, -, -, -, inserted⟩ := Draft.add_eq_ok added
  rw [inserted]
  exact pairwise_insertBackend _ sorted

/-- No two backends of a table have one key. -/
theorem nodup_keys_build : (table.backends.map Backend.key).Nodup :=
  (ascending_keys_build built).imp ne_of_lt

/-- The keys of the backends are the canonical locators of the routes. -/
theorem mem_keys_build_iff {key : String} :
    key ∈ table.backends.map Backend.key ↔ ∃ route ∈ table.routes, route.backendKey = key := by
  constructor
  · intro known
    obtain ⟨draft, drafted, sorted, backends⟩ := draft_of_build built
    have served : ∀ key ∈ draft.backends.map Backend.key,
        ∃ route ∈ draft.routes, route.backendKey = key := by
      refine draft_preserves (fun draft => ∀ key ∈ draft.backends.map Backend.key,
        ∃ route ∈ draft.routes, route.backendKey = key) nofun ?_ drafted
      intro draft next definition _ _ holds added key member
      obtain ⟨url, methods, -, -, routes, inserted⟩ := Draft.add_eq_ok added
      rw [inserted, mem_keys_insertBackend] at member
      rw [routes]
      rcases member with rfl | earlier
      · exact ⟨_, List.mem_append_right _ List.mem_cons_self, rfl⟩
      · obtain ⟨route, known, same⟩ := holds key earlier
        exact ⟨route, List.mem_append_left _ known, same⟩
    rw [backends] at known
    obtain ⟨route, member, same⟩ := served key known
    exact ⟨route, sorted ▸ List.mem_mergeSort.mpr member, same⟩
  · rintro ⟨route, member, rfl⟩
    exact backendKey_mem_build built member

end Table

end ApiGateway.Routing
