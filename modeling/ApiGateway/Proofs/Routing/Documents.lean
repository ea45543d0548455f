import ApiGateway.Routing.Loading
import Mathlib.Data.String.Basic

/-!
# Routing documents that were read

`Decode.Ensures` says what holds of every value that a decoder returns, whatever the
document and however many references were followed before. Of the fallback block it is
the order of the keys (`ascending_keys_of_decode`): a mapping with entries in any order,
keys repeated or not, is read as one entry for each key in ascending order.
-/

namespace ApiGateway

namespace Yaml.Decode

variable {α β : Type}

/-- Every value that a decoder returns has a property. -/
def Ensures (decode : Decode α) (property : α → Prop) : Prop :=
  ∀ document count value rest, decode document count = some (value, rest) → property value

theorem ensures_true (decode : Decode α) : Ensures decode fun _ => True :=
  fun _ _ _ _ _ => trivial

theorem ensures_failure (property : α → Prop) : Ensures failure property := nofun

theorem ensures_pure {property : α → Prop} {value : α} (holds : property value) :
    Ensures (pure value) property := by
  intro document count other rest returned
  cases returned
  exact holds

/-- What the first decoder ensures is at hand in the second one. -/
theorem Ensures.bind {first : Decode α} {second : α → Decode β} {between : α → Prop}
    {property : β → Prop} (ensured : Ensures first between)
    (next : ∀ value, between value → Ensures (second value) property) :
    Ensures (first >>= second) property := by
  intro document count value rest returned
  obtain ⟨⟨middle, followed⟩, read, last⟩ := Option.bind_eq_some_iff.mp returned
  exact next middle (ensured document count middle followed read) document followed value rest last

theorem Ensures.map {decode : Decode α} {change : α → β} {property : β → Prop}
    (ensured : Ensures decode fun value => property (change value)) :
    Ensures (change <$> decode) property := by
  rw [← bind_pure_comp]
  exact ensured.bind fun value holds => ensures_pure holds

/-- A field ensures what its decoder ensures, if the default has it as well. -/
theorem ensures_fieldOr {decode : Node → Decode α} {property : α → Prop} {default : α}
    (absent : property default) (ensured : ∀ node, Ensures (decode node) property)
    (name : String) (known : List (String × Node)) :
    Ensures (fieldOr default decode name known) property := by
  simp only [fieldOr]
  split
  · exact ensured _
  · exact ensures_pure absent

/-- An optional value is absent or has what its decoder ensures. -/
theorem ensures_optional {decode : Node → Decode α} {property : α → Prop}
    (ensured : ∀ node, Ensures (decode node) property) (node : Node) :
    Ensures (optional decode node) fun found => ∀ value, found = some value → property value := by
  have absent : Ensures (pure none) fun found : Option α =>
      ∀ value, found = some value → property value := ensures_pure nofun
  have present (target : Node) : Ensures (some <$> decode target) fun found =>
      ∀ value, found = some value → property value := by
    refine Ensures.map fun document count value rest returned other same => ?_
    cases same
    exact ensured target document count value rest returned
  refine (ensures_true _).bind fun target _ => ?_
  split
  · split
    · exact absent
    · exact present _
  · split
    · split
      · exact absent
      · exact ensures_failure _
    · exact present _
  · exact present _

end Yaml.Decode

namespace Routing

open Yaml

/-- An entry takes the place of an earlier one with its key. -/
theorem nodup_keys_foldl {α : Type} (pairs : List (String × α)) {kept : List (String × α)}
    (distinct : (kept.map (·.1)).Nodup) :
    ((pairs.foldl (fun kept pair => pair :: kept.filter fun other => other.1 != pair.1) kept).map
      (·.1)).Nodup := by
  induction pairs generalizing kept with
  | nil => exact distinct
  | cons pair rest inductionHypothesis =>
      refine inductionHypothesis (List.nodup_cons.mpr ⟨?_, ?_⟩)
      · intro member
        obtain ⟨other, remaining, same⟩ := List.mem_map.mp member
        simpa [same] using (List.mem_filter.mp remaining).2
      · exact distinct.sublist (List.filter_sublist.map _)

/-- The keys of the pairs ascend, each of them once. -/
theorem pairwise_ascending {α : Type} (pairs : List (String × α)) :
    ((ascending pairs).map (·.1)).Pairwise (· < ·) := by
  have sorted : ((ascending pairs).map (·.1)).Pairwise (· ≤ ·) := by
    rw [List.pairwise_map]
    simpa only [ascending, decide_eq_true_eq] using
      List.pairwise_mergeSort
        (fun a b c first second => decide_eq_true
          ((of_decide_eq_true first).trans (of_decide_eq_true second)))
        (fun a b => by simpa using le_total a.1 b.1) _
  have distinct : ((ascending pairs).map (·.1)).Nodup := by
    rw [ascending, ((List.mergeSort_perm _ _).map _).nodup_iff]
    exact nodup_keys_foldl pairs List.nodup_nil
  exact (sorted.and distinct).imp fun pair => lt_of_le_of_ne pair.1 pair.2

/-- The keys of a mapping that was read ascend. -/
theorem ensures_decodeMappings (node : Node) :
    Decode.Ensures (decodeMappings node) fun mappings =>
      (mappings.map (·.1)).Pairwise (· < ·) := by
  refine (Decode.ensures_true _).bind fun entries _ => ?_
  refine (Decode.ensures_true _).bind fun pairs _ => ?_
  exact Decode.ensures_pure (pairwise_ascending pairs)

/-- The keys of a fallback block that was read ascend. -/
theorem Fallback.ensures_decode (node : Node) :
    Decode.Ensures (Fallback.decode node) fun fallback =>
      (fallback.mappings.map (·.1)).Pairwise (· < ·) := by
  refine (Decode.ensures_true _).bind fun known _ => ?_
  refine (Decode.ensures_true _).bind fun basePath _ => ?_
  refine (Decode.ensures_true _).bind fun stripBase _ => ?_
  refine (Decode.ensures_true _).bind fun healthPath _ => ?_
  refine (Decode.ensures_fieldOr .nil ensures_decodeMappings _ _).bind fun mappings ascend => ?_
  exact Decode.ensures_pure ascend

/-- The keys of the fallback block of a document that was read ascend. -/
theorem Document.ascending_keys_of_decode {source : Yaml.Document} {document : Document}
    (read : Decode.run? Document.decode source = some document) {fallback : Fallback}
    (block : document.fallback = some fallback) :
    (fallback.mappings.map (·.1)).Pairwise (· < ·) := by
  have ensured : Decode.Ensures (Document.decode source.root) fun document =>
      ∀ fallback, document.fallback = some fallback →
        (fallback.mappings.map (·.1)).Pairwise (· < ·) := by
    refine (Decode.ensures_true _).bind fun known _ => ?_
    refine (Decode.ensures_true _).bind fun routes _ => ?_
    refine (Decode.ensures_fieldOr nofun
      (Decode.ensures_optional Fallback.ensures_decode) _ _).bind fun found ascend => ?_
    exact Decode.ensures_pure ascend
  obtain ⟨⟨value, followed⟩, returned, same⟩ := Option.map_eq_some_iff.mp read
  cases same
  exact ensured _ _ _ _ returned fallback block

end Routing

end ApiGateway
