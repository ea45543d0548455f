import Mathlib.Data.List.Forall2

/-!
# The first of the largest

`FirstLargest` says of a list which of its members is chosen when the largest one that
qualifies is, and the first one of equals. If the list is sorted by size, largest first,
this is the first member that qualifies, because the sort leaves members of one size in
their order (`find?_mergeSort_of_firstLargest`).
-/

namespace ApiGateway.Routing

/-- Of the members of a list that qualify this one has the greatest size, and it is the first
one of that size. -/
structure FirstLargest {α : Type} (size : α → Nat) (qualifies : α → Prop) (list : List α)
    (chosen : α) : Prop where
  good : qualifies chosen
  largest : ∃ before after, list = before ++ chosen :: after ∧
    (∀ other ∈ before, qualifies other → size other < size chosen) ∧
    ∀ other ∈ after, qualifies other → size other ≤ size chosen

variable {α β : Type} {size : α → Nat} {qualifies : α → Prop} {list : List α} {chosen : α}

theorem FirstLargest.mem (first : FirstLargest size qualifies list chosen) : chosen ∈ list := by
  obtain ⟨before, after, rfl, -, -⟩ := first.largest
  exact List.mem_append_right _ List.mem_cons_self

/-- Where something qualifies, something is the first largest. -/
theorem exists_firstLargest (some : ∃ member ∈ list, qualifies member) :
    ∃ chosen, FirstLargest size qualifies list chosen := by
  induction list with
  | nil =>
      obtain ⟨member, known, -⟩ := some
      cases known
  | cons head rest inductionHypothesis =>
      by_cases later : ∃ member ∈ rest, qualifies member
      · obtain ⟨chosen, good, before, after, rfl, smaller, notLarger⟩ :=
          inductionHypothesis later
        by_cases wins : qualifies head ∧ size chosen ≤ size head
        · refine ⟨head, wins.1, [], _, rfl, nofun, ?_⟩
          intro other member known
          rcases List.mem_append.mp member with early | late
          · exact Nat.le_trans (Nat.le_of_lt (smaller other early known)) wins.2
          · rcases List.mem_cons.mp late with rfl | late
            · exact wins.2
            · exact Nat.le_trans (notLarger other late known) wins.2
        · refine ⟨chosen, good, head :: before, after, rfl, ?_, notLarger⟩
          intro other member known
          rcases List.mem_cons.mp member with rfl | early
          · exact Nat.lt_of_not_le fun atLeast => wins ⟨known, atLeast⟩
          · exact smaller other early known
      · obtain ⟨member, known, good⟩ := some
        rcases List.mem_cons.mp known with rfl | elsewhere
        · exact ⟨member, good, [], rest, rfl, nofun,
            fun other isLater known => absurd ⟨other, isLater, known⟩ later⟩
        · exact absurd ⟨member, elsewhere, good⟩ later

/-- Leaving out what does not qualify leaves the choice as it is. -/
theorem FirstLargest.filter {keep : α → Bool} (first : FirstLargest size qualifies list chosen)
    (kept : ∀ member, qualifies member → keep member = true) :
    FirstLargest size qualifies (list.filter keep) chosen := by
  obtain ⟨good, before, after, rfl, smaller, notLarger⟩ := first
  refine ⟨good, before.filter keep, after.filter keep, ?_, ?_, ?_⟩
  · rw [List.filter_append, List.filter_cons_of_pos (kept chosen good)]
  · exact fun other member => smaller other (List.mem_filter.mp member).1
  · exact fun other member => notLarger other (List.mem_filter.mp member).1

/-- Of two lists in a row the first one has the choice, unless all of it that qualifies is smaller
than the choice of the second one. -/
theorem FirstLargest.of_append {front back : List α}
    (first : FirstLargest size qualifies (front ++ back) chosen) :
    (FirstLargest size qualifies front chosen ∧
        ∀ other ∈ back, qualifies other → size other ≤ size chosen) ∨
      (FirstLargest size qualifies back chosen ∧
        ∀ other ∈ front, qualifies other → size other < size chosen) := by
  obtain ⟨good, before, after, split, smaller, notLarger⟩ := first
  rcases List.append_eq_append_iff.mp split with ⟨skipped, rfl, rfl⟩ | ⟨own, rfl, rest⟩
  · right
    refine ⟨⟨good, skipped, after, rfl, ?_, notLarger⟩, ?_⟩
    · exact fun other member => smaller other (List.mem_append_right _ member)
    · exact fun other member => smaller other (List.mem_append_left _ member)
  · cases own with
    | nil =>
        right
        cases rest
        exact ⟨⟨good, [], after, rfl, nofun, notLarger⟩, by simpa using smaller⟩
    | cons first own =>
        left
        cases rest
        refine ⟨⟨good, before, own, rfl, smaller, ?_⟩, ?_⟩
        · exact fun other member => notLarger other (List.mem_append_left _ member)
        · exact fun other member => notLarger other (List.mem_append_right _ member)

/-- A list that is related to two lists in a row falls into two parts. -/
theorem forall₂_append_left {related : α → β → Prop} {front back : List α} {others : List β}
    (pairs : List.Forall₂ related (front ++ back) others) :
    ∃ otherFront otherBack, others = otherFront ++ otherBack ∧
      List.Forall₂ related front otherFront ∧ List.Forall₂ related back otherBack := by
  have first := List.forall₂_take front.length pairs
  have second := List.forall₂_drop front.length pairs
  rw [List.take_left] at first
  rw [List.drop_left] at second
  exact ⟨_, _, (List.take_append_drop front.length others).symm, first, second⟩

theorem exists_related {related : α → β → Prop} {members : List α} {others : List β}
    (pairs : List.Forall₂ related members others) {other : β} (known : other ∈ others) :
    ∃ member ∈ members, related member other := by
  induction pairs with
  | nil => cases known
  | cons paired _ inductionHypothesis =>
      rcases List.mem_cons.mp known with rfl | later
      · exact ⟨_, List.mem_cons_self, paired⟩
      · obtain ⟨member, isLater, paired⟩ := inductionHypothesis later
        exact ⟨member, List.mem_cons_of_mem _ isLater, paired⟩

/-- Lists whose members agree pairwise on size and qualification agree on the choice. -/
theorem FirstLargest.transfer {others : List β} {otherSize : β → Nat}
    {otherQualifies : β → Prop} {related : α → β → Prop}
    (pairs : List.Forall₂ related list others)
    (sameSize : ∀ {member other}, related member other → size member = otherSize other)
    (sameQualifies : ∀ {member other}, related member other →
      (qualifies member ↔ otherQualifies other))
    (first : FirstLargest size qualifies list chosen) :
    ∃ other, related chosen other ∧ FirstLargest otherSize otherQualifies others other := by
  obtain ⟨good, before, after, rfl, smaller, notLarger⟩ := first
  obtain ⟨otherBefore, rest, rfl, front, opened⟩ := forall₂_append_left pairs
  obtain ⟨other, otherAfter, paired, back, rfl⟩ := List.forall₂_cons_left_iff.mp opened
  refine ⟨other, paired, (sameQualifies paired).mp good, otherBefore, otherAfter, rfl, ?_, ?_⟩
  · intro early known qualified
    obtain ⟨member, isEarly, paired'⟩ := exists_related front known
    rw [← sameSize paired, ← sameSize paired']
    exact smaller member isEarly ((sameQualifies paired').mpr qualified)
  · intro late known qualified
    obtain ⟨member, isLate, paired'⟩ := exists_related back known
    rw [← sameSize paired, ← sameSize paired']
    exact notLarger member isLate ((sameQualifies paired').mpr qualified)

/-! ## Sorting by size -/

theorem descending_trans (a b c : α) (ab : decide (size b ≤ size a) = true)
    (bc : decide (size c ≤ size b) = true) : decide (size c ≤ size a) = true := by
  simp only [decide_eq_true_eq] at ab bc ⊢
  exact Nat.le_trans bc ab

theorem descending_total (a b : α) :
    (decide (size b ≤ size a) || decide (size a ≤ size b)) = true := by
  simp only [Bool.or_eq_true, decide_eq_true_eq]
  exact Nat.le_total _ _

theorem pairwise_mergeSort_size (list : List α) :
    (list.mergeSort fun a b => size b ≤ size a).Pairwise fun a b => size b ≤ size a := by
  have sorted : (list.mergeSort fun a b => size b ≤ size a).Pairwise
      fun a b => decide (size b ≤ size a) = true :=
    List.pairwise_mergeSort descending_trans descending_total list
  simpa only [decide_eq_true_eq] using sorted

/-- Sorting keeps the members of one size in their order. -/
theorem filter_mergeSort_size (list : List α) (given : Nat) :
    (list.mergeSort fun a b => size b ≤ size a).filter (size · = given) =
      list.filter (size · = given) := by
  have level : (list.filter (size · = given)).Pairwise fun a b => decide (size b ≤ size a) := by
    refine List.pairwise_of_forall_mem_list ?_
    intro a inA b inB
    simp only [List.mem_filter, decide_eq_true_eq] at inA inB ⊢
    omega
  -- The members of the size are sorted already, so they are found in this order afterwards.
  have kept : (list.filter (size · = given)).Sublist
      (list.mergeSort fun a b => size b ≤ size a) :=
    List.sublist_mergeSort descending_trans descending_total level List.filter_sublist
  have inside := kept.filter (size · = given)
  rw [List.filter_filter] at inside
  simp only [Bool.and_self] at inside
  refine (inside.eq_of_length ?_).symm
  exact ((List.mergeSort_perm list _).filter _).length_eq.symm

/-- What is found first is found first among the members that are kept, if it is kept. -/
theorem find?_filter_of_kept {accepts : α → Bool} {found : α}
    (first : list.find? accepts = some found) (keep : α → Bool) (kept : keep found = true) :
    (list.filter keep).find? accepts = some found := by
  obtain ⟨accepted, before, after, rfl, refused⟩ := List.find?_eq_some_iff_append.mp first
  refine List.find?_eq_some_iff_append.mpr
    ⟨accepted, before.filter keep, after.filter keep, ?_, ?_⟩
  · rw [List.filter_append, List.filter_cons_of_pos kept]
  · exact fun other member => refused other (List.mem_filter.mp member).1

/-- What is found first in a list sorted by size is as large as everything that is accepted. -/
theorem size_le_of_find?_mergeSort {accepts : α → Bool} {found other : α}
    (first : (list.mergeSort fun a b => size b ≤ size a).find? accepts = some found)
    (known : other ∈ list) (accepted : accepts other = true) : size other ≤ size found := by
  obtain ⟨-, early, late, sorted, refused⟩ := List.find?_eq_some_iff_append.mp first
  have descending : (list.mergeSort fun a b => size b ≤ size a).Pairwise
      fun a b => size b ≤ size a := pairwise_mergeSort_size list
  have placed : other ∈ list.mergeSort fun a b => size b ≤ size a :=
    List.mem_mergeSort.mpr known
  rw [sorted] at descending placed
  rcases List.mem_append.mp placed with inEarly | inLate
  · simpa [accepted] using refused other inEarly
  · rcases List.mem_cons.mp inLate with rfl | behind
    · exact Nat.le_refl _
    · exact (List.pairwise_cons.mp (List.pairwise_append.mp descending).2.1).1 other behind

theorem FirstLargest.size_le (first : FirstLargest size qualifies list chosen) {other : α}
    (known : other ∈ list) (qualified : qualifies other) : size other ≤ size chosen := by
  obtain ⟨-, before, after, rfl, smaller, notLarger⟩ := first
  rcases List.mem_append.mp known with early | late
  · exact Nat.le_of_lt (smaller other early qualified)
  · rcases List.mem_cons.mp late with rfl | late
    · exact Nat.le_refl _
    · exact notLarger other late qualified

/-- Among the members of its own size the first largest one is the first that is accepted. -/
theorem FirstLargest.find?_filter {accepts : α → Bool}
    (first : FirstLargest size (accepts · = true) list chosen) :
    (list.filter (size · = size chosen)).find? accepts = some chosen := by
  obtain ⟨accepted, before, after, rfl, smaller, -⟩ := first
  refine List.find?_eq_some_iff_append.mpr ⟨accepted, before.filter (size · = size chosen),
    after.filter (size · = size chosen), ?_, ?_⟩
  · rw [List.filter_append, List.filter_cons_of_pos (by simp)]
  · intro other member
    obtain ⟨early, level⟩ := List.mem_filter.mp member
    have level : size other = size chosen := of_decide_eq_true level
    cases qualified : accepts other with
    | false => rfl
    | true => exact absurd level (Nat.ne_of_lt (smaller other early qualified))

/-- The first member that is accepted in a list sorted by size is the first largest one. -/
theorem find?_mergeSort_of_firstLargest {accepts : α → Bool}
    (first : FirstLargest size (accepts · = true) list chosen) :
    (list.mergeSort fun a b => size b ≤ size a).find? accepts = some chosen := by
  cases found : (list.mergeSort fun a b => size b ≤ size a).find? accepts with
  | none =>
      exact absurd first.good
        (List.find?_eq_none.mp found chosen (List.mem_mergeSort.mpr first.mem))
  | some winner =>
      have known : winner ∈ list := List.mem_mergeSort.mp (List.mem_of_find?_eq_some found)
      have level : size winner = size chosen :=
        Nat.le_antisymm (first.size_le known (List.find?_some found))
          (size_le_of_find?_mergeSort found first.mem first.good)
      have sifted := find?_filter_of_kept found (size · = size chosen) (decide_eq_true level)
      rw [filter_mergeSort_size, first.find?_filter] at sifted
      exact sifted.symm

end ApiGateway.Routing
