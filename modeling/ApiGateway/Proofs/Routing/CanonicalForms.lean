import ApiGateway.Proofs.Routing.Forwarding
import ApiGateway.Proofs.Routing.Segments
import Mathlib.Data.List.DropRight

/-!
# Canonical forms of paths and prefixes

A clean path starts with a slash and has no two slashes in a row, and cleaning leaves a clean
path as it is (`cleanPathChars_of_isClean`). A canonical prefix starts with a slash and ends
with none unless it is the root, and the same holds of it
(`normalizePrefixChars_of_isCanonical`). Both functions have their forms as values, so that
doing either twice is doing it once. `canonical_forms` puts together what they keep of a text
and what they take away.
-/

namespace ApiGateway.Routing

/-! ## Clean paths -/

/-- A leading slash, and no two slashes in a row. -/
structure IsClean (path : List Char) : Prop where
  opened : ∃ rest, path = '/' :: rest
  apart : ¬ ['/', '/'] <:+: path

theorem isClean_cleanPathChars (path : List Char) : IsClean (cleanPathChars path) :=
  ⟨⟨_, rfl⟩, slashes_apart_cleanPathChars path⟩

/-- Where no slash follows a slash, none is dropped. -/
theorem collapseSlashes_of_apart {c : Char} {text : List Char}
    (apart : ¬ ['/', '/'] <:+: c :: text) : collapseSlashes (c = '/') text = text := by
  induction text generalizing c with
  | nil => rfl
  | cons next rest inductionHypothesis =>
      rw [List.infix_cons_iff, not_or] at apart
      obtain ⟨first, later⟩ := apart
      have kept : ¬ (next = '/' ∧ c = '/') := by
        rintro ⟨rfl, rfl⟩
        exact first ⟨rest, rfl⟩
      simp [collapseSlashes, kept, inductionHypothesis later]

theorem cleanPathChars_of_isClean {path : List Char} (clean : IsClean path) :
    cleanPathChars path = path := by
  obtain ⟨⟨rest, rfl⟩, apart⟩ := clean
  have kept : collapseSlashes true rest = rest := collapseSlashes_of_apart (c := '/') apart
  rw [cleanPathChars, collapseSlashes]
  simp [kept]

/-- Behind a character the last character stays the last, the character counted. -/
theorem getLast?_collapseSlashes (c : Char) (text : List Char) :
    (c :: collapseSlashes (c = '/') text).getLast? = (c :: text).getLast? := by
  induction text generalizing c with
  | nil => rfl
  | cons next rest inductionHypothesis =>
      rw [List.getLast?_cons_cons, ← inductionHypothesis next]
      by_cases dropped : next = '/' ∧ c = '/'
      · obtain ⟨rfl, rfl⟩ := dropped
        rfl
      · simp [collapseSlashes, dropped]

/-- What cleaning makes of a path. -/
structure CleanForm (path cleaned : String) : Prop where
  opened : ∃ rest, cleaned.toList = '/' :: rest
  apart : ¬ ['/', '/'] <:+: cleaned.toList
  segments : segments cleaned.toList = segments path.toList
  closed_iff : cleaned.toList.getLast? = some '/' ↔
    path = "" ∨ path.toList.getLast? = some '/'
  fixed : cleanPath cleaned = cleaned

theorem cleanForm_cleanPath (path : String) : CleanForm path (cleanPath path) where
  opened := by
    rw [cleanPath, String.toList_ofList]
    exact (isClean_cleanPathChars _).opened
  apart := by
    rw [cleanPath, String.toList_ofList]
    exact (isClean_cleanPathChars _).apart
  segments := by
    rw [cleanPath, String.toList_ofList]
    exact segments_cleanPathChars _
  closed_iff := by
    have last : (cleanPathChars path.toList).getLast? = ('/' :: path.toList).getLast? :=
      getLast?_collapseSlashes '/' path.toList
    rw [cleanPath, String.toList_ofList, last, ← String.toList_eq_nil_iff]
    cases path.toList with
    | nil => simp
    | cons c rest => simp [List.getLast?_cons_cons]
  fixed := by
    rw [cleanPath, cleanPath, String.toList_ofList,
      cleanPathChars_of_isClean (isClean_cleanPathChars _)]

/-! ## Canonical prefixes -/

/-- A leading slash, and none at the end but for the root. -/
structure IsCanonical (pathPrefix : List Char) : Prop where
  opened : ∃ rest, pathPrefix = '/' :: rest
  closed : pathPrefix = ['/'] ∨ pathPrefix.getLast? ≠ some '/'

/-- The slash in front stays, and what is behind it loses the slashes at its end. -/
theorem normalizePrefixChars_of_rooted {text below : List Char}
    (opened : rooted text = '/' :: below) :
    normalizePrefixChars text = '/' :: below.rdropWhile (· = '/') := by
  have trimmed : Text.trimEndWith (· = '/') below = below.rdropWhile (· = '/') := rfl
  have split : '/' :: below = ['/'] ++ below := rfl
  rw [normalizePrefixChars, opened, split, ← trimmed]
  by_cases gone : Text.trimEndWith (· = '/') below = []
  · rw [Text.trimEndWith_append_of_eq_nil gone, gone]
    rfl
  · rw [Text.trimEndWith_append_of_ne_nil gone]
    rfl

theorem isCanonical_normalizePrefixChars (text : List Char) :
    IsCanonical (normalizePrefixChars text) := by
  obtain ⟨below, opened⟩ := rooted_eq_cons text
  rw [normalizePrefixChars_of_rooted opened]
  refine ⟨⟨_, rfl⟩, ?_⟩
  by_cases gone : below.rdropWhile (· = '/') = []
  · exact .inl (by rw [gone])
  · right
    have last := List.rdropWhile_last_not _ _ gone
    rw [List.getLast?_cons_of_ne_nil gone, List.getLast?_eq_some_getLast gone, Ne,
      Option.some.injEq]
    simpa using last

theorem normalizePrefixChars_of_isCanonical {pathPrefix : List Char}
    (canonical : IsCanonical pathPrefix) : normalizePrefixChars pathPrefix = pathPrefix := by
  obtain ⟨⟨below, rfl⟩, closed⟩ := canonical
  have kept : below.rdropWhile (· = '/') = below := by
    rw [List.rdropWhile_eq_self_iff]
    intro filled
    rcases closed with root | noSlash
    · exact absurd (List.cons.inj root).2 filled
    · rw [List.getLast?_cons_of_ne_nil filled, List.getLast?_eq_some_getLast filled, Ne,
        Option.some.injEq] at noSlash
      simpa using noSlash
  have itself : rooted ('/' :: below) = '/' :: below := rfl
  rw [normalizePrefixChars_of_rooted itself, kept]

/-- What is taken away are slashes at the end. -/
theorem rooted_eq_append_slashes (text : List Char) :
    ∃ n, rooted text = normalizePrefixChars text ++ List.replicate n '/' := by
  obtain ⟨below, opened⟩ := rooted_eq_cons text
  have slashes : below.rtakeWhile (· = '/') =
      List.replicate (below.rtakeWhile (· = '/')).length '/' :=
    List.eq_replicate_of_mem fun c member => by simpa using List.mem_rtakeWhile_imp member
  refine ⟨(below.rtakeWhile (· = '/')).length, ?_⟩
  rw [opened, normalizePrefixChars_of_rooted opened, ← slashes, List.cons_append,
    List.rdropWhile_append_rtakeWhile]

/-- Slashes behind a text are slashes behind what is rooted, except that the first of them stands
in for the missing one if the text is empty. -/
theorem rooted_append_slashes (text : List Char) (n : Nat) :
    ∃ below m, rooted text = '/' :: below ∧
      rooted (text ++ List.replicate n '/') = '/' :: (below ++ List.replicate m '/') := by
  cases text with
  | nil =>
      cases n with
      | zero => exact ⟨[], 0, rfl, rfl⟩
      | succ n => exact ⟨[], n, rfl, rfl⟩
  | cons c rest =>
      by_cases slash : c = '/'
      · exact ⟨rest, n, by simp [rooted, slash], by simp [rooted, slash]⟩
      · exact ⟨c :: rest, n, by simp [rooted, slash], by simp [rooted, slash]⟩

theorem normalizePrefixChars_append_slashes (text : List Char) (n : Nat) :
    normalizePrefixChars (text ++ List.replicate n '/') = normalizePrefixChars text := by
  obtain ⟨below, m, opened, longer⟩ := rooted_append_slashes text n
  have gone : (List.replicate m '/').rdropWhile (· = '/') = [] := by
    rw [List.rdropWhile_eq_nil_iff]
    intro c member
    simp [List.eq_of_mem_replicate member]
  have same : (below ++ List.replicate m '/').rdropWhile (· = '/') =
      below.rdropWhile (· = '/') := Text.trimEndWith_append_of_eq_nil gone below
  rw [normalizePrefixChars_of_rooted opened, normalizePrefixChars_of_rooted longer, same]

theorem normalizePrefixChars_cons_slash {text : List Char} (unrooted : text.head? ≠ some '/') :
    normalizePrefixChars ('/' :: text) = normalizePrefixChars text := by
  have opened : rooted text = '/' :: text := by
    simp only [rooted]
    split
    · exact absurd rfl unrooted
    · rfl
  have itself : rooted ('/' :: text) = '/' :: text := rfl
  rw [normalizePrefixChars_of_rooted opened, normalizePrefixChars_of_rooted itself]

/-- What becomes of the prefix that a definition gives. -/
structure PrefixForm (text canonical : String) : Prop where
  opened : ∃ rest, canonical.toList = '/' :: rest
  closed : canonical = "/" ∨ canonical.toList.getLast? ≠ some '/'
  fixed : normalizePrefix canonical = canonical
  /-- Nothing but slashes at the end is taken away, and nothing but a slash in front added. -/
  kept : ∃ n, rooted text.toList = canonical.toList ++ List.replicate n '/'
  trailing : ∀ n, normalizePrefix (text ++ String.ofList (List.replicate n '/')) = canonical
  leading : text.toList.head? ≠ some '/' → normalizePrefix ("/" ++ text) = canonical

theorem prefixForm_normalizePrefix (text : String) : PrefixForm text (normalizePrefix text) where
  opened := by
    rw [normalizePrefix, String.toList_ofList]
    exact (isCanonical_normalizePrefixChars _).opened
  closed := by
    rw [normalizePrefix, ← String.toList_inj, String.toList_ofList]
    exact (isCanonical_normalizePrefixChars _).closed
  fixed := by
    rw [normalizePrefix, normalizePrefix, String.toList_ofList,
      normalizePrefixChars_of_isCanonical (isCanonical_normalizePrefixChars _)]
  kept := by
    rw [normalizePrefix, String.toList_ofList]
    exact rooted_eq_append_slashes _
  trailing n := by
    rw [normalizePrefix, String.toList_append, String.toList_ofList,
      normalizePrefixChars_append_slashes, normalizePrefix]
  leading unrooted := by
    have split : ("/" ++ text).toList = '/' :: text.toList := by simp
    rw [normalizePrefix, split, normalizePrefixChars_cons_slash unrooted, normalizePrefix]

/-- Every path has a clean form and every prefix a canonical one, whatever slashes it has. -/
theorem canonical_forms (text : String) :
    CleanForm text (cleanPath text) ∧ PrefixForm text (normalizePrefix text) :=
  ⟨cleanForm_cleanPath text, prefixForm_normalizePrefix text⟩

example : cleanPath "//a///b/" = "/a/b/" ∧ normalizePrefix "//a//b//" = "//a//b" := by decide

end ApiGateway.Routing
