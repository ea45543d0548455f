import ApiGateway.Routing.Path

/-!
# Segments of paths

Cleaning a path changes how many slashes there are, and nothing else: the segments stay
the same (`segments_cleanPathChars`), and no two slashes are left in a row
(`slashes_apart_cleanPathChars`).
-/

namespace ApiGateway.Routing

/-- A slash parts the segments before it from those behind it. -/
theorem segments_append_slash (front back : List Char) :
    segments (front ++ '/' :: back) = segments front ++ segments back := by
  rw [segments, Text.splitOn_append_separator, List.filter_append, segments, segments]

theorem segments_cons_slash (path : List Char) : segments ('/' :: path) = segments path :=
  segments_append_slash [] path

/-- A front that the path goes on with has the same last segment before and after. Slashes are
dropped from the beginning of a text only behind a slash, so there is no front then. -/
theorem segments_append_collapseSlashes (text : List Char) {afterSlash : Bool} {front : List Char}
    (parted : afterSlash = true → front = []) :
    segments (front ++ collapseSlashes afterSlash text) = segments (front ++ text) := by
  induction text generalizing afterSlash front with
  | nil => rfl
  | cons c rest inductionHypothesis =>
      by_cases slash : c = '/'
      · subst slash
        have later := @inductionHypothesis true [] fun _ => rfl
        cases afterSlash with
        | true =>
            rw [parted rfl]
            simpa [collapseSlashes, segments_cons_slash] using later
        | false =>
            have kept : collapseSlashes false ('/' :: rest) = '/' :: collapseSlashes true rest := by
              simp [collapseSlashes]
            rw [kept, segments_append_slash, segments_append_slash]
            simpa using later
      · have kept : collapseSlashes afterSlash (c :: rest) = c :: collapseSlashes false rest := by
          simp [collapseSlashes, slash]
        rw [kept, List.append_cons, List.append_cons front c rest]
        exact inductionHypothesis nofun

/-- Cleaning a path keeps its segments. -/
theorem segments_cleanPathChars (path : List Char) :
    segments (cleanPathChars path) = segments path := by
  rw [cleanPathChars, segments_cons_slash]
  exact @segments_append_collapseSlashes path true [] fun _ => rfl

/-- Behind a character no two slashes are left in a row, the character counted. -/
theorem slashes_apart_collapseSlashes (c : Char) (text : List Char) :
    ¬ ['/', '/'] <:+: c :: collapseSlashes (c = '/') text := by
  induction text generalizing c with
  | nil => exact fun within => absurd within.length_le (by simp [collapseSlashes])
  | cons next rest inductionHypothesis =>
      by_cases dropped : next = '/' ∧ c = '/'
      · obtain ⟨rfl, rfl⟩ := dropped
        exact inductionHypothesis '/'
      · have kept : collapseSlashes (c = '/') (next :: rest) =
            next :: collapseSlashes (next = '/') rest := by
          simp [collapseSlashes, dropped]
        rw [kept, List.infix_cons_iff]
        rintro (⟨_, opens⟩ | later)
        · simp only [List.cons_append, List.cons.injEq] at opens
          exact dropped ⟨opens.2.1.symm, opens.1.symm⟩
        · exact inductionHypothesis next later

theorem slashes_apart_cleanPathChars (path : List Char) :
    ¬ ['/', '/'] <:+: cleanPathChars path :=
  slashes_apart_collapseSlashes '/' path

end ApiGateway.Routing
