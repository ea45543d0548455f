import ApiGateway.Proofs.Url.Authority

/-!
# The parts of a locator that was read

A locator of the web has a host and a path that a slash opens. The marks that set its
parts apart stand nowhere else: no path holds the mark of a query or of a fragment, and
no query that of a fragment (`Separable`). What is written behind one part of the text
is therefore read as more of that part.
-/

namespace ApiGateway.Url

/-! ## Hosts -/

theorem dottedText_ne_nil (address : Nat) : dottedText address ≠ [] := by
  simp [dottedText, Text.joinWith]

/-- No host of a special scheme is empty. -/
theorem parseHost_ne_nil {text host : List Char} (read : parseHost text = .ok host) :
    host ≠ [] := by
  simp only [parseHost] at read
  split at read
  · simp only [bracketedHost] at read
    split at read
    · cases read
      exact List.cons_ne_nil _ _
    · cases read
  · cases read
  · split at read
    · cases read
    · split at read
      · cases read
      · cases read
      · next domain filled _ =>
          split at read
          · split at read
            · cases read
              exact dottedText_ne_nil _
            · cases read
          · cases read
            exact filled

/-- The authority of a special scheme has a host. -/
theorem parseAuthority_ne_empty {scheme : String} {followed : Bool} {text : List Char}
    {authority : UrlAuthority} (special : isSpecialScheme scheme = true)
    (read : parseAuthority scheme followed text = .ok authority) : authority.text ≠ "" := by
  simp only [parseAuthority, special, if_true] at read
  split at read
  · cases read
  · split at read
    · cases read
    · split at read
      · cases read
      · next host parsed =>
          split at read
          · cases read
          · cases socket : parseSocket scheme _ with
            | error error => rw [socket] at read; cases read
            | ok number =>
                rw [socket] at read
                cases read
                intro empty
                simp only [UrlAuthority.text, String.append_eq_empty_iff] at empty
                exact parseHost_ne_nil parsed (String.ofList_eq_empty_iff.mp empty.1.2)

/-! ## Paths -/

/-- Resolving keeps what holds of the empty segment and of every encoded one. -/
theorem forall_mem_resolve {holds : List Char → Prop} (empty : holds [])
    (encoded : ∀ segment, holds (percentEncode escapesPath segment))
    {resolved segments : List (List Char)} (kept : ∀ piece ∈ resolved, holds piece) :
    ∀ piece ∈ resolve false resolved segments, holds piece := by
  have opened {pieces : List (List Char)} (kept : ∀ piece ∈ pieces, holds piece) (last : Bool) :
      ∀ piece ∈ (if last = true then [] :: pieces else pieces), holds piece := by
    split
    · exact List.forall_mem_cons.mpr ⟨empty, kept⟩
    · exact kept
  induction segments generalizing resolved with
  | nil => exact kept
  | cons segment rest inductionHypothesis =>
      simp only [resolve, Bool.false_and, Bool.false_eq_true, if_false]
      split
      · refine inductionHypothesis (opened ?_ _)
        split
        · exact nofun
        · exact fun piece member => kept piece (List.mem_of_mem_drop member)
      · split
        · exact inductionHypothesis (opened kept _)
        · exact inductionHypothesis (List.forall_mem_cons.mpr ⟨encoded segment, kept⟩)

/-- Something is left of a path, at least the empty segment that a dot leaves behind. -/
theorem resolve_ne_nil {file : Bool} {resolved segments : List (List Char)}
    (filled : resolved ≠ [] ∨ segments ≠ []) : resolve file resolved segments ≠ [] := by
  have opened (pieces rest : List (List Char)) :
      (if rest.isEmpty = true then [] :: pieces else pieces) ≠ [] ∨ rest ≠ [] := by
    cases rest with
    | nil => exact .inl (List.cons_ne_nil _ _)
    | cons next rest => exact .inr (List.cons_ne_nil _ _)
  induction segments generalizing resolved with
  | nil => simpa [resolve] using filled
  | cons segment rest inductionHypothesis =>
      simp only [resolve]
      split
      · exact inductionHypothesis (opened _ rest)
      · split
        · exact inductionHypothesis (opened _ rest)
        · exact inductionHypothesis (.inl (List.cons_ne_nil _ _))

/-- A canonical path without a drive starts with a slash and has no mark. -/
theorem canonicalPath_eq_cons (special : Bool) (path : List Char) :
    (∃ rest, canonicalPath special false path = '/' :: rest) ∧
      Unmarked (canonicalPath special false path) := by
  have encoded (segment : List Char) : Unmarked (percentEncode escapesPath segment) :=
    unmarked_iff.mpr ⟨not_mem_percentEncode (by decide) (by decide) segment,
      not_mem_percentEncode (by decide) (by decide) segment⟩
  have pieces : ∀ piece ∈ resolve false [] (segmentsOf special path), Unmarked piece :=
    forall_mem_resolve (List.forall_mem_nil _) encoded (List.forall_mem_nil _)
  have filled : (resolve false [] (segmentsOf special path)).reverse ≠ [] :=
    List.reverse_ne_nil_iff.mpr (resolve_ne_nil (.inr (Text.splitOn_ne_nil _ _)))
  simp only [canonicalPath, Bool.false_eq_true, if_false]
  constructor
  · obtain ⟨first, others, known⟩ := List.exists_cons_of_ne_nil filled
    rw [known]
    exact ⟨_, rfl⟩
  · intro c member
    obtain ⟨piece, known, inside⟩ := List.mem_flatMap.mp member
    rcases List.mem_cons.mp inside with rfl | inside
    · decide
    · exact pieces piece (List.mem_reverse.mp known) c inside

theorem pathAfterAuthority_eq_cons (text : List Char) :
    (∃ rest, pathAfterAuthority true text = '/' :: rest) ∧
      Unmarked (pathAfterAuthority true text) := by
  cases text with
  | nil => exact ⟨⟨[], rfl⟩, by simp [Unmarked, pathAfterAuthority, endsPath]⟩
  | cons c segments => exact canonicalPath_eq_cons true segments

/-! ## Reading -/

/-- A query that was read has no mark of a fragment. -/
theorem hash_not_mem_queryAndFragment {special : Bool} {text : List Char} {query : String}
    (known : (queryAndFragment special text).1 = some query) : '#' ∉ query.toList := by
  simp only [queryAndFragment] at known
  split at known
  · cases known
    rw [String.toList_ofList]
    exact not_mem_percentEncode (by decide) (by simp [escapesQuery]) _
  · cases known

/-- The text of a locator of the web can be taken apart again into its parts. -/
structure Separable (url : Url) : Prop extends url.WebShaped where
  host : ∃ authority, url.authority = some authority ∧ authority.text ≠ ""
  opened : ∃ rest, url.path.toList = '/' :: rest
  unmarked : Unmarked url.path.toList
  plain : ∀ query ∈ url.query, '#' ∉ query.toList

theorem Separable.filled {url : Url} (separable : url.Separable) : url.path ≠ "" := by
  obtain ⟨rest, slash⟩ := separable.opened
  intro empty
  rw [empty] at slash
  cases slash

theorem separable_of_parseAfterSlashes {scheme : String} {text : List Char} {url : Url}
    (special : isSpecialScheme scheme = true) (read : parseAfterSlashes scheme text = .ok url) :
    url.Separable := by
  have shaped := (parseAfterSlashes_eq_ok read).2 special
  simp only [parseAfterSlashes] at read
  cases parsed : parseAuthority scheme _ _ with
  | error error => rw [parsed] at read; cases read
  | ok authority =>
      rw [parsed] at read
      cases read
      simp only [special] at shaped ⊢
      refine ⟨shaped, ⟨authority, rfl, parseAuthority_ne_empty special parsed⟩, ?_, ?_, ?_⟩
      · rw [String.toList_ofList]
        exact (pathAfterAuthority_eq_cons _).1
      · rw [String.toList_ofList]
        exact (pathAfterAuthority_eq_cons _).2
      · exact fun query known => hash_not_mem_queryAndFragment known

/-- A locator that was read with a scheme of the web has separable parts. -/
theorem separable_of_parse {text : String} {url : Url} (read : parse text = .ok url)
    (web : url.scheme = "http" ∨ url.scheme = "https") : url.Separable := by
  obtain ⟨rest, opened⟩ := parseAfterSlashes_of_parse read web
  exact separable_of_parseAfterSlashes (isSpecialScheme_web web) opened

end ApiGateway.Url
