import ApiGateway.Proofs.Url.Undelimited

/-!
# Request targets that were read

The authority of an absolute target ends at the first delimiter behind the scheme
(`parse_absolute`). Its path and its query end at the first mark of a later part
(`scanPathAndQuery_joinParts`). The path of any target starts with a slash, unless the
target is an authority alone or the asterisk (`shaped_of_parse`).
-/

namespace ApiGateway.Http.Uri

open ApiGateway.Url (Undelimited Unmarked endsPath)

/-- The text goes on behind an authority: it is over, or a delimiter comes next. -/
def Delimited (text : List Char) : Prop := ∀ c ∈ text.head?, endsAuthority c = true

theorem Delimited.append {front back : List Char} (first : Delimited front)
    (second : Delimited back) : Delimited (front ++ back) := by
  cases front with
  | nil => exact second
  | cons c front => exact first

/-- What follows a delimiter does not matter. -/
theorem Delimited.append_of_ne_nil {front : List Char} (delimited : Delimited front)
    (filled : front ≠ []) (back : List Char) : Delimited (front ++ back) := by
  cases front with
  | nil => exact absurd rfl filled
  | cons c front => exact delimited

theorem Delimited.of_prefix {front text : List Char} (delimited : Delimited text)
    (cut : front <+: text) : Delimited front := by
  obtain ⟨back, rfl⟩ := cut
  cases front with
  | nil => nofun
  | cons c front => exact delimited

section Authority

variable {authority rest : List Char} (clean : Undelimited authority) (delimited : Delimited rest)
include clean delimited

/-- An authority ends where the delimiters start. -/
theorem takeWhile_authority :
    ((authority ++ rest).takeWhile fun c => !endsAuthority c) = authority :=
  Text.takeWhile_append_of_stops (fun c member => by simp [clean c member])
    (fun c first => by simp [delimited c first])

/-- What follows an authority is left behind it. -/
theorem dropWhile_authority :
    ((authority ++ rest).dropWhile fun c => !endsAuthority c) = rest :=
  Text.dropWhile_append_of_stops (fun c member => by simp [clean c member])
    (fun c first => by simp [delimited c first])

end Authority

/-- The schemes of the web, which have targets of their own. -/
def IsWeb (scheme : String) : Prop := scheme = "http" ∨ scheme = "https"

theorem scanScheme_web {scheme : String} (web : IsWeb scheme) (rest : List Char) :
    scanScheme (scheme.toList ++ ([':', '/', '/'] ++ rest)) = .ok (some (scheme, rest)) := by
  have differs : ¬ Text.lowerAscii ['h', 't', 't', 'p', 's', ':', '/'] =
      Text.lowerAscii ['h', 't', 't', 'p', ':', '/', '/'] := by
    decide
  rcases web with rfl | rfl
  · simp [scanScheme, Text.sameIgnoringCase]
  · simp [scanScheme, Text.sameIgnoringCase, differs]

/-- A text of two characters or more that no slash opens is read as a full target. -/
theorem parseFull_of_parse {text : String} {first second : Char} {rest : List Char} {uri : Uri}
    (chars : text.toList = first :: second :: rest) (noSlash : first ≠ '/')
    (read : parse text = .ok uri) : parseFull text.toList = .ok uri := by
  simp only [parse] at read
  split at read
  · cases read
  · rw [chars] at read ⊢
    split at read
    · next empty => cases empty
    · next asterisk => cases asterisk
    · next origin => cases origin; exact absurd rfl noSlash
    · next single => cases single
    · exact read

section Absolute

variable {scheme : String} {authority rest : List Char} {uri : Uri} (web : IsWeb scheme)
  (clean : Undelimited authority) (delimited : Delimited rest)
include web clean delimited

/-- An absolute target of the web has the scheme it starts with, the authority behind it, and the
path and the query that are scanned from the rest. -/
theorem parseFull_absolute
    (read : parseFull (scheme.toList ++ ([':', '/', '/'] ++ (authority ++ rest))) = .ok uri) :
    ∃ path query, scanPathAndQuery rest = .ok (path, query) ∧
      uri = ⟨some scheme, some (String.ofList authority), rooted path,
        query.map String.ofList⟩ := by
  simp only [parseFull, scanScheme_web web, takeWhile_authority clean delimited,
    dropWhile_authority clean delimited, bind, Except.bind, pure, Except.pure] at read
  split at read
  · cases read
  · split at read
    · cases read
    · split at read
      · cases read
      · next scanned =>
          cases read
          exact ⟨_, _, scanned, rfl⟩

theorem parse_absolute {text : String}
    (chars : text.toList = scheme.toList ++ ([':', '/', '/'] ++ (authority ++ rest)))
    (read : parse text = .ok uri) :
    ∃ path query, scanPathAndQuery rest = .ok (path, query) ∧
      uri = ⟨some scheme, some (String.ofList authority), rooted path,
        query.map String.ofList⟩ := by
  have full : parseFull text.toList = .ok uri := by
    rcases web with rfl | rfl
    · exact parseFull_of_parse chars (by decide) read
    · exact parseFull_of_parse chars (by decide) read
  rw [chars] at full
  exact parseFull_absolute web clean delimited full

end Absolute

/-! ## Paths -/

/-- A path, a query and a fragment as they stand in a target. -/
def joinParts (path : List Char) (query fragment : Option (List Char)) : List Char :=
  path ++ (query.elim [] ('?' :: ·) ++ fragment.elim [] ('#' :: ·))

/-- Parts that hold no mark of a later one are found again; a fragment is passed over. -/
theorem scanPathAndQuery_joinParts {path scanned : List Char}
    {query fragment found : Option (List Char)} (unmarked : Unmarked path)
    (plain : ∀ text ∈ query, '#' ∉ text)
    (read : scanPathAndQuery (joinParts path query fragment) = .ok (scanned, found)) :
    scanned = path ∧ found = query := by
  have inPath : ∀ c ∈ path, (decide (c ≠ '?') && decide (c ≠ '#')) = true := by
    intro c member
    simpa [endsPath] using unmarked c member
  have pathStops : ∀ c ∈ (query.elim [] ('?' :: ·) ++ fragment.elim [] ('#' :: ·)).head?,
      (decide (c ≠ '?') && decide (c ≠ '#')) = false := by
    intro c first
    cases query <;> cases fragment <;> cases first <;> decide
  have queryStops : ∀ c ∈ (fragment.elim [] ('#' :: ·)).head?, decide (c ≠ '#') = false := by
    intro c first
    cases fragment <;> cases first
    decide
  simp only [scanPathAndQuery, joinParts, Text.takeWhile_append_of_stops inPath pathStops,
    Text.dropWhile_append_of_stops inPath pathStops, bind, Except.bind, pure,
    Except.pure] at read
  split at read
  · cases read
  · cases query with
    | none =>
        cases fragment <;> cases read <;> exact ⟨rfl, rfl⟩
    | some text =>
        have inQuery : ∀ c ∈ text, decide (c ≠ '#') = true :=
          fun c member => decide_eq_true fun same => plain text rfl (same ▸ member)
        simp only [Option.elim_some, List.cons_append,
          Text.takeWhile_append_of_stops inQuery queryStops] at read
        split at read
        · cases read
        · cases read
          exact ⟨rfl, rfl⟩

/-- The path that is scanned opens with what the text opens with. -/
theorem scanPathAndQuery_eq_ok {text path : List Char} {query : Option (List Char)}
    (read : scanPathAndQuery text = .ok (path, query)) :
    path = text.takeWhile fun c => c ≠ '?' && c ≠ '#' := by
  simp only [scanPathAndQuery, bind, Except.bind, pure, Except.pure] at read
  repeat' split at read
  all_goals cases read
  all_goals rfl

/-- A path that delimiters allow is rooted when it is written. -/
theorem rooted_scanned {text path : List Char} {query : Option (List Char)}
    (delimited : Delimited text) (read : scanPathAndQuery text = .ok (path, query)) :
    ∃ rest, (rooted path).toList = '/' :: rest := by
  rw [scanPathAndQuery_eq_ok read]
  cases text with
  | nil => exact ⟨[], by simp [rooted]⟩
  | cons c text =>
      have ends : endsAuthority c = true := delimited c rfl
      rcases ApiGateway.Url.endsAuthority_eq_true_iff.mp ends with rfl | rfl | rfl
      · exact ⟨_, by simp [rooted]; rfl⟩
      · exact ⟨[], by simp [rooted]⟩
      · exact ⟨[], by simp [rooted]⟩

theorem delimited_dropWhile (text : List Char) :
    Delimited (text.dropWhile fun c => !endsAuthority c) := by
  induction text with
  | nil => nofun
  | cons c text inductionHypothesis =>
      cases ends : endsAuthority c with
      | false => simpa [ends] using inductionHypothesis
      | true =>
          intro other first
          simp only [ends, List.dropWhile_cons, Bool.not_true, Bool.false_eq_true, if_false,
            List.head?_cons, Option.mem_some_iff] at first
          rw [← first, ends]

/-- The path of a target: empty if it is an authority alone, an asterisk, or rooted. -/
def Shaped (uri : Uri) : Prop :=
  (uri.path = "" ∧ uri.query = none) ∨ (uri.path = "*" ∧ uri.query = none) ∨
    ∃ rest, uri.path.toList = '/' :: rest

theorem shaped_of_parseFull {text : List Char} {uri : Uri} (read : parseFull text = .ok uri) :
    uri.Shaped := by
  simp only [parseFull, bind, Except.bind, pure, Except.pure] at read
  split at read
  · cases read
  · split at read
    · repeat' split at read
      all_goals cases read
      all_goals exact .inl ⟨rfl, rfl⟩
    · split at read
      · cases read
      · split at read
        · cases read
        · split at read
          · cases read
          · next scanned =>
              cases read
              exact .inr (.inr (rooted_scanned (delimited_dropWhile _) scanned))

/-- Every target that was read has one of the three shapes. -/
theorem shaped_of_parse {text : String} {uri : Uri} (read : parse text = .ok uri) :
    uri.Shaped := by
  simp only [parse, bind, Except.bind, pure, Except.pure] at read
  split at read
  · cases read
  · split at read
    · cases read
    · cases read
      exact .inr (.inl ⟨rfl, rfl⟩)
    · next tail chars =>
        have delimited : Delimited ('/' :: tail) := by
          intro c first
          cases first
          decide
        split at read
        · cases read
        · next pathAndQuery scanned =>
            cases read
            exact .inr (.inr (rooted_scanned delimited scanned))
    · repeat' split at read
      all_goals cases read
      all_goals exact .inl ⟨rfl, rfl⟩
    · exact shaped_of_parseFull read

end ApiGateway.Http.Uri
