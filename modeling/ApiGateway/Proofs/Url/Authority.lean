import ApiGateway.Proofs.Url.Domain

/-!
# The authority of a locator that was read

A locator of the web (scheme `http` or `https`) that `Url.parse` gives has an
authority without a delimiter and a path that starts with a slash, if it is not
empty. So its text falls apart into scheme, authority and the rest in one way only.
-/

namespace ApiGateway.Url

/-! ## Hosts -/

theorem undelimited_compressedChars (groups : List UInt16) :
    Undelimited (Net.compressedChars groups) :=
  Net.forall_mem_compressedChars (by decide) (by decide) groups

theorem undelimited_dottedText (address : Nat) : Undelimited (dottedText address) := by
  apply Undelimited.joinWith (by decide)
  intro piece member
  obtain ⟨place, -, rfl⟩ := List.mem_map.mp member
  exact undelimited_toDigits (by decide) (by decide) _

theorem undelimited_bracketedHost {inner host : List Char} (read : bracketedHost inner = .ok host) :
    Undelimited host := by
  simp only [bracketedHost] at read
  split at read
  · cases read
    rw [Undelimited.cons_iff, Undelimited.append_iff, Undelimited.cons_iff]
    exact ⟨by decide, undelimited_compressedChars _, by decide, .nil⟩
  · cases read

/-- The host of a special scheme holds no delimiter, whatever it was read from. -/
theorem undelimited_parseHost {text host : List Char} (read : parseHost text = .ok host) :
    Undelimited host := by
  simp only [parseHost] at read
  split at read
  · exact undelimited_bracketedHost read
  · cases read
  · split at read
    · cases read
    · split at read
      · cases read
      · cases read
      · next domain written =>
          split at read
          · split at read
            · cases read
              exact undelimited_dottedText _
            · cases read
          · cases read
            exact Domain.undelimited_toAscii? written

/-! ## Authorities -/

theorem undelimited_userinfoText (userinfo : List Char) : Undelimited (userinfoText userinfo) := by
  have encoded (text : List Char) : Undelimited (percentEncode escapesUserinfo text) :=
    undelimited_percentEncode (by decide) (by decide) (by decide) text
  have marked {written : List Char} (clean : Undelimited written) :
      Undelimited (if written.isEmpty then [] else written ++ ['@']) := by
    split
    · exact .nil
    · rw [Undelimited.append_iff, Undelimited.cons_iff]
      exact ⟨clean, by decide, .nil⟩
  simp only [userinfoText]
  generalize (Text.splitAtFirst? ':' userinfo).getD (userinfo, []) = parts
  split
  · exact marked (encoded _)
  · refine marked ?_
    rw [Undelimited.append_iff, Undelimited.cons_iff]
    exact ⟨encoded _, by decide, encoded _⟩

/-- An authority has no delimiter if its host has none. -/
theorem undelimited_authority {userinfo host : List Char} (cleanUserinfo : Undelimited userinfo)
    (cleanHost : Undelimited host) (socket : Option Nat) :
    Undelimited (UrlAuthority.mk (String.ofList userinfo) (String.ofList host)
      socket).text.toList := by
  simp only [UrlAuthority.text, String.toList_append, String.toList_ofList,
    Undelimited.append_iff]
  refine ⟨⟨cleanUserinfo, cleanHost⟩, ?_⟩
  cases socket with
  | none => exact .nil
  | some number =>
      rw [String.toList_append, Undelimited.append_iff]
      exact ⟨undelimited_of_all (by decide), undelimited_toString number⟩

/-- A path is empty or starts with a slash. -/
def Rooted (path : List Char) : Prop := path = [] ∨ ∃ rest, path = '/' :: rest

theorem rooted_canonicalPath (special file : Bool) (path : List Char) :
    Rooted (canonicalPath special file path) := by
  simp only [canonicalPath]
  generalize (if file = true then _ else _ : List (List Char)) = segments
  cases segments with
  | nil => exact .inl rfl
  | cons segment rest => exact .inr ⟨_, rfl⟩

/-! ## Reading -/

theorem undelimited_parseAuthority {scheme : String} {followed : Bool} {text : List Char}
    {authority : UrlAuthority} (special : isSpecialScheme scheme = true)
    (read : parseAuthority scheme followed text = .ok authority) :
    Undelimited authority.text.toList := by
  simp only [parseAuthority, special, if_true] at read
  split at read
  · cases read
  · split at read
    · cases read
    · split at read
      · cases read
      · next host parsed =>
          split at read
          · cases read
          · cases socket : parseSocket scheme _ with
            | error error => rw [socket] at read; cases read
            | ok number =>
                rw [socket] at read
                cases read
                exact undelimited_authority (undelimited_userinfoText _)
                  (undelimited_parseHost parsed) number

theorem rooted_pathAfterAuthority (text : List Char) : Rooted (pathAfterAuthority true text) := by
  cases text with
  | nil => exact .inr ⟨[], rfl⟩
  | cons c segments => exact rooted_canonicalPath true false segments

/-- The shape of a locator of the web: an authority that no delimiter cuts short, and a path
that a slash opens. -/
structure WebShaped (url : Url) : Prop where
  authority : ∃ authority, url.authority = some authority ∧ Undelimited authority.text.toList
  path : Rooted url.path.toList

theorem parseAfterSlashes_eq_ok {scheme : String} {text : List Char} {url : Url}
    (read : parseAfterSlashes scheme text = .ok url) :
    url.scheme = scheme ∧ (isSpecialScheme scheme = true → url.WebShaped) := by
  simp only [parseAfterSlashes] at read
  cases parsed : parseAuthority scheme _ _ with
  | error error => rw [parsed] at read; cases read
  | ok authority =>
      rw [parsed] at read
      cases read
      refine ⟨rfl, ?_⟩
      intro special
      refine ⟨⟨authority, rfl, undelimited_parseAuthority special parsed⟩, ?_⟩
      simp only [special, String.toList_ofList]
      exact rooted_pathAfterAuthority _

theorem scheme_parseFile {text : List Char} {url : Url} (read : parseFile text = .ok url) :
    url.scheme = "file" := by
  simp only [parseFile, bind, Except.bind, pure, Except.pure] at read
  repeat' split at read
  all_goals cases read
  all_goals rfl

/-- The schemes of the web are special ones. -/
theorem isSpecialScheme_web {scheme : String} (web : scheme = "http" ∨ scheme = "https") :
    isSpecialScheme scheme = true := by
  rcases web with rfl | rfl
  · decide
  · decide

/-- A locator of the web was read from what follows the slashes behind its scheme. -/
theorem parseAfterSlashes_of_parse {text : String} {url : Url} (read : parse text = .ok url)
    (web : url.scheme = "http" ∨ url.scheme = "https") :
    ∃ rest, parseAfterSlashes url.scheme rest = .ok url := by
  simp only [parse] at read
  split at read
  · cases read
  · split at read
    · rw [scheme_parseFile read] at web
      exact absurd web (by decide)
    · split at read
      · rw [(parseAfterSlashes_eq_ok read).1]
        exact ⟨_, read⟩
      · next plain =>
          split at read
          · rw [(parseAfterSlashes_eq_ok read).1]
            exact ⟨_, read⟩
          · cases read
            exact absurd (isSpecialScheme_web web) plain

/-- A locator that was read with a scheme of the web has the shape of one. -/
theorem webShaped_of_parse {text : String} {url : Url} (read : parse text = .ok url)
    (web : url.scheme = "http" ∨ url.scheme = "https") : url.WebShaped := by
  obtain ⟨rest, opened⟩ := parseAfterSlashes_of_parse read web
  exact (parseAfterSlashes_eq_ok opened).2 (isSpecialScheme_web web)

end ApiGateway.Url
