import ApiGateway.Auth.Gate
import ApiGateway.Proofs.Text.LetterCase

/-!
# Credentials that are admitted

A bearer credential is one of the 64 spellings of the word, one space and a token. Exactly
these are accepted, and the token is what stands behind the space
(`bearerToken?_accepts_grammar`).

A route that requires authentication looks at the first `authorization` value of a
request. Under the strategy `validate` it admits the request exactly when that value is
a bearer credential whose token verifies (`ensureAuth_validate_iff`).
-/

namespace ApiGateway.Auth

open Http (Headers HeaderValue)

/-- A text is the word `bearer` in any case, one space and a token, which is not empty and has no
spaces. -/
structure IsBearer (text token : List Char) : Prop where
  form : ∃ scheme, Text.sameIgnoringCase scheme "bearer".toList = true ∧
    text = scheme ++ ' ' :: token
  filled : token ≠ []
  unspaced : ' ' ∉ token

/-- A word that is `bearer` in some case has no spaces. -/
theorem unspaced_of_bearer {scheme : List Char}
    (same : Text.sameIgnoringCase scheme "bearer".toList = true) : ' ' ∉ scheme := by
  intro spaced
  have folded : Text.lowerAscii scheme = Text.lowerAscii "bearer".toList := of_decide_eq_true same
  have kept : ' '.toLower ∈ Text.lowerAscii scheme := List.mem_map_of_mem spaced
  rw [folded] at kept
  exact absurd kept (by decide)

/-- The token of a header value is found exactly in bearer credentials. -/
theorem bearerToken?_eq_some_iff {text token : List Char} :
    bearerToken? text = some token ↔ IsBearer text token := by
  constructor
  · intro found
    simp only [bearerToken?] at found
    split at found
    · next scheme last pieces =>
        split at found
        · next accepted =>
            cases found
            simp only [Bool.and_eq_true, Bool.not_eq_true', List.isEmpty_eq_false_iff] at accepted
            have joined := Text.joinWith_splitOn ' ' text
            rw [pieces] at joined
            have isPiece : token ∈ Text.splitOn ' ' text := by simp [pieces]
            exact ⟨⟨scheme, accepted.1, joined.symm⟩, accepted.2,
              Text.not_mem_of_mem_splitOn isPiece⟩
        · cases found
    · cases found
  · rintro ⟨⟨scheme, same, rfl⟩, filled, unspaced⟩
    have pieces : Text.splitOn ' ' (scheme ++ ' ' :: token) = [scheme, token] := by
      rw [Text.splitOn_append_cons (unspaced_of_bearer same), Text.splitOn_of_not_mem unspaced]
    have accepted : (Text.sameIgnoringCase scheme "bearer".toList && !token.isEmpty) = true := by
      rw [same, Bool.true_and, Bool.not_eq_true', List.isEmpty_eq_false_iff]
      exact filled
    rw [bearerToken?, pieces]
    exact if_pos accepted

/-- Bearer credentials letter by letter. -/
theorem isBearer_iff {text token : List Char} :
    IsBearer text token ↔ ∃ scheme, text = scheme ++ ' ' :: token ∧
      Text.Spells "bearer".toList scheme ∧ token ≠ [] ∧ ' ' ∉ token := by
  have spelled (scheme : List Char) : Text.sameIgnoringCase scheme "bearer".toList = true ↔
      Text.Spells "bearer".toList scheme :=
    Text.sameIgnoringCase_iff_spells (List.all_eq_true.mp rfl)
  constructor
  · rintro ⟨⟨scheme, same, split⟩, filled, unspaced⟩
    exact ⟨scheme, split, (spelled scheme).mp same, filled, unspaced⟩
  · rintro ⟨scheme, split, spells, filled, unspaced⟩
    exact ⟨⟨scheme, (spelled scheme).mpr spells, split⟩, filled, unspaced⟩

/-- A header value has a token exactly if it is a spelling of `bearer`, one space and that token,
which is not empty and has no spaces. Every other value has none. -/
theorem bearerToken?_accepts_grammar (header : List Char) :
    (∀ token, bearerToken? header = some token ↔
      ∃ scheme, header = scheme ++ ' ' :: token ∧ Text.Spells "bearer".toList scheme ∧
        token ≠ [] ∧ ' ' ∉ token) ∧
    (bearerToken? header = none ↔
      ¬ ∃ scheme token, header = scheme ++ ' ' :: token ∧ Text.Spells "bearer".toList scheme ∧
        token ≠ [] ∧ ' ' ∉ token) := by
  have accepts (token : List Char) :=
    (@bearerToken?_eq_some_iff header token).trans isBearer_iff
  refine ⟨accepts, ?_⟩
  rw [Option.eq_none_iff_forall_ne_some]
  constructor
  · rintro refused ⟨scheme, token, bearer⟩
    exact refused token ((accepts token).mpr ⟨scheme, bearer⟩)
  · rintro other token found
    obtain ⟨scheme, bearer⟩ := (accepts token).mp found
    exact other ⟨scheme, token, bearer⟩

example : bearerToken? "bEARer a.b.c".toList = some "a.b.c".toList := by decide

-- A second space is no part of the token, wherever it stands.
example : ["Bearer  t", "Bearer t ", " Bearer t", "Bearer "].map
    (fun header => bearerToken? header.toList) = [none, none, none, none] := by decide

/-- A header value is a bearer credential whose token a verifier accepts at an instant. -/
def Verifies (verifier : TokenVerifier) (now : Instant) (value : HeaderValue) : Prop :=
  ∃ text token claims, value.text? = some text ∧ IsBearer text token ∧
    verifier.verify now token = .ok claims

section Gate

variable {headers : Headers} {strategy : Strategy} {verifier : TokenVerifier} {now : Instant}

/-- Whatever the strategy, a request that is admitted has an `authorization` value. -/
theorem exists_get?_of_ensureAuth
    (admitted : ensureAuth headers true strategy verifier now = .ok ()) :
    ∃ value text, headers.get? "authorization" = some value ∧ value.text? = some text ∧
      text ≠ [] := by
  simp only [ensureAuth, Bool.not_true, Bool.false_eq_true, if_false] at admitted
  split at admitted
  · cases admitted
  · next text found =>
      obtain ⟨visible, filled⟩ := Option.filter_eq_some_iff.mp found
      obtain ⟨value, first, isText⟩ := Option.bind_eq_some_iff.mp visible
      exact ⟨value, text, first, isText, by simpa using filled⟩

/-- Under the strategy `validate` a request is admitted exactly when its first `authorization`
value verifies. -/
theorem ensureAuth_validate_iff :
    ensureAuth headers true .validate verifier now = .ok () ↔
      ∃ value, headers.get? "authorization" = some value ∧ Verifies verifier now value := by
  constructor
  · intro admitted
    obtain ⟨value, text, first, isText, filled⟩ := exists_get?_of_ensureAuth admitted
    have found : (headers.getText? "authorization").filter (!·.isEmpty) = some text := by
      simp [Headers.getText?, first, isText, filled]
    simp only [ensureAuth, found, Bool.not_true, Bool.false_eq_true, if_false] at admitted
    split at admitted
    · cases admitted
    · next token bearer =>
        cases outcome : verifier.verify now token with
        | error error => rw [outcome] at admitted; cases admitted
        | ok claims =>
            exact ⟨value, first, text, token, claims, isText,
              bearerToken?_eq_some_iff.mp bearer, outcome⟩
  · rintro ⟨value, first, text, token, claims, isText, bearer, accepted⟩
    have filled : text ≠ [] := by
      obtain ⟨⟨scheme, -, rfl⟩, -, -⟩ := bearer
      simp
    have found : (headers.getText? "authorization").filter (!·.isEmpty) = some text := by
      simp [Headers.getText?, first, isText, filled]
    simp only [ensureAuth, found, bearerToken?_eq_some_iff.mpr bearer, accepted, Bool.not_true,
      Bool.false_eq_true, if_false]
    rfl

end Gate

end ApiGateway.Auth
