import ApiGateway.Proofs.Auth.Credential
import ApiGateway.Proofs.Auth.Token

/-!
# Credentials with a signed token

How a client that knows the secret gets through: the `authorization` value with a token
that it signed verifies if the payload may be used (`verifies_of_signedToken`).
-/

namespace ApiGateway.Auth

open Http (HeaderValue)

/-- A visible ASCII character other than the blank. -/
def isGraphic (c : Char) : Bool := 32 < c.toNat && c.toNat < 127

/-- The header value of a text of ASCII characters. -/
def valueOf (text : List Char) : HeaderValue := text.map fun c => UInt8.ofNat c.toNat

theorem text?_valueOf {text : List Char}
    (visible : (text.all fun c => c = ' ' || isGraphic c) = true) :
    (valueOf text).text? = some text := by
  have byteOf {c : Char} (known : c ∈ text) :
      (UInt8.ofNat c.toNat).toNat = c.toNat ∧ 32 ≤ c.toNat ∧ c.toNat < 127 := by
    have bounds : 32 ≤ c.toNat ∧ c.toNat < 127 := by
      have passes := List.all_eq_true.mp visible c known
      simp only [isGraphic, Bool.or_eq_true, Bool.and_eq_true, decide_eq_true_eq] at passes
      rcases passes with rfl | ⟨lower, upper⟩
      · decide
      · exact ⟨Nat.le_of_lt lower, upper⟩
    refine ⟨?_, bounds⟩
    rw [UInt8.toNat_ofNat', Nat.mod_eq_of_lt (by omega)]
  have allVisible : (valueOf text).all HeaderValue.isVisible = true := by
    simp only [valueOf, List.all_map, List.all_eq_true, Function.comp_apply]
    intro c known
    obtain ⟨same, lower, upper⟩ := byteOf known
    have bounds : (32 : UInt8) ≤ UInt8.ofNat c.toNat ∧ UInt8.ofNat c.toNat < 127 := by
      rw [UInt8.le_iff_toNat_le, UInt8.lt_iff_toNat_lt, same]
      exact ⟨lower, upper⟩
    simp [HeaderValue.isVisible, bounds]
  rw [HeaderValue.text?, if_pos allVisible, valueOf, List.map_map]
  congr 1
  refine (List.map_congr_left ?_).trans (List.map_id text)
  intro c known
  rw [Function.comp_apply, (byteOf known).1, Char.ofNat_toNat, id]

/-- The text of a credential with a token. -/
def credentialText (token : List Char) : List Char := "Bearer ".toList ++ token

theorem isBearer_credentialText {token : List Char} (filled : token ≠ [])
    (graphic : token.all isGraphic = true) : IsBearer (credentialText token) token where
  form := ⟨"Bearer".toList, by decide, rfl⟩
  filled := filled
  unspaced spaced := absurd (List.all_eq_true.mp graphic ' ' spaced) (by decide)

theorem text?_credentialText {token : List Char} (graphic : token.all isGraphic = true) :
    (valueOf (credentialText token)).text? = some (credentialText token) := by
  have visible : (token.all fun c => c = ' ' || isGraphic c) = true := by
    refine List.all_eq_true.mpr fun c known => ?_
    rw [List.all_eq_true.mp graphic c known, Bool.or_true]
  refine text?_valueOf (List.all_append.trans ?_)
  exact Bool.and_eq_true_iff.mpr ⟨by decide, visible⟩

/-- A signed token is graphic if its header and its payload are. -/
theorem graphic_signedToken {header payload : List Char} (headed : header.all isGraphic = true)
    (loaded : payload.all isGraphic = true) (digest : Crypto.Digest) (secret : List UInt8) :
    (signedToken digest secret header payload).all isGraphic = true := by
  have signs (signed : List UInt8) : (signature digest secret signed).all isGraphic = true :=
    List.all_eq_true.mpr (forall_mem_signature (by decide) digest secret signed)
  have dot : isGraphic '.' = true := by decide
  simp only [signedToken, List.all_append, List.all_cons, headed, loaded, signs, dot,
    Bool.and_self]

/-- A credential with a token that the verifier's secret signs verifies if its claims decode and
are admissible. -/
theorem verifies_of_signedToken {verifier : TokenVerifier} {secret : List UInt8}
    {digest : Crypto.Digest} {now : Instant} {header payload : List Char} {claims : Claims}
    (keyed : verifier.secret = some secret) (headed : header.all isGraphic = true)
    (loaded : payload.all isGraphic = true)
    (verified : verified? secret now (signedToken digest secret header payload) = some claims) :
    Verifies verifier now
      (valueOf (credentialText (signedToken digest secret header payload))) := by
  have graphic := graphic_signedToken headed loaded digest secret
  have filled : signedToken digest secret header payload ≠ [] := by simp [signedToken]
  refine ⟨_, _, claims, text?_credentialText graphic, isBearer_credentialText filled graphic, ?_⟩
  rw [TokenVerifier.verify, keyed]
  simp only [verified]

end ApiGateway.Auth
