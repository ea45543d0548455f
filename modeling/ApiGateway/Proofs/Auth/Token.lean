import ApiGateway.Auth.Token
import Mathlib.Data.List.Forall2

/-!
# Tokens that verify

`Passes` says what a token that is accepted must be: a header that names one of the keyed
digests, a payload and the code of both under the secret, with claims that decode, an
expiry that is not over and no audience. `passes_of_verified?` is that nothing else is
accepted, and `verified?_signedToken` how a token that is signed like this gets through.
-/

namespace ApiGateway.Json

/-! ## Fields of records -/

/-- The known fields of an object are its members of these names, one or none each. -/
theorem forall₂_of_fieldsOf? {names : List String} {members : List (String × Json)}
    {fields : Fields} (read : fieldsOf? names (.object members) = some fields) :
    fields.positional = false ∧
      List.Forall₂ (fun name field => valuesOf name members = field.toList) names
        fields.values := by
  simp only [fieldsOf?, Option.bind_eq_bind, Option.bind_eq_some_iff, Option.pure_def,
    Option.some.injEq] at read
  obtain ⟨values, found, rfl⟩ := read
  refine ⟨rfl, ?_⟩
  induction names generalizing values with
  | nil =>
      cases found
      exact .nil
  | cons name rest inductionHypothesis =>
      simp only [List.mapM_cons, Option.bind_eq_bind, Option.bind_eq_some_iff, Option.pure_def,
        Option.some.injEq] at found
      obtain ⟨field, first, others, later, rfl⟩ := found
      refine .cons ?_ (inductionHypothesis others later)
      split at first
      · next none => cases first; exact none
      · next value one => cases first; exact one
      · cases first

/-- A record gives a field a value: as the one member of this name, or as the item at the field's
position. -/
def Gives (name : String) (position : Nat) (record value : Json) : Prop :=
  (∃ members, record = .object members ∧ valuesOf name members = [value]) ∨
    ∃ items, record = .array items ∧ items[position]? = some value

theorem gives_of_fieldsOf? {names : List String} {record value : Json} {fields : Fields}
    (read : fieldsOf? names record = some fields) {name : String} {position : Nat}
    (named : names[position]? = some name)
    (found : fields.values[position]? = some (some value)) : record.Gives name position value := by
  cases record with
  | object members =>
      left
      obtain ⟨inNames, isName⟩ := List.getElem?_eq_some_iff.mp named
      obtain ⟨inValues, isValue⟩ := List.getElem?_eq_some_iff.mp found
      have paired := (forall₂_of_fieldsOf? read).2.get inNames inValues
      simp only [List.get_eq_getElem, isName, isValue] at paired
      exact ⟨members, rfl, paired⟩
  | array items =>
      right
      simp only [fieldsOf?] at read
      split at read
      · cases read
        refine ⟨items, rfl, ?_⟩
        rcases Nat.lt_or_ge position items.length with inside | beyond
        · rw [List.getElem?_append_left (by simpa using inside), List.getElem?_map] at found
          simpa using found
        · rw [List.getElem?_append_right (by simpa using beyond), List.getElem?_replicate] at found
          split at found <;> cases found
      · cases read
  | _ => cases read

theorem decodeChoice_eq_some {α : Type} {read : String → Option α} {value : Json} {choice : α}
    (decoded : decodeChoice read value = some choice) :
    ∃ name, read name = some choice ∧
      (value = .string name ∨ value = .object [(name, .null)]) := by
  simp only [decodeChoice] at decoded
  split at decoded
  · exact ⟨_, decoded, .inl rfl⟩
  · exact ⟨_, decoded, .inr rfl⟩
  · cases decoded

end ApiGateway.Json

namespace ApiGateway.Auth

/-! ## Headers -/

/-- The name of a digest in token headers. -/
def algorithmName : Crypto.Digest → String
  | .sha256 => "HS256"
  | .sha384 => "HS384"
  | .sha512 => "HS512"

theorem digestOfName?_eq_some {name : String} {digest : Crypto.Digest}
    (found : digestOfName? name = some digest) : name = algorithmName digest := by
  simp only [digestOfName?] at found
  split at found
  · next same => cases found; exact same
  · split at found
    · next same => cases found; exact same
    · split at found
      · next same => cases found; exact same
      · cases found

/-- A token header names an algorithm: as a text, or as an object with this name alone. -/
def NamesAlgorithm (header : Json) (name : String) : Prop :=
  ∃ value, header.Gives "alg" 1 value ∧
    (value = .string name ∨ value = .object [(name, .null)])

/-- The digest of a token header is the one that it names. -/
theorem namesAlgorithm_of_digestOfHeader? {header : Json} {digest : Crypto.Digest}
    (found : digestOfHeader? header = some digest) :
    NamesAlgorithm header (algorithmName digest) := by
  simp only [digestOfHeader?, Option.bind_eq_bind, Option.bind_eq_some_iff] at found
  obtain ⟨fields, read, found⟩ := found
  split at found
  · cases found
  · split at found
    · next values =>
        split at found
        · obtain ⟨algorithm, given, decoded⟩ := Option.bind_eq_some_iff.mp found
          obtain ⟨name, named, written⟩ := Json.decodeChoice_eq_some decoded
          rw [digestOfName?_eq_some named] at written
          refine ⟨algorithm, Json.gives_of_fieldsOf? read rfl ?_, written⟩
          rw [values, given]
          rfl
        · cases found
    · cases found

/-! ## Payloads -/

/-- A record whose fields are named is an object. -/
theorem eq_object_of_fieldsOf? {names : List String} {record : Json} {fields : Json.Fields}
    (read : Json.fieldsOf? names record = some fields) (named : fields.positional = false) :
    ∃ members, record = .object members := by
  cases record with
  | object members => exact ⟨members, rfl⟩
  | array items =>
      simp only [Json.fieldsOf?] at read
      split at read
      · cases read
        cases named
      · cases read
  | _ => cases read

/-- Claims decode from objects only, and an expiry is absent, `null` or an integer. -/
theorem Claims.decode?_eq_some {payload : Json} {claims : Claims}
    (decoded : Claims.decode? payload = some claims) :
    ∃ members, payload = .object members ∧ ∀ value ∈ Json.valuesOf "exp" members,
      value = .null ∨ ∃ time, value = .integer time := by
  simp only [Claims.decode?, Option.bind_eq_bind, Option.bind_eq_some_iff] at decoded
  obtain ⟨fields, read, decoded⟩ := decoded
  split at decoded
  · next userId role expiry named values =>
      obtain ⟨members, rfl⟩ := eq_object_of_fieldsOf? read named
      refine ⟨members, rfl, ?_⟩
      have pairs := (Json.forall₂_of_fieldsOf? read).2
      rw [values] at pairs
      simp only [List.forall₂_cons] at pairs
      rw [pairs.2.2.1]
      obtain ⟨-, -, -, -, time, found, -⟩ := by
        simpa only [Option.bind_eq_some_iff] using decoded
      intro value known
      rw [Option.mem_toList.mp known] at found
      cases value with
      | null => exact .inl rfl
      | integer time => exact .inr ⟨time, rfl⟩
      | _ => cases found
  · cases decoded

/-- A payload that is admissible at a time has no expiry that is over, unless it lies before
1970, and it names no audience. -/
theorem members_of_isAdmissible {members : List (String × Json)} {now : Int}
    (admissible : isAdmissible (.object members) now = true) :
    (∀ time : Int, .integer time ∈ Json.valuesOf "exp" members → 0 ≤ time →
      now ≤ time + leeway) ∧
      ∀ value ∈ Json.valuesOf "aud" members, namesAudience value = false := by
  simp only [isAdmissible] at admissible
  split at admissible
  · next expiry notBefore subject issuer audience read =>
      have pairs := (Json.forall₂_of_fieldsOf? read).2
      simp only [List.forall₂_cons] at pairs
      simp only [Bool.and_eq_true] at admissible
      obtain ⟨⟨⟨⟨current, -⟩, -⟩, -⟩, unaddressed⟩ := admissible
      constructor
      · intro time known later
        rw [pairs.1] at known
        rw [Option.mem_toList.mp known] at current
        simp only [Bool.or_eq_true, decide_eq_true_eq] at current
        rcases current with early | recent
        · exact absurd later (Int.not_le.mpr early)
        · exact Int.le_add_of_sub_right_le recent
      · intro value known
        rw [pairs.2.2.2.2.1] at known
        rw [Option.mem_toList.mp known] at unaddressed
        simp only [Option.all_some, Bool.and_eq_true, Bool.not_eq_true'] at unaddressed
        exact unaddressed.2
  · cases admissible

/-! ## Whole tokens -/

/-- The token of a header and a payload that a secret signs with a digest. -/
def signedToken (digest : Crypto.Digest) (secret : List UInt8) (header payload : List Char) :
    List Char :=
  let signed := header ++ '.' :: payload
  signed ++ '.' :: signature digest secret (String.ofList signed).toUTF8.toList

/-- A payload may be used at an instant with its claims. -/
structure UsableAt (now : Instant) (members : List (String × Json)) (claims : Claims) : Prop where
  decoded : Claims.decode? (.object members) = some claims
  /-- An expiry is `null` or an integer, and if it is not before 1970 it is at most the leeway
  ago. -/
  current : ∀ value ∈ Json.valuesOf "exp" members, value = .null ∨
    ∃ time : Int, value = .integer time ∧ (0 ≤ time → Int.fdiv now 1000000000 ≤ time + leeway)
  /-- No member names an audience: a text or a list of texts. -/
  unaddressed : ∀ value ∈ Json.valuesOf "aud" members, namesAudience value = false

/-- A token passes under a secret at an instant: it is signed under the secret with the digest
that its header names, and its payload may be used. -/
def Passes (secret : List UInt8) (now : Instant) (token : List Char) (claims : Claims) : Prop :=
  ∃ digest header payload algorithms members,
    token = signedToken digest secret header payload ∧
      documentOf? header = some algorithms ∧
      NamesAlgorithm algorithms (algorithmName digest) ∧
      documentOf? payload = some (.object members) ∧ UsableAt now members claims

/-- The parts of a token are a header, a payload and a signature with dots between them. -/
theorem TokenParts.ofToken?_eq_some {token : List Char} {parts : TokenParts}
    (cut : TokenParts.ofToken? token = some parts) :
    parts.signed = parts.header ++ '.' :: parts.payload ∧
      token = parts.signed ++ '.' :: parts.signature := by
  simp only [ofToken?, Option.bind_eq_bind, Option.bind_eq_some_iff, Option.pure_def,
    Option.some.injEq, Prod.exists] at cut
  obtain ⟨signed, signature, last, header, payload, first, rfl⟩ := cut
  exact ⟨Text.splitAtLast?_eq_some first, Text.splitAtLast?_eq_some last⟩

theorem usableAt_of_isAdmissible {now : Instant} {payload : Json} {claims : Claims}
    (decoded : Claims.decode? payload = some claims)
    (admissible : isAdmissible payload (Int.fdiv now 1000000000) = true) :
    ∃ members, payload = .object members ∧ UsableAt now members claims := by
  obtain ⟨members, rfl, expiry⟩ := Claims.decode?_eq_some decoded
  obtain ⟨current, unaddressed⟩ := members_of_isAdmissible admissible
  refine ⟨members, rfl, decoded, ?_, unaddressed⟩
  intro value known
  rcases expiry value known with null | ⟨time, rfl⟩
  · exact .inl null
  · exact .inr ⟨time, rfl, current time known⟩

/-- Only tokens that pass are verified. -/
theorem passes_of_verified? {secret : List UInt8} {now : Instant} {token : List Char}
    {claims : Claims} (verified : verified? secret now token = some claims) :
    Passes secret now token claims := by
  simp only [verified?, Option.bind_eq_bind, Option.bind_eq_some_iff] at verified
  obtain ⟨parts, cut, algorithms, named, digest, found, verified⟩ := verified
  split at verified
  · cases verified
  · next signs =>
      simp only [Option.bind_eq_some_iff] at verified
      obtain ⟨payload, read, claims', decoded, verified⟩ := verified
      split at verified
      · next admissible =>
          cases verified
          obtain ⟨members, rfl, usable⟩ := usableAt_of_isAdmissible decoded admissible
          obtain ⟨joined, whole⟩ := TokenParts.ofToken?_eq_some cut
          refine ⟨digest, parts.header, parts.payload, algorithms, members, ?_, named,
            namesAlgorithm_of_digestOfHeader? found, read, usable⟩
          rw [whole, ← Decidable.not_not.mp signs, joined]
          rfl
      · cases verified

/-- A verifier accepts only tokens that pass under its secret. -/
theorem passes_of_verify {verifier : TokenVerifier} {now : Instant} {token : List Char}
    {claims : Claims} (verified : verifier.verify now token = .ok claims) :
    ∃ secret, verifier.secret = some secret ∧ Passes secret now token claims := by
  simp only [TokenVerifier.verify] at verified
  split at verified
  · cases verified
  · next secret keyed =>
      split at verified
      · next found =>
          cases verified
          exact ⟨secret, keyed, passes_of_verified? found⟩
      · cases verified

/-! ## Tokens that a secret signs -/

/-- What holds of all digits of an alphabet holds of every character of a text that is not
padded. -/
theorem forall_mem_encode {alphabet : Crypto.Alphabet} (unpadded : alphabet.padded = false)
    {property : Char → Prop} (digits : ∀ value, property (alphabet.encodeDigit value))
    (bytes : List UInt8) : ∀ c ∈ alphabet.encode bytes, property c := by
  fun_induction Crypto.Alphabet.encode alphabet bytes with
  | case1 => nofun
  | case2 => simp [unpadded, digits]
  | case3 => simp [unpadded, digits]
  | case4 a b c rest group inductionHypothesis =>
      simp only [List.forall_mem_cons]
      exact ⟨digits _, digits _, digits _, digits _, inductionHypothesis⟩

/-- What holds of the 64 digits of tokens holds of every character of a signature. -/
theorem forall_mem_signature {property : Char → Prop}
    (digits : ∀ value : Fin 64, property (Crypto.Alphabet.token.encodeDigit value))
    (digest : Crypto.Digest) (secret signed : List UInt8) :
    ∀ c ∈ signature digest secret signed, property c := by
  refine forall_mem_encode rfl ?_ _
  intro value
  rcases Nat.lt_or_ge value 64 with small | large
  · exact digits ⟨value, small⟩
  · have last : Crypto.Alphabet.token.encodeDigit value = Crypto.Alphabet.token.encodeDigit 63 := by
      simp only [Crypto.Alphabet.encodeDigit]
      repeat rw [if_neg (by omega)]
    rw [last]
    exact digits 63

theorem undotted_signature (digest : Crypto.Digest) (secret signed : List UInt8) :
    '.' ∉ signature digest secret signed := by
  have others : ∀ c ∈ signature digest secret signed, c ≠ '.' :=
    forall_mem_signature (by decide) digest secret signed
  exact fun dotted => others '.' dotted rfl

/-- A token that is signed with the digest of its header is verified if its claims decode and are
admissible. -/
theorem verified?_signedToken {digest : Crypto.Digest} {secret : List UInt8} {now : Instant}
    {header payload : List Char} {claims : Claims} (undotted : '.' ∉ payload)
    (named : (documentOf? header).bind digestOfHeader? = some digest)
    (decoded : (documentOf? payload).bind Claims.decode? = some claims)
    (admissible : (documentOf? payload).any (isAdmissible · (Int.fdiv now 1000000000)) = true) :
    verified? secret now (signedToken digest secret header payload) = some claims := by
  obtain ⟨algorithms, isHeader, found⟩ := Option.bind_eq_some_iff.mp named
  obtain ⟨document, isPayload, claimed⟩ := Option.bind_eq_some_iff.mp decoded
  rw [isPayload, Option.any_some] at admissible
  have cut : TokenParts.ofToken? (signedToken digest secret header payload) =
      some ⟨header ++ '.' :: payload, header, payload, signature digest secret
        (String.ofList (header ++ '.' :: payload)).toUTF8.toList⟩ := by
    simp only [TokenParts.ofToken?, signedToken]
    rw [Text.splitAtLast?_append_cons (undotted_signature digest secret _)]
    simp only [Option.bind_eq_bind, Option.bind_some, Option.pure_def,
      Text.splitAtLast?_append_cons undotted]
  simp only [verified?, cut, isHeader, found, isPayload, claimed, admissible,
    Option.bind_eq_bind, Option.bind_some, Option.pure_def, ne_eq, not_true_eq_false, if_false,
    if_true]

end ApiGateway.Auth
