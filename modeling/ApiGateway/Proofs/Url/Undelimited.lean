import ApiGateway.Http.Uri
import ApiGateway.Proofs.Net.AddressText
import ApiGateway.Url.Parser

/-!
# Texts without a delimiter

A slash, a question mark or a hash ends an authority. `Undelimited` says that a text
holds none of them. Every part that a locator's authority is written from has this
property: digits in any base up to sixteen, encoded characters, addresses and user
information. A path may hold slashes, but neither of the other two (`Unmarked`).
-/

namespace ApiGateway.Url

/-- No character of the text ends an authority. -/
def Undelimited (text : List Char) : Prop := ∀ c ∈ text, Http.Uri.endsAuthority c = false

theorem endsAuthority_eq_true_iff {c : Char} :
    Http.Uri.endsAuthority c = true ↔ c = '/' ∨ c = '?' ∨ c = '#' := by
  simp [Http.Uri.endsAuthority, or_assoc]

/-- A class of characters that leaves the three delimiters out holds no delimiter. -/
theorem endsAuthority_of_class (holds : Char → Bool) (slash : holds '/' = false)
    (question : holds '?' = false) (hash : holds '#' = false) {c : Char}
    (member : holds c = true) : Http.Uri.endsAuthority c = false := by
  rw [← Bool.not_eq_true, endsAuthority_eq_true_iff]
  rintro (rfl | rfl | rfl)
  · rw [slash] at member; cases member
  · rw [question] at member; cases member
  · rw [hash] at member; cases member

/-- The characters of a short text can be looked at one by one. -/
theorem undelimited_of_all {text : List Char}
    (clean : (text.all fun c => !Http.Uri.endsAuthority c) = true) : Undelimited text := by
  intro c member
  simpa using List.all_eq_true.mp clean c member

namespace Undelimited

theorem nil : Undelimited [] := by
  intro c member
  cases member

@[simp] theorem cons_iff {c : Char} {text : List Char} :
    Undelimited (c :: text) ↔ Http.Uri.endsAuthority c = false ∧ Undelimited text := by
  simp [Undelimited]

@[simp] theorem append_iff {front back : List Char} :
    Undelimited (front ++ back) ↔ Undelimited front ∧ Undelimited back := by
  simp only [Undelimited, List.mem_append, or_imp, forall_and]

theorem flatMap {α : Type} {items : List α} {written : α → List Char}
    (each : ∀ item ∈ items, Undelimited (written item)) :
    Undelimited (items.flatMap written) := by
  intro c member
  obtain ⟨item, known, inside⟩ := List.mem_flatMap.mp member
  exact each item known c inside

theorem joinWith {separator : Char} (plain : Http.Uri.endsAuthority separator = false)
    {pieces : List (List Char)} (each : ∀ piece ∈ pieces, Undelimited piece) :
    Undelimited (Text.joinWith separator pieces) := by
  induction pieces with
  | nil => exact nil
  | cons piece rest inductionHypothesis =>
      have first := each piece List.mem_cons_self
      have others := inductionHypothesis fun other member =>
        each other (List.mem_cons_of_mem piece member)
      cases rest with
      | nil => exact first
      | cons next rest =>
          have spread : Text.joinWith separator (piece :: next :: rest) =
              piece ++ separator :: Text.joinWith separator (next :: rest) := rfl
          rw [spread, append_iff, cons_iff]
          exact ⟨first, plain, others⟩

end Undelimited

/-! ## Digits -/

theorem undelimited_toDigits {base : Nat} (large : 1 < base) (small : base ≤ 16) (n : Nat) :
    Undelimited (Nat.toDigits base n) :=
  Net.forall_mem_toDigits (by decide) large small n

theorem undelimited_toString (n : Nat) : Undelimited (toString n).toList := by
  rw [Nat.toString_eq_ofList_toDigits, String.toList_ofList]
  exact undelimited_toDigits (by decide) (by decide) n

/-! ## Encoded characters -/

theorem undelimited_percentBytes (bytes : List UInt8) : Undelimited (percentBytes bytes) := by
  have digit : ∀ value : Fin 16, Http.Uri.endsAuthority (Text.hexDigit true value) = false := by
    decide
  apply Undelimited.flatMap
  intro byte _
  have high : byte.toNat / 16 < 16 := by have := byte.toNat_lt; omega
  have low : byte.toNat % 16 < 16 := Nat.mod_lt _ (by decide)
  rw [Undelimited.cons_iff, Undelimited.cons_iff, Undelimited.cons_iff]
  exact ⟨by decide, digit ⟨_, high⟩, digit ⟨_, low⟩, .nil⟩

/-- An encoding that escapes the delimiters leaves none. -/
theorem undelimited_percentEncode {escape : Char → Bool} (slash : escape '/' = true)
    (question : escape '?' = true) (hash : escape '#' = true) (text : List Char) :
    Undelimited (percentEncode escape text) := by
  apply Undelimited.flatMap
  intro c _
  split
  · exact undelimited_percentBytes _
  · next kept =>
      have plain : Http.Uri.endsAuthority c = false := by
        rw [← Bool.not_eq_true, endsAuthority_eq_true_iff]
        rintro (rfl | rfl | rfl)
        · exact kept slash
        · exact kept question
        · exact kept hash
      rw [Undelimited.cons_iff]
      exact ⟨plain, .nil⟩

/-! ## Marks -/

/-- No character of the text opens a query or a fragment. -/
def Unmarked (text : List Char) : Prop := ∀ c ∈ text, endsPath c = false

theorem unmarked_iff {text : List Char} : Unmarked text ↔ '?' ∉ text ∧ '#' ∉ text := by
  simp only [Unmarked, endsPath, Bool.or_eq_false_iff, decide_eq_false_iff_not]
  constructor
  · intro plain
    exact ⟨fun member => (plain _ member).1 rfl, fun member => (plain _ member).2 rfl⟩
  · rintro ⟨question, hash⟩ c member
    exact ⟨fun same => question (same ▸ member), fun same => hash (same ▸ member)⟩

/-- An encoding leaves no delimiter that it escapes. -/
theorem not_mem_percentEncode {escape : Char → Bool} {c : Char}
    (ends : Http.Uri.endsAuthority c = true) (escaped : escape c = true) (text : List Char) :
    c ∉ percentEncode escape text := by
  intro member
  obtain ⟨original, -, written⟩ := List.mem_flatMap.mp member
  split at written
  · rw [undelimited_percentBytes _ c written] at ends
    cases ends
  · next kept =>
      rw [List.mem_singleton.mp written] at escaped
      exact kept escaped

end ApiGateway.Url
