import ApiGateway.Proofs.Url.Undelimited

/-!
# Domains without a delimiter

The ASCII form of a domain holds no delimiter. A label in ASCII holds no forbidden
character; an encoded label is made of its own ASCII characters and of digits; and a
label that carries the marker already decodes to a label that keeps all its ASCII
characters and is checked itself.
-/

namespace ApiGateway.Url

namespace Punycode

/-! ## Encoding -/

theorem threshold_le (k bias : Nat) : threshold k bias ≤ 26 := by
  simp only [threshold]
  repeat' split
  all_goals omega

theorem endsAuthority_digitChar {value : Nat} (small : value < 36) :
    Http.Uri.endsAuthority (digitChar value) = false := by
  have digit : ∀ value : Fin 36, Http.Uri.endsAuthority (digitChar value) = false := by decide
  exact digit ⟨value, small⟩

theorem undelimited_encodeNumber (fuel bias k number : Nat) :
    Undelimited (encodeNumber fuel bias k number) := by
  induction fuel generalizing k number with
  | zero => exact .nil
  | succ fuel inductionHypothesis =>
      have low := threshold_le k bias
      simp only [encodeNumber]
      split
      · next last =>
          rw [Undelimited.cons_iff]
          exact ⟨endsAuthority_digitChar (by omega), .nil⟩
      · have inner : (number - threshold k bias) % (base - threshold k bias) <
            base - threshold k bias := Nat.mod_lt _ (by simp only [base]; omega)
        rw [Undelimited.cons_iff]
        refine ⟨endsAuthority_digitChar ?_, inductionHypothesis _ _⟩
        simp only [base] at inner ⊢
        omega

theorem undelimited_encodePoint (label : List Char) (basic point : Nat) {state : Encoder}
    (clean : Undelimited state.output) :
    Undelimited (encodePoint label basic point state).output := by
  simp only [encodePoint]
  induction label generalizing state with
  | nil => exact clean
  | cons c rest inductionHypothesis =>
      rw [List.foldl_cons]
      apply inductionHypothesis
      split
      · exact clean
      · split
        · rw [Undelimited.append_iff]
          exact ⟨clean, undelimited_encodeNumber _ _ _ _⟩
        · exact clean

theorem undelimited_encodePoints (label : List Char) (basic : Nat) (points : List Nat) (n : Nat)
    {state : Encoder} (clean : Undelimited state.output) :
    Undelimited (encodePoints label basic points n state).output := by
  induction points generalizing n state with
  | nil => exact clean
  | cons point rest inductionHypothesis =>
      simp only [encodePoints]
      apply inductionHypothesis
      exact undelimited_encodePoint label basic point clean

/-- An encoded label holds no delimiter if its ASCII characters are none. -/
theorem undelimited_encode {label : List Char}
    (basic : ∀ c ∈ label, c.toNat < 0x80 → Http.Uri.endsAuthority c = false) :
    Undelimited (encode label) := by
  simp only [encode]
  apply undelimited_encodePoints
  rw [Undelimited.append_iff]
  constructor
  · intro c member
    obtain ⟨known, ascii⟩ := List.mem_filter.mp member
    exact basic c known (by simpa using ascii)
  · split
    · exact .nil
    · rw [Undelimited.cons_iff]
      exact ⟨by decide, .nil⟩

/-! ## Decoding -/

theorem endsAuthority_of_digitValue? {c : Char} (digit : (digitValue? c).isSome = true) :
    Http.Uri.endsAuthority c = false :=
  endsAuthority_of_class (fun c => (digitValue? c).isSome) (by decide) (by decide) (by decide)
    digit

/-- A number is read from digits at the front. -/
theorem decodeNumber_eq_some {bias k weight value total : Nat} {text rest : List Char}
    (read : decodeNumber bias text k weight value = some (total, rest)) :
    ∃ digits, text = digits ++ rest ∧ Undelimited digits := by
  induction text generalizing k weight value with
  | nil => cases read
  | cons c text inductionHypothesis =>
      simp only [decodeNumber, Option.bind_eq_bind, Option.bind_eq_some_iff] at read
      obtain ⟨digit, isDigit, read⟩ := read
      have clean : Http.Uri.endsAuthority c = false :=
        endsAuthority_of_digitValue? (by rw [isDigit]; rfl)
      split at read
      · cases read
      · split at read
        · cases read
          exact ⟨[c], rfl, Undelimited.cons_iff.mpr ⟨clean, .nil⟩⟩
        · obtain ⟨digits, rfl, others⟩ := inductionHypothesis read
          exact ⟨c :: digits, rfl, Undelimited.cons_iff.mpr ⟨clean, others⟩⟩

theorem mem_insertAt {index : Nat} {c other : Char} {label : List Char} (member : other ∈ label) :
    other ∈ insertAt index c label := by
  rw [← List.take_append_drop index label] at member
  rcases List.mem_append.mp member with front | back
  · exact List.mem_append_left _ front
  · exact List.mem_append_right _ (List.mem_cons_of_mem c back)

/-- Decoding reads digits only and keeps the characters that are there. -/
theorem decodePoints_eq_some {fuel point index bias : Nat} {digits label decoded : List Char}
    (read : decodePoints fuel digits label point index bias = some decoded) :
    Undelimited digits ∧ ∀ c ∈ label, c ∈ decoded := by
  induction fuel generalizing digits label point index bias with
  | zero =>
      cases digits with
      | nil =>
          cases read
          exact ⟨.nil, fun _ member => member⟩
      | cons => cases read
  | succ fuel inductionHypothesis =>
      cases digits with
      | nil =>
          cases read
          exact ⟨.nil, fun _ member => member⟩
      | cons digit digits =>
          simp only [decodePoints, Option.bind_eq_bind, Option.bind_eq_some_iff] at read
          obtain ⟨⟨delta, rest⟩, number, read⟩ := read
          obtain ⟨front, split, clean⟩ := decodeNumber_eq_some number
          split at read
          · cases read
          · obtain ⟨others, kept⟩ := inductionHypothesis read
            rw [split, Undelimited.append_iff]
            exact ⟨⟨clean, others⟩, fun c member => kept c (mem_insertAt member)⟩

/-- A text that can be decoded holds no delimiter if the decoded label holds none. -/
theorem undelimited_of_decode? {text decoded : List Char} (read : decode? text = some decoded)
    (clean : ∀ c ∈ decoded, c.toNat < 0x80 → Http.Uri.endsAuthority c = false) :
    Undelimited text := by
  have kept {basic digits : List Char} (ascii : (basic.all fun c => c.toNat < 0x80) = true)
      (points : decodePoints (digits.length + 1) digits basic 0x80 0 72 = some decoded) :
      Undelimited basic ∧ Undelimited digits := by
    obtain ⟨cleanDigits, present⟩ := decodePoints_eq_some points
    refine ⟨?_, cleanDigits⟩
    intro c member
    exact clean c (present c member) (by simpa using List.all_eq_true.mp ascii c member)
  simp only [decode?] at read
  split at read
  · next c before after found =>
      split at read
      · next ascii =>
          obtain ⟨cleanBasic, cleanDigits⟩ := kept ascii read
          rw [Text.splitAtLast?_eq_some found]
          exact Undelimited.append_iff.mpr
            ⟨cleanBasic, Undelimited.cons_iff.mpr ⟨by decide, cleanDigits⟩⟩
      · cases read
  · split at read
    · next ascii => exact (kept ascii read).2
    · cases read

end Punycode

namespace Domain

/-- No forbidden character is missed: the delimiters are forbidden. -/
theorem endsAuthority_of_allowed {c : Char} (allowed : isForbiddenAscii c = false) :
    Http.Uri.endsAuthority c = false :=
  endsAuthority_of_class (fun c => !isForbiddenAscii c) (by decide) (by decide) (by decide)
    (by simp [allowed])

theorem endsAuthority_of_encodable {label : List Char} (encodable : isEncodable label = true) :
    ∀ c ∈ label, c.toNat < 0x80 → Http.Uri.endsAuthority c = false := by
  intro c member ascii
  simp only [isEncodable, Bool.and_eq_true, List.all_eq_true] at encodable
  have allowed := encodable.1 c member
  rw [if_pos ascii] at allowed
  exact endsAuthority_of_allowed (by simpa using allowed)

theorem undelimited_labelToAscii? {label written : List Char}
    (read : labelToAscii? label = some written) : Undelimited written := by
  have plainMarker : Undelimited marker := undelimited_of_all (by decide)
  simp only [labelToAscii?] at read
  split at read
  · next encoded found =>
      simp only [Option.bind_eq_bind, Option.bind_eq_some_iff] at read
      obtain ⟨decoded, decodes, read⟩ := read
      split at read
      · next accepted =>
          cases read
          simp only [Bool.and_eq_true] at accepted
          have clean := endsAuthority_of_encodable accepted.1.2
          rw [Text.dropPrefix?_eq_some_iff.mp found, Undelimited.append_iff]
          exact ⟨plainMarker, Punycode.undelimited_of_decode? decodes clean⟩
      · cases read
  · split at read
    · split at read
      · cases read
      · next allowed =>
          cases read
          intro c member
          refine endsAuthority_of_allowed ?_
          rw [← Bool.not_eq_true]
          intro forbidden
          exact allowed (List.any_eq_true.mpr ⟨c, member, forbidden⟩)
    · split at read
      · next encodable =>
          cases read
          rw [Undelimited.append_iff]
          exact ⟨plainMarker, Punycode.undelimited_encode (endsAuthority_of_encodable encodable)⟩
      · cases read

/-- The ASCII form of a domain holds no delimiter. -/
theorem undelimited_toAscii? {domain written : List Char} (read : toAscii? domain = some written) :
    Undelimited written := by
  simp only [toAscii?, Option.bind_eq_bind, Option.bind_eq_some_iff] at read
  obtain ⟨labels, mapped, read⟩ := read
  cases read
  apply Undelimited.joinWith (by decide)
  generalize Text.splitOn '.' (domain.flatMap foldChar) = pieces at mapped
  induction pieces generalizing labels with
  | nil =>
      cases mapped
      nofun
  | cons piece pieces inductionHypothesis =>
      simp only [List.mapM_cons, Option.bind_eq_bind, Option.bind_eq_some_iff] at mapped
      obtain ⟨label, first, others, rest, joined⟩ := mapped
      cases joined
      intro other member
      rcases List.mem_cons.mp member with rfl | later
      · exact undelimited_labelToAscii? first
      · exact inductionHypothesis others rest other later

end Domain

end ApiGateway.Url
