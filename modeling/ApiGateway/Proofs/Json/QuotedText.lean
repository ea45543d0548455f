import ApiGateway.Json.Reader
import ApiGateway.Json.Writer
import ApiGateway.Proofs.Text.Digits

/-!
# Written strings

Every text is read as it was written between quotes, whatever its characters are
(`scanString?_quoted`).
-/

namespace ApiGateway.Json

/-! ## One character -/

/-- The three ways to write a character: behind a backslash by a letter, by its number, or as
itself. -/
inductive WrittenAs (c : Char) : List Char → Prop where
  | letter {letter : Char} (plain : letter ≠ 'u') (decoded : simpleEscape? letter = some c)
      (visible : 0x20 ≤ letter.toNat) : WrittenAs c ['\\', letter]
  | number (control : c.toNat < 0x20) :
      WrittenAs c ['\\', 'u', '0', '0', Text.hexDigit false (c.toNat / 16),
        Text.hexDigit false (c.toNat % 16)]
  | itself (quote : c ≠ '"') (backslash : c ≠ '\\') (visible : 0x20 ≤ c.toNat) : WrittenAs c [c]

theorem writtenAs_escapeChar (c : Char) : WrittenAs c (escapeChar c) := by
  by_cases listed : c = '"' ∨ c = '\\' ∨ c = '\x08' ∨ c = '\x0c' ∨ c = '\n' ∨ c = '\r' ∨ c = '\t'
  · rcases listed with rfl | rfl | rfl | rfl | rfl | rfl | rfl
    all_goals exact .letter (by decide) rfl (by decide)
  · simp only [not_or] at listed
    obtain ⟨quote, backslash, backspace, formFeed, lineFeed, carriageReturn, tab⟩ := listed
    simp only [escapeChar, quote, backslash, backspace, formFeed, lineFeed, carriageReturn, tab,
      if_false]
    split
    · next control => exact .number control
    · next visible => exact .itself quote backslash (Nat.le_of_not_lt visible)

theorem scanHex4?_number {c : Char} (control : c.toNat < 0x20) (text : List Char) :
    scanHex4? ('0' :: '0' :: Text.hexDigit false (c.toNat / 16) ::
      Text.hexDigit false (c.toNat % 16) :: text) = some (c.toNat, text) := by
  have high := Text.hexValue?_hexDigit ⟨c.toNat / 16, by omega⟩
  have low := Text.hexValue?_hexDigit ⟨c.toNat % 16, by omega⟩
  have zero : Text.hexValue? '0' = some 0 := by decide
  have value : ((0 * 16 + 0) * 16 + c.toNat / 16) * 16 + c.toNat % 16 = c.toNat := by omega
  simp only [scanHex4?, zero, high, low]
  exact congrArg (fun n => some (n, text)) value

/-- The number of a character below U+0020 is no half of a pair. -/
theorem scanUnicode?_number {c : Char} (control : c.toNat < 0x20) (text : List Char) :
    scanUnicode? ('0' :: '0' :: Text.hexDigit false (c.toNat / 16) ::
      Text.hexDigit false (c.toNat % 16) :: text) = some (.char c, text) := by
  have notHigh : isHighSurrogate c.toNat = false := by
    have small : ¬ 0xD800 ≤ c.toNat := by omega
    simp [isHighSurrogate, small]
  have notLow : isLowSurrogate c.toNat = false := by
    have small : ¬ 0xDC00 ≤ c.toNat := by omega
    simp [isLowSurrogate, small]
  simp only [scanUnicode?, scanHex4?_number control, Option.bind_eq_bind, Option.bind_some, notHigh,
    notLow, Bool.false_eq_true, if_false, Char.ofNat_toNat]
  rfl

/-- A written character is one piece. -/
theorem scanPieces?_writtenAs {c : Char} {written : List Char} (form : WrittenAs c written)
    (fuel : Nat) (text : List Char) :
    scanPieces? (fuel + 1) (written ++ text) =
      (scanPieces? fuel text).map fun (pieces, rest) => (.char c :: pieces, rest) := by
  cases form with
  | letter plain decoded visible =>
      simp only [List.cons_append, List.nil_append, scanPieces?, plain, decoded]
      cases scanPieces? fuel text <;> rfl
  | number control =>
      have backslash : '\\' ≠ '"' := by decide
      simp only [List.cons_append, List.nil_append, scanPieces?, backslash, if_false, if_true,
        scanUnicode?_number control, Option.bind_eq_bind, Option.bind_some]
      cases scanPieces? fuel text <;> rfl
  | itself quote backslash visible =>
      simp only [List.cons_append, List.nil_append, scanPieces?, quote, backslash,
        Nat.not_lt.mpr visible, if_false]
      cases scanPieces? fuel text <;> rfl

theorem WrittenAs.ne_nil {c : Char} {written : List Char} (form : WrittenAs c written) :
    written ≠ [] := by
  cases form <;> exact List.cons_ne_nil _ _

/-! ## A whole text -/

theorem scanPieces?_quoted {text : List Char} {fuel : Nat} (enough : text.length < fuel)
    (rest : List Char) :
    scanPieces? fuel (text.flatMap escapeChar ++ '"' :: rest) =
      some (text.map Piece.char, rest) := by
  induction text generalizing fuel with
  | nil =>
      obtain ⟨fuel, rfl⟩ := Nat.exists_eq_add_of_lt enough
      simp [scanPieces?]
  | cons c text inductionHypothesis =>
      obtain ⟨fuel, rfl⟩ := Nat.exists_eq_add_of_lt enough
      rw [List.flatMap_cons, List.append_assoc, scanPieces?_writtenAs (writtenAs_escapeChar c),
        inductionHypothesis (by simp only [List.length_cons]; omega)]
      rfl

theorem textOfPieces?_chars (text : List Char) :
    textOfPieces? (text.map Piece.char) = some text := by
  induction text with
  | nil => rfl
  | cons c text inductionHypothesis => simp [textOfPieces?, inductionHypothesis]

theorem length_le_length_flatMap_escapeChar (text : List Char) :
    text.length ≤ (text.flatMap escapeChar).length := by
  induction text with
  | nil => exact Nat.le_refl 0
  | cons c text inductionHypothesis =>
      have written := List.length_pos_iff.mpr (writtenAs_escapeChar c).ne_nil
      simp only [List.flatMap_cons, List.length_append, List.length_cons]
      omega

/-- What is read behind an opening quote is the text that was written there. -/
theorem scanString?_quoted (text rest : List Char) :
    scanString? (text.flatMap escapeChar ++ '"' :: rest) =
      some (some (String.ofList text), rest) := by
  have written := length_le_length_flatMap_escapeChar text
  have enough : text.length < (text.flatMap escapeChar ++ '"' :: rest).length + 1 := by
    simp only [List.length_append, List.length_cons]
    omega
  rw [scanString?, scanPieces?_quoted enough]
  simp [textOfPieces?_chars]

end ApiGateway.Json
