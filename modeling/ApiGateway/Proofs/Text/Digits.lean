import ApiGateway.Text.Chars

/-!
# Digits and where they end

A number that was written in digits reads as itself, in base ten (`decimalValue_toDigits`) and
in base sixteen (`hexValue_toDigits`), and a scan for characters of a class goes on in what
follows only if that begins with such a character.
-/

namespace ApiGateway.Text

/-! ## The end of a scan -/

section Scan

variable {keep : Char → Bool} {rest : List Char} (stops : ∀ c ∈ rest.head?, keep c = false)
include stops

theorem takeWhile_append_of_stop (text : List Char) :
    (text ++ rest).takeWhile keep = text.takeWhile keep := by
  induction text with
  | nil =>
      cases rest with
      | nil => rfl
      | cons c rest => simp [stops c rfl]
  | cons c text inductionHypothesis =>
      rw [List.cons_append, List.takeWhile_cons, List.takeWhile_cons, inductionHypothesis]

theorem dropWhile_append_of_stop (text : List Char) :
    (text ++ rest).dropWhile keep = text.dropWhile keep ++ rest := by
  induction text with
  | nil =>
      cases rest with
      | nil => rfl
      | cons c rest => simp [stops c rfl]
  | cons c text inductionHypothesis =>
      rw [List.cons_append, List.dropWhile_cons, List.dropWhile_cons, inductionHypothesis]
      split <;> rfl

end Scan

/-! ## Base ten -/

theorem decimalValue_toDigits (n : Nat) : decimalValue (Nat.toDigits 10 n) = n := by
  have commuted : decimalValue (Nat.toDigits 10 n) =
      (Nat.toDigits 10 n).foldl (fun value digit => 10 * value + (digit.toNat - '0'.toNat)) 0 := by
    simp only [decimalValue, Nat.mul_comm]
  rw [commuted, ← Nat.ofDigitChars_eq_foldl, Nat.ofDigitChars_ten_toDigits]

theorem isDigit_of_mem_toDigits {n : Nat} {c : Char} (member : c ∈ Nat.toDigits 10 n) :
    c.isDigit = true :=
  Nat.isDigit_of_mem_toDigits (by decide) (by decide) member

/-- Only zero is written with a leading zero. -/
theorem eq_zero_of_head?_toDigits {n : Nat} (zero : (Nat.toDigits 10 n).head? = some '0') :
    n = 0 := by
  induction n using Nat.strongRecOn with
  | _ n inductionHypothesis =>
      rw [Nat.toDigits_eq_if (by decide)] at zero
      split at zero
      · exact Nat.digitChar_eq_zero.mp (by simpa using zero)
      · next large =>
          have first : (Nat.toDigits 10 (n / 10)).head? = some '0' := by
            cases digits : Nat.toDigits 10 (n / 10) with
            | nil => exact absurd digits Nat.toDigits_ne_nil
            | cons c rest => simpa [digits] using zero
          have smaller : n / 10 < n := Nat.div_lt_self (by omega) (by decide)
          have quotient := inductionHypothesis (n / 10) smaller first
          omega

/-- No number of several digits begins with a zero. -/
theorem not_leadingZero_toDigits (n : Nat) :
    ¬ (1 < (Nat.toDigits 10 n).length ∧ (Nat.toDigits 10 n).head? = some '0') := by
  rintro ⟨long, zero⟩
  rw [eq_zero_of_head?_toDigits zero] at long
  exact absurd long (by decide)

/-! ## Base sixteen -/

theorem hexValue?_digitChar : ∀ digit : Fin 16,
    hexValue? (Nat.digitChar digit) = some digit.val := by
  decide

theorem hexValue?_hexDigit : ∀ digit : Fin 16,
    hexValue? (hexDigit false digit) = some digit.val := by
  decide

/-- The value of a text of hexadecimal digits. -/
def hexValue (digits : List Char) : Nat :=
  digits.foldl (fun value c => value * 16 + (hexValue? c).getD 0) 0

theorem hexValue_toDigits (n : Nat) : hexValue (Nat.toDigits 16 n) = n := by
  induction n using Nat.strongRecOn with
  | _ n inductionHypothesis =>
      rw [Nat.toDigits_eq_if (by decide)]
      split
      · next small => simp [hexValue, hexValue?_digitChar ⟨n, small⟩]
      · next large =>
          have last := hexValue?_digitChar ⟨n % 16, Nat.mod_lt n (by decide)⟩
          have front := inductionHypothesis (n / 16) (Nat.div_lt_self (by omega) (by decide))
          rw [hexValue] at front ⊢
          rw [List.foldl_append, front, List.foldl_cons, List.foldl_nil, last, Option.getD_some]
          exact Nat.div_add_mod' n 16

end ApiGateway.Text
