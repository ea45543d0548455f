import ApiGateway.Json.Reader
import ApiGateway.Json.Writer
import ApiGateway.Proofs.Text.Digits

/-!
# Written numbers

A number ends before the first character that no number goes on with (`scanNumber?_append`), and
an integer of a machine word is read as it was written (`scanNumber?_toString`).
-/

namespace ApiGateway

namespace Json

/-! ## Where a number ends -/

/-- A character that a number may go on with. -/
def continuesNumber (c : Char) : Bool :=
  c.isDigit || c = '.' || c = 'e' || c = 'E' || c = '+' || c = '-'

/-- No number goes on with this text. -/
def EndsNumber (rest : List Char) : Prop := ∀ c ∈ rest.head?, continuesNumber c = false

theorem EndsNumber.cons {c : Char} (ends : continuesNumber c = false) (rest : List Char) :
    EndsNumber (c :: rest) := by
  intro other first
  cases first
  exact ends

theorem EndsNumber.nil : EndsNumber [] := nofun

section Ends

variable {rest : List Char} (ends : EndsNumber rest)
include ends

theorem EndsNumber.digit : ∀ c ∈ rest.head?, c.isDigit = false := by
  intro c first
  have last := ends c first
  simp only [continuesNumber, Bool.or_eq_false_iff] at last
  exact last.1.1.1.1.1

theorem EndsNumber.ne {c : Char} {tail : List Char} (first : rest = c :: tail) :
    c ≠ '.' ∧ (c = 'e' || c = 'E') = false ∧ c ≠ '+' ∧ c ≠ '-' := by
  subst first
  have last := ends c rfl
  simp only [continuesNumber, Bool.or_eq_false_iff, decide_eq_false_iff_not] at last
  obtain ⟨⟨⟨⟨⟨-, point⟩, lower⟩, upper⟩, plus⟩, minus⟩ := last
  exact ⟨point, by simp [lower, upper], plus, minus⟩

theorem scanFraction?_append (text : List Char) :
    scanFraction? (text ++ rest) =
      (scanFraction? text).map fun (digits, left) => (digits, left ++ rest) := by
  cases text with
  | nil =>
      cases rest with
      | nil => rfl
      | cons c tail =>
          obtain ⟨point, -⟩ := ends.ne rfl
          simp [scanFraction?, point]
  | cons c text =>
      by_cases point : c = '.'
      · subst point
        simp only [List.cons_append, scanFraction?, Text.takeWhile_append_of_stop ends.digit,
          Text.dropWhile_append_of_stop ends.digit]
        split <;> rfl
      · simp [scanFraction?, point]

theorem scanExponent?_append (text : List Char) :
    Number.scanExponent? (text ++ rest) =
      (Number.scanExponent? text).map fun (exponent, left) => (exponent, left ++ rest) := by
  have digits (negative : Bool) (text : List Char) :
      (if ((text ++ rest).takeWhile Char.isDigit).isEmpty then none
        else some
          (if negative then -(Text.decimalValue ((text ++ rest).takeWhile Char.isDigit) : Int)
            else Text.decimalValue ((text ++ rest).takeWhile Char.isDigit),
            (text ++ rest).dropWhile Char.isDigit)) =
      (if (text.takeWhile Char.isDigit).isEmpty then none
        else some (if negative then -(Text.decimalValue (text.takeWhile Char.isDigit) : Int)
          else Text.decimalValue (text.takeWhile Char.isDigit),
            text.dropWhile Char.isDigit)).map fun (exponent, left) => (exponent, left ++ rest) := by
    rw [Text.takeWhile_append_of_stop ends.digit, Text.dropWhile_append_of_stop ends.digit]
    split <;> rfl
  cases text with
  | nil =>
      cases rest with
      | nil => rfl
      | cons c tail =>
          obtain ⟨-, -, plus, minus⟩ := ends.ne rfl
          have noDigit := ends.digit c rfl
          simp [Number.scanExponent?, plus, minus, noDigit]
  | cons c text =>
      by_cases plus : c = '+'
      · subst plus
        exact digits false text
      · by_cases minus : c = '-'
        · subst minus
          exact digits true text
        · have unsigned := digits false (c :: text)
          simpa [Number.scanExponent?, plus, minus] using unsigned

theorem scanPower?_append (text : List Char) :
    scanPower? (text ++ rest) =
      (scanPower? text).map fun (exponent, left) => (exponent, left ++ rest) := by
  cases text with
  | nil =>
      cases rest with
      | nil => rfl
      | cons c tail =>
          obtain ⟨-, letter, -⟩ := ends.ne rfl
          simp only [List.nil_append, scanPower?, letter]
          rfl
  | cons c text =>
      simp only [List.cons_append, scanPower?]
      split
      · rw [scanExponent?_append ends]
        cases Number.scanExponent? text <;> rfl
      · rfl

theorem scanUnsigned?_append (negative : Bool) (text : List Char) :
    scanUnsigned? negative (text ++ rest) =
      (scanUnsigned? negative text).map fun (value, left) => (value, left ++ rest) := by
  simp only [scanUnsigned?, Text.takeWhile_append_of_stop ends.digit,
    Text.dropWhile_append_of_stop ends.digit]
  split
  · rfl
  · rw [scanFraction?_append ends]
    cases scanFraction? (text.dropWhile Char.isDigit) with
    | none => rfl
    | some scanned =>
        obtain ⟨fraction, left⟩ := scanned
        simp only [Option.map_some, Option.bind_eq_bind, Option.bind_some, scanPower?_append ends]
        cases scanPower? left <;> rfl

/-- What follows a number and does not go on with it is left alone. -/
theorem scanNumber?_append (text : List Char) :
    scanNumber? (text ++ rest) =
      (scanNumber? text).map fun (value, left) => (value, left ++ rest) := by
  cases text with
  | nil =>
      cases rest with
      | nil => rfl
      | cons c tail =>
          obtain ⟨-, -, -, minus⟩ := ends.ne rfl
          have noDigit := ends.digit c rfl
          simp [scanNumber?, minus, scanUnsigned?, noDigit]
  | cons c text =>
      by_cases minus : c = '-'
      · subst minus
        exact scanUnsigned?_append ends true text
      · have unsigned := scanUnsigned?_append ends false (c :: text)
        simpa [scanNumber?, minus] using unsigned

end Ends

/-! ## Where a number begins -/

/-- A number begins with its sign or with a digit. -/
theorem head_of_scanNumber? {text : List Char} {scanned : Json × List Char}
    (found : scanNumber? text = some scanned) :
    ∃ c rest, text = c :: rest ∧ (c = '-' ∨ c.isDigit = true) := by
  cases text with
  | nil => cases found
  | cons c rest =>
      refine ⟨c, rest, rfl, ?_⟩
      by_cases minus : c = '-'
      · exact .inl minus
      · cases digit : c.isDigit with
        | true => exact .inr rfl
        | false => simp [scanNumber?, minus, scanUnsigned?, digit] at found

/-! ## Integers -/

/-- The integers of the signed and of the unsigned word. -/
def InWords (value : Int) : Prop :=
  -(Number.wordBound 63 : Int) ≤ value ∧ value < Number.wordBound 64

theorem scanUnsigned?_toDigits (negative : Bool) (n : Nat) :
    scanUnsigned? negative (Nat.toDigits 10 n) =
      some (numberOf negative (Nat.toDigits 10 n) none none, []) := by
  have digits : ∀ c ∈ Nat.toDigits 10 n, c.isDigit = true := fun c => Text.isDigit_of_mem_toDigits
  have whole : (Nat.toDigits 10 n).takeWhile Char.isDigit = Nat.toDigits 10 n := by
    simpa using @Text.takeWhile_append_of_stops Char.isDigit _ [] digits nofun
  have nothing : (Nat.toDigits 10 n).dropWhile Char.isDigit = [] := by
    simpa using @Text.dropWhile_append_of_stops Char.isDigit _ [] digits nofun
  have accepted : ((Nat.toDigits 10 n).isEmpty || (decide ((Nat.toDigits 10 n).length > 1) &&
      decide ((Nat.toDigits 10 n).head? = some '0'))) = false := by
    have filled : (Nat.toDigits 10 n).isEmpty = false := by simp
    rw [filled]
    simpa using Text.not_leadingZero_toDigits n
  simp only [scanUnsigned?, whole, accepted, nothing]
  rfl

/-- The digits of a number, behind the sign of a negative one. -/
theorem toList_toString_int (value : Int) :
    (toString value).toList =
      if value < 0 then '-' :: Nat.toDigits 10 value.natAbs else Nat.toDigits 10 value.natAbs := by
  rw [Int.toString_eq_repr, Int.repr_eq_if]
  by_cases negative : value < 0
  · have absolute : (-value).toNat = value.natAbs := by omega
    rw [if_neg (by omega), if_pos negative, absolute, Nat.repr_eq_ofList_toDigits]
    simp
  · have absolute : value.toNat = value.natAbs := by omega
    rw [if_pos (by omega), if_neg negative, Nat.repr_eq_ofList_toDigits, String.toList_ofList,
      absolute]

theorem numberOf_toDigits {value : Int} (bounds : InWords value) :
    numberOf (value < 0) (Nat.toDigits 10 value.natAbs) none none = .integer value := by
  obtain ⟨least, greatest⟩ := bounds
  simp only [numberOf, Text.decimalValue_toDigits]
  by_cases negative : value < 0
  · have small : value.natAbs ≤ Number.wordBound 63 := by omega
    have restored : -(value.natAbs : Int) = value := by omega
    have positive : 0 < value.natAbs := Int.natAbs_pos.mpr (Int.ne_of_lt negative)
    rw [if_neg (by simp [negative]), if_pos (by simp only [negative, positive, small]; rfl),
      restored]
  · have small : value.natAbs < Number.wordBound 64 := by omega
    have restored : (value.natAbs : Int) = value := by omega
    rw [if_pos (by simp only [negative, small]; rfl), restored]

/-- An integer of a machine word is read as it was written. -/
theorem scanNumber?_toString {value : Int} (bounds : InWords value) :
    scanNumber? (toString value).toList = some (.integer value, []) := by
  have number := numberOf_toDigits bounds
  rw [toList_toString_int]
  by_cases negative : value < 0
  · rw [decide_eq_true negative] at number
    rw [if_pos negative, scanNumber?, scanUnsigned?_toDigits, number]
  · rw [decide_eq_false negative] at number
    have unsigned : ∀ c ∈ Nat.toDigits 10 value.natAbs, c ≠ '-' := by
      rintro c member rfl
      exact absurd (Text.isDigit_of_mem_toDigits member) (by decide)
    rw [if_neg negative, ← number, ← scanUnsigned?_toDigits]
    cases digits : Nat.toDigits 10 value.natAbs with
    | nil => rfl
    | cons c rest =>
        have first : c ≠ '-' := unsigned c (by rw [digits]; exact List.mem_cons_self)
        simp [scanNumber?, first]

/-! ## Doubles -/

/-- The written form of a double is read as that double. -/
def ReadsBack (x : Binary64) : Prop :=
  scanNumber? (Number.jsonText x).toList = some (.real x, [])

end Json

end ApiGateway
