import ApiGateway.Number.Binary64
import ApiGateway.Number.Word
import ApiGateway.Text.Chars

/-!
# Reading decimal numbers

Two readers of decimals share a scanner. `ofDecimal` rounds the exact value
once. `ofScaled` keeps as many leading digits as fit in a 64-bit word and then
multiplies or divides by powers of ten, rounding at each of these steps; JSON
numbers are read this way.
-/

namespace ApiGateway.Number

/-- The parts of an unsigned decimal: digits before the point, digits after it and an
exponent. -/
structure Parts where
  whole : List Char
  fraction : List Char
  exponent : Int

/-- The exact value of the parts, rounded once. -/
def ofDecimal (negative : Bool) (parts : Parts) : Binary64 :=
  let significant := (parts.whole ++ parts.fraction).dropWhile (· = '0')
  let exponent := parts.exponent - parts.fraction.length
  if significant.isEmpty then .zero negative
  else if exponent + significant.length > 400 then .infinity negative
  else if exponent + significant.length < -400 then .zero negative
  else
    let value := Text.decimalValue significant
    .ofRatio negative (value * Nat.pow 10 exponent.toNat) (Nat.pow 10 (-exponent).toNat)

/-- `10 ^ power`, rounded. -/
private def powerOfTen (power : Nat) : Binary64 :=
  .ofRatio false (Nat.pow 10 power) 1

/-- The largest power of ten that is multiplied in one step. -/
private def largestPower : Nat := 308

/-- Divide by `10 ^ 308` until the exponent is in reach of one step, then divide once. -/
private def divideByPower : Nat → Binary64 → Nat → Binary64
  | 0, x, _ => x
  | fuel + 1, x, power =>
    if power ≤ largestPower then x.div (powerOfTen power)
    else if x.magnitude = 0 then x
    else divideByPower fuel (x.div (powerOfTen largestPower)) (power - largestPower)

/-- A 64-bit significand times a power of ten; `none` when the result is not finite. -/
def scaleByPower? (significand : Nat) (exponent : Int) : Option Binary64 :=
  let x := Binary64.ofNat significand
  if 0 ≤ exponent then
    if exponent.toNat ≤ largestPower then
      let product := x.mul (powerOfTen exponent.toNat)
      if product.isFinite then some product else none
    else if significand = 0 then some x
    else none
  else some (divideByPower 8 x (min (-exponent).toNat 2400))

/-- The leading digits that fit in a 64-bit word, and how many digits were left over. -/
def leadingWord : Nat → List Char → Nat × Nat
  | word, [] => (word, 0)
  | word, digit :: rest =>
    let next := word * 10 + (digit.toNat - '0'.toNat)
    if next < wordBound 64 then leadingWord next rest else (word, rest.length + 1)

private def largestExponent : Nat := wordBound 31 - 1

/-- A decimal read with a 64-bit significand. Digits beyond it count for the magnitude
when they stand before the point and are dropped after it. -/
def ofScaled? (negative : Bool) (parts : Parts) : Option Binary64 :=
  let (word, left) := leadingWord 0 parts.whole
  let (significand, exponent) : Nat × Int :=
    if left > 0 then
      match parts.fraction with
      | [] => (word, left)
      | digit :: rest =>
        let next := word * 10 + (digit.toNat - '0'.toNat)
        if next < wordBound 64 then
          let (longer, dropped) := leadingWord next rest
          (longer, (left : Int) - 1 - (rest.length - dropped))
        else (word, left)
    else
      let (longer, dropped) := leadingWord word parts.fraction
      (longer, -((parts.fraction.length - dropped : Nat) : Int))
  let signed (x : Binary64) : Binary64 := if negative then x.negate else x
  if parts.exponent.natAbs > largestExponent then
    if significand ≠ 0 ∧ parts.exponent > 0 then none else some (signed (.zero false))
  else (scaleByPower? significand (exponent + parts.exponent)).map signed

/-- Scan digits, an optional fraction and an optional exponent. The fraction is `none`
without a point; an exponent needs a digit. -/
def scanExponent? (text : List Char) : Option (Int × List Char) :=
  let (negative, digits) := match text with
    | '+' :: rest => (false, rest)
    | '-' :: rest => (true, rest)
    | rest => (false, rest)
  let taken := digits.takeWhile Char.isDigit
  if taken.isEmpty then none
  else
    let value : Int := Text.decimalValue taken
    some (if negative then -value else value, digits.dropWhile Char.isDigit)

/-- Read a double written in decimal, with an optional sign, or one of the words `inf`,
`infinity` and `nan` in any case. -/
def readBinary64? (text : List Char) : Option Binary64 :=
  let (negative, body) := match text with
    | '+' :: rest => (false, rest)
    | '-' :: rest => (true, rest)
    | rest => (false, rest)
  let word := Text.lowerAscii body
  if word = "inf".toList ∨ word = "infinity".toList then some (.infinity negative)
  else if word = "nan".toList then
    some (if negative then Binary64.notANumber.negate else .notANumber)
  else
    let whole := body.takeWhile Char.isDigit
    let afterWhole := body.dropWhile Char.isDigit
    let (fraction, rest) := match afterWhole with
      | '.' :: tail => (tail.takeWhile Char.isDigit, tail.dropWhile Char.isDigit)
      | tail => ([], tail)
    if whole.isEmpty && fraction.isEmpty then none
    else match rest with
      | [] => some (ofDecimal negative ⟨whole, fraction, 0⟩)
      | e :: tail =>
        if e = 'e' ∨ e = 'E' then
          match scanExponent? tail with
          | some (exponent, []) => some (ofDecimal negative ⟨whole, fraction, exponent⟩)
          | _ => none
        else none

end ApiGateway.Number
