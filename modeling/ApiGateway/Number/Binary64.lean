/-!
# Binary floating point in sixty-four bits

A `Binary64` is its bit pattern; every operation decodes to an exact rational,
computes there and rounds once with `ofRatio`, to nearest with ties to the even
significand. `key?` gives the order of the values that are numbers.
-/

namespace ApiGateway

/-- A double-precision number, kept as its bits. -/
structure Binary64 where
  bits : UInt64
deriving DecidableEq, Inhabited

namespace Binary64

/-- What a bit pattern denotes; a finite value is `significand * 2 ^ exponent`. -/
inductive Value where
  | notANumber
  | infinite (negative : Bool)
  | finite (negative : Bool) (significand : Nat) (exponent : Int)
deriving DecidableEq

private def signBit : Nat := Nat.pow 2 63

/-- The bits of positive infinity, one past the largest finite magnitude. -/
private def infinityBits : Nat := 2047 * Nat.pow 2 52

/-- The bits without the sign. -/
def magnitude (x : Binary64) : Nat :=
  x.bits.toNat % signBit

def isNegative (x : Binary64) : Bool :=
  signBit ≤ x.bits.toNat

/-- Decode the bit pattern. -/
def value (x : Binary64) : Value :=
  let biased : Nat := x.magnitude / Nat.pow 2 52
  let fraction : Nat := x.magnitude % Nat.pow 2 52
  if biased = 2047 then
    if fraction = 0 then .infinite x.isNegative else .notANumber
  else if biased = 0 then .finite x.isNegative fraction (-1074)
  else .finite x.isNegative (Nat.pow 2 52 + fraction) ((biased : Int) - 1075)

def ofMagnitude (negative : Bool) (magnitude : Nat) : Binary64 :=
  ⟨UInt64.ofNat (if negative then signBit + magnitude else magnitude)⟩

def zero (negative : Bool) : Binary64 := ofMagnitude negative 0
def infinity (negative : Bool) : Binary64 := ofMagnitude negative infinityBits
def notANumber : Binary64 := ofMagnitude false (infinityBits + Nat.pow 2 51)

/-- The quotient rounded to an integer, a half going to the even neighbour. -/
def roundHalfEven (numerator denominator : Nat) : Nat :=
  let quotient := numerator / denominator
  let twice := 2 * (numerator % denominator)
  if twice > denominator ∨ (twice = denominator ∧ quotient % 2 = 1) then quotient + 1
  else quotient

/-- The ratio rounded after scaling by `2 ^ (-exponent)`. -/
private def roundScaled (numerator denominator : Nat) (exponent : Int) : Nat :=
  roundHalfEven (numerator * Nat.pow 2 (-exponent).toNat) (denominator * Nat.pow 2 exponent.toNat)

/-- The exponent at which the rounded significand of a ratio has fifty-three bits,
or the least exponent there is. -/
def ratioExponent (numerator denominator : Nat) : Int :=
  let low : Int := (Nat.log2 numerator : Int) - Nat.log2 denominator - 53
  let tooWide :=
    (numerator * Nat.pow 2 (-low).toNat) / (denominator * Nat.pow 2 low.toNat) ≥ Nat.pow 2 53
  max (if tooWide then low + 1 else low) (-1074)

/-- The nearest double of a ratio, ties to the even significand; magnitudes beyond
the largest finite value become infinite. -/
def ofRatio (negative : Bool) (numerator denominator : Nat) : Binary64 :=
  if numerator = 0 then zero negative
  else
    let exponent := ratioExponent numerator denominator
    let significand := roundScaled numerator denominator exponent
    ofMagnitude negative (min ((exponent + 1074).toNat * Nat.pow 2 52 + significand) infinityBits)

def ofNat (n : Nat) : Binary64 := ofRatio false n 1

def one : Binary64 := ⟨0x3FF0000000000000⟩

/-- The negation flips the sign bit. -/
def negate (x : Binary64) : Binary64 :=
  ofMagnitude (!x.isNegative) x.magnitude

def isNaN (x : Binary64) : Bool := infinityBits < x.magnitude
def isFinite (x : Binary64) : Bool := x.magnitude < infinityBits

/-- The rank of a number among all doubles; both zeros have rank zero. -/
def key? (x : Binary64) : Option Int :=
  if x.isNaN then none
  else some (if x.isNegative then -(x.magnitude : Int) else x.magnitude)

/-- `x ≤ y` as numbers; false when either is not a number. -/
def le (x y : Binary64) : Bool :=
  match x.key?, y.key? with
  | some a, some b => a ≤ b
  | _, _ => false

/-- `x < y` as numbers; false when either is not a number. -/
def lt (x y : Binary64) : Bool :=
  match x.key?, y.key? with
  | some a, some b => a < b
  | _, _ => false

private def scaleUp (significand : Nat) (exponent : Int) : Nat × Nat :=
  (significand * Nat.pow 2 exponent.toNat, Nat.pow 2 (-exponent).toNat)

/-- The rounded product. -/
def mul (x y : Binary64) : Binary64 :=
  let negative := x.isNegative != y.isNegative
  match x.value, y.value with
  | .notANumber, _ | _, .notANumber => notANumber
  | .infinite _, .finite _ 0 _ | .finite _ 0 _, .infinite _ => notANumber
  | .infinite _, _ | _, .infinite _ => infinity negative
  | .finite _ m e, .finite _ n f =>
    let (numerator, denominator) := scaleUp (m * n) (e + f)
    ofRatio negative numerator denominator

/-- The rounded quotient. -/
def div (x y : Binary64) : Binary64 :=
  let negative := x.isNegative != y.isNegative
  match x.value, y.value with
  | .notANumber, _ | _, .notANumber => notANumber
  | .infinite _, .infinite _ | .finite _ 0 _, .finite _ 0 _ => notANumber
  | .infinite _, _ | _, .finite _ 0 _ => infinity negative
  | _, .infinite _ => zero negative
  | .finite _ m e, .finite _ n f =>
    let (numerator, denominator) := scaleUp m (e - f)
    ofRatio negative numerator (denominator * n)

/-- The rounded sum. An exact zero is negative only when both terms are. -/
def add (x y : Binary64) : Binary64 :=
  match x.value, y.value with
  | .notANumber, _ | _, .notANumber => notANumber
  | .infinite s, .infinite t => if s = t then infinity s else notANumber
  | .infinite s, _ | _, .infinite s => infinity s
  | .finite s m e, .finite t n f =>
    let least := min e f
    let signed (negative : Bool) (k : Nat) : Int := if negative then -(k : Int) else k
    let total := signed s (m * Nat.pow 2 (e - least).toNat) +
      signed t (n * Nat.pow 2 (f - least).toNat)
    if total = 0 then zero (s && t)
    else
      let (numerator, denominator) := scaleUp total.natAbs least
      ofRatio (total < 0) numerator denominator

end Binary64

end ApiGateway
