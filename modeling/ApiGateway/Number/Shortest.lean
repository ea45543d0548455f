import ApiGateway.Number.Binary64

/-!
# The fewest decimal digits that read back

`digits?` finds, for a finite double, the shortest decimal in its rounding
interval, nearest first. `Notation` records how such a decimal is laid out;
`plain` and `json` are the two layouts that the gateway writes.
-/

namespace ApiGateway.Number

/-- The decimal `digits * 10 ^ exponent`, the digits most significant first. -/
structure Decimal where
  digits : List Char
  exponent : Int

namespace Decimal

/-- Compare `a * 10 ^ i` with `n * 2 ^ j` exactly. -/
private def compareScaled (a : Nat) (i : Int) (n : Nat) (j : Int) : Ordering :=
  compare (a * Nat.pow 10 i.toNat * Nat.pow 2 (-j).toNat)
    (n * Nat.pow 2 j.toNat * Nat.pow 10 (-i).toNat)

/-- Does the decimal `a * 10 ^ i` round to the double `m * 2 ^ e`? The reals that do
reach halfway to both neighbours, ends included when `m` is even. -/
def roundsTo (m : Nat) (e : Int) (a : Nat) (i : Int) : Bool :=
  let narrowBelow := m = Nat.pow 2 52 ∧ e > -1074
  let low := if narrowBelow then 4 * m - 1 else 4 * m - 2
  let high := 4 * m + 2
  let closed := m % 2 = 0
  let atLow := compareScaled a i low (e - 2)
  let atHigh := compareScaled a i high (e - 2)
  (atLow == .gt || (closed && atLow == .eq)) && (atHigh == .lt || (closed && atHigh == .eq))

/-- The least `k` with `m * 2 ^ e < 10 ^ k`, searched upwards from below. -/
def scale (m : Nat) (e : Int) : Int :=
  let estimate : Int := ((Nat.log2 m + e) * 30103 / 100000) - 1
  let candidates := (List.range 5).map fun offset : Nat => estimate + (offset : Int)
  (candidates.find? fun k => compareScaled 1 k m e == .gt).getD (estimate + 5)

/-- On the grid of `n` digits, the nearest grid point that rounds to `m * 2 ^ e`. -/
def onGrid (m : Nat) (e k : Int) (n : Nat) : Option (Nat × Int) :=
  let step := k - (n : Int)
  let numerator := m * Nat.pow 2 e.toNat * Nat.pow 10 (-step).toNat
  let denominator := Nat.pow 2 (-e).toNat * Nat.pow 10 step.toNat
  let below := numerator / denominator
  let remainder := numerator % denominator
  let low := roundsTo m e below step
  let high := roundsTo m e (below + 1) step
  if low && high then
    let belowIsNearer := 2 * remainder < denominator ∨ (2 * remainder = denominator ∧ below % 2 = 0)
    some (if belowIsNearer then below else below + 1, step)
  else if low then some (below, step)
  else if high then some (below + 1, step)
  else none

/-- Move trailing zeros of the digits into the exponent. -/
def strip (digits : List Char) (exponent : Int) : Decimal :=
  let zeros := digits.reverse.takeWhile (· = '0')
  ⟨digits.take (digits.length - zeros.length), exponent + zeros.length⟩

/-- The shortest decimal that rounds to `m * 2 ^ e`, for `m > 0`. -/
def shortest (m : Nat) (e : Int) : Decimal :=
  let k := scale m e
  match (List.range 17).findSome? fun n => onGrid m e k (n + 1) with
  | some (a, exponent) => strip (Nat.toDigits 10 a) exponent
  | none => strip (Nat.toDigits 10 (m * Nat.pow 2 e.toNat * Nat.pow 5 (-e).toNat)) (min e 0)

/-- Write the decimal without an exponent; `unit` follows a whole number. -/
def positional (d : Decimal) (unit : String) : String :=
  if 0 ≤ d.exponent then
    String.ofList (d.digits ++ List.replicate d.exponent.toNat '0') ++ unit
  else
    let places := (-d.exponent).toNat
    if places < d.digits.length then
      String.ofList (d.digits.take (d.digits.length - places)) ++ "." ++
        String.ofList (d.digits.drop (d.digits.length - places))
    else
      "0." ++ String.ofList (List.replicate (places - d.digits.length) '0' ++ d.digits)

/-- Write the decimal with one digit before the point and an exponent. -/
def scientific (d : Decimal) : String :=
  let exponent := d.exponent + d.digits.length - 1
  match d.digits with
  | [] => "0"
  | [digit] => String.singleton digit ++ "e" ++ toString exponent
  | digit :: rest => String.ofList (digit :: '.' :: rest) ++ "e" ++ toString exponent

end Decimal

/-- Messages and metrics write a double positionally, however large or small. -/
def plainText (x : Binary64) : String :=
  let sign := if x.isNegative then "-" else ""
  match x.value with
  | .notANumber => "NaN"
  | .infinite _ => sign ++ "inf"
  | .finite _ 0 _ => sign ++ "0"
  | .finite _ m e => sign ++ (Decimal.shortest m e).positional ""

/-- JSON documents write a finite double positionally from `1e-5` up to `1e16`, a whole
number with `.0`, and with an exponent outside that range. -/
def jsonText (x : Binary64) : String :=
  let sign := if x.isNegative then "-" else ""
  match x.value with
  | .notANumber | .infinite _ => "null"
  | .finite _ 0 _ => sign ++ "0.0"
  | .finite _ m e =>
    let d := Decimal.shortest m e
    let point := d.exponent + d.digits.length
    sign ++ (if -5 < point ∧ point ≤ 16 then d.positional ".0" else d.scientific)

end ApiGateway.Number
