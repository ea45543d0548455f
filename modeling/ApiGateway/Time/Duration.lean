import ApiGateway.Number.Word
import ApiGateway.Text.Chars

/-!
# Lengths of time

A duration is a number of nanoseconds. Messages show it in the largest unit
that is at most the duration, with the fraction cut after its last non-zero digit.
-/

namespace ApiGateway

/-- A length of time in nanoseconds. -/
abbrev Duration := Nat

namespace Duration

def ofSeconds (n : Nat) : Duration := n * 1000000000
def ofMillis (n : Nat) : Duration := n * 1000000
def ofMicros (n : Nat) : Duration := n * 1000

/-- The longest duration: a 64-bit word of seconds and the nanoseconds of another one. -/
def longest : Duration := ofSeconds (Number.wordBound 64) - 1

/-- A multiple of a duration, cut to the longest one. -/
def saturatingMul (d : Duration) (n : Nat) : Duration := min (d * n) longest

/-- Whole milliseconds. -/
def toMillis (d : Duration) : Nat := d / 1000000

/-- A whole part and a fraction of `places` digits, without the fraction's trailing zeros. -/
private def decimalText (whole fraction places : Nat) : String :=
  let digits := Text.trimEndWith (· = '0') (Text.padZero places fraction)
  toString whole ++ (if digits.isEmpty then "" else "." ++ String.ofList digits)

/-- The duration as messages show it: `10s`, `1.5s`, `300ms`, `2.5µs`, `7ns`. -/
def text (d : Duration) : String :=
  if 1000000000 ≤ d then decimalText (d / 1000000000) (d % 1000000000) 9 ++ "s"
  else if 1000000 ≤ d then decimalText (d / 1000000) (d % 1000000) 6 ++ "ms"
  else if 1000 ≤ d then decimalText (d / 1000) (d % 1000) 3 ++ "µs"
  else toString d ++ "ns"

end Duration

end ApiGateway
