import ApiGateway.Number.Word
import ApiGateway.Text.Chars

/-!
# Labels in ASCII

A label with characters beyond ASCII is written as its ASCII characters followed
by the positions and values of the others, as variable-length numbers whose
digit thresholds adapt to the differences seen so far.
-/

namespace ApiGateway.Url.Punycode

def base : Nat := 36

def digitChar (value : Nat) : Char :=
  if value < 26 then Char.ofNat (97 + value) else Char.ofNat (48 + (value - 26))

def digitValue? (c : Char) : Option Nat :=
  if 'a' ≤ c ∧ c ≤ 'z' then some (c.toNat - 97)
  else if 'A' ≤ c ∧ c ≤ 'Z' then some (c.toNat - 65)
  else if '0' ≤ c ∧ c ≤ '9' then some (c.toNat - 48 + 26)
  else none

/-- Halve-down loop of the adaptation; every step divides by 35. -/
def adaptFrom (delta k : Nat) : Nat × Nat :=
  if _ : 455 < delta then adaptFrom (delta / 35) (k + base) else (delta, k)
termination_by delta
decreasing_by exact Nat.div_lt_self (by omega) (by omega)

/-- The threshold bias after a difference was written. -/
def adapt (delta points : Nat) (first : Bool) : Nat :=
  let damped := if first then delta / 700 else delta / 2
  let (rest, k) := adaptFrom (damped + damped / points) 0
  k + (base * rest) / (rest + 38)

/-- The digit threshold at position `k`: at least 1 and at most 26. -/
def threshold (k bias : Nat) : Nat :=
  if k ≤ bias + 1 then 1 else if bias + 26 ≤ k then 26 else k - bias

/-- A number as digits of adaptive weight; the fuel exceeds its number of digits. -/
def encodeNumber : Nat → Nat → Nat → Nat → List Char
  | 0, _, _, _ => []
  | fuel + 1, bias, k, number =>
    let t := threshold k bias
    if number < t then [digitChar number]
    else
      digitChar (t + (number - t) % (base - t)) ::
        encodeNumber fuel bias (k + base) ((number - t) / (base - t))

structure Encoder where
  output : List Char
  delta : Nat
  bias : Nat
  handled : Nat

/-- Write the occurrences of one code point, given in ascending order of code points. -/
def encodePoint (label : List Char) (basic point : Nat) (state : Encoder) : Encoder :=
  label.foldl (fun s c =>
    if c.toNat < point then { s with delta := s.delta + 1 }
    else if c.toNat = point then
      { output := s.output ++ encodeNumber 64 s.bias base s.delta
        delta := 0
        bias := adapt s.delta (s.handled + 1) (s.handled = basic)
        handled := s.handled + 1 }
    else s) state

def encodePoints (label : List Char) (basic : Nat) : List Nat → Nat → Encoder → Encoder
  | [], _, state => state
  | point :: rest, n, state =>
    let ready := { state with delta := state.delta + (point - n) * (state.handled + 1) }
    let written := encodePoint label basic point ready
    encodePoints label basic rest (point + 1) { written with delta := written.delta + 1 }

/-- The ASCII form of a label, without the marker in front. -/
def encode (label : List Char) : List Char :=
  let basic := label.filter fun c => c.toNat < 0x80
  let points := ((label.filter fun c => 0x80 ≤ c.toNat).map Char.toNat).mergeSort
  let start : Encoder :=
    ⟨basic ++ (if basic.isEmpty then [] else ['-']), 0, 72, basic.length⟩
  (encodePoints label basic.length points.eraseDups 0x80 start).output

/-- Read one number; the result is its value and the rest of the digits. -/
def decodeNumber (bias : Nat) : List Char → Nat → Nat → Nat → Option (Nat × List Char)
  | [], _, _, _ => none
  | c :: rest, k, weight, value => do
    let digit ← digitValue? c
    let total := value + digit * weight
    if total ≥ Number.wordBound 32 then none
    else
      let t := threshold k bias
      if digit < t then some (total, rest)
      else decodeNumber bias rest (k + base) (weight * (base - t)) total

def insertAt (index : Nat) (c : Char) (label : List Char) : List Char :=
  label.take index ++ c :: label.drop index

/-- Insert the encoded code points; the fuel bounds their number. -/
def decodePoints : Nat → List Char → List Char → Nat → Nat → Nat → Option (List Char)
  | _, [], label, _, _, _ => some label
  | 0, _ :: _, _, _, _, _ => none
  | fuel + 1, digits, label, point, index, bias => do
    let (delta, rest) ← decodeNumber bias digits base 1 0
    let count := label.length + 1
    let position := index + delta
    let next := point + position / count
    if 0x10FFFF < next ∨ (0xD800 ≤ next ∧ next < 0xE000) then none
    else
      decodePoints fuel rest (insertAt (position % count) (Char.ofNat next) label) next
        (position % count + 1) (adapt delta count (index = 0))

/-- The label that an ASCII form, without the marker, stands for. -/
def decode? (text : List Char) : Option (List Char) :=
  let (basic, digits) := match Text.splitAtLast? '-' text with
    | some (c :: before, after) => (c :: before, after)
    | _ => ([], text)
  if basic.all fun c => c.toNat < 0x80 then
    decodePoints (digits.length + 1) digits basic 0x80 0 72
  else none

end ApiGateway.Url.Punycode
