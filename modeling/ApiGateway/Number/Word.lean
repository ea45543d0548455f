/-!
# Machine words

Bounds of the numbers that fit a number of bits.
-/

namespace ApiGateway.Number

/-- One more than the greatest number of so many bits. -/
def wordBound (bits : Nat) : Nat := Nat.pow 2 bits

theorem wordBound_pos (bits : Nat) : 0 < wordBound bits :=
  Nat.pow_pos (by decide)

end ApiGateway.Number
