import ApiGateway.Number.Binary64

/-!
# One as a ratio

The doubles that are numbers are in a total order by their keys, and a ratio of a number to
itself is exactly one, however large the number is (`ofRatio_self`).
-/

namespace ApiGateway.Binary64

/-- Of two numbers one is at most the other. -/
theorem le_of_not_lt {x y : Binary64} (xNumber : x.isNaN = false) (yNumber : y.isNaN = false)
    (notBelow : y.lt x = false) : x.le y = true := by
  simp only [lt, key?, xNumber, yNumber, Bool.false_eq_true, if_false, decide_eq_false_iff_not,
    Int.not_lt] at notBelow
  simp only [le, key?, xNumber, yNumber, Bool.false_eq_true, if_false, decide_eq_true_eq]
  exact notBelow

/-- A quotient that is whole needs no rounding. -/
theorem roundHalfEven_mul_left {n : Nat} (positive : 0 < n) (whole : Nat) :
    roundHalfEven (n * whole) n = whole := by
  have quotient : n * whole / n = whole := Nat.mul_div_cancel_left whole positive
  have remainder : n * whole % n = 0 := Nat.mul_mod_right n whole
  simp only [roundHalfEven, quotient, remainder]
  rw [if_neg]
  omega

/-- The significand of one has its leading bit only. -/
theorem ratioExponent_self {n : Nat} (positive : 0 < n) : ratioExponent n n = -52 := by
  have wide : n * Nat.pow 2 53 / n = Nat.pow 2 53 := Nat.mul_div_cancel_left _ positive
  have narrow : (Nat.log2 n : Int) - Nat.log2 n - 53 = -53 := by omega
  simp only [ratioExponent, narrow]
  have bound : n * Nat.pow 2 (- -53 : Int).toNat / (n * Nat.pow 2 (-53 : Int).toNat) ≥
      Nat.pow 2 53 := by
    simpa using Nat.le_of_eq wide.symm
  rw [if_pos bound]
  decide

theorem ofRatio_self {n : Nat} (positive : 0 < n) : ofRatio false n n = one := by
  have significand : roundHalfEven (n * Nat.pow 2 52) (n * Nat.pow 2 0) = Nat.pow 2 52 := by
    rw [show n * Nat.pow 2 0 = n from Nat.mul_one n]
    exact roundHalfEven_mul_left positive _
  simp only [ofRatio, Nat.ne_of_gt positive, if_false, ratioExponent_self positive]
  have rounded : ofMagnitude false (min (((-52 : Int) + 1074).toNat * Nat.pow 2 52 +
      roundHalfEven (n * Nat.pow 2 52) (n * Nat.pow 2 0)) (2047 * Nat.pow 2 52)) = one := by
    rw [significand]
    decide
  exact rounded

end ApiGateway.Binary64
