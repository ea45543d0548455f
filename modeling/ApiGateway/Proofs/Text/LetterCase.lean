import ApiGateway.Text.Chars
import Mathlib.Data.List.Forall2

/-!
# Letters in either case

Texts are compared without regard to case by folding both to lower case. Against a word of
small letters that is the same as reading the text letter by letter, each as the small letter
or as its capital (`sameIgnoringCase_iff_spells`). No other character passes for a letter.
-/

namespace ApiGateway.Text

/-- A small letter, or its capital. -/
def IsCaseOf (letter c : Char) : Prop := c = letter ∨ c = letter.toUpper

/-- A text that is a word of small letters, but for the case of its letters. -/
def Spells (word text : List Char) : Prop := List.Forall₂ IsCaseOf word text

theorem toNat_toLower (c : Char) :
    c.toLower.toNat = if 65 ≤ c.toNat ∧ c.toNat ≤ 90 then c.toNat + 32 else c.toNat := by
  have distance : ('a'.val - 'A'.val).toNat = 32 := rfl
  have isCapital : (c.val ≥ 'A'.val ∧ c.val ≤ 'Z'.val) ↔ (65 ≤ c.toNat ∧ c.toNat ≤ 90) := Iff.rfl
  by_cases capital : 65 ≤ c.toNat ∧ c.toNat ≤ 90
  · delta Char.toLower
    rw [dif_pos (isCapital.mpr capital), if_pos capital, Char.toNat, UInt32.toNat_add, distance]
    exact Nat.mod_eq_of_lt (by simp only [Char.toNat] at capital; omega)
  · delta Char.toLower
    rw [dif_neg (isCapital.not.mpr capital), if_neg capital]

theorem toNat_toUpper (c : Char) :
    c.toUpper.toNat = if 97 ≤ c.toNat ∧ c.toNat ≤ 122 then c.toNat - 32 else c.toNat := by
  -- The distance between the cases is negative, so it is added as a word that wraps around.
  have distance : ('A'.val - 'a'.val).toNat = 2 ^ 32 - 32 := rfl
  have isSmall : ('a'.val ≤ c.val ∧ c.val ≤ 'z'.val) ↔ (97 ≤ c.toNat ∧ c.toNat ≤ 122) := Iff.rfl
  by_cases small : 97 ≤ c.toNat ∧ c.toNat ≤ 122
  · delta Char.toUpper
    rw [dif_pos (isSmall.mpr small), if_pos small, Char.toNat, UInt32.toNat_add, distance]
    simp only [Char.toNat] at small ⊢
    omega
  · delta Char.toUpper
    rw [dif_neg (isSmall.not.mpr small), if_neg small]

/-- A character is folded to a small letter exactly if it is that letter or its capital. -/
theorem toLower_eq_iff {letter c : Char} (small : letter.isLower = true) :
    c.toLower = letter ↔ IsCaseOf letter c := by
  obtain ⟨least, most⟩ := Bool.and_eq_true_iff.mp small
  have bounds : 97 ≤ letter.toNat ∧ letter.toNat ≤ 122 :=
    ⟨of_decide_eq_true least, of_decide_eq_true most⟩
  rw [IsCaseOf, ← Char.toNat_inj, ← Char.toNat_inj, ← Char.toNat_inj, toNat_toLower,
    toNat_toUpper, if_pos bounds]
  split <;> omega

/-- Folding changes capitals only. -/
theorem toLower_eq_self {c : Char} (small : c.isUpper = false) : c.toLower = c := by
  have noCapital : ¬ (65 ≤ c.toNat ∧ c.toNat ≤ 90) := of_decide_eq_false small
  exact Char.toNat_inj.mp ((toNat_toLower c).trans (if_neg noCapital))

section Words

variable {word : List Char} (small : ∀ letter ∈ word, letter.isLower = true) {text : List Char}
include small

/-- A text is folded to a word of small letters exactly if it spells the word. -/
theorem lowerAscii_eq_iff_spells : lowerAscii text = word ↔ Spells word text := by
  induction word generalizing text with
  | nil => rw [lowerAscii, List.map_eq_nil_iff, Spells, List.forall₂_nil_left_iff]
  | cons letter rest inductionHypothesis =>
      rw [List.forall_mem_cons] at small
      cases text with
      | nil => exact ⟨nofun, nofun⟩
      | cons c others =>
          rw [Spells, List.forall₂_cons, ← toLower_eq_iff small.1,
            ← Spells, ← inductionHypothesis small.2, lowerAscii, List.map_cons, List.cons.injEq]
          rfl

/-- Equality without regard to case, against a word of small letters. -/
theorem sameIgnoringCase_iff_spells : sameIgnoringCase text word = true ↔ Spells word text := by
  have folded : lowerAscii word = word :=
    (lowerAscii_eq_iff_spells small).mpr (List.forall₂_same.mpr fun _ _ => .inl rfl)
  rw [sameIgnoringCase, decide_eq_true_eq, folded, lowerAscii_eq_iff_spells small]

end Words

end ApiGateway.Text
