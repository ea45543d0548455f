import ApiGateway.Text.Chars

/-!
# White space

`isBlank` is the Unicode property of white space, which trims names, modes and
header items. It has twenty-five characters.
-/

namespace ApiGateway.Text

/-- A character with the property of white space. -/
def isBlank (c : Char) : Bool :=
  let n := c.toNat
  (9 ≤ n && n ≤ 13) || n = 0x20 || n = 0x85 || n = 0xA0 || n = 0x1680 ||
    (0x2000 ≤ n && n ≤ 0x200A) || n = 0x2028 || n = 0x2029 || n = 0x202F ||
    n = 0x205F || n = 0x3000

/-- Drop white space at both ends. -/
def trim (text : List Char) : List Char :=
  trimWith isBlank text

theorem trim_cons_blank {c : Char} (blank : isBlank c = true) (text : List Char) :
    trim (c :: text) = trim text := by
  rw [trim, trimWith, List.dropWhile_cons_of_pos blank]
  rfl

/-- A text without white space stays as it is. -/
theorem trim_of_dense {text : List Char} (dense : ∀ c ∈ text, isBlank c = false) :
    trim text = text := by
  have kept {text : List Char} (dense : ∀ c ∈ text, isBlank c = false) :
      text.dropWhile isBlank = text := by
    cases text with
    | nil => rfl
    | cons c rest =>
        have first : ¬ isBlank c = true := by simp [dense c List.mem_cons_self]
        exact List.dropWhile_cons_of_neg first
  have reversed : ∀ c ∈ text.reverse, isBlank c = false := fun c member =>
    dense c (List.mem_reverse.mp member)
  rw [trim, trimWith, kept dense, kept reversed, List.reverse_reverse]

/-- Nothing is left of white space only. -/
theorem trim_eq_nil_iff {text : List Char} : trim text = [] ↔ ∀ c ∈ text, isBlank c = true := by
  have ends : trim text = trimEndWith isBlank (text.dropWhile isBlank) := rfl
  rw [ends, trimEndWith_eq_nil_iff]
  clear ends
  induction text with
  | nil => simp
  | cons c rest inductionHypothesis =>
      by_cases first : isBlank c = true
      · simp only [List.dropWhile_cons_of_pos first, inductionHypothesis, List.forall_mem_cons,
          first, true_and]
      · rw [List.dropWhile_cons_of_neg first]

end ApiGateway.Text
