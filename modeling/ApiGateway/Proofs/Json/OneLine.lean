import ApiGateway.Proofs.Json.NumberText
import ApiGateway.Proofs.Json.QuotedText

/-!
# Documents on one line

The compact form of a document has no character below U+0020, whatever the texts in it
(`visible_compactChars`). So it has no line break, and lines that each hold such a document are
found again by cutting at the line breaks.
-/

namespace ApiGateway

namespace Text

/-- No character below U+0020: none that ends a line. -/
def Visible (text : List Char) : Prop := ∀ c ∈ text, 0x20 ≤ c.toNat

instance (text : List Char) : Decidable (Visible text) :=
  List.decidableBAll (fun c : Char => 0x20 ≤ c.toNat) text

theorem visible_append {front back : List Char} :
    Visible (front ++ back) ↔ Visible front ∧ Visible back :=
  List.forall_mem_append

theorem visible_cons {c : Char} {text : List Char} :
    Visible (c :: text) ↔ 0x20 ≤ c.toNat ∧ Visible text :=
  List.forall_mem_cons

theorem visible_nil : Visible [] := nofun

theorem visible_of_isDigit {text : List Char} (digits : ∀ c ∈ text, c.isDigit = true) :
    Visible text := by
  intro c member
  have digit := digits c member
  simp only [Char.isDigit, Bool.and_eq_true, decide_eq_true_eq] at digit
  exact Nat.le_trans (by decide) digit.1

theorem visible_toDigits (n : Nat) : Visible (Nat.toDigits 10 n) :=
  visible_of_isDigit fun _ => isDigit_of_mem_toDigits

theorem visible_toString_int (value : Int) : Visible (toString value).toList := by
  rw [Json.toList_toString_int]
  split
  · exact visible_cons.mpr ⟨by decide, visible_toDigits _⟩
  · exact visible_toDigits _

theorem visible_replicate_zero (n : Nat) : Visible (List.replicate n '0') := by
  intro c member
  rw [List.eq_of_mem_replicate member]
  decide

theorem Visible.not_mem {text : List Char} (visible : Visible text) {c : Char}
    (control : c.toNat < 0x20) : c ∉ text :=
  fun member => Nat.not_lt.mpr (visible c member) control

end Text

namespace Number

open Text

theorem Decimal.visible_strip {digits : List Char} (visible : Visible digits) (exponent : Int) :
    Visible (Decimal.strip digits exponent).digits :=
  fun c member => visible c (List.mem_of_mem_take member)

theorem Decimal.visible_shortest (m : Nat) (e : Int) : Visible (Decimal.shortest m e).digits := by
  unfold Decimal.shortest
  extract_lets k
  -- the search is put out of sight, or it is evaluated to no end
  generalize List.findSome? (fun n => onGrid m e k (n + 1)) (List.range 17) = found
  cases found with
  | none => exact visible_strip (visible_toDigits _) _
  | some grid => exact visible_strip (visible_toDigits _) _

theorem Decimal.visible_positional {d : Decimal} (digits : Visible d.digits) {unit : String}
    (ends : Visible unit.toList) : Visible (d.positional unit).toList := by
  simp only [Decimal.positional]
  split
  · rw [String.toList_append, String.toList_ofList, visible_append, visible_append]
    exact ⟨⟨digits, visible_replicate_zero _⟩, ends⟩
  · split
    · simp only [String.toList_append, String.toList_ofList, visible_append]
      exact ⟨⟨fun c member => digits c (List.mem_of_mem_take member), by decide⟩,
        fun c member => digits c (List.mem_of_mem_drop member)⟩
    · simp only [String.toList_append, String.toList_ofList, visible_append]
      exact ⟨by decide, visible_replicate_zero _, digits⟩

theorem Decimal.visible_scientific {d : Decimal} (digits : Visible d.digits) :
    Visible d.scientific.toList := by
  have exponent (x : Int) : Visible ("e" ++ toString x).toList := by
    rw [String.toList_append, visible_append]
    exact ⟨by decide, visible_toString_int x⟩
  simp only [Decimal.scientific, String.append_assoc]
  split
  · decide
  · next digit cut =>
    rw [cut, visible_cons] at digits
    rw [String.toList_append, visible_append]
    exact ⟨by simpa [Visible] using digits.1, exponent _⟩
  · next digit rest _ cut =>
    rw [cut, visible_cons] at digits
    rw [String.toList_append, String.toList_ofList, visible_append, visible_cons, visible_cons]
    exact ⟨⟨digits.1, by decide, digits.2⟩, exponent _⟩

theorem visible_plainText (x : Binary64) : Visible (plainText x).toList := by
  have sign : Visible (if x.isNegative then "-" else "").toList := by
    split <;> decide
  simp only [plainText]
  split
  · decide
  · rw [String.toList_append, visible_append]
    exact ⟨sign, by decide⟩
  · rw [String.toList_append, visible_append]
    exact ⟨sign, by decide⟩
  · rw [String.toList_append, visible_append]
    exact ⟨sign, Decimal.visible_positional (Decimal.visible_shortest _ _) (by decide)⟩

theorem visible_jsonText (x : Binary64) : Visible (jsonText x).toList := by
  have sign : Visible (if x.isNegative then "-" else "").toList := by
    split <;> decide
  simp only [jsonText]
  split
  · decide
  · decide
  · rw [String.toList_append, visible_append]
    exact ⟨sign, by decide⟩
  · rw [String.toList_append, visible_append]
    refine ⟨sign, ?_⟩
    split
    · exact Decimal.visible_positional (Decimal.visible_shortest _ _) (by decide)
    · exact Decimal.visible_scientific (Decimal.visible_shortest _ _)

end Number

namespace Json

open Text

theorem WrittenAs.visible {c : Char} {written : List Char} (form : WrittenAs c written) :
    Visible written := by
  cases form with
  | letter plain decoded visible =>
      simp only [visible_cons]
      exact ⟨by decide, visible, visible_nil⟩
  | number control =>
      have digits : ∀ digit : Fin 16, 0x20 ≤ (Text.hexDigit false digit).toNat := by decide
      simp only [visible_cons]
      exact ⟨by decide, by decide, by decide, by decide, digits ⟨c.toNat / 16, by omega⟩,
        digits ⟨c.toNat % 16, by omega⟩, visible_nil⟩
  | itself quote backslash visible =>
      exact visible_cons.mpr ⟨visible, visible_nil⟩

theorem visible_quote (text : List Char) : Visible (quote text) := by
  rw [quote, visible_cons, visible_append]
  refine ⟨by decide, fun part member => ?_, by decide⟩
  obtain ⟨c, -, written⟩ := List.mem_flatMap.mp member
  exact (writtenAs_escapeChar c).visible part written

mutual

/-- A compact document has no control character, whatever its texts are. -/
theorem visible_compactChars : ∀ document : Json, Visible (compactChars document)
  | .null => by decide
  | .bool value => by cases value <;> decide
  | .integer value => visible_toString_int value
  | .real value => Number.visible_jsonText value
  | .string text => visible_quote text.toList
  | .array items => by
      rw [compactChars, visible_cons, visible_append]
      exact ⟨by decide, visible_compactItems items, by decide⟩
  | .object members => by
      rw [compactChars, visible_cons, visible_append]
      exact ⟨by decide, visible_compactMembers members, by decide⟩
  | .unreadable => by decide

theorem visible_compactItems : ∀ items : List Json, Visible (compactItems items)
  | [] => visible_nil
  | [item] => visible_compactChars item
  | item :: next :: rest => by
      rw [compactItems, visible_append, visible_cons]
      exact ⟨visible_compactChars item, by decide, visible_compactItems (next :: rest)⟩

theorem visible_compactMembers : ∀ members : List (String × Json), Visible (compactMembers members)
  | [] => visible_nil
  | [(name, value)] => by
      rw [compactMembers, visible_append, visible_cons]
      exact ⟨visible_quote _, by decide, visible_compactChars value⟩
  | (name, value) :: next :: rest => by
      rw [compactMembers, visible_append, visible_cons, visible_append, visible_cons]
      exact ⟨visible_quote _, by decide, visible_compactChars value, by decide,
        visible_compactMembers (next :: rest)⟩

end

end Json

end ApiGateway
