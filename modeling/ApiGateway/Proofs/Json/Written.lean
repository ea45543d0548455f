import ApiGateway.Proofs.Json.Decoding
import ApiGateway.Proofs.Json.NumberText
import ApiGateway.Proofs.Json.QuotedText

/-!
# Documents and their text

`Written` is the grammar of a document, blanks included, as a relation between what is meant and
the characters. What is written is read (`scans_of_written`), and both printers write what the
document means when each of its numbers can be read back (`Readable`). So a document survives
being printed and parsed (`parse?_compact`, `parse?_pretty`).
-/

namespace ApiGateway.Json

/-! ## The grammar -/

/-- A value with no other value in it. -/
inductive Atom : Json → List Char → Prop where
  | null : Atom .null (word "null")
  | bool (value : Bool) : Atom (.bool value) (word (if value then "true" else "false"))
  | number {document : Json} {text : List Char} (scanned : scanNumber? text = some (document, [])) :
      Atom document text
  | string (text : String) : Atom (.string text) (quote text.toList)

/-- What a text stands for: one value, or the inside of an array or of an object up to and with
its closing bracket. -/
inductive Form where
  | value (document : Json)
  | items (items : List Json)
  | members (members : List (String × Json))

/-- Blanks only. -/
def Blanks (text : List Char) : Prop := ∀ c ∈ text, isBlank c = true

/-- The texts of a form. Blanks may stand before every value, before a name and before a closing
bracket. -/
inductive Written : Form → List Char → Prop where
  | blank {form : Form} {text : List Char} {c : Char} (blank : isBlank c = true)
      (behind : Written form text) : Written form (c :: text)
  | atom {document : Json} {text : List Char} (atom : Atom document text) :
      Written (.value document) text
  | emptyArray : Written (.value (.array [])) ['[', ']']
  | array {items : List Json} {text : List Char} (inside : Written (.items items) text) :
      Written (.value (.array items)) ('[' :: text)
  | emptyObject : Written (.value (.object [])) ['\x7b', '\x7d']
  | object {members : List (String × Json)} {text : List Char}
      (inside : Written (.members members) text) :
      Written (.value (.object members)) ('\x7b' :: text)
  | lastItem {item : Json} {text gap : List Char} (value : Written (.value item) text)
      (blanks : Blanks gap) : Written (.items [item]) (text ++ (gap ++ [']']))
  | nextItem {item : Json} {items : List Json} {text others : List Char}
      (value : Written (.value item) text) (behind : Written (.items items) others) :
      Written (.items (item :: items)) (text ++ ',' :: others)
  | lastMember {name : String} {value : Json} {text gap : List Char}
      (written : Written (.value value) text) (blanks : Blanks gap) :
      Written (.members [(name, value)])
        (quote name.toList ++ ':' :: (text ++ (gap ++ ['\x7d'])))
  | nextMember {name : String} {value : Json} {members : List (String × Json)}
      {text others : List Char} (written : Written (.value value) text)
      (behind : Written (.members members) others) :
      Written (.members ((name, value) :: members))
        (quote name.toList ++ ':' :: (text ++ ',' :: others))

/-! ## Reading what is written -/

/-- Every value has a first character to tell it by. -/
theorem Atom.ne_nil {document : Json} {text : List Char} (atom : Atom document text) :
    text ≠ [] := by
  cases atom with
  | null => decide
  | bool value => cases value <;> decide
  | number scanned =>
      obtain ⟨c, rest, rfl, -⟩ := head_of_scanNumber? scanned
      exact List.cons_ne_nil _ _
  | string text => exact List.cons_ne_nil _ _

theorem skipBlanks_of_blank {c : Char} (blank : isBlank c = true) (text : List Char) :
    skipBlanks (c :: text) = skipBlanks text := by
  simp [skipBlanks, blank]

theorem skipBlanks_of_not_blank {c : Char} (visible : isBlank c = false) (text : List Char) :
    skipBlanks (c :: text) = c :: text := by
  simp [skipBlanks, visible]

/-- Blanks in front are skipped, however many. -/
theorem skipBlanks_append {gap : List Char} (blanks : Blanks gap) (text : List Char) :
    skipBlanks (gap ++ text) = skipBlanks text :=
  List.dropWhile_append_of_pos blanks

/-- No number goes on with a blank. -/
theorem EndsNumber.of_blank {c : Char} (blank : isBlank c = true) (rest : List Char) :
    EndsNumber (c :: rest) := by
  refine .cons ?_ rest
  simp only [isBlank, Bool.or_eq_true, decide_eq_true_eq] at blank
  obtain ((rfl | rfl) | rfl) | rfl := blank <;> decide

/-- Nor does it go on behind blanks, whatever follows them. -/
theorem EndsNumber.append {gap rest : List Char} (blanks : Blanks gap) (ends : EndsNumber rest) :
    EndsNumber (gap ++ rest) := by
  cases gap with
  | nil => exact ends
  | cons c gap => exact .of_blank (blanks c List.mem_cons_self) _

/-- A blank in front of a value is skipped without fuel. -/
theorem scanValue?_blank {c : Char} (blank : isBlank c = true) (fuel : Nat) (text : List Char) :
    scanValue? fuel (c :: text) = scanValue? fuel text := by
  cases fuel with
  | zero => rfl
  | succ fuel => simp only [scanValue?, skipBlanks_of_blank blank]

theorem scanItems?_blank {c : Char} (blank : isBlank c = true) (fuel : Nat) (text : List Char) :
    scanItems? fuel (c :: text) = scanItems? fuel text := by
  cases fuel with
  | zero => rfl
  | succ fuel => simp only [scanItems?, scanValue?_blank blank]

theorem scanMembers?_blank {c : Char} (blank : isBlank c = true) (fuel : Nat)
    (text : List Char) : scanMembers? fuel (c :: text) = scanMembers? fuel text := by
  cases fuel with
  | zero => rfl
  | succ fuel => simp only [scanMembers?, skipBlanks_of_blank blank]

/-- A word is read off a text that begins with it. -/
theorem scanWord?_append (expected : String) (value : Json) (rest : List Char) :
    scanWord? expected value (word expected ++ rest) = some (value, rest) := by
  rw [scanWord?, word, Text.dropPrefix?_eq_some_iff.mpr rfl]
  rfl

section NumberStart

variable {c : Char} (first : c = '-' ∨ c.isDigit = true)
include first

theorem ne_of_startsNumber (d : Char) (minus : d ≠ '-') (noDigit : d.isDigit = false) :
    c ≠ d := by
  rintro rfl
  rcases first with same | digit
  · exact minus same
  · rw [noDigit] at digit
    cases digit

/-- No number starts with a blank. -/
theorem isBlank_of_startsNumber : isBlank c = false := by
  have other := ne_of_startsNumber first
  simp [isBlank, other ' ' (by decide) (by decide), other '\n' (by decide) (by decide),
    other '\t' (by decide) (by decide), other '\r' (by decide) (by decide)]

/-- What begins like a number is read as one. -/
theorem scanValue?_number (fuel : Nat) (rest : List Char) :
    scanValue? (fuel + 1) (c :: rest) = scanNumber? (c :: rest) := by
  have other := ne_of_startsNumber first
  simp only [scanValue?, skipBlanks_of_not_blank (isBlank_of_startsNumber first),
    other '"' (by decide) (by decide), other '[' (by decide) (by decide),
    other '\x7b' (by decide) (by decide), other 'n' (by decide) (by decide),
    other 't' (by decide) (by decide), other 'f' (by decide) (by decide), if_false]

end NumberStart

/-- A value without other values in it is read, and what follows is left. -/
theorem scanValue?_atom {document : Json} {text rest : List Char} (atom : Atom document text)
    (ends : EndsNumber rest) (fuel : Nat) :
    scanValue? (fuel + 1) (text ++ rest) = some (document, rest) := by
  cases atom with
  | null => exact scanWord?_append "null" .null rest
  | bool value =>
      cases value with
      | true => exact scanWord?_append "true" (.bool true) rest
      | false => exact scanWord?_append "false" (.bool false) rest
  | number scanned =>
      obtain ⟨c, tail, rfl, first⟩ := head_of_scanNumber? scanned
      rw [List.cons_append, scanValue?_number first, ← List.cons_append, scanNumber?_append ends,
        scanned]
      rfl
  | string text =>
      rw [quote, List.cons_append, List.append_assoc, scanValue?,
        skipBlanks_of_not_blank (by decide)]
      simp [scanString?_quoted]

/-- Behind its blanks a text begins with no closing bracket. -/
theorem exists_skipBlanks_of_written {form : Form} {text : List Char}
    (written : Written form text) (rest : List Char) :
    ∃ c tail, skipBlanks (text ++ rest) = c :: tail ∧ c ≠ ']' ∧ c ≠ '\x7d' := by
  induction written generalizing rest with
  | blank blank behind inductionHypothesis =>
      rw [List.cons_append, skipBlanks_of_blank blank]
      exact inductionHypothesis rest
  | atom atom =>
      cases atom with
      | null => exact ⟨'n', _, rfl, by decide⟩
      | bool value =>
          cases value with
          | true => exact ⟨'t', _, rfl, by decide⟩
          | false => exact ⟨'f', _, rfl, by decide⟩
      | number scanned =>
          obtain ⟨c, tail, rfl, first⟩ := head_of_scanNumber? scanned
          rw [List.cons_append, skipBlanks_of_not_blank (isBlank_of_startsNumber first)]
          have other := ne_of_startsNumber first
          exact ⟨c, _, rfl, other ']' (by decide) (by decide), other '\x7d' (by decide) (by decide)⟩
      | string text => exact ⟨'"', _, rfl, by decide⟩
  | emptyArray => exact ⟨'[', _, rfl, by decide⟩
  | array inside => exact ⟨'[', _, rfl, by decide⟩
  | emptyObject => exact ⟨'\x7b', _, rfl, by decide⟩
  | object inside => exact ⟨'\x7b', _, rfl, by decide⟩
  | lastItem value blanks inductionHypothesis =>
      rw [List.append_assoc]
      exact inductionHypothesis _
  | nextItem value behind inductionHypothesis =>
      rw [List.append_assoc]
      exact inductionHypothesis _
  | lastMember written blanks => exact ⟨'"', _, rfl, by decide⟩
  | nextMember written behind => exact ⟨'"', _, rfl, by decide⟩

/-- Members that all have names are those of an object. -/
theorem objectOf_map_some (members : List (String × Json)) :
    objectOf (members.map fun member => (some member.1, member.2)) = .object members := by
  have named : (members.map fun member => (some member.1, member.2)).mapM
      (fun member => member.1.map (·, member.2)) = some (members.map id) :=
    mapM_map_eq_some fun _ _ => rfl
  rw [List.map_id] at named
  rw [objectOf]
  split
  · next others found => rw [Option.some.inj (found.symm.trans named)]
  · next missing => cases missing.symm.trans named

section Scanners

variable {fuel : Nat} {text rest : List Char}

/-- An array is read by reading its items, if it is not closed at once. -/
theorem scanValue?_array {items : List Json}
    (opened : ∃ c tail, skipBlanks text = c :: tail ∧ c ≠ ']' ∧ c ≠ '\x7d')
    (scanned : scanItems? fuel text = some (items, rest)) :
    scanValue? (fuel + 1) ('[' :: text) = some (.array items, rest) := by
  obtain ⟨c, tail, begins, notClosed, -⟩ := opened
  rw [scanValue?, skipBlanks_of_not_blank (by decide)]
  simp [begins, notClosed, scanned]

/-- An object is read by reading its members, if it is not closed at once. -/
theorem scanValue?_object {members : List (String × Json)}
    (opened : ∃ c tail, skipBlanks text = c :: tail ∧ c ≠ ']' ∧ c ≠ '\x7d')
    (scanned : scanMembers? fuel text =
      some (members.map fun member => (some member.1, member.2), rest)) :
    scanValue? (fuel + 1) ('\x7b' :: text) = some (.object members, rest) := by
  obtain ⟨c, tail, begins, -, notClosed⟩ := opened
  rw [scanValue?, skipBlanks_of_not_blank (by decide)]
  simp [begins, notClosed, scanned, objectOf_map_some]

/-- The last item is followed by the closing bracket, with blanks between. -/
theorem scanItems?_last {item : Json} {gap : List Char} (blanks : Blanks gap)
    (scanned : scanValue? fuel text = some (item, gap ++ ']' :: rest)) :
    scanItems? (fuel + 1) text = some ([item], rest) := by
  rw [scanItems?, scanned]
  simp [skipBlanks_append blanks, skipBlanks_of_not_blank (show isBlank ']' = false by decide)]

/-- Any other item is followed by a comma and more items. -/
theorem scanItems?_next {item : Json} {items : List Json} {others : List Char}
    (scanned : scanValue? fuel text = some (item, ',' :: others))
    (behind : scanItems? fuel others = some (items, rest)) :
    scanItems? (fuel + 1) text = some (item :: items, rest) := by
  rw [scanItems?, scanned]
  simp [skipBlanks_of_not_blank (show isBlank ',' = false by decide), behind]

/-- The last member is followed by the closing brace, with blanks between. -/
theorem scanMembers?_last {name : String} {value : Json} {gap : List Char} (blanks : Blanks gap)
    (scanned : scanValue? fuel text = some (value, gap ++ '\x7d' :: rest)) :
    scanMembers? (fuel + 1) (quote name.toList ++ ':' :: text) =
      some ([(some name, value)], rest) := by
  rw [quote, List.cons_append, List.append_assoc, scanMembers?,
    skipBlanks_of_not_blank (by decide)]
  simp [scanString?_quoted, skipBlanks_of_not_blank (show isBlank ':' = false by decide), scanned,
    skipBlanks_append blanks, skipBlanks_of_not_blank (show isBlank '\x7d' = false by decide)]

/-- Any other member is followed by a comma and more members. -/
theorem scanMembers?_next {name : String} {value : Json} {others : List Char}
    {members : List (Option String × Json)}
    (scanned : scanValue? fuel text = some (value, ',' :: others))
    (behind : scanMembers? fuel others = some (members, rest)) :
    scanMembers? (fuel + 1) (quote name.toList ++ ':' :: text) =
      some ((some name, value) :: members, rest) := by
  rw [quote, List.cons_append, List.append_assoc, scanMembers?,
    skipBlanks_of_not_blank (by decide)]
  simp [scanString?_quoted, skipBlanks_of_not_blank (show isBlank ':' = false by decide), scanned,
    skipBlanks_of_not_blank (show isBlank ',' = false by decide), behind]

end Scanners

/-- What the scanner of a form finds in front of a rest, if it has enough fuel. -/
def Scans (fuel : Nat) (text rest : List Char) : Form → Prop
  | .value document => scanValue? fuel (text ++ rest) = some (document, rest)
  | .items items => scanItems? fuel (text ++ rest) = some (items, rest)
  | .members members => scanMembers? fuel (text ++ rest) =
      some (members.map fun member => (some member.1, member.2), rest)

/-- The scanners find what is written. The fuel is spent on nothing but characters, two units for
each of them. -/
theorem scans_of_written {form : Form} {text : List Char} (written : Written form text)
    {rest : List Char} (ends : EndsNumber rest) {fuel : Nat} (enough : 2 * text.length ≤ fuel) :
    Scans fuel text rest form := by
  induction written generalizing rest fuel with
  | @blank form text c blank behind inductionHypothesis =>
      rw [List.length_cons] at enough
      have scanned : Scans fuel text rest form := inductionHypothesis ends (by omega)
      cases form with
      | value document => rwa [Scans, List.cons_append, scanValue?_blank blank]
      | items items => rwa [Scans, List.cons_append, scanItems?_blank blank]
      | members members => rwa [Scans, List.cons_append, scanMembers?_blank blank]
  | atom atom =>
      have filled := List.length_pos_iff.mpr atom.ne_nil
      obtain ⟨less, rfl⟩ := Nat.exists_eq_add_one.mpr (show 0 < fuel by omega)
      exact scanValue?_atom atom ends less
  | emptyArray =>
      obtain ⟨less, rfl⟩ := Nat.exists_eq_add_one.mpr (Nat.lt_of_lt_of_le (by decide) enough)
      rfl
  | array inside inductionHypothesis =>
      rw [List.length_cons] at enough
      obtain ⟨less, rfl⟩ := Nat.exists_eq_add_one.mpr (show 0 < fuel by omega)
      exact scanValue?_array (exists_skipBlanks_of_written inside rest)
        (inductionHypothesis ends (by omega))
  | emptyObject =>
      obtain ⟨less, rfl⟩ := Nat.exists_eq_add_one.mpr (Nat.lt_of_lt_of_le (by decide) enough)
      rfl
  | object inside inductionHypothesis =>
      rw [List.length_cons] at enough
      obtain ⟨less, rfl⟩ := Nat.exists_eq_add_one.mpr (show 0 < fuel by omega)
      exact scanValue?_object (exists_skipBlanks_of_written inside rest)
        (inductionHypothesis ends (by omega))
  | @lastItem item text gap value blanks inductionHypothesis =>
      simp only [List.length_append, List.length_singleton] at enough
      obtain ⟨less, rfl⟩ := Nat.exists_eq_add_one.mpr (show 0 < fuel by omega)
      have closed : EndsNumber (gap ++ ']' :: rest) := .append blanks (.cons (by decide) rest)
      have scanned : Scans less text (gap ++ ']' :: rest) (.value item) :=
        inductionHypothesis closed (by omega)
      rw [Scans, List.append_assoc, List.append_assoc]
      exact scanItems?_last blanks scanned
  | @nextItem item items text others value behind valueHypothesis behindHypothesis =>
      simp only [List.length_append, List.length_cons] at enough
      obtain ⟨less, rfl⟩ := Nat.exists_eq_add_one.mpr (show 0 < fuel by omega)
      have scanned : Scans less text (',' :: (others ++ rest)) (.value item) :=
        valueHypothesis (.cons (by decide) _) (by omega)
      rw [Scans, List.append_assoc]
      exact scanItems?_next scanned (behindHypothesis ends (by omega))
  | @lastMember name value text gap written blanks inductionHypothesis =>
      simp only [List.length_append, List.length_cons] at enough
      obtain ⟨less, rfl⟩ := Nat.exists_eq_add_one.mpr (show 0 < fuel by omega)
      have closed : EndsNumber (gap ++ '\x7d' :: rest) := .append blanks (.cons (by decide) rest)
      have scanned : Scans less text (gap ++ '\x7d' :: rest) (.value value) :=
        inductionHypothesis closed (by omega)
      rw [Scans, List.append_assoc, List.cons_append, List.append_assoc, List.append_assoc]
      exact scanMembers?_last blanks scanned
  | @nextMember name value members text others written behind writtenHypothesis behindHypothesis =>
      simp only [List.length_append, List.length_cons] at enough
      obtain ⟨less, rfl⟩ := Nat.exists_eq_add_one.mpr (show 0 < fuel by omega)
      have scanned : Scans less text (',' :: (others ++ rest)) (.value value) :=
        writtenHypothesis (.cons (by decide) _) (by omega)
      rw [Scans, List.append_assoc, List.cons_append, List.append_assoc]
      exact scanMembers?_next scanned (behindHypothesis ends (by omega))

/-! ## Documents that can be read back -/

/-- A document of which the printed form says all: its integers are of a machine word, its doubles
read back, and it has no value that denotes nothing. -/
inductive Readable : Json → Prop where
  | null : Readable .null
  | bool (value : Bool) : Readable (.bool value)
  | integer {value : Int} (bounds : InWords value) : Readable (.integer value)
  | real {value : Binary64} (readsBack : ReadsBack value) : Readable (.real value)
  | string (text : String) : Readable (.string text)
  | array {items : List Json} (readable : ∀ item ∈ items, Readable item) : Readable (.array items)
  | object {members : List (String × Json)} (readable : ∀ member ∈ members, Readable member.2) :
      Readable (.object members)

/-- Counts are read back as far as a machine word holds them. -/
theorem Readable.ofNat {n : Nat} (small : n < Number.wordBound 64) : Readable (.ofNat n) :=
  .integer ⟨by omega, by omega⟩

theorem Readable.ofBinary64 {x : Binary64} (readsBack : ReadsBack x) :
    Readable (.ofBinary64 x) := by
  rw [Json.ofBinary64]
  split
  · exact .real readsBack
  · exact .null

theorem Readable.ofOption {α : Type} {encode : α → Json}
    (readable : ∀ value, Readable (encode value)) (value : Option α) :
    Readable (.ofOption encode value) := by
  cases value with
  | none => exact .null
  | some value => exact readable value

theorem Blanks.nil : Blanks [] := fun _ member => absurd member List.not_mem_nil

/-- The break before a line and its indentation are blanks. -/
theorem blanks_newLine (level : Nat) : Blanks (newLine level) := by
  simp only [Blanks, newLine, List.forall_mem_cons]
  refine ⟨by decide, fun c member => ?_⟩
  rw [List.eq_of_mem_replicate member]
  decide

/-- Any number of blanks may stand where one may. -/
theorem Written.blanks {form : Form} {text gap : List Char} (blanks : Blanks gap)
    (behind : Written form text) : Written form (gap ++ text) := by
  induction gap with
  | nil => exact behind
  | cons c gap inductionHypothesis =>
      rw [Blanks, List.forall_mem_cons] at blanks
      exact .blank blanks.1 (inductionHypothesis blanks.2)

/-! ### On one line -/

/-- The items of an array on one line, once each of them is known to be written. -/
theorem written_compactItems {items : List Json} (filled : items ≠ [])
    (written : ∀ item ∈ items, Written (.value item) (compactChars item)) :
    Written (.items items) (compactItems items ++ [']']) := by
  induction items with
  | nil => exact absurd rfl filled
  | cons item rest inductionHypothesis =>
      rw [List.forall_mem_cons] at written
      cases rest with
      | nil =>
          have last := Written.lastItem written.1 Blanks.nil
          exact last
      | cons next rest =>
          rw [compactItems, List.append_assoc, List.cons_append]
          exact .nextItem written.1 (inductionHypothesis (List.cons_ne_nil _ _) written.2)

/-- The members of an object on one line, likewise. -/
theorem written_compactMembers {members : List (String × Json)} (filled : members ≠ [])
    (written : ∀ member ∈ members, Written (.value member.2) (compactChars member.2)) :
    Written (.members members) (compactMembers members ++ ['\x7d']) := by
  induction members with
  | nil => exact absurd rfl filled
  | cons member rest inductionHypothesis =>
      obtain ⟨name, value⟩ := member
      rw [List.forall_mem_cons] at written
      cases rest with
      | nil =>
          rw [compactMembers, List.append_assoc, List.cons_append]
          have last := @Written.lastMember name _ _ _ written.1 Blanks.nil
          exact last
      | cons next rest =>
          rw [compactMembers, List.append_assoc, List.cons_append, List.append_assoc,
            List.cons_append]
          exact .nextMember written.1 (inductionHypothesis (List.cons_ne_nil _ _) written.2)

/-- The compact printer writes what the document means. -/
theorem written_compactChars {document : Json} (readable : Readable document) :
    Written (.value document) (compactChars document) := by
  induction readable with
  | null => exact .atom .null
  | bool value => exact .atom (.bool value)
  | integer bounds => exact .atom (.number (scanNumber?_toString bounds))
  | real readsBack => exact .atom (.number readsBack)
  | string text => exact .atom (.string text)
  | @array items readable written =>
      cases items with
      | nil => exact .emptyArray
      | cons item items => exact .array (written_compactItems (List.cons_ne_nil _ _) written)
  | @object members readable written =>
      cases members with
      | nil => exact .emptyObject
      | cons member members =>
          exact .object (written_compactMembers (List.cons_ne_nil _ _) written)

/-! ### One item a line -/

/-- The items of an array on lines of their own; the gap is the last line break. -/
theorem written_prettyItems {level : Nat} {items : List Json} (filled : items ≠ [])
    (written : ∀ item ∈ items, Written (.value item) (prettyChars level item))
    {gap : List Char} (blanks : Blanks gap) :
    Written (.items items) (prettyItems level items ++ (gap ++ [']'])) := by
  induction items with
  | nil => exact absurd rfl filled
  | cons item rest inductionHypothesis =>
      rw [List.forall_mem_cons] at written
      have first := written.1.blanks (blanks_newLine level)
      cases rest with
      | nil => exact .lastItem first blanks
      | cons next rest =>
          rw [prettyItems, List.append_assoc, List.cons_append]
          exact .nextItem first (inductionHypothesis (List.cons_ne_nil _ _) written.2)

/-- The members of an object on lines of their own, likewise. -/
theorem written_prettyMembers {level : Nat} {members : List (String × Json)}
    (filled : members ≠ [])
    (written : ∀ member ∈ members, Written (.value member.2) (prettyChars level member.2))
    {gap : List Char} (blanks : Blanks gap) :
    Written (.members members) (prettyMembers level members ++ (gap ++ ['\x7d'])) := by
  induction members with
  | nil => exact absurd rfl filled
  | cons member rest inductionHypothesis =>
      obtain ⟨name, value⟩ := member
      rw [List.forall_mem_cons] at written
      have first := written.1.blank (show isBlank ' ' = true by decide)
      cases rest with
      | nil =>
          rw [prettyMembers, List.append_assoc, List.append_assoc, List.cons_append]
          exact (Written.lastMember first blanks).blanks (blanks_newLine level)
      | cons next rest =>
          rw [prettyMembers, List.append_assoc, List.append_assoc, List.cons_append,
            List.cons_append, List.append_assoc, List.cons_append]
          exact (Written.nextMember first
            (inductionHypothesis (List.cons_ne_nil _ _) written.2)).blanks (blanks_newLine level)

/-- The printer with one item a line writes what the document means, at any level. -/
theorem written_prettyChars {document : Json} (readable : Readable document) (level : Nat) :
    Written (.value document) (prettyChars level document) := by
  induction readable generalizing level with
  | null => exact .atom .null
  | bool value => exact .atom (.bool value)
  | integer bounds => exact .atom (.number (scanNumber?_toString bounds))
  | real readsBack => exact .atom (.number readsBack)
  | string text => exact .atom (.string text)
  | @array items readable written =>
      cases items with
      | nil => exact .emptyArray
      | cons item items =>
          rw [prettyChars, List.append_assoc]
          exact .array (written_prettyItems (List.cons_ne_nil _ _)
            (fun other member => written other member (level + 1)) (blanks_newLine level))
  | @object members readable written =>
      cases members with
      | nil => exact .emptyObject
      | cons member members =>
          rw [prettyChars, List.append_assoc]
          exact .object (written_prettyMembers (List.cons_ne_nil _ _)
            (fun other member => written other member (level + 1)) (blanks_newLine level))

/-! ## Printed and parsed -/

/-- What is written is parsed; the fuel of the parser is enough for any text. -/
theorem parseChars?_of_written {document : Json} {text : List Char}
    (written : Written (.value document) text) : parseChars? text = some document := by
  have scanned : Scans (2 * text.length + 2) text [] (.value document) :=
    scans_of_written written .nil (Nat.le_add_right _ _)
  rw [Scans, List.append_nil] at scanned
  rw [parseChars?, scanned]
  rfl

/-- A document on one line parses as that document. -/
theorem parse?_compact {document : Json} (readable : Readable document) :
    parse? document.compact = some document := by
  rw [parse?, compact, String.toList_ofList]
  exact parseChars?_of_written (written_compactChars readable)

/-- A document with one item a line parses as that document. -/
theorem parse?_pretty {document : Json} (readable : Readable document) :
    parse? document.pretty = some document := by
  rw [parse?, pretty, String.toList_ofList]
  exact parseChars?_of_written (written_prettyChars readable 0)

end ApiGateway.Json
