/-!
# Splitting, trimming and ASCII case on character lists

The textual rules of the gateway (paths, header values, tokens) are stated on
lists of characters. `splitOn` cuts at every separator and keeps empty pieces,
so joining the pieces with the separator restores the input (`joinWith_splitOn`).
-/

namespace ApiGateway.Text

/-- Cut at every separator; `n` separators give `n + 1` pieces, empty ones included. -/
def splitOn (separator : Char) : List Char → List (List Char)
  | [] => [[]]
  | c :: rest =>
    if c = separator then [] :: splitOn separator rest
    else match splitOn separator rest with
      | [] => [[c]]
      | piece :: pieces => (c :: piece) :: pieces

/-- Put one separator between neighbouring pieces. -/
def joinWith (separator : Char) : List (List Char) → List Char
  | [] => []
  | [piece] => piece
  | piece :: pieces => piece ++ separator :: joinWith separator pieces

theorem splitOn_ne_nil (separator : Char) (text : List Char) :
    splitOn separator text ≠ [] := by
  cases text with
  | nil => simp [splitOn]
  | cons c rest =>
      by_cases h : c = separator
      · simp [splitOn, h]
      · simp only [splitOn, h, if_false]
        split <;> simp

/-- Splitting loses nothing. -/
theorem joinWith_splitOn (separator : Char) (text : List Char) :
    joinWith separator (splitOn separator text) = text := by
  induction text with
  | nil => rfl
  | cons c rest inductionHypothesis =>
      by_cases h : c = separator
      · subst h
        simp only [splitOn, if_true]
        cases pieces : splitOn c rest with
        | nil => exact absurd pieces (splitOn_ne_nil c rest)
        | cons piece others =>
            rw [pieces] at inductionHypothesis
            simp [joinWith, inductionHypothesis]
      · simp only [splitOn, h, if_false]
        cases pieces : splitOn separator rest with
        | nil => exact absurd pieces (splitOn_ne_nil separator rest)
        | cons piece others =>
            rw [pieces] at inductionHypothesis
            cases others with
            | nil => simpa [joinWith] using inductionHypothesis
            | cons next remaining => simpa [joinWith] using inductionHypothesis

/-- A text without the separator is one piece. -/
theorem splitOn_of_not_mem {separator : Char} {text : List Char} (absent : separator ∉ text) :
    splitOn separator text = [text] := by
  induction text with
  | nil => rfl
  | cons c rest inductionHypothesis =>
      rw [List.mem_cons, not_or] at absent
      obtain ⟨other, later⟩ := absent
      simp [splitOn, Ne.symm other, inductionHypothesis later]

/-- A separator parts the pieces before it from those behind it. -/
theorem splitOn_append_separator (separator : Char) (front back : List Char) :
    splitOn separator (front ++ separator :: back) =
      splitOn separator front ++ splitOn separator back := by
  induction front with
  | nil => simp [splitOn]
  | cons c rest inductionHypothesis =>
      by_cases h : c = separator
      · simp [splitOn, h, inductionHypothesis]
      · simp only [List.cons_append, splitOn, h, if_false, inductionHypothesis]
        cases pieces : splitOn separator rest with
        | nil => exact absurd pieces (splitOn_ne_nil separator rest)
        | cons piece others => rfl

/-- The first piece ends at the first separator. -/
theorem splitOn_append_cons {separator : Char} {front : List Char} (absent : separator ∉ front)
    (back : List Char) :
    splitOn separator (front ++ separator :: back) = front :: splitOn separator back := by
  rw [splitOn_append_separator, splitOn_of_not_mem absent, List.singleton_append]

/-- No piece holds the separator. -/
theorem not_mem_of_mem_splitOn {separator : Char} {text piece : List Char}
    (member : piece ∈ splitOn separator text) : separator ∉ piece := by
  induction text generalizing piece with
  | nil =>
      rw [splitOn, List.mem_singleton] at member
      rw [member]
      exact List.not_mem_nil
  | cons c rest inductionHypothesis =>
      by_cases same : c = separator
      · simp only [splitOn, same, if_true] at member
        rcases List.mem_cons.mp member with rfl | later
        · exact List.not_mem_nil
        · exact inductionHypothesis later
      · simp only [splitOn, same, if_false] at member
        cases pieces : splitOn separator rest with
        | nil => exact absurd pieces (splitOn_ne_nil separator rest)
        | cons first others =>
            simp only [pieces] at member inductionHypothesis
            rcases List.mem_cons.mp member with rfl | later
            · rw [List.mem_cons, not_or]
              exact ⟨Ne.symm same, inductionHypothesis List.mem_cons_self⟩
            · exact inductionHypothesis (List.mem_cons_of_mem _ later)

/-- What follows a given beginning of the text. -/
def dropPrefix? : List Char → List Char → Option (List Char)
  | [], text => some text
  | _ :: _, [] => none
  | p :: beginning, c :: text => if p = c then dropPrefix? beginning text else none

theorem dropPrefix?_eq_some_iff {beginning text rest : List Char} :
    dropPrefix? beginning text = some rest ↔ text = beginning ++ rest := by
  induction beginning generalizing text with
  | nil => simp [dropPrefix?]
  | cons p beginning inductionHypothesis =>
      cases text with
      | nil => simp [dropPrefix?]
      | cons c text =>
          by_cases h : p = c
          · simp [dropPrefix?, h, inductionHypothesis]
          · simp [dropPrefix?, h, Ne.symm h]

/-- A text of one class ends where the next character is outside the class. -/
theorem takeWhile_append_of_stops {keep : Char → Bool} {front back : List Char}
    (kept : ∀ c ∈ front, keep c = true) (stops : ∀ c ∈ back.head?, keep c = false) :
    (front ++ back).takeWhile keep = front := by
  rw [List.takeWhile_append_of_pos kept]
  cases back with
  | nil => simp
  | cons c back => simp [stops c rfl]

theorem dropWhile_append_of_stops {keep : Char → Bool} {front back : List Char}
    (kept : ∀ c ∈ front, keep c = true) (stops : ∀ c ∈ back.head?, keep c = false) :
    (front ++ back).dropWhile keep = back := by
  rw [List.dropWhile_append_of_pos kept]
  cases back with
  | nil => rfl
  | cons c back => simp [stops c rfl]

/-- Drop the characters of a class at both ends. -/
def trimWith (drop : Char → Bool) (text : List Char) : List Char :=
  ((text.dropWhile drop).reverse.dropWhile drop).reverse

/-- Drop the characters of a class at the end only. -/
def trimEndWith (drop : Char → Bool) (text : List Char) : List Char :=
  (text.reverse.dropWhile drop).reverse

/-- Nothing is left exactly when all of the text is of the class. -/
theorem trimEndWith_eq_nil_iff {drop : Char → Bool} {text : List Char} :
    trimEndWith drop text = [] ↔ ∀ c ∈ text, drop c = true := by
  have dropped (text : List Char) : text.dropWhile drop = [] ↔ ∀ c ∈ text, drop c = true := by
    induction text with
    | nil => simp
    | cons c rest inductionHypothesis =>
        by_cases first : drop c = true
        · simp [first, inductionHypothesis]
        · simp [first]
  rw [trimEndWith, List.reverse_eq_nil_iff, dropped]
  simp only [List.mem_reverse]

/-- The front of a text is out of reach while something of its back is left. -/
theorem trimEndWith_append_of_ne_nil {drop : Char → Bool} {back : List Char}
    (left : trimEndWith drop back ≠ []) (front : List Char) :
    trimEndWith drop (front ++ back) = front ++ trimEndWith drop back := by
  have kept : (back.reverse.dropWhile drop).isEmpty = false := by
    simpa [trimEndWith, List.isEmpty_eq_false_iff] using left
  rw [trimEndWith, List.reverse_append, List.dropWhile_append, kept]
  simp [trimEndWith]

/-- A back that goes away leaves the front to be trimmed. -/
theorem trimEndWith_append_of_eq_nil {drop : Char → Bool} {back : List Char}
    (gone : trimEndWith drop back = []) (front : List Char) :
    trimEndWith drop (front ++ back) = trimEndWith drop front := by
  have dropped : (back.reverse.dropWhile drop).isEmpty = true := by
    simpa [trimEndWith] using gone
  rw [trimEndWith, List.reverse_append, List.dropWhile_append, dropped]
  simp [trimEndWith]

/-- Trimming takes away from the end only. -/
theorem trimEndWith_prefix (drop : Char → Bool) (text : List Char) :
    trimEndWith drop text <+: text := by
  rw [← List.reverse_suffix, trimEndWith, List.reverse_reverse]
  exact List.dropWhile_suffix drop

/-- A text that ends outside the class stays as it is. -/
theorem trimEndWith_concat {drop : Char → Bool} {c : Char} (kept : drop c = false)
    (text : List Char) : trimEndWith drop (text ++ [c]) = text ++ [c] := by
  simp [trimEndWith, kept]

/-- Trimming stops at a character outside the class. -/
theorem trimEndWith_append_cons {drop : Char → Bool} {c : Char} (kept : drop c = false)
    (front back : List Char) :
    trimEndWith drop (front ++ c :: back) = front ++ c :: trimEndWith drop back := by
  rw [List.append_cons]
  by_cases gone : trimEndWith drop back = []
  · rw [trimEndWith_append_of_eq_nil gone, trimEndWith_concat kept, gone]
  · rw [trimEndWith_append_of_ne_nil gone, ← List.append_cons]

/-- Fold the letters `A` to `Z` to lower case and keep all else. -/
def lowerAscii (text : List Char) : List Char :=
  text.map Char.toLower

/-- Equality that ignores the case of the letters `A` to `Z`. -/
def sameIgnoringCase (left right : List Char) : Bool :=
  lowerAscii left = lowerAscii right

/-- Split at the first occurrence of a character, dropping that character. -/
def splitAtFirst? (separator : Char) : List Char → Option (List Char × List Char)
  | [] => none
  | c :: rest =>
    if c = separator then some ([], rest)
    else (splitAtFirst? separator rest).map fun (before, after) => (c :: before, after)

/-- Split at the last occurrence of a character, dropping that character. -/
def splitAtLast? (separator : Char) (text : List Char) : Option (List Char × List Char) :=
  (splitAtFirst? separator text.reverse).map fun (after, before) =>
    (before.reverse, after.reverse)

/-- What comes before the first separator, the separator and what follows are the text. -/
theorem splitAtFirst?_eq_some {separator : Char} {text before after : List Char}
    (found : splitAtFirst? separator text = some (before, after)) :
    text = before ++ separator :: after := by
  induction text generalizing before with
  | nil => cases found
  | cons c rest inductionHypothesis =>
      simp only [splitAtFirst?] at found
      split at found
      · next same =>
          cases found
          rw [same]
          rfl
      · simp only [Option.map_eq_some_iff, Prod.exists] at found
        obtain ⟨front, back, later, joined⟩ := found
        cases joined
        rw [inductionHypothesis later]
        rfl

/-- What comes before the last separator, the separator and what follows are the text. -/
theorem splitAtLast?_eq_some {separator : Char} {text before after : List Char}
    (found : splitAtLast? separator text = some (before, after)) :
    text = before ++ separator :: after := by
  simp only [splitAtLast?, Option.map_eq_some_iff, Prod.exists] at found
  obtain ⟨back, front, reversed, joined⟩ := found
  cases joined
  have whole := congrArg List.reverse (splitAtFirst?_eq_some reversed)
  simpa using whole

/-- The first separator is the one with none before it. -/
theorem splitAtFirst?_append_cons {separator : Char} {before : List Char}
    (absent : separator ∉ before) (after : List Char) :
    splitAtFirst? separator (before ++ separator :: after) = some (before, after) := by
  induction before with
  | nil => simp [splitAtFirst?]
  | cons c rest inductionHypothesis =>
      rw [List.mem_cons, not_or] at absent
      obtain ⟨other, later⟩ := absent
      simp [splitAtFirst?, Ne.symm other, inductionHypothesis later]

/-- The last separator is the one with none behind it. -/
theorem splitAtLast?_append_cons {separator : Char} {after : List Char}
    (absent : separator ∉ after) (before : List Char) :
    splitAtLast? separator (before ++ separator :: after) = some (before, after) := by
  have absent : separator ∉ after.reverse := fun member => absent (List.mem_reverse.mp member)
  simp [splitAtLast?, splitAtFirst?_append_cons absent]

/-- The value of a text of decimal digits. -/
def decimalValue (digits : List Char) : Nat :=
  digits.foldl (fun value digit => value * 10 + (digit.toNat - '0'.toNat)) 0

/-- Read a non-empty text that holds decimal digits only. -/
def readDecimal? (text : List Char) : Option Nat :=
  if !text.isEmpty && text.all Char.isDigit then some (decimalValue text) else none

/-- The value of one hexadecimal digit of either case. -/
def hexValue? (c : Char) : Option Nat :=
  if '0' ≤ c ∧ c ≤ '9' then some (c.toNat - '0'.toNat)
  else if 'a' ≤ c ∧ c ≤ 'f' then some (c.toNat - 'a'.toNat + 10)
  else if 'A' ≤ c ∧ c ≤ 'F' then some (c.toNat - 'A'.toNat + 10)
  else none

/-- The hexadecimal digit of a value below 16. -/
def hexDigit (upper : Bool) (value : Nat) : Char :=
  if value < 10 then Char.ofNat ('0'.toNat + value)
  else Char.ofNat ((if upper then 'A' else 'a').toNat + (value - 10))

/-- The hexadecimal digits of a number, most significant first, without leading zeros. -/
def hexDigits (value : Nat) : List Char :=
  Nat.toDigits 16 value

/-- A number in decimal digits, padded with zeros on the left to a least width. -/
def padZero (width value : Nat) : List Char :=
  let digits := Nat.toDigits 10 value
  List.replicate (width - digits.length) '0' ++ digits

/-- Two hexadecimal digits a byte. -/
def hexOfBytes (bytes : List UInt8) : String :=
  String.ofList (bytes.flatMap fun byte =>
    [hexDigit false (byte.toNat / 16), hexDigit false (byte.toNat % 16)])

/-- Read bytes written as two hexadecimal digits each. -/
def bytesOfHex? : List Char → Option (List UInt8)
  | [] => some []
  | [_] => none
  | high :: low :: rest => do
    let h ← hexValue? high
    let l ← hexValue? low
    let tail ← bytesOfHex? rest
    return UInt8.ofNat (h * 16 + l) :: tail

end ApiGateway.Text
