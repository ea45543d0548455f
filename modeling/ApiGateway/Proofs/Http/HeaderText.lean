import ApiGateway.Http.Headers

/-!
# Header values as text

A header value is a list of bytes. Text is written to it in the encoding of strings, one
byte a character as long as the text is ASCII (`chars_ofString`), and a visible value is
read character by character (`text?_of_visible`). A value may be a list: `entries` are
what stands between its commas, without blanks around it and without what is blank
altogether. Lists are joined by a comma (`entries_append_comma`).
-/

namespace ApiGateway.Http

/-! ## Text as bytes -/

theorem toList_loop_eq (bytes : ByteArray) (place : Nat) (front : List UInt8) :
    ByteArray.toList.loop bytes place front = front.reverse ++ bytes.data.toList.drop place := by
  fun_induction ByteArray.toList.loop bytes place front with
  | case1 place front inside inductionHypothesis =>
      have within : place < bytes.data.toList.length := by simpa using inside
      rw [inductionHypothesis, List.drop_eq_getElem_cons within]
      simp [ByteArray.get!, inside]
  | case2 place front behind =>
      have behind : bytes.data.toList.length ≤ place := by simpa using Nat.le_of_not_lt behind
      rw [List.drop_eq_nil_of_le behind, List.append_nil]

theorem toList_toByteArray (bytes : List UInt8) : bytes.toByteArray.toList = bytes := by
  rw [ByteArray.toList, toList_loop_eq, List.toList_data_toByteArray]
  rfl

namespace HeaderValue

/-- Text is written character by character. -/
theorem ofString_eq (text : String) :
    ofString text = text.toList.flatMap String.utf8EncodeChar := by
  rw [ofString, String.toUTF8_eq_toByteArray, ← @String.ofList_toList text,
    String.toByteArray_ofList, String.toList_ofList, List.utf8Encode, toList_toByteArray]

theorem ofString_append (front back : String) :
    ofString (front ++ back) = ofString front ++ ofString back := by
  simp only [ofString_eq, String.toList_append, List.flatMap_append]

/-! ## Bytes as text -/

/-- The characters of a value, one for each byte. -/
def chars (value : HeaderValue) : List Char :=
  value.map fun byte => Char.ofNat byte.toNat

theorem chars_append (front back : HeaderValue) :
    (front ++ back : HeaderValue).chars = front.chars ++ back.chars :=
  List.map_append

theorem text?_of_visible {value : HeaderValue} (visible : value.all isVisible = true) :
    value.text? = some value.chars :=
  if_pos visible

theorem toNat_ofNat_byte (byte : UInt8) : (Char.ofNat byte.toNat).toNat = byte.toNat := by
  have small := byte.toNat_lt
  have valid : byte.toNat.isValidChar := .inl (by omega)
  rw [Char.ofNat, dif_pos valid]
  rfl

/-- A visible value holds ASCII characters only. -/
theorem ascii_of_visible {value : HeaderValue} (visible : value.all isVisible = true) :
    ∀ c ∈ value.chars, c.toNat < 128 := by
  intro c member
  obtain ⟨byte, known, rfl⟩ := List.mem_map.mp member
  have shown := List.all_eq_true.mp visible byte known
  simp only [isVisible, Bool.or_eq_true, Bool.and_eq_true, decide_eq_true_eq, UInt8.le_iff_toNat_le,
    UInt8.lt_iff_toNat_lt] at shown
  rw [toNat_ofNat_byte]
  rcases shown with rfl | ⟨-, below⟩
  · decide
  · exact Nat.lt_succ_of_lt below

theorem ascii_of_text? {value : HeaderValue} {text : List Char} (read : value.text? = some text) :
    ∀ c ∈ text, c.toNat < 128 := by
  simp only [text?] at read
  split at read
  · next visible =>
      cases read
      exact ascii_of_visible visible
  · cases read

theorem utf8EncodeChar_of_ascii {c : Char} (ascii : c.toNat < 128) :
    String.utf8EncodeChar c = [UInt8.ofNat c.toNat] := by
  have single : c.utf8Size = 1 := by
    rw [Char.utf8Size_eq_one_iff, UInt32.le_iff_toNat_le]
    exact Nat.le_of_lt_succ ascii
  rw [String.utf8EncodeChar_eq_singleton single]
  rfl

/-- ASCII text that was written is read back. -/
theorem chars_ofString {text : String} (ascii : ∀ c ∈ text.toList, c.toNat < 128) :
    (ofString text).chars = text.toList := by
  rw [ofString_eq]
  generalize text.toList = written at ascii
  induction written with
  | nil => rfl
  | cons c rest inductionHypothesis =>
      rw [List.forall_mem_cons] at ascii
      obtain ⟨first, others⟩ := ascii
      have byte : (UInt8.ofNat c.toNat).toNat = c.toNat := by
        rw [UInt8.toNat_ofNat']
        exact Nat.mod_eq_of_lt (Nat.lt_trans first (by decide))
      rw [List.flatMap_cons, chars_append, inductionHypothesis others,
        utf8EncodeChar_of_ascii first]
      simp [chars, byte]

end HeaderValue

/-! ## Lists -/

/-- What stands between the commas of a text, without the blanks around it and without what is
blank altogether. -/
def listEntries (text : List Char) : List (List Char) :=
  ((Text.splitOn ',' text).map Text.trim).filter fun entry => !entry.isEmpty

theorem listEntries_append_comma (front back : List Char) :
    listEntries (front ++ ',' :: back) = listEntries front ++ listEntries back := by
  simp only [listEntries, Text.splitOn_append_separator, List.map_append, List.filter_append]

/-- A blank in front of a list says nothing. -/
theorem listEntries_cons_blank {c : Char} (blank : Text.isBlank c = true) (text : List Char) :
    listEntries (c :: text) = listEntries text := by
  have other : c ≠ ',' := by
    rintro rfl
    exact absurd blank (by decide)
  simp only [listEntries, Text.splitOn, other, if_false]
  cases pieces : Text.splitOn ',' text with
  | nil => exact absurd pieces (Text.splitOn_ne_nil ',' text)
  | cons piece others =>
      simp only [List.map_cons, Text.trim_cons_blank blank]

/-- A blank text lists nothing. -/
theorem listEntries_of_blank {text : List Char} (blank : Text.trim text = []) :
    listEntries text = [] := by
  have absent : ',' ∉ text := fun member =>
    absurd (Text.trim_eq_nil_iff.mp blank ',' member) (by decide)
  rw [listEntries, Text.splitOn_of_not_mem absent, List.map_singleton, blank]
  rfl

/-- A text without commas and blanks is its only entry. -/
theorem listEntries_of_plain {text : List Char} (filled : text ≠ []) (absent : ',' ∉ text)
    (dense : ∀ c ∈ text, Text.isBlank c = false) : listEntries text = [text] := by
  rw [listEntries, Text.splitOn_of_not_mem absent, List.map_singleton, Text.trim_of_dense dense]
  simp [filled]

/-- The entries that a header value lists. -/
def HeaderValue.entries (value : HeaderValue) : List (List Char) :=
  listEntries value.chars

end ApiGateway.Http
