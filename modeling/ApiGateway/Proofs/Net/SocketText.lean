import ApiGateway.Net.Address
import ApiGateway.Proofs.Net.AddressText
import ApiGateway.Proofs.Text.Digits

/-!
# Socket addresses and their text

A socket address is read as it was written (`parse?_text`): four decimal groups, or eight
hexadecimal ones of which a run of zeros may be left out, a mapped address of the shorter family,
a scope.
-/

namespace ApiGateway.Net

/-! ## Decimal numbers -/

section Decimal

variable {rest : List Char} (stops : ∀ c ∈ rest.head?, c.isDigit = false)
include stops

theorem takeWhile_decimal (n : Nat) : (decimal n ++ rest).takeWhile Char.isDigit = decimal n :=
  Text.takeWhile_append_of_stops (fun _ => Text.isDigit_of_mem_toDigits) stops

theorem dropWhile_decimal (n : Nat) : (decimal n ++ rest).dropWhile Char.isDigit = rest :=
  Text.dropWhile_append_of_stops (fun _ => Text.isDigit_of_mem_toDigits) stops

theorem scanDecimal?_decimal {n bound : Nat} (small : n < bound) :
    scanDecimal? bound (decimal n ++ rest) = some (n, rest) := by
  have filled : (decimal n).isEmpty = false := List.isEmpty_eq_false_iff.mpr Nat.toDigits_ne_nil
  have value : Text.decimalValue (decimal n) = n := Text.decimalValue_toDigits n
  simp only [scanDecimal?, takeWhile_decimal stops, dropWhile_decimal stops, filled, value, small,
    Bool.false_eq_true, if_false, if_true]

theorem scanByte?_decimal (byte : UInt8) :
    scanByte? (decimal byte.toNat ++ rest) = some (byte, rest) := by
  have small : byte.toNat < 256 := byte.toNat_lt
  have short : (decimal byte.toNat).length ≤ 3 :=
    (Nat.length_toDigits_le_iff (by decide) (by decide)).mpr (Nat.lt_of_lt_of_le small (by decide))
  have accepted : ¬ (3 < (decimal byte.toNat).length ∨
      1 < (decimal byte.toNat).length ∧ (decimal byte.toNat).head? = some '0') :=
    not_or.mpr ⟨Nat.not_lt.mpr short, Text.not_leadingZero_toDigits byte.toNat⟩
  simp only [scanByte?, takeWhile_decimal stops, accepted, if_false,
    scanDecimal?_decimal stops small, Option.map_some, UInt8.ofNat_toNat]

/-- Four groups are read as they were written. -/
theorem scanV4?_v4Chars (a b c d : UInt8) :
    scanV4? (v4Chars a b c d ++ rest) = some ((a, b, c, d), rest) := by
  have point (text : List Char) : ∀ c ∈ ('.' :: text).head?, c.isDigit = false := by
    rintro _ ⟨⟩
    decide
  simp only [v4Chars, List.append_assoc, List.cons_append, scanV4?, scanByte?_decimal (point _),
    scanByte?_decimal stops, scanChar?, if_true, Option.bind_eq_bind, Option.bind_some]
  rfl

end Decimal

theorem scanDecimal?_all {n bound : Nat} (small : n < bound) :
    scanDecimal? bound (decimal n) = some (n, []) := by
  rw [← List.append_nil (decimal n)]
  exact scanDecimal?_decimal (fun _ nothing => absurd nothing (by simp)) small

/-! ## Hexadecimal groups -/

/-- No address goes on with this text. -/
def EndsAddress (rest : List Char) : Prop :=
  ∀ c ∈ rest.head?, isHexDigit c = false ∧ c ≠ '.' ∧ c ≠ ':'

/-- No group goes on with this text. -/
def EndsGroup (rest : List Char) : Prop := ∀ c ∈ rest.head?, isHexDigit c = false ∧ c ≠ '.'

theorem EndsAddress.group {rest : List Char} (ends : EndsAddress rest) : EndsGroup rest :=
  fun c first => ⟨(ends c first).1, (ends c first).2.1⟩

theorem endsGroup_colon (text : List Char) : EndsGroup (':' :: text) := by
  rintro _ ⟨⟩
  decide

theorem isHexDigit_of_isDigit {c : Char} (digit : c.isDigit = true) : isHexDigit c = true := by
  simp only [Char.isDigit, Bool.and_eq_true, decide_eq_true_eq] at digit
  have decimal : '0' ≤ c ∧ c ≤ '9' := digit
  simp [isHexDigit, Text.hexValue?, decimal]

/-- A digit is a hexadecimal digit, so a group that ends has no more digits. -/
theorem EndsGroup.digit {rest : List Char} (ends : EndsGroup rest) :
    ∀ c ∈ rest.head?, c.isDigit = false := by
  intro c first
  have noHex := (ends c first).1
  cases digit : c.isDigit with
  | false => rfl
  | true =>
      rw [isHexDigit_of_isDigit digit] at noHex
      cases noHex

theorem isHexDigit_of_mem_hexDigits {n : Nat} {c : Char} (member : c ∈ Text.hexDigits n) :
    isHexDigit c = true ∧ c ≠ '.' :=
  @forall_mem_toDigits (fun c => isHexDigit c = true ∧ c ≠ '.') (by decide) _ (by decide)
    (by decide) n c member

theorem rest_of_scanByte? {text rest : List Char} {byte : UInt8}
    (scanned : scanByte? text = some (byte, rest)) : rest = text.dropWhile Char.isDigit := by
  simp only [scanByte?] at scanned
  split at scanned
  · cases scanned
  · simp only [scanDecimal?] at scanned
    split at scanned
    · cases scanned
    · split at scanned
      · cases scanned
        rfl
      · cases scanned

/-- What has no point behind its first digits is no address of the shorter family. -/
theorem scanV4?_eq_none {text : List Char}
    (noPoint : ∀ c ∈ (text.dropWhile Char.isDigit).head?, c ≠ '.') : scanV4? text = none := by
  have stops : scanChar? '.' (text.dropWhile Char.isDigit) = none := by
    cases left : text.dropWhile Char.isDigit with
    | nil => rfl
    | cons c rest =>
        have other : c ≠ '.' := noPoint c (by rw [left]; rfl)
        simp [scanChar?, other]
  cases scanned : scanByte? text with
  | none => simp [scanV4?, scanned]
  | some found =>
      obtain ⟨byte, rest⟩ := found
      have behind : rest = text.dropWhile Char.isDigit := rest_of_scanByte? scanned
      simp [scanV4?, scanned, behind, stops]

section Group

variable {rest : List Char} (ends : EndsGroup rest)
include ends

theorem scanGroup?_hexDigits (group : UInt16) :
    scanGroup? (Text.hexDigits group.toNat ++ rest) = some (group, rest) := by
  have digits : ∀ c ∈ Text.hexDigits group.toNat, isHexDigit c = true :=
    fun c member => (isHexDigit_of_mem_hexDigits member).1
  have stops : ∀ c ∈ rest.head?, isHexDigit c = false := fun c first => (ends c first).1
  have short : (Text.hexDigits group.toNat).length ≤ 4 :=
    (Nat.length_toDigits_le_iff (by decide) (by decide)).mpr group.toNat_lt
  have accepted : ¬ ((Text.hexDigits group.toNat).isEmpty = true ∨
      4 < (Text.hexDigits group.toNat).length) := by
    have filled : Text.hexDigits group.toNat ≠ [] := Nat.toDigits_ne_nil
    simp [filled, short]
  have value : Text.hexValue (Text.hexDigits group.toNat) = group.toNat :=
    Text.hexValue_toDigits group.toNat
  rw [Text.hexValue] at value
  simp only [scanGroup?, Text.takeWhile_append_of_stops digits stops,
    Text.dropWhile_append_of_stops digits stops, accepted, if_false, value, UInt16.ofNat_toNat]

theorem scanV4?_hexDigits (group : UInt16) :
    scanV4? (Text.hexDigits group.toNat ++ rest) = none := by
  refine scanV4?_eq_none fun c first => ?_
  rw [Text.dropWhile_append_of_stop ends.digit, List.head?_append] at first
  cases left : (Text.hexDigits group.toNat).dropWhile Char.isDigit with
  | nil =>
      rw [left] at first
      exact (ends c first).2
  | cons d others =>
      rw [left] at first
      cases first
      have member : c ∈ (Text.hexDigits group.toNat).dropWhile Char.isDigit := by
        rw [left]
        exact List.mem_cons_self
      exact (isHexDigit_of_mem_hexDigits ((List.dropWhile_sublist _).mem member)).2

theorem scanGroups_cons (limit : Nat) (group : UInt16) :
    scanGroups (limit + 1) true (Text.hexDigits group.toNat ++ rest) =
      let (groups, embedded, remaining) := scanGroups limit false rest
      (group :: groups, embedded, remaining) := by
  simp only [scanGroups, if_true, scanV4?_hexDigits ends, scanGroup?_hexDigits ends, ite_self]

end Group

/-- Behind a colon the same groups are found, if there are any. -/
theorem scanGroups_colon {limit : Nat} {text rest : List Char} {group : UInt16}
    {groups : List UInt16} {embedded : Bool}
    (found : scanGroups (limit + 1) true text = (group :: groups, embedded, rest)) :
    scanGroups (limit + 1) false (':' :: text) = (group :: groups, embedded, rest) := by
  simp only [scanGroups, scanChar?, if_true, Bool.false_eq_true, if_false] at found ⊢
  cases shorter : (if 0 < limit then scanV4? text else none) with
  | some quad => simpa [shorter] using found
  | none =>
      cases hexadecimal : scanGroup? text with
      | some scanned => simpa [shorter, hexadecimal] using found
      | none => simp [shorter, hexadecimal] at found

section NoGroup

variable {text : List Char} (ends : EndsGroup text) (limit : Nat)
include ends

theorem scanV4?_of_endsGroup : scanV4? text = none := by
  cases text with
  | nil => rfl
  | cons c rest =>
      refine scanV4?_eq_none fun d first => ?_
      rw [List.dropWhile_cons_of_neg (by simp [ends.digit c rfl])] at first
      cases first
      exact (ends c rfl).2

theorem scanGroup?_of_endsGroup : scanGroup? text = none := by
  cases text with
  | nil => rfl
  | cons c rest => simp [scanGroup?, (ends c rfl).1]

theorem scanGroups_of_endsGroup : scanGroups limit true text = ([], false, text) := by
  cases limit with
  | zero => rfl
  | succ limit =>
      simp only [scanGroups, if_true, scanV4?_of_endsGroup ends, scanGroup?_of_endsGroup ends,
        ite_self]

theorem scanGroups_colon_of_endsGroup :
    scanGroups limit false (':' :: text) = ([], false, ':' :: text) := by
  cases limit with
  | zero => rfl
  | succ limit =>
      simp only [scanGroups, scanChar?, if_true, Bool.false_eq_true, if_false,
        scanV4?_of_endsGroup ends, scanGroup?_of_endsGroup ends, ite_self]

end NoGroup

theorem scanGroups_of_endsAddress {rest : List Char} (ends : EndsAddress rest) (limit : Nat) :
    scanGroups limit false rest = ([], false, rest) := by
  cases limit with
  | zero => rfl
  | succ limit =>
      cases rest with
      | nil => rfl
      | cons c rest => simp [scanGroups, scanChar?, (ends c rfl).2.2]

/-- Groups are read as they were written, up to a text that no further group begins with. -/
theorem scanGroups_groupsChars {rest : List Char} (ends : EndsGroup rest) {more : Nat}
    (stops : scanGroups more false rest = ([], false, rest)) (groups : List UInt16) :
    scanGroups (groups.length + more) true (groupsChars groups ++ rest) =
      (groups, false, rest) := by
  induction groups with
  | nil => exact scanGroups_of_endsGroup ends _
  | cons group others inductionHypothesis =>
      rw [List.length_cons, Nat.add_right_comm]
      cases others with
      | nil => rw [groupsChars, scanGroups_cons ends, List.length_nil, Nat.zero_add, stops]
      | cons next others =>
          have found := inductionHypothesis
          rw [List.length_cons, Nat.add_right_comm] at found
          rw [groupsChars, List.append_assoc, List.cons_append, scanGroups_cons (endsGroup_colon _),
            List.length_cons, Nat.add_right_comm, scanGroups_colon found]

/-! ## The longest run of zeros -/

/-- A list begins with its leading zeros. -/
theorem take_leadingZeros (groups : List UInt16) :
    groups.take (leadingZeros groups) = List.replicate (leadingZeros groups) 0 ∧
      leadingZeros groups ≤ groups.length := by
  induction groups with
  | nil => exact ⟨rfl, Nat.le_refl 0⟩
  | cons group rest inductionHypothesis =>
      by_cases zero : group = 0
      · have longer : leadingZeros (group :: rest) = leadingZeros rest + 1 := by
          simp [leadingZeros, zero]
        rw [longer, List.take_succ_cons, List.replicate_succ, inductionHypothesis.1, zero]
        exact ⟨rfl, Nat.succ_le_succ inductionHypothesis.2⟩
      · have none : leadingZeros (group :: rest) = 0 := by simp [leadingZeros, zero]
        rw [none]
        exact ⟨rfl, Nat.zero_le _⟩

/-- The run that is found holds zeros only and lies within the groups. -/
theorem longestZeroRun_zeros (groups : List UInt16) :
    (groups.drop (longestZeroRun groups).1).take (longestZeroRun groups).2 =
        List.replicate (longestZeroRun groups).2 0 ∧
      (longestZeroRun groups).1 + (longestZeroRun groups).2 ≤ groups.length := by
  induction groups with
  | nil => exact ⟨rfl, Nat.le_refl 0⟩
  | cons group rest inductionHypothesis =>
      simp only [longestZeroRun]
      split
      · rw [List.drop_zero, Nat.zero_add]
        exact take_leadingZeros (group :: rest)
      · rw [List.drop_succ_cons, List.length_cons, Nat.add_right_comm]
        exact ⟨inductionHypothesis.1, Nat.succ_le_succ inductionHypothesis.2⟩

/-- The groups are those before the run, its zeros and those behind it. -/
theorem eq_append_longestZeroRun (groups : List UInt16) :
    groups = groups.take (longestZeroRun groups).1 ++
      (List.replicate (longestZeroRun groups).2 0 ++
        groups.drop ((longestZeroRun groups).1 + (longestZeroRun groups).2)) := by
  rw [← (longestZeroRun_zeros groups).1, ← List.drop_drop, List.take_append_drop,
    List.take_append_drop]

/-! ## Addresses -/

section Longer

variable {address : Ipv6} {rest : List Char}

/-- Two colons stand for the zeros between the groups before and behind them. -/
theorem scanV6?_around {front back : List UInt16} {zeros : Nat} (long : 2 ≤ zeros)
    (whole : address.groups = front ++ (List.replicate zeros 0 ++ back)) {text : List Char}
    (embedded : Bool) (behind : scanGroups (7 - front.length) true text = (back, embedded, rest)) :
    scanV6? (groupsChars front ++ ':' :: ':' :: text) = some (address, rest) := by
  have lengths := address.length_eq
  rw [whole] at lengths
  simp only [List.length_append, List.length_replicate] at lengths
  have before : scanGroups 8 true (groupsChars front ++ ':' :: ':' :: text) =
      (front, false, ':' :: ':' :: text) := by
    have scanned := scanGroups_groupsChars (endsGroup_colon (':' :: text))
      (scanGroups_colon_of_endsGroup (endsGroup_colon text) (8 - front.length)) front
    rwa [Nat.add_sub_cancel' (by omega)] at scanned
  have few : ¬ front.length = 8 := by omega
  have between : 8 - front.length - back.length = zeros := by omega
  obtain ⟨groups, length_eq⟩ := address
  cases whole
  simp only [scanV6?, before, few, behind, scanChar?, between, Option.bind_eq_bind,
    Option.bind_some, if_true, dif_neg, not_false_eq_true, Bool.false_eq_true, if_false,
    List.append_assoc]
  exact dif_pos length_eq

theorem scanV6?_compressedChars (ends : EndsAddress rest) :
    scanV6? (compressedChars address.groups ++ rest) = some (address, rest) := by
  have whole := eq_append_longestZeroRun address.groups
  have within := (longestZeroRun_zeros address.groups).2
  have length := address.length_eq
  rw [compressedChars]
  generalize longestZeroRun address.groups = run at whole within ⊢
  obtain ⟨start, zeros⟩ := run
  dsimp only at whole within ⊢
  split
  · have scanned := scanGroups_groupsChars ends.group (scanGroups_of_endsAddress ends 0)
      address.groups
    rw [length] at scanned
    rw [scanV6?, scanned]
    exact dif_pos length
  · next long =>
    rw [List.append_assoc]
    refine scanV6?_around (Nat.lt_of_not_le long) whole false ?_
    have left : (address.groups.drop (start + zeros)).length +
        (7 - start - (address.groups.drop (start + zeros)).length) = 7 - start := by
      rw [List.length_drop]
      omega
    have before : (address.groups.take start).length = start := by
      rw [List.length_take]
      omega
    rw [before, ← left]
    exact scanGroups_groupsChars ends.group (scanGroups_of_endsAddress ends _) _

end Longer

/-- Two bytes of a group make up that group. -/
theorem pair_bytes (group : UInt16) : pair (group >>> 8).toUInt8 group.toUInt8 = group := by
  have bound := group.toNat_lt
  rw [← UInt16.toNat_inj]
  simp [pair, Nat.shiftRight_eq_div_pow]
  omega

/-- The mapped address stands for two groups. -/
theorem scanGroups_v4Chars {rest : List Char} (stops : ∀ c ∈ rest.head?, c.isDigit = false)
    (limit : Nat) (a b c d : UInt8) :
    scanGroups (limit + 2) false (':' :: (v4Chars a b c d ++ rest)) =
      ([pair a b, pair c d], true, rest) := by
  have room : 0 < limit + 1 := Nat.succ_pos limit
  simp only [scanGroups, scanChar?, if_true, Bool.false_eq_true, if_false, room,
    scanV4?_v4Chars stops]

/-- The longer family is read as it was written. -/
theorem scanV6?_v6Chars (address : Ipv6) {rest : List Char} (ends : EndsAddress rest) :
    scanV6? (v6Chars address ++ rest) = some (address, rest) := by
  rw [v6Chars]
  split
  · next high low mapped =>
    have zeros : address.groups = [] ++ (List.replicate 5 0 ++ [0xffff, high, low]) := mapped
    have marker : "::ffff:".toList =
        ':' :: ':' :: (Text.hexDigits (0xffff : UInt16).toNat ++ [':']) := by decide
    rw [marker, List.append_assoc, List.cons_append, List.cons_append, List.append_assoc]
    refine scanV6?_around (by decide) zeros true ?_
    rw [List.singleton_append]
    refine (scanGroups_cons (endsGroup_colon _) 6 0xffff).trans ?_
    rw [scanGroups_v4Chars ends.group.digit, pair_bytes, pair_bytes]
  · exact scanV6?_compressedChars ends

/-! ## Socket addresses -/

namespace SocketAddress

theorem parseV4?_chars (a b c d : UInt8) (socket : UInt16) :
    parseV4? (v4Chars a b c d ++ ':' :: decimal socket.toNat) = some (.v4 a b c d socket) := by
  have colon : ∀ c ∈ (':' :: decimal socket.toNat).head?, c.isDigit = false :=
    (endsGroup_colon _).digit
  have number : scanDecimal? (Number.wordBound 16) (decimal socket.toNat) =
      some (socket.toNat, []) := scanDecimal?_all socket.toNat_lt
  simp only [parseV4?, scanV4?_v4Chars colon, scanChar?, if_true, number, Option.bind_eq_bind,
    Option.bind_some, List.isEmpty_nil, UInt16.ofNat_toNat]
  rfl

/-- What begins with a bracket is no address of the shorter family. -/
theorem parseV4?_bracket (text : List Char) : parseV4? ('[' :: text) = none := by
  have none : scanV4? ('[' :: text) = none := by
    refine scanV4?_eq_none fun c first => ?_
    cases first
    decide
  rw [parseV4?, none]
  rfl

theorem parseV6?_chars (address : Ipv6) (scope : UInt32) (socket : UInt16) :
    parseV6? (chars (.v6 address scope socket)) = some (.v6 address scope socket) := by
  have number : scanDecimal? (Number.wordBound 16) (decimal socket.toNat) =
      some (socket.toNat, []) := scanDecimal?_all socket.toNat_lt
  have bracket (text : List Char) : EndsAddress (']' :: text) := by
    rintro _ ⟨⟩
    decide
  by_cases zero : scope = 0
  · subst zero
    simp only [parseV6?, chars, scanChar?, if_true, Option.bind_eq_bind, Option.bind_some,
      List.nil_append, List.append_assoc, scanV6?_v6Chars address (bracket _)]
    simp [number]
  · have percent (text : List Char) : EndsAddress ('%' :: text) := by
      rintro _ ⟨⟩
      decide
    have inScope : scanDecimal? (Number.wordBound 32)
        (decimal scope.toNat ++ ']' :: ':' :: decimal socket.toNat) =
          some (scope.toNat, ']' :: ':' :: decimal socket.toNat) :=
      scanDecimal?_decimal (bracket _).group.digit scope.toNat_lt
    simp only [parseV6?, chars, scanChar?, if_true, Option.bind_eq_bind, Option.bind_some, zero,
      if_false, List.cons_append, List.append_assoc, scanV6?_v6Chars address (percent _), number,
      inScope, List.isEmpty_nil, UInt16.ofNat_toNat, UInt32.ofNat_toNat]
    rfl

theorem parseChars?_chars (address : SocketAddress) : parseChars? address.chars = some address := by
  cases address with
  | v4 a b c d socket => rw [parseChars?, chars, parseV4?_chars, Option.some_or]
  | v6 address scope socket =>
      have shorter : parseV4? (chars (.v6 address scope socket)) = none := parseV4?_bracket _
      rw [parseChars?, shorter, parseV6?_chars, Option.none_or]

/-- A socket address is read as it was written. -/
theorem parse?_text (address : SocketAddress) : parse? address.text = some address := by
  rw [parse?, text, String.toList_ofList, parseChars?_chars]

end SocketAddress

end ApiGateway.Net
