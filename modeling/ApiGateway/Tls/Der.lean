/-!
# Values with tag and length

Keys and certificates are trees of values, each written as a tag, the length of its
content and the content itself. Lengths are written in the shortest way.
-/

namespace ApiGateway.Tls

/-- One value: its tag and its content. -/
structure Der where
  tag : UInt8
  content : List UInt8
deriving DecidableEq

namespace Der

def integerTag : UInt8 := 0x02
def bitStringTag : UInt8 := 0x03
def octetStringTag : UInt8 := 0x04
def nullTag : UInt8 := 0x05
def objectIdTag : UInt8 := 0x06
def sequenceTag : UInt8 := 0x30

/-- The tag of an element that a structure numbers. -/
def numberedTag (number : UInt8) : UInt8 := 0xA0 + number

/-- A length below 2 ^ 16, with what follows it. -/
def length? : List UInt8 → Option (Nat × List UInt8)
  | first :: rest =>
    if first < 0x80 then some (first.toNat, rest)
    else match first, rest with
      | 0x81, low :: after => if 0x80 ≤ low then some (low.toNat, after) else none
      | 0x82, high :: low :: after =>
        if high = 0 then none else some (high.toNat * 256 + low.toNat, after)
      | _, _ => none
  | [] => none

/-- The value at the beginning of some bytes, with what follows it. -/
def read? : List UInt8 → Option (Der × List UInt8)
  | [] => none
  | tag :: rest =>
    match length? rest with
    | none => none
    | some (length, after) =>
      if length ≤ after.length then some (⟨tag, after.take length⟩, after.drop length) else none

theorem length?_length {bytes : List UInt8} {length : Nat} {after : List UInt8}
    (h : length? bytes = some (length, after)) : after.length < bytes.length := by
  unfold length? at h
  split at h
  · split at h
    · obtain ⟨_, rfl⟩ := Prod.mk.inj (Option.some.inj h)
      simp only [List.length_cons]
      omega
    · split at h
      · split at h
        · obtain ⟨_, rfl⟩ := Prod.mk.inj (Option.some.inj h)
          simp only [List.length_cons]
          omega
        · exact absurd h (by simp)
      · split at h
        · exact absurd h (by simp)
        · obtain ⟨_, rfl⟩ := Prod.mk.inj (Option.some.inj h)
          simp only [List.length_cons]
          omega
      · exact absurd h (by simp)
  · exact absurd h (by simp)

/-- Reading a value makes the rest shorter. -/
theorem read?_length {bytes rest : List UInt8} {value : Der}
    (h : read? bytes = some (value, rest)) : rest.length < bytes.length := by
  cases bytes with
  | nil => exact absurd h (by simp [read?])
  | cons tag tail =>
      simp only [read?] at h
      split at h
      · exact absurd h (by simp)
      · rename_i length after scanned
        have shorter := length?_length scanned
        split at h
        · obtain ⟨_, rfl⟩ := Prod.mk.inj (Option.some.inj h)
          simp only [List.length_drop, List.length_cons]
          omega
        · exact absurd h (by simp)

/-- The values that make up some bytes. -/
def readAll? (bytes : List UInt8) : Option (List Der) :=
  match bytes with
  | [] => some []
  | first :: others =>
    match isRead : read? (first :: others) with
    | none => none
    | some (value, rest) =>
      have := read?_length isRead
      (readAll? rest).map (value :: ·)
termination_by bytes.length
decreasing_by
  simp only [List.length_cons] at this ⊢
  omega

/-- The elements of a value that has to have a tag. -/
def elements? (tag : UInt8) (value : Der) : Option (List Der) :=
  if value.tag = tag then readAll? value.content else none

/-- The elements of the one sequence that makes up some bytes. -/
def document? (bytes : List UInt8) : Option (List Der) :=
  match read? bytes with
  | some (value, []) => value.elements? sequenceTag
  | _ => none

/-- The bytes that write a value. -/
def bytes (value : Der) : List UInt8 :=
  let length := value.content.length
  let written : List UInt8 :=
    if length < 0x80 then [UInt8.ofNat length]
    else if length < 0x100 then [0x81, UInt8.ofNat length]
    else [0x82, UInt8.ofNat (length / 256), UInt8.ofNat length]
  value.tag :: (written ++ value.content)

/-- A sequence of values. -/
def sequence (values : List Der) : Der :=
  ⟨sequenceTag, values.flatMap bytes⟩

end Der

end ApiGateway.Tls
