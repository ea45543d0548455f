import ApiGateway.Text.Blank

/-!
# Header fields

A `Headers` is a list of fields with lower-case names. Fields of one name keep
their order; the order between names has no meaning. `values` is the view that
the laws of the operations are stated in.
-/

namespace ApiGateway.Http

/-- The bytes of a header value. -/
abbrev HeaderValue := List UInt8

namespace HeaderValue

/-- A tab or a visible ASCII character or a blank. -/
def isVisible (byte : UInt8) : Bool :=
  byte = 9 || (32 ≤ byte && byte < 127)

/-- Bytes that a value may hold: all but controls other than the tab. -/
def isAllowed (byte : UInt8) : Bool :=
  byte = 9 || (32 ≤ byte && byte ≠ 127)

/-- The value as text, if all of it is visible ASCII. -/
def text? (value : HeaderValue) : Option (List Char) :=
  if value.all isVisible then some (value.map fun byte => Char.ofNat byte.toNat) else none

def ofString (text : String) : HeaderValue :=
  text.toUTF8.toList

end HeaderValue

/-- Characters of methods and header names. -/
def isTokenChar (c : Char) : Bool :=
  c.isAlphanum || "!#$%&'*+-.^_|~\x60".toList.contains c

/-- Header fields with lower-case names. -/
structure Headers where
  fields : List (String × HeaderValue)
deriving DecidableEq, Inhabited

namespace Headers

def empty : Headers := ⟨[]⟩

/-- The values of a name in their order. -/
def values (headers : Headers) (name : String) : List HeaderValue :=
  (headers.fields.filter fun field => field.1 == name).map (·.2)

/-- The first value of a name. -/
def get? (headers : Headers) (name : String) : Option HeaderValue :=
  (headers.values name).head?

/-- The first value of a name as text, if it is visible ASCII. -/
def getText? (headers : Headers) (name : String) : Option (List Char) :=
  (headers.get? name).bind HeaderValue.text?

def contains (headers : Headers) (name : String) : Bool :=
  headers.fields.any fun field => field.1 == name

/-- Add a value behind those of the same name; the name is folded to lower case. -/
def append (headers : Headers) (name : String) (value : HeaderValue) : Headers :=
  ⟨headers.fields ++ [(String.ofList (Text.lowerAscii name.toList), value)]⟩

/-- Keep the fields whose name passes. -/
def filterNames (keep : String → Bool) (headers : Headers) : Headers :=
  ⟨headers.fields.filter fun field => keep field.1⟩

/-- Drop every value of a name. -/
def remove (headers : Headers) (name : String) : Headers :=
  headers.filterNames (· != name)

/-- Give a name exactly one value. -/
def set (headers : Headers) (name : String) (value : HeaderValue) : Headers :=
  ⟨(headers.remove name).fields ++ [(name, value)]⟩

theorem values_filterNames (keep : String → Bool) (headers : Headers) (name : String) :
    (headers.filterNames keep).values name = if keep name then headers.values name else [] := by
  have agree : ∀ field : String × HeaderValue,
      (field.1 == name && keep field.1) = (field.1 == name && keep name) := by
    intro field
    by_cases h : field.1 = name
    · simp [h]
    · have : (field.1 == name) = false := by simpa using h
      simp [this]
  simp only [values, filterNames, List.filter_filter, agree]
  by_cases h : keep name <;> simp [h]

@[simp] theorem values_remove_self (headers : Headers) (name : String) :
    (headers.remove name).values name = [] := by
  simp [remove, values_filterNames]

theorem values_remove_of_ne {headers : Headers} {name other : String} (different : other ≠ name) :
    (headers.remove name).values other = headers.values other := by
  simp [remove, values_filterNames, different]

/-- Setting a name removes it and then adds the one value. -/
theorem values_set (headers : Headers) (name other : String) (value : HeaderValue) :
    (headers.set name value).values other =
      (headers.remove name).values other ++ if name == other then [value] else [] := by
  simp only [values, set, List.filter_append, List.map_append]
  by_cases h : (name == other) = true <;> simp [h]

@[simp] theorem values_set_self (headers : Headers) (name : String) (value : HeaderValue) :
    (headers.set name value).values name = [value] := by
  simp [values_set]

theorem values_set_of_ne {headers : Headers} {name other : String} {value : HeaderValue}
    (different : other ≠ name) : (headers.set name value).values other = headers.values other := by
  simp [values_set, values_remove_of_ne different, Ne.symm different]

end Headers

end ApiGateway.Http
