import ApiGateway.Json.Record
import ApiGateway.Number.Word

/-!
# Decoders that restore what was encoded

A record with distinct names is found field by field (`fieldsOf?_object`), and the decoders of
texts, numbers, choices, lists and optional values each restore what their encoder made of a value.
-/

namespace ApiGateway.Json

/-! ## Fields -/

theorem valuesOf_of_not_mem {name : String} {members : List (String × Json)}
    (absent : name ∉ members.map (·.1)) : valuesOf name members = [] := by
  rw [valuesOf, List.map_eq_nil_iff, List.filter_eq_nil_iff]
  intro member among same
  exact absent (List.mem_map.mpr ⟨member, among, beq_iff_eq.mp same⟩)

/-- Where no name is repeated, a name has the one value that it was given. -/
theorem valuesOf_of_mem {members : List (String × Json)} (distinct : (members.map (·.1)).Nodup)
    {name : String} {value : Json} (member : (name, value) ∈ members) :
    valuesOf name members = [value] := by
  induction members with
  | nil => cases member
  | cons first rest inductionHypothesis =>
      rw [List.map_cons, List.nodup_cons] at distinct
      rcases List.mem_cons.mp member with rfl | later
      · have others := valuesOf_of_not_mem distinct.1
        rw [valuesOf] at others ⊢
        rw [List.filter_cons_of_pos (by simp), List.map_cons, others]
      · have other : first.1 ≠ name := by
          rintro rfl
          exact distinct.1 (List.mem_map.mpr ⟨_, later, rfl⟩)
        have found := inductionHypothesis distinct.2 later
        rw [valuesOf] at found ⊢
        rw [List.filter_cons_of_neg (by simp [other]), found]

/-- Decoding goes on behind a field that was read. -/
theorem bind_of_eq_some {α β : Type} {field : Option α} {value : α} {decode : α → Option β}
    {result : β} (read : field = some value) (behind : decode value = some result) :
    field >>= decode = some result := by
  rw [read]
  exact behind

/-- Where every item is read from what it was written as, a list of them is. -/
theorem mapM_map_eq_some {α β γ : Type} {write : α → β} {read : β → Option γ} {value : α → γ}
    {items : List α} (reads : ∀ item ∈ items, read (write item) = some (value item)) :
    (items.map write).mapM read = some (items.map value) := by
  induction items with
  | nil => rfl
  | cons item rest inductionHypothesis =>
      rw [List.forall_mem_cons] at reads
      rw [List.map_cons, List.mapM_cons, reads.1, inductionHypothesis reads.2]
      rfl

/-- An object with exactly the known names gives each field its value. -/
theorem fieldsOf?_object {names : List String} {members : List (String × Json)}
    (listed : members.map (·.1) = names) (distinct : names.Nodup) :
    fieldsOf? names (.object members) =
      some ⟨false, members.map fun member => some member.2⟩ := by
  subst listed
  refine bind_of_eq_some (mapM_map_eq_some fun member among => ?_) rfl
  rw [valuesOf_of_mem distinct among]

/-! ## Values -/

/-- The decoder restores every value from what the encoder makes of it. -/
def Restores {α : Type} (decode : Json → Option α) (encode : α → Json) : Prop :=
  ∀ value, decode (encode value) = some value

theorem restores_string : Restores decodeString .string := fun _ => rfl

/-- A choice is restored from its name. -/
theorem restores_choice {α : Type} {read : String → Option α} {name : α → String}
    (reads : ∀ value, read (name value) = some value) :
    Restores (decodeChoice read) fun value => .string (name value) := reads

theorem optional_of_ne_null {α : Type} (decode : Json → Option α) {document : Json}
    (filled : document ≠ .null) : optional decode document = (decode document).map some := by
  cases document with
  | null => exact absurd rfl filled
  | _ => rfl

/-- An optional value is restored unless the encoder takes a value for an absent one. -/
theorem Restores.option {α : Type} {decode : Json → Option α} {encode : α → Json}
    (restores : Restores decode encode) (filled : ∀ value, encode value ≠ .null) :
    Restores (optional decode) (ofOption encode) := by
  intro value
  cases value with
  | none => rfl
  | some value =>
      rw [ofOption, optional_of_ne_null decode (filled value), restores value]
      rfl

theorem Restores.list {α : Type} {decode : Json → Option α} {encode : α → Json}
    (restores : Restores decode encode) :
    Restores (decodeList decode) fun values => .array (values.map encode) := by
  intro values
  rw [decodeList, mapM_map_eq_some fun value _ => restores value, List.map_id']

theorem decodeNatBelow_ofNat {bound n : Nat} (small : n < bound) :
    decodeNatBelow bound (.ofNat n) = some n := by
  simp [decodeNatBelow, ofNat, small]

theorem decodeBinary64_ofBinary64 {x : Binary64} (finite : x.isFinite = true) :
    decodeBinary64 (.ofBinary64 x) = some x := by
  rw [ofBinary64, if_pos finite]
  rfl

end ApiGateway.Json
