import ApiGateway.Net.Address

/-!
# The characters of addresses

An address is written with digits in a base up to sixteen, points and colons. What holds
of these characters holds of all characters of an address (`forall_mem_text`).
-/

namespace ApiGateway.Net

section Characters

variable {holds : Char → Prop} (digit : ∀ value : Fin 16, holds (Nat.digitChar value))
include digit

theorem forall_mem_toDigits {base : Nat} (large : 1 < base) (small : base ≤ 16) (n : Nat) :
    ∀ c ∈ Nat.toDigits base n, holds c := by
  induction n using Nat.strongRecOn with
  | _ n inductionHypothesis =>
      rw [Nat.toDigits_eq_if large]
      split
      · next below =>
          rw [List.forall_mem_singleton]
          exact digit ⟨n, Nat.lt_of_lt_of_le below small⟩
      · next above =>
          have quotient : n / base < n := Nat.div_lt_self (by omega) large
          have remainder : n % base < 16 :=
            Nat.lt_of_lt_of_le (Nat.mod_lt n (by omega)) small
          rw [List.forall_mem_append, List.forall_mem_singleton]
          exact ⟨inductionHypothesis _ quotient, digit ⟨n % base, remainder⟩⟩

section Groups

variable (colon : holds ':')
include colon

theorem forall_mem_groupsChars (groups : List UInt16) : ∀ c ∈ groupsChars groups, holds c := by
  have hexadecimal (group : UInt16) : ∀ c ∈ Text.hexDigits group.toNat, holds c :=
    forall_mem_toDigits digit (by decide) (by decide) _
  induction groups with
  | nil => nofun
  | cons group rest inductionHypothesis =>
      cases rest with
      | nil => exact hexadecimal group
      | cons next rest =>
          rw [groupsChars, List.forall_mem_append, List.forall_mem_cons]
          exact ⟨hexadecimal group, colon, inductionHypothesis⟩

theorem forall_mem_compressedChars (groups : List UInt16) :
    ∀ c ∈ compressedChars groups, holds c := by
  have written := forall_mem_groupsChars digit colon
  simp only [compressedChars]
  split
  · exact written groups
  · rw [List.forall_mem_append, List.forall_mem_cons, List.forall_mem_cons]
    exact ⟨written _, colon, colon, written _⟩

end Groups

variable (point : holds '.')
include point

theorem forall_mem_v4Chars (a b c d : UInt8) : ∀ char ∈ v4Chars a b c d, holds char := by
  have written (n : Nat) : ∀ c ∈ Nat.toDigits 10 n, holds c :=
    forall_mem_toDigits digit (by decide) (by decide) n
  have spread : v4Chars a b c d = Nat.toDigits 10 a.toNat ++ '.' :: (Nat.toDigits 10 b.toNat ++
      '.' :: (Nat.toDigits 10 c.toNat ++ '.' :: Nat.toDigits 10 d.toNat)) := rfl
  simp only [spread, List.forall_mem_append, List.forall_mem_cons]
  exact ⟨written _, point, written _, point, written _, point, written _⟩

/-- All characters of an address have what the digits, the colon and the point have. -/
theorem forall_mem_text (colon : holds ':') (address : IpAddress) :
    ∀ c ∈ address.text.toList, holds c := by
  have shorter := forall_mem_v4Chars digit point
  cases address with
  | v4 a b c d =>
      rw [IpAddress.text, String.toList_ofList]
      exact shorter a b c d
  | v6 address =>
      rw [IpAddress.text, String.toList_ofList, v6Chars]
      split
      · have mapped : ∀ c ∈ "::ffff:".toList, holds c := by
          simp only [String.reduceToList, List.forall_mem_cons]
          exact ⟨colon, colon, digit 15, digit 15, digit 15, digit 15, colon, nofun⟩
        rw [List.forall_mem_append]
        exact ⟨mapped, shorter _ _ _ _⟩
      · exact forall_mem_compressedChars digit colon _

end Characters

/-! ## No address is empty -/

theorem groupsChars_ne_nil {groups : List UInt16} (filled : groups ≠ []) :
    groupsChars groups ≠ [] := by
  cases groups with
  | nil => exact absurd rfl filled
  | cons group rest =>
      cases rest with
      | nil => exact Nat.toDigits_ne_nil
      | cons next rest => simp [groupsChars]

theorem text_ne_nil (address : IpAddress) : address.text.toList ≠ [] := by
  cases address with
  | v4 a b c d =>
      rw [IpAddress.text, String.toList_ofList]
      simp [v4Chars]
  | v6 address =>
      rw [IpAddress.text, String.toList_ofList, v6Chars]
      split
      · simp
      · simp only [compressedChars]
        split
        · refine groupsChars_ne_nil fun empty => ?_
          have eight := address.length_eq
          rw [empty] at eight
          cases eight
        · simp

end ApiGateway.Net
