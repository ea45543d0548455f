import ApiGateway.Proofs.Proxy.Headers
import ApiGateway.Proofs.Text.LetterCase

/-!
# The headers of one connection

The headers that end at the gateway are eight fixed ones and those that a visible
`connection` value lists (`OfConnection`). What is listed is read off before anything is
dropped, so a `connection` header that lists itself lists the others all the same. Stripping
drops these headers with all their values and keeps every other one with all of its own
(`strips_stripHopByHop`). An item that is no token, the empty one among them, is the name of
no header and so takes none away.
-/

namespace ApiGateway

namespace Http

/-- The texts that name headers: token characters, and at least one. -/
def IsToken (text : List Char) : Prop := text ≠ [] ∧ ∀ c ∈ text, isTokenChar c = true

/-- Folding makes token characters of token characters only. -/
theorem isTokenChar_of_toLower {c : Char} (token : isTokenChar c.toLower = true) :
    isTokenChar c = true := by
  cases capital : c.isUpper with
  | true =>
      have letter : c.isAlpha = true := Bool.or_eq_true_iff.mpr (.inl capital)
      simp [isTokenChar, Char.isAlphanum, letter]
  | false => rwa [Text.toLower_eq_self capital] at token

theorem IsToken.of_lowerAscii {text : List Char} (token : IsToken (Text.lowerAscii text)) :
    IsToken text := by
  obtain ⟨filled, folded⟩ := token
  refine ⟨fun empty => filled (by rw [empty]; rfl), fun c member => ?_⟩
  exact isTokenChar_of_toLower (folded _ (List.mem_map_of_mem member))

end Http

namespace Proxy

open Http (Headers HeaderValue IsToken)

/-- What stands between the commas of a visible `connection` value, without the blanks around
it. -/
def IsItem (headers : Headers) (item : List Char) : Prop :=
  ∃ value ∈ headers.values "connection", ∃ text, value.text? = some text ∧
    ∃ piece ∈ Text.splitOn ',' text, Text.trim piece = item

theorem lists_iff_item {headers : Headers} {name : String} :
    Lists headers name ↔ ∃ item, IsItem headers item ∧ Text.lowerAscii item = name.toList := by
  constructor
  · rintro ⟨value, member, text, shown, piece, between, same⟩
    exact ⟨_, ⟨value, member, text, shown, piece, between, rfl⟩, same⟩
  · rintro ⟨_, ⟨value, member, text, shown, piece, between, rfl⟩, same⟩
    exact ⟨value, member, text, shown, piece, between, same⟩

/-- A header of one connection: one of the eight, or one that a visible `connection` value lists
under some name. -/
def OfConnection (headers : Headers) (name : String) : Prop :=
  name ∈ hopByHopNames ∨
    name ≠ "" ∧ ∃ item, IsItem headers item ∧ Text.lowerAscii item = name.toList

theorem ofConnection_iff {headers : Headers} {name : String} :
    OfConnection headers name ↔ name ∈ hopByHopNames ∨ name ∈ connectionListed headers := by
  rw [OfConnection, ← lists_iff_item, mem_connectionListed_iff_lists]

/-- Headers without those of one connection. -/
structure Strips (headers stripped : Headers) : Prop where
  dropped : ∀ {name}, OfConnection headers name → stripped.values name = []
  kept : ∀ {name}, ¬ OfConnection headers name → stripped.values name = headers.values name
  survives_iff : ∀ {name}, stripped.contains name = true ↔
    headers.contains name = true ∧ ¬ OfConnection headers name
  fixed : stripHopByHop stripped = stripped
  /-- A header goes only if it is one of the eight or a token lists it. -/
  malformed : ∀ {name}, IsToken name.toList → name ∉ hopByHopNames →
    (∀ item, IsItem headers item → Text.lowerAscii item = name.toList → ¬ IsToken item) →
    stripped.values name = headers.values name

section Stripping

variable {headers : Headers} {name : String}

theorem values_stripHopByHop_of_kept (kept : ¬ OfConnection headers name) :
    (stripHopByHop headers).values name = headers.values name := by
  rw [ofConnection_iff, not_or] at kept
  rw [values_stripHopByHop kept.1, if_neg (fun listed => kept.2 (List.contains_iff_mem.mp listed))]

/-- Nothing is listed any more, the `connection` header being one of the eight. -/
theorem connectionListed_stripHopByHop (headers : Headers) :
    connectionListed (stripHopByHop headers) = [] := by
  rw [connectionListed, values_stripHopByHop_of_dropped (.inl (by decide))]
  rfl

/-- A second time there is nothing left to drop. -/
theorem stripHopByHop_stripHopByHop (headers : Headers) :
    stripHopByHop (stripHopByHop headers) = stripHopByHop headers := by
  have kept : ∀ field ∈ (stripHopByHop headers).fields,
      hopByHopNames.contains field.1 = false := by
    intro field member
    obtain ⟨-, passes⟩ := List.mem_filter.mp member
    simp only [Bool.and_eq_true, Bool.not_eq_true'] at passes
    exact passes.1
  rw [stripHopByHop, connectionListed_stripHopByHop, Headers.filterNames, Headers.mk.injEq,
    List.filter_eq_self]
  intro field member
  simp only [kept field member, List.contains_nil, Bool.not_false, Bool.and_self]

theorem contains_iff_values : headers.contains name = true ↔ headers.values name ≠ [] := by
  simp [Headers.contains, Headers.values]

/-- The headers of one connection are dropped, and no others: a header is left, with all its
values in their order, exactly if it is none of the eight and no visible `connection` value lists
it. To do so twice is to do so once. -/
theorem strips_stripHopByHop (headers : Headers) : Strips headers (stripHopByHop headers) where
  dropped drops := values_stripHopByHop_of_dropped (ofConnection_iff.mp drops)
  kept := values_stripHopByHop_of_kept
  survives_iff := by
    intro name
    rw [contains_iff_values, contains_iff_values]
    by_cases drops : OfConnection headers name
    · rw [values_stripHopByHop_of_dropped (ofConnection_iff.mp drops)]
      simp [drops]
    · rw [values_stripHopByHop_of_kept drops]
      simp [drops]
  fixed := stripHopByHop_stripHopByHop headers
  malformed := by
    intro name token endToEnd unlisted
    refine values_stripHopByHop_of_kept ?_
    rintro (hopByHop | ⟨-, item, isItem, same⟩)
    · exact endToEnd hopByHop
    · exact unlisted item isItem same (IsToken.of_lowerAscii (same ▸ token))

end Stripping

/-- Two `connection` values with a token that is cut in two, an empty item, items in capitals
between blanks, and the header's own name first. -/
def selfListing : Headers :=
  ⟨[("connection", .ofString "connection, x hop"), ("x-hop", .ofString "1"),
    ("x-one", .ofString "1"), ("connection", .ofString ",\t X-One ,, "), ("x-two", .ofString "a"),
    ("te", .ofString "trailers"), ("x-one", .ofString "2"), ("x-two", .ofString "b")]⟩

example : (stripHopByHop selfListing).fields =
    [("x-hop", .ofString "1"), ("x-two", .ofString "a"), ("x-two", .ofString "b")] := by
  decide +kernel

end Proxy

end ApiGateway
