import ApiGateway.Proxy.Outbound

/-!
# Headers on their way to the backend

A `connection` header names further headers that concern one connection only, and the
client chooses what it names. A header that it lists does not reach the backend
(`StaysBehind`); every other one that is not dropped or set by the gateway itself arrives
with all its values in their order (`EndToEnd`, `values_outboundHeaders`).
-/

namespace ApiGateway.Proxy

open Http (Headers HeaderValue)

/-- A visible `connection` value lists a name: one of its items between commas is the name, but
for its case and the blanks around it. -/
def Lists (headers : Headers) (name : String) : Prop :=
  ∃ value ∈ headers.values "connection", ∃ text, value.text? = some text ∧
    ∃ item ∈ Text.splitOn ',' text, Text.lowerAscii (Text.trim item) = name.toList

/-- A value names a header, whether it is visible or not: one of its items between commas is the
name, but for its case and the blanks around it. -/
def Names (value : HeaderValue) (name : String) : Prop :=
  ∃ item ∈ Text.splitOn ',' (value.map fun byte => Char.ofNat byte.toNat),
    Text.lowerAscii (Text.trim item) = name.toList

/-- What is listed is what visible values name. -/
theorem lists_iff {headers : Headers} {name : String} : Lists headers name ↔
    ∃ value ∈ headers.values "connection", value.all HeaderValue.isVisible = true ∧
      Names value name := by
  have visible (value : HeaderValue) : (∃ text, value.text? = some text ∧
      ∃ item ∈ Text.splitOn ',' text, Text.lowerAscii (Text.trim item) = name.toList) ↔
        value.all HeaderValue.isVisible = true ∧ Names value name := by
    simp only [HeaderValue.text?, Names]
    split
    · next shown => simp [shown]
    · next opaqueValue => simp [opaqueValue]
  simp only [Lists, visible]

theorem mem_listedNames_iff {value : HeaderValue} {name : String} (named : name ≠ "") :
    name ∈ listedNames value ↔ ∃ text, value.text? = some text ∧
      ∃ item ∈ Text.splitOn ',' text, Text.lowerAscii (Text.trim item) = name.toList := by
  simp only [listedNames]
  cases value.text? with
  | none => simp
  | some text =>
      simp only [List.mem_filterMap, List.mem_map, Option.some.injEq, exists_eq_left']
      constructor
      · rintro ⟨folded, ⟨item, known, rfl⟩, listed⟩
        split at listed
        · cases listed
        · cases listed
          exact ⟨item, known, String.toList_ofList.symm⟩
      · rintro ⟨item, known, same⟩
        refine ⟨name.toList, ⟨item, known, same⟩, ?_⟩
        have filled : name.toList.isEmpty = false := by simpa using named
        rw [filled, if_neg (by simp), String.ofList_toList]

theorem mem_connectionListed_iff {headers : Headers} {name : String} (named : name ≠ "") :
    name ∈ connectionListed headers ↔ Lists headers name := by
  simp only [connectionListed, List.mem_flatMap, mem_listedNames_iff named, Lists]

theorem not_mem_connectionListed (headers : Headers) : "" ∉ connectionListed headers := by
  simp only [connectionListed, List.mem_flatMap, listedNames, not_exists, not_and]
  intro value _
  cases value.text? with
  | none => exact List.not_mem_nil
  | some text =>
      simp only [List.mem_filterMap, not_exists, not_and]
      intro item _ listed
      split at listed
      · cases listed
      · next filled =>
          rw [Option.some.injEq, String.ofList_eq_empty_iff] at listed
          exact filled (List.isEmpty_iff.mpr listed)

theorem mem_connectionListed_iff_lists {headers : Headers} {name : String} :
    name ∈ connectionListed headers ↔ name ≠ "" ∧ Lists headers name := by
  by_cases named : name = ""
  · rw [named]
    simp [not_mem_connectionListed]
  · rw [mem_connectionListed_iff named]
    exact (and_iff_right named).symm

/-- The inbound host is no list of names. -/
theorem connectionListed_remove_host (headers : Headers) :
    connectionListed (headers.remove "host") = connectionListed headers := by
  rw [connectionListed, Headers.values_remove_of_ne (by decide), connectionListed]

/-- Without the headers of one connection a name that is none of these keeps all its values or
none. -/
theorem values_stripHopByHop {headers : Headers} {name : String} (endToEnd : name ∉ hopByHopNames) :
    (stripHopByHop headers).values name =
      if (connectionListed headers).contains name then [] else headers.values name := by
  have kept : hopByHopNames.contains name = false := by simpa using endToEnd
  rw [stripHopByHop, Headers.values_filterNames, kept]
  cases (connectionListed headers).contains name <;> rfl

theorem values_stripHopByHop_of_dropped {headers : Headers} {name : String}
    (drops : name ∈ hopByHopNames ∨ name ∈ connectionListed headers) :
    (stripHopByHop headers).values name = [] := by
  rw [stripHopByHop, Headers.values_filterNames]
  rcases drops with own | listed
  · simp [own]
  · simp [listed]

/-! ## End-to-end headers -/

/-- A header that goes no further than the gateway: the inbound host, one that concerns one
connection only and one that a visible `connection` value lists. -/
def StaysBehind (inbound : Headers) (name : String) : Prop :=
  name = "host" ∨ name ∈ hopByHopNames ∨ (name ≠ "" ∧ Lists inbound name)

/-- The inbound headers without those that stay behind; all others with all their values in their
order. -/
structure EndToEnd (inbound kept : Headers) : Prop where
  dropped : ∀ {name}, StaysBehind inbound name → kept.values name = []
  others : ∀ {name}, ¬ StaysBehind inbound name → kept.values name = inbound.values name

theorem endToEnd_stripHopByHop (inbound : Headers) :
    EndToEnd inbound (stripHopByHop (inbound.remove "host")) where
  dropped := by
    rintro name (rfl | hopByHop | listed)
    · rw [values_stripHopByHop (by decide), Headers.values_remove_self, ite_self]
    · exact values_stripHopByHop_of_dropped (.inl hopByHop)
    · refine values_stripHopByHop_of_dropped (.inr ?_)
      rw [connectionListed_remove_host]
      exact mem_connectionListed_iff_lists.mpr listed
  others := by
    intro name stays
    simp only [StaysBehind, not_or] at stays
    obtain ⟨notHost, endToEnd, unlisted⟩ := stays
    have absent : ¬ (connectionListed inbound).contains name = true := fun listed =>
      unlisted (mem_connectionListed_iff_lists.mp (List.contains_iff_mem.mp listed))
    rw [values_stripHopByHop endToEnd, connectionListed_remove_host, if_neg absent,
      Headers.values_remove_of_ne notHost]

/-! ## Headers that the gateway has no part in -/

/-- The names of headers that the gateway sets itself. -/
def forwardedNames : List String :=
  ["x-forwarded-for", "x-forwarded-proto", "x-forwarded-host"]

/-- The names of headers that the gateway takes away or sets itself. -/
def gatewayNames : List String :=
  ["host", "x-forwarded-for", "x-forwarded-proto", "x-forwarded-host"]

/-- The gateway's own headers leave the others alone. -/
theorem values_outboundHeaders_eq {inbound : Headers} {client : Net.IpAddress} {tls : Bool}
    {name : String} (foreign : name ∉ forwardedNames) :
    (outboundHeaders inbound client tls).values name =
      (stripHopByHop (inbound.remove "host")).values name := by
  simp only [forwardedNames, List.mem_cons, List.not_mem_nil, or_false, not_or] at foreign
  obtain ⟨notFor, notProto, notHost⟩ := foreign
  simp only [outboundHeaders]
  cases inbound.get? "host" with
  | none => rw [Headers.values_set_of_ne notProto, Headers.values_set_of_ne notFor]
  | some host =>
      rw [Headers.values_set_of_ne notHost, Headers.values_set_of_ne notProto,
        Headers.values_set_of_ne notFor]

/-- Every header that the gateway has no part in reaches the backend with all its values, unless a
`connection` header lists it: then none of them does. -/
theorem values_outboundHeaders {inbound : Headers} {client : Net.IpAddress} {tls : Bool}
    {name : String} (named : name ≠ "") (endToEnd : name ∉ hopByHopNames)
    (foreign : name ∉ gatewayNames) :
    (Lists inbound name → (outboundHeaders inbound client tls).values name = []) ∧
      (¬ Lists inbound name →
        (outboundHeaders inbound client tls).values name = inbound.values name) := by
  obtain ⟨notHost, foreign⟩ : name ≠ "host" ∧ name ∉ forwardedNames :=
    List.ne_and_not_mem_of_not_mem_cons foreign
  have kept := endToEnd_stripHopByHop inbound
  rw [values_outboundHeaders_eq foreign]
  constructor
  · intro lists
    exact kept.dropped (.inr (.inr ⟨named, lists⟩))
  · intro unlisted
    refine kept.others ?_
    rintro (host | hopByHop | ⟨-, lists⟩)
    · exact notHost host
    · exact endToEnd hopByHop
    · exact unlisted lists

end ApiGateway.Proxy
