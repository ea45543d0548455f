import ApiGateway.Proofs.Http.HeaderText
import ApiGateway.Proofs.Net.AddressText
import ApiGateway.Proofs.Proxy.Headers

/-!
# What a backend is told of the inbound request

A backend receives the end-to-end headers of the inbound request and three headers of the
gateway's own: where the request came from, by which scheme and for which host. `Forwards`
says what becomes of each name, and `forwards_of_outbound` that every outbound request has
these headers.

The gateway appends the client to the chain of addresses that the request came along. It
reads the first header line of the chain only, so what further lines list is lost
(`continuesChain_of_outbound`).
-/

namespace ApiGateway.Proxy

open Http (Headers HeaderValue Request listEntries)

/-! ## Addresses -/

/-- The characters of an address are ASCII, and none of them separates or pads a list. -/
def IsAddressChar (c : Char) : Prop := c.toNat < 128 ∧ c ≠ ',' ∧ Text.isBlank c = false

instance (c : Char) : Decidable (IsAddressChar c) := inferInstanceAs (Decidable (_ ∧ _ ∧ _))

theorem isAddressChar_text (client : Net.IpAddress) :
    ∀ c ∈ client.text.toList, IsAddressChar c :=
  Net.forall_mem_text (by decide) (by decide) (by decide) client

theorem listEntries_address (client : Net.IpAddress) :
    listEntries client.text.toList = [client.text.toList] := by
  have plain := isAddressChar_text client
  exact Http.listEntries_of_plain (Net.text_ne_nil client) (fun comma => (plain _ comma).2.1 rfl)
    fun c member => (plain c member).2.2

theorem entries_address (client : Net.IpAddress) :
    (HeaderValue.ofString client.text).entries = [client.text.toList] := by
  rw [HeaderValue.entries,
    HeaderValue.chars_ofString fun c member => (isAddressChar_text client c member).1,
    listEntries_address]

/-! ## The chain of addresses -/

/-- The chain ends with the client, whatever was there before. -/
theorem suffix_forwardedFor (headers : Headers) (client : Net.IpAddress) :
    HeaderValue.ofString client.text <:+ forwardedFor headers client := by
  simp only [forwardedFor]
  split
  · split
    · exact List.suffix_rfl
    · rw [HeaderValue.ofString_append]
      exact List.suffix_append _ _
  · exact List.suffix_rfl

/-- The client is one entry more behind those of the line that was read. -/
theorem entries_forwardedFor (headers : Headers) (client : Net.IpAddress) :
    (forwardedFor headers client).entries =
      ((headers.getText? "x-forwarded-for").elim [] listEntries) ++ [client.text.toList] := by
  simp only [forwardedFor]
  cases read : headers.getText? "x-forwarded-for" with
  | none => exact entries_address client
  | some prior =>
      simp only [Option.elim_some]
      split
      · next blank =>
          rw [entries_address, Http.listEntries_of_blank (List.isEmpty_iff.mp blank),
            List.nil_append]
      · have spread : (String.ofList prior ++ ", " ++ client.text).toList =
            prior ++ ',' :: ' ' :: client.text.toList := by simp
        have ascii : ∀ c ∈ (String.ofList prior ++ ", " ++ client.text).toList, c.toNat < 128 := by
          obtain ⟨value, -, shown⟩ := Option.bind_eq_some_iff.mp read
          rw [spread, List.forall_mem_append, List.forall_mem_cons, List.forall_mem_cons]
          exact ⟨HeaderValue.ascii_of_text? shown, by decide, by decide,
            fun c member => (isAddressChar_text client c member).1⟩
        rw [HeaderValue.entries, HeaderValue.chars_ofString ascii, spread,
          Http.listEntries_append_comma, Http.listEntries_cons_blank (by decide),
          listEntries_address]

/-! ## The headers of an outbound request -/

/-- What becomes of each header: the end-to-end ones are sent on as they are, and the gateway tells
who asked, by which scheme and for which host. -/
structure Forwards (inbound kept : Headers) (client : Net.IpAddress) (tls : Bool)
    (outbound : Headers) : Prop where
  others : ∀ {name}, name ∉ forwardedNames → outbound.values name = kept.values name
  chain : ∃ value, outbound.values "x-forwarded-for" = [value] ∧
    HeaderValue.ofString client.text <:+ value ∧
    value.entries.getLast? = some client.text.toList
  scheme : outbound.values "x-forwarded-proto" = [.ofString (if tls then "https" else "http")]
  host : ∀ {host}, (inbound.values "host").head? = some host →
    outbound.values "x-forwarded-host" = [host]
  unhosted : inbound.values "host" = [] →
    outbound.values "x-forwarded-host" = kept.values "x-forwarded-host"
  hostless : outbound.values "host" = []

section Outbound

variable (inbound : Headers) (client : Net.IpAddress) (tls : Bool)

theorem values_forwardedFor :
    (outboundHeaders inbound client tls).values "x-forwarded-for" =
      [forwardedFor (stripHopByHop (inbound.remove "host")) client] := by
  simp only [outboundHeaders]
  cases inbound.get? "host" with
  | none => rw [Headers.values_set_of_ne (by decide), Headers.values_set_self]
  | some host =>
      rw [Headers.values_set_of_ne (by decide), Headers.values_set_of_ne (by decide),
        Headers.values_set_self]

theorem values_forwardedProto :
    (outboundHeaders inbound client tls).values "x-forwarded-proto" =
      [.ofString (if tls then "https" else "http")] := by
  simp only [outboundHeaders]
  cases inbound.get? "host" with
  | none => rw [Headers.values_set_self]
  | some host => rw [Headers.values_set_of_ne (by decide), Headers.values_set_self]

theorem values_forwardedHost :
    (outboundHeaders inbound client tls).values "x-forwarded-host" =
      ((inbound.get? "host").map ([·])).getD
        ((stripHopByHop (inbound.remove "host")).values "x-forwarded-host") := by
  simp only [outboundHeaders]
  cases inbound.get? "host" with
  | none =>
      rw [Headers.values_set_of_ne (by decide), Headers.values_set_of_ne (by decide)]
      rfl
  | some host =>
      rw [Headers.values_set_self]
      rfl

theorem forwards_outboundHeaders :
    Forwards inbound (stripHopByHop (inbound.remove "host")) client tls
      (outboundHeaders inbound client tls) where
  others := values_outboundHeaders_eq
  chain := by
    refine ⟨_, values_forwardedFor inbound client tls, suffix_forwardedFor _ client, ?_⟩
    rw [entries_forwardedFor, List.getLast?_concat]
  scheme := values_forwardedProto inbound client tls
  host := by
    intro host first
    rw [values_forwardedHost, Headers.get?, first]
    rfl
  unhosted := by
    intro none
    rw [values_forwardedHost, Headers.get?, none]
    rfl
  hostless := by
    rw [values_outboundHeaders_eq (by decide)]
    exact (endToEnd_stripHopByHop inbound).dropped (.inl rfl)

end Outbound

section Sent

variable {target : Url} {inbound outbound : Request} {path : String} {client : Net.IpAddress}
  {tls : Bool} (sent : outboundRequest target inbound path client tls = .ok outbound)
include sent

theorem headers_of_outbound : outbound.headers = outboundHeaders inbound.headers client tls := by
  rw [outboundRequest] at sent
  cases built : targetUri target path inbound.uri.query with
  | error error => rw [built] at sent; cases sent
  | ok uri => rw [built] at sent; cases sent; rfl

/-- Every outbound request has the end-to-end headers of the inbound one and the gateway's own. -/
theorem forwards_of_outbound :
    ∃ kept, EndToEnd inbound.headers kept ∧
      Forwards inbound.headers kept client tls outbound.headers := by
  rw [headers_of_outbound sent]
  exact ⟨_, endToEnd_stripHopByHop inbound.headers, forwards_outboundHeaders ..⟩

end Sent

/-- The locator of a plain host. -/
def plainUrl : Url := ⟨"http", some ⟨"", "h", none⟩, "/", none, none⟩

/-- A request for `/a` with given headers. -/
def requestWith (headers : Headers) : Request := ⟨"GET", ⟨none, none, "/a", none⟩, headers, .empty⟩

/-- Headers whose `connection` value lists the host, the chain of addresses and one header more. -/
def listing : Headers :=
  ⟨[("host", .ofString "gateway.local"),
    ("connection", .ofString "host, X-Forwarded-For, x-hop"),
    ("x-forwarded-for", .ofString "10.0.0.1"), ("x-hop", .ofString "1"),
    ("accept", .ofString "*/*"), ("accept", .ofString "text/plain")]⟩

theorem forwards_listing :
    ∃ outbound, outboundRequest plainUrl (requestWith listing) "/a" (.v4 192 168 1 7) true =
        .ok outbound ∧
      outbound.headers.values "x-hop" = [] ∧
      outbound.headers.values "x-forwarded-proto" = [.ofString "https"] ∧
      outbound.headers.values "x-forwarded-host" = [.ofString "gateway.local"] := by
  have sent : outboundRequest plainUrl (requestWith listing) "/a" (.v4 192 168 1 7) true =
      .ok ⟨"GET", ⟨some "http", some "h", "/a", none⟩,
        outboundHeaders listing (.v4 192 168 1 7) true, .empty⟩ := rfl
  have listed : Lists listing "x-hop" := by
    refine lists_iff.mpr ⟨_, List.mem_cons_self, ?_, " x-hop".toList, ?_, ?_⟩
    · decide +kernel
    · decide +kernel
    · decide
  obtain ⟨kept, endToEnd, forwards⟩ := forwards_of_outbound sent
  refine ⟨_, sent, ?_, forwards.scheme, forwards.host rfl⟩
  rw [forwards.others (by decide)]
  exact endToEnd.dropped (.inr (.inr ⟨by decide, listed⟩))

/-- Headers whose `connection` value ends with a byte that is not visible. -/
def opaqueListing : Headers :=
  ⟨[("connection", HeaderValue.ofString "x-hop, " ++ [255]), ("x-hop", .ofString "1")]⟩

/-- The value names a header, which is sent on all the same. -/
theorem sent_on_though_named :
    (∃ value ∈ opaqueListing.values "connection", Names value "x-hop") ∧
    ∃ outbound, outboundRequest plainUrl (requestWith opaqueListing) "/a" (.v4 192 168 1 7) false =
        .ok outbound ∧
      outbound.headers.values "x-hop" = [.ofString "1"] := by
  refine ⟨⟨_, List.mem_cons_self, "x-hop".toList, ?_, ?_⟩, _, rfl, ?_⟩
  · decide +kernel
  · decide
  · decide +kernel

/-! ## Chains over several lines -/

/-- What becomes of the lines of a chain: the client is appended to what the first of them lists.
All that the lines list is there exactly if the further ones list nothing. -/
structure ContinuesChain (lines : List HeaderValue) (client : Net.IpAddress)
    (value : HeaderValue) : Prop where
  entries : value.entries =
    ((lines.head?.map HeaderValue.entries).getD []) ++ [client.text.toList]
  whole_iff : value.entries = lines.flatMap HeaderValue.entries ++ [client.text.toList] ↔
    ∀ line ∈ lines.tail, line.entries = []

theorem continuesChain_of_entries {lines : List HeaderValue} {client : Net.IpAddress}
    {value : HeaderValue}
    (listed : value.entries =
      ((lines.head?.map HeaderValue.entries).getD []) ++ [client.text.toList]) :
    ContinuesChain lines client value where
  entries := listed
  whole_iff := by
    rw [listed, List.append_left_inj]
    cases lines with
    | nil => simp
    | cons line further =>
        rw [List.head?_cons, Option.map_some, Option.getD_some, List.flatMap_cons,
          List.self_eq_append_right, List.flatMap_eq_nil_iff, List.tail_cons]

/-- A visible chain that no `connection` value lists goes on in one line, with what its first line
lists and the client. -/
theorem continuesChain_of_outbound {target : Url} {inbound outbound : Request} {path : String}
    {client : Net.IpAddress} {tls : Bool}
    (sent : outboundRequest target inbound path client tls = .ok outbound)
    (visible : ∀ line ∈ inbound.headers.values "x-forwarded-for",
      line.all HeaderValue.isVisible = true)
    (unlisted : ¬ Lists inbound.headers "x-forwarded-for") :
    ∃ value, outbound.headers.values "x-forwarded-for" = [value] ∧
      ContinuesChain (inbound.headers.values "x-forwarded-for") client value := by
  have stays : ¬ StaysBehind inbound.headers "x-forwarded-for" := by
    rintro (host | hopByHop | ⟨-, listed⟩)
    · exact absurd host (by decide)
    · exact absurd hopByHop (by decide)
    · exact unlisted listed
  have lines := (endToEnd_stripHopByHop inbound.headers).others stays
  rw [headers_of_outbound sent]
  refine ⟨_, values_forwardedFor .., continuesChain_of_entries ?_⟩
  rw [entries_forwardedFor, Headers.getText?, Headers.get?, lines]
  cases held : inbound.headers.values "x-forwarded-for" with
  | nil => rfl
  | cons line further =>
      have shown := visible line (held ▸ List.mem_cons_self)
      rw [List.head?_cons, Option.bind_some, HeaderValue.text?_of_visible shown]
      rfl

/-- A chain of two addresses with an empty line behind it. -/
def paddedChain : Headers :=
  ⟨[("x-forwarded-for", .ofString "10.0.0.1,10.0.0.2 "), ("x-forwarded-for", .ofString " , ")]⟩

theorem continuesChain_padded :
    ∃ outbound value, outboundRequest plainUrl (requestWith paddedChain) "/a" (.v4 192 168 1 7)
        false = .ok outbound ∧
      outbound.headers.values "x-forwarded-for" = [value] ∧
      value.entries = ["10.0.0.1", "10.0.0.2", "192.168.1.7"].map String.toList := by
  have sent : outboundRequest plainUrl (requestWith paddedChain) "/a" (.v4 192 168 1 7) false =
      .ok ⟨"GET", ⟨some "http", some "h", "/a", none⟩,
        outboundHeaders paddedChain (.v4 192 168 1 7) false, .empty⟩ := rfl
  have unlisted : ¬ Lists paddedChain "x-forwarded-for" := by
    rintro ⟨value, listing, -⟩
    cases listing
  obtain ⟨value, single, chain⟩ := continuesChain_of_outbound sent (by decide +kernel) unlisted
  refine ⟨_, value, sent, single, ?_⟩
  rw [chain.whole_iff.mpr (by decide +kernel)]
  decide +kernel

/-- A chain of two addresses in two lines. -/
def splitChain : Headers :=
  ⟨[("x-forwarded-for", .ofString "10.0.0.1"), ("x-forwarded-for", .ofString "10.0.0.2")]⟩

/-- The second address does not reach the backend. -/
theorem second_line_lost :
    (∀ line ∈ splitChain.values "x-forwarded-for", line.all HeaderValue.isVisible = true) ∧
    ¬ Lists splitChain "x-forwarded-for" ∧
    ∃ outbound, outboundRequest plainUrl (requestWith splitChain) "/a" (.v4 192 168 1 7) false =
        .ok outbound ∧
      outbound.headers.values "x-forwarded-for" = [.ofString "10.0.0.1, 192.168.1.7"] ∧
      (HeaderValue.ofString "10.0.0.1, 192.168.1.7").entries ≠
        (splitChain.values "x-forwarded-for").flatMap HeaderValue.entries ++
          ["192.168.1.7".toList] := by
  refine ⟨by decide +kernel, ?_, _, rfl, by decide +kernel, by decide +kernel⟩
  rintro ⟨value, listing, -⟩
  cases listing

end ApiGateway.Proxy
