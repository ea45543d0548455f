import ApiGateway.Proofs.Engine.Provenance
import ApiGateway.Proofs.Proxy.Target
import ApiGateway.Proofs.Routing.Forwarding

/-!
# The authority that attempts go to

A client chooses the target of its request, but not the scheme and the authority that
it is forwarded to: those are the backend's. There is one exception. The asterisk form
has no slash, so on a route for everything, to a backend with nothing behind its
authority, the asterisk ends up in the authority (`authority_of_attempt`).
-/

namespace ApiGateway.Engine

open Http.Uri (IsWeb)

/-- The request target of a job is written right behind the authority of its backend. -/
structure Job.ExtendsAuthority (job : Job) : Prop where
  asterisk : job.head.uri.path = "*"
  root : job.route.pathPrefix = "/"
  bare : job.route.target.Bare

/-- Every route of a table leads to a locator of the web with a host. -/
def LeadsToWeb (table : Routing.Table) : Prop :=
  ∀ route ∈ table.routes, IsWeb route.target.scheme ∧ route.target.host?.isSome = true

/-- A host makes an authority that is not empty. -/
theorem authority_of_host {target : Url} (named : target.host?.isSome = true) :
    ∃ authority, target.authority = some authority ∧ authority.text ≠ "" := by
  simp only [Url.host?] at named
  cases found : target.authority with
  | none => simp [found] at named
  | some authority =>
      refine ⟨authority, rfl, ?_⟩
      intro empty
      have host : authority.host = "" := by
        simp only [UrlAuthority.text, String.append_eq_empty_iff] at empty
        exact empty.1.2
      simp [found, host] at named

section Outbound

variable {engine : Engine} {job : Job} {body : ByteArray} {outbound : Http.Request}

/-- The target of an outbound request is the one that is joined for the job. -/
theorem Job.targetUri_of_outbound (built : job.outbound engine body = .ok outbound) :
    Proxy.targetUri job.route.target (job.route.forwardedPath job.head.uri.path)
      job.head.uri.query = .ok outbound.uri := by
  obtain ⟨uri, joined, rfl⟩ := Job.outbound_eq_ok_iff.mp built
  exact joined

/-- The root prefix sends the asterisk on as it is. -/
theorem Job.ExtendsAuthority.forwardedPath (extending : job.ExtendsAuthority) :
    job.route.forwardedPath job.head.uri.path = "*" := by
  simp [Routing.Route.forwardedPath, Routing.Route.forwardedChars, extending.root,
    extending.asterisk]

variable (opened : ∃ rest, job.route.pathPrefix.toList = '/' :: rest)
  (covered : job.route.covers job.head.uri.path = true) (shaped : job.head.uri.Shaped)
  (webShaped : job.route.target.WebShaped)
include opened covered shaped webShaped

/-- A forwarded path is set off from the authority: by its own slash, by what follows the
authority already, or because it is empty. -/
theorem Job.delimited_of_apart (apart : ¬ job.ExtendsAuthority) :
    Http.Uri.Delimited (Proxy.basePath job.route.target ++
      ((job.route.forwardedPath job.head.uri.path).toList ++
        Proxy.queryText job.head.uri.query)) := by
  have base := Proxy.delimited_basePath webShaped
  have slash (rest : List Char) : Http.Uri.Delimited ('/' :: rest) := by
    intro c first
    cases first
    decide
  simp only [Routing.Route.forwardedPath, String.toList_ofList]
  rcases Routing.Route.forwardedChars_of_covers opened covered with ⟨root, same⟩ | ⟨rest, rooted⟩
  · rw [same]
    rcases shaped with ⟨empty, noQuery⟩ | ⟨asterisk, noQuery⟩ | ⟨rest, rooted⟩
    · have nothing : job.head.uri.path.toList ++ Proxy.queryText job.head.uri.query = [] := by
        simp [empty, noQuery, Proxy.queryText]
      rw [nothing, List.append_nil]
      exact base
    · have filled : Proxy.basePath job.route.target ≠ [] := by
        intro nothing
        exact apart ⟨asterisk, root, Url.trimEnd_afterAuthority_eq_nil_iff.mp nothing⟩
      exact base.append_of_ne_nil filled _
    · rw [rooted]
      exact base.append (slash _)
  · rw [rooted]
    exact base.append (slash _)

/-- The scheme and the authority of an outbound request. -/
theorem Job.authority_of_outbound (web : IsWeb job.route.target.scheme)
    {authority : UrlAuthority} (named : job.route.target.authority = some authority)
    (filled : authority.text ≠ "") (built : job.outbound engine body = .ok outbound) :
    outbound.uri.scheme = some job.route.target.scheme ∧
      (¬ job.ExtendsAuthority → outbound.uri.authority = some authority.text) ∧
      (job.ExtendsAuthority → outbound.uri.authority = some (authority.text ++ "*")) := by
  have joined := Job.targetUri_of_outbound built
  by_cases extending : job.ExtendsAuthority
  · have noQuery : job.head.uri.query = none := by
      rcases shaped with ⟨-, noQuery⟩ | ⟨-, noQuery⟩ | ⟨rest, rooted⟩
      · exact noQuery
      · exact noQuery
      · rw [extending.asterisk] at rooted
        cases rooted
    rw [extending.forwardedPath, noQuery] at joined
    obtain ⟨scheme, extended⟩ :=
      Proxy.authority_of_asterisk named web webShaped filled extending.bare joined
    exact ⟨scheme, fun apart => absurd extending apart, fun _ => extended⟩
  · have delimited := Job.delimited_of_apart opened covered shaped webShaped extending
    obtain ⟨scheme, same⟩ :=
      Proxy.authority_of_delimited named web webShaped filled delimited joined
    exact ⟨scheme, fun _ => same, fun extends_ => absurd extends_ extending⟩

end Outbound

/-- Every attempt of every execution goes to the scheme of the matched route's backend. It goes to
the backend's authority, too, except for the asterisk form on the root prefix in front of a
backend with nothing but slashes behind its authority: then the asterisk is appended to it. -/
theorem authority_of_attempt {definitions : List Routing.Definition} {defaultTimeout : Duration}
    {engine : Engine} {shadowings : List Routing.Shadowing}
    (built : Routing.Table.build definitions defaultTimeout = .ok (engine.table, shadowings))
    (web : LeadsToWeb engine.table) {network : Network} {start : Instant} {world : World}
    (reached : Steps engine (.initial engine network start) world) {move : Move} {job : Job}
    {exchange : Exchange} (attempts : world.attempted? engine move = some (job, exchange))
    (accepted : ∃ text, Http.Uri.parse text = .ok job.head.uri) :
    ∃ authority, job.route.target.authority = some authority ∧
      exchange.outbound.uri.scheme = some job.route.target.scheme ∧
      (exchange.outbound.uri.authority = some authority.text ↔ ¬ job.ExtendsAuthority) ∧
      (job.ExtendsAuthority →
        exchange.outbound.uri.authority = some (authority.text ++ "*")) := by
  obtain ⟨⟨statuses, instant, admitted, -⟩, body, outbound⟩ := reached.attempted attempts
  have matched := (dispatch_eq_ok_iff.mp admitted).1.matched
  obtain ⟨member, covered⟩ := Routing.Table.mem_of_match? matched
  obtain ⟨isWeb, hosted⟩ := web job.route member
  obtain ⟨authority, named, filled⟩ := authority_of_host hosted
  obtain ⟨definition, -, yields⟩ := Routing.Table.yields_of_mem_build built member
  have opened := yields.prefix_eq_cons
  have webShaped : job.route.target.WebShaped := by
    obtain ⟨-, url, methods, parsed, -, same⟩ := yields
    rw [same] at isWeb ⊢
    exact Url.webShaped_of_parse parsed isWeb
  obtain ⟨text, read⟩ := accepted
  obtain ⟨scheme, own, extended⟩ := Job.authority_of_outbound opened covered
    (Http.Uri.shaped_of_parse read) webShaped isWeb named filled outbound
  refine ⟨authority, named, scheme, ⟨?_, own⟩, extended⟩
  intro same extending
  have appended := (extended extending).symm.trans same
  have longer : (authority.text ++ "*").length = authority.text.length := by
    rw [Option.some.inj appended]
  simp at longer

/-- The definition of `rootRoute`. -/
def rootDefinition : Routing.Definition where
  name := "all"
  pathPrefix := "/"
  target := "http://h"

/-- A request with the target `*` for whatever options the gateway has. -/
def Head.options : Head := { Head.get "*" with method := "OPTIONS" }

/-- A request has just been admitted to `rootRoute`. -/
def World.admitted (head : Head) : World :=
  World.serve (ofRoute rootRoute) 0 head [] (.initial (ofRoute rootRoute) ⟨[]⟩ 0)

/-- The backend is `h`, and the attempt goes to `h*`. -/
theorem asterisk_leaves_authority :
    (Http.Uri.parse "*").toOption = some Head.options.uri ∧
      rootRoute.target.authority.map UrlAuthority.text = some "h" ∧
      (((World.admitted .options).attempted? (ofRoute rootRoute) (.run 0)).map
        fun (_, exchange) => exchange.outbound.uri) = some ⟨some "http", some "h*", "/", none⟩ := by
  decide

theorem own_authority_for_path :
    ∃ job exchange, (World.admitted (.get "/a")).attempted? (ofRoute rootRoute) (.run 0) =
        some (job, exchange) ∧
      exchange.outbound.uri.authority = some "h" := by
  have built : Routing.Table.build [rootDefinition] (.ofSeconds 10) =
      .ok ((ofRoute rootRoute).table, []) :=
    Routing.Table.build_of_toOption (by decide +kernel)
  have web : LeadsToWeb (ofRoute rootRoute).table := by
    intro route member
    rw [List.mem_singleton.mp member]
    exact ⟨.inl rfl, by decide⟩
  have reached : Steps (ofRoute rootRoute) (.initial (ofRoute rootRoute) ⟨[]⟩ 0)
      (World.admitted (.get "/a")) :=
    Steps.refl.step (.move _ (.serve 0 (.get "/a") []))
  have sent : (((World.admitted (.get "/a")).attempted? (ofRoute rootRoute) (.run 0)).map
      fun (job, _) => (job.route, job.head.uri)) = some (rootRoute, (Head.get "/a").uri) := by
    decide
  obtain ⟨⟨job, exchange⟩, attempts, same⟩ := Option.map_eq_some_iff.mp sent
  have route : job.route = rootRoute := congrArg Prod.fst same
  have uri : job.head.uri = (Head.get "/a").uri := congrArg Prod.snd same
  have accepted : ∃ text, Http.Uri.parse text = .ok job.head.uri := ⟨"/a", by rw [uri]; rfl⟩
  obtain ⟨authority, named, -, own, -⟩ :=
    authority_of_attempt built web reached attempts accepted
  have host : authority = ⟨"", "h", none⟩ := by
    rw [route] at named
    exact (Option.some.inj named).symm
  have apart : ¬ job.ExtendsAuthority := by
    intro extending
    have asterisk := extending.asterisk
    rw [uri] at asterisk
    exact absurd asterisk (by decide)
  refine ⟨job, exchange, attempts, ?_⟩
  rw [own.mpr apart, host]
  rfl

end ApiGateway.Engine
