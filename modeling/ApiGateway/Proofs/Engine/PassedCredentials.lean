import ApiGateway.Proofs.Auth.Credential
import ApiGateway.Proofs.Engine.Provenance
import ApiGateway.Proofs.Proxy.Headers

/-!
# Credentials that are passed on

A route that requires authentication checks the credential of the request, and under
the strategy `forward` the backend is to check it again. Every attempt carries all
`authorization` values of the request in their order, with one exception: the client
can take them all away by listing the header in `connection`
(`credentials_of_attempt`).
-/

namespace ApiGateway.Engine

open Http (HeaderValue)

/-- The `authorization` values of a request. -/
def Head.credentials (head : Head) : List HeaderValue := head.headers.values "authorization"

/-- The `authorization` values that an attempt carries. -/
def Exchange.credentials (exchange : Exchange) : List HeaderValue :=
  exchange.outbound.headers.values "authorization"

/-- The client lists `authorization` among the headers of its connection. -/
def Head.WithdrawsCredentials (head : Head) : Prop := Proxy.Lists head.headers "authorization"

/-- What an exchange carries depends on the headers of its request alone. -/
theorem Exchange.BuiltFor.credentials {engine : Engine} {job : Job} {exchange : Exchange}
    (built : exchange.BuiltFor engine job) :
    (job.head.WithdrawsCredentials → exchange.credentials = []) ∧
      (¬ job.head.WithdrawsCredentials → exchange.credentials = job.head.credentials) := by
  obtain ⟨body, outbound⟩ := built
  obtain ⟨uri, -, sent⟩ := Job.outbound_eq_ok_iff.mp outbound
  rw [Exchange.credentials, sent]
  exact Proxy.values_outboundHeaders (by decide) (by decide) (by decide)

/-- A route that requires authentication admits no request without credentials. -/
theorem credentials_ne_nil_of_dispatch {engine : Engine} {statuses : Backend.StatusBook}
    {now : Instant} {head : Head} {route : Routing.Route}
    (admitted : engine.dispatch statuses now head = .ok route)
    (guarded : route.requireAuth = true) : head.credentials ≠ [] := by
  have accepted := (dispatch_eq_ok_iff.mp admitted).2.2
  rw [credential, guarded] at accepted
  obtain ⟨value, -, first, -⟩ := Auth.exists_get?_of_ensureAuth accepted
  intro none
  rw [Http.Headers.get?, ← Head.credentials, none] at first
  cases first

/-- Every attempt of a request on a route that requires authentication carries the credentials of
the request, as many and in the order that they came in, exactly if the client did not list
`authorization` in a `connection` header. If it did, the attempt carries none of them. -/
theorem credentials_of_attempt {engine : Engine} {network : Network} {start : Instant}
    {world : World} (reached : Steps engine (.initial engine network start) world) {move : Move}
    {job : Job} {exchange : Exchange}
    (attempts : world.attempted? engine move = some (job, exchange))
    (guarded : job.route.requireAuth = true) :
    (exchange.credentials = job.head.credentials ↔ ¬ job.head.WithdrawsCredentials) ∧
      (job.head.WithdrawsCredentials → exchange.credentials = []) ∧ job.head.credentials ≠ [] := by
  obtain ⟨⟨statuses, instant, admitted, -⟩, built⟩ := reached.attempted attempts
  obtain ⟨withdrawn, kept⟩ := built.credentials
  have present := credentials_ne_nil_of_dispatch admitted guarded
  refine ⟨⟨?_, kept⟩, withdrawn, present⟩
  intro same withdraws
  rw [withdrawn withdraws] at same
  exact present same.symm

/-- `rootRoute` for requests with a credential. -/
def guardedRoute : Routing.Route := { rootRoute with requireAuth := true }

/-- A `GET` request for `/a` with headers. -/
def Head.withHeaders (headers : List (String × String)) : Head :=
  { Head.get "/a" with headers := ⟨headers.map fun (name, value) => (name, .ofString value)⟩ }

/-- A request with a credential that lists `authorization` in its `connection` header. -/
def Head.withdrawing : Head :=
  .withHeaders [("authorization", "Bearer t"), ("connection", "authorization")]

/-- A request that has just arrived at the gateway in front of a route. -/
def World.arrived (route : Routing.Route) (head : Head) : World :=
  World.serve (ofRoute route) 0 head [] (.initial (ofRoute route) ⟨[]⟩ 0)

/-- The request is admitted because of a credential that the attempt does not carry. -/
theorem credential_lost_on_the_way :
    (((World.arrived guardedRoute .withdrawing).attempted? (ofRoute guardedRoute) (.run 0)).map
      fun (job, exchange) =>
        (job.route.requireAuth, job.head.credentials, exchange.credentials)) =
      some (true, [.ofString "Bearer t"], []) := by
  decide +kernel

/-- A request with two credentials that lists another header. -/
def Head.twofold : Head :=
  .withHeaders [("authorization", "Bearer t"), ("connection", "X-A"), ("authorization", "Basic u")]

theorem credentials_kept_in_order :
    ∃ job exchange,
      (World.arrived guardedRoute .twofold).attempted? (ofRoute guardedRoute) (.run 0) =
        some (job, exchange) ∧
      exchange.credentials = [.ofString "Bearer t", .ofString "Basic u"] := by
  have reached : Steps (ofRoute guardedRoute) (.initial (ofRoute guardedRoute) ⟨[]⟩ 0)
      (World.arrived guardedRoute .twofold) :=
    Steps.refl.step (.move _ (.serve 0 .twofold []))
  have sent : (((World.arrived guardedRoute .twofold).attempted? (ofRoute guardedRoute)
      (.run 0)).map fun (job, _) => (job.route, job.head.credentials,
        Proxy.connectionListed job.head.headers)) =
      some (guardedRoute, [.ofString "Bearer t", .ofString "Basic u"], ["x-a"]) := by
    decide +kernel
  obtain ⟨⟨job, exchange⟩, attempts, same⟩ := Option.map_eq_some_iff.mp sent
  simp only [Prod.mk.injEq] at same
  obtain ⟨route, credentials, listed⟩ := same
  have guarded : job.route.requireAuth = true := by rw [route]; rfl
  have lets : ¬ job.head.WithdrawsCredentials := by
    intro withdraws
    have known := (Proxy.mem_connectionListed_iff (by decide)).mpr withdraws
    rw [listed] at known
    exact absurd known (by decide)
  refine ⟨job, exchange, attempts, ?_⟩
  rw [(credentials_of_attempt reached attempts guarded).1.mpr lets, credentials]

end ApiGateway.Engine
