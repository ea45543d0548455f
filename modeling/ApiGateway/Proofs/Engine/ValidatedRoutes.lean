import ApiGateway.Proofs.Auth.SignedCredential
import ApiGateway.Proofs.Engine.PassedCredentials
import ApiGateway.Proofs.Routing.Built

/-!
# Routes that validate tokens

On a route with the strategy `validate` an attempt is made only for a request whose
first credential is a bearer token that passes under the configured secret when the
request arrives (`token_of_attempt`). Nothing looks at further credentials of the
request, but the attempt carries them, too (`verified_credentials_iff`).
-/

namespace ApiGateway.Engine

open Auth (Verifies)
open Http (HeaderValue)

/-! ## The secret of an engine -/

section Secret

variable {config : Config} {transport : Transport} {built : Built}

theorem verifier_of_ofDefinitions {definitions : List Routing.Definition}
    (made : ofDefinitions config definitions transport = .ok built) :
    built.engine.verifier = .ofSecret config.secret? := by
  simp only [ofDefinitions] at made
  split at made
  · cases made
  · cases made
    rfl

/-- Every engine verifies tokens under the configured secret. -/
theorem verifier_of_ofLoaded {loaded : Except GatewayError (List Routing.Definition)}
    (made : ofLoaded config loaded transport = .ok built) :
    built.engine.verifier = .ofSecret config.secret? := by
  simp only [ofLoaded] at made
  split at made
  · exact verifier_of_ofDefinitions made
  · cases made
  · split at made
    · next bare withoutRoutes =>
        have keyed := verifier_of_ofDefinitions withoutRoutes
        cases made
        exact keyed
    · cases made

/-- The secret of a verifier is configured and not empty. -/
theorem secret_of_ofSecret {key : List UInt8}
    (keyed : (Auth.TokenVerifier.ofSecret config.secret?).secret = some key) :
    ∃ secret, config.jwtSecret = some secret ∧ secret ≠ "" ∧ secret.toUTF8.toList = key := by
  obtain ⟨secret, found, encoded⟩ := Option.map_eq_some_iff.mp keyed
  obtain ⟨kept, filled⟩ := Option.filter_eq_some_iff.mp found
  obtain ⟨configured, -⟩ := Option.filter_eq_some_iff.mp kept
  exact ⟨secret, configured, by simpa using filled, encoded⟩

end Secret

/-! ## Admission -/

/-- A route that validates admits a request only if its first credential verifies. -/
theorem verifies_of_dispatch {engine : Engine} {statuses : Backend.StatusBook} {now : Instant}
    {head : Head} {route : Routing.Route} (admitted : engine.dispatch statuses now head = .ok route)
    (guarded : route.requireAuth = true) (validates : route.strategy = .validate) :
    ∃ first others, head.credentials = first :: others ∧ Verifies engine.verifier now first := by
  have accepted := (dispatch_eq_ok_iff.mp admitted).2.2
  rw [credential, guarded, validates] at accepted
  obtain ⟨first, found, verifies⟩ := Auth.ensureAuth_validate_iff.mp accepted
  obtain ⟨others, credentials⟩ := List.head?_eq_some_iff.mp found
  exact ⟨first, others, credentials, verifies⟩

/-- The first credential of a request is a visible bearer token that passes under a secret at an
instant. -/
def Head.BearsToken (secret : List UInt8) (instant : Instant) (head : Head) : Prop :=
  ∃ first others text token claims, head.credentials = first :: others ∧
    first.text? = some text ∧ Auth.IsBearer text token ∧ Auth.Passes secret instant token claims

/-! ## A gateway that validates -/

/-- An admitted request without a body is sent as soon as it goes on if it has a target. -/
theorem World.attempted?_of_admitted {engine : Engine} {world : World} {head : Head}
    {route : Routing.Route} {uri : Http.Uri}
    (admitted : engine.dispatch world.statuses world.now head = .ok route)
    (idle : world.tasks = [])
    (joined : Proxy.targetUri route.target (route.forwardedPath head.uri.path) head.uri.query =
      .ok uri) (ticket : Nat) :
    ∃ exchange, (world.serve engine ticket head []).attempted? engine (.run 0) =
      some (⟨ticket, head, route, world.now + route.timeout⟩, exchange) := by
  obtain ⟨outbound, built⟩ : ∃ outbound,
      Job.outbound engine ⟨ticket, head, route, world.now + route.timeout⟩ .empty =
        .ok outbound :=
    ⟨_, Job.outbound_eq_ok_iff.mpr ⟨uri, joined, rfl⟩⟩
  have sends (now : Instant) :
      Job.action engine now ⟨ticket, head, route, world.now + route.timeout⟩
        (.reading (.ok .empty)) = .send ⟨outbound, 0, now⟩ := by
    simp only [Job.action, built]
  refine ⟨_, attempted?_eq_some_iff.mpr ⟨.reading (.ok .empty), world.now, ?_, sends _⟩⟩
  rw [serve_of_admitted admitted]
  simp [resumed?, push, idle, isReady, wakeOf, readBody, readBodyFrom]

/-- A definition of a route for every request whose tokens the gateway verifies itself. -/
def validatingDefinition : Routing.Definition where
  name := "all"
  pathPrefix := "/"
  target := "http://h"
  requireAuth := true
  authStrategy := "validate"

def validatingRoute : Routing.Route := { guardedRoute with strategy := .validate }

/-- A configuration with the secret `s`. -/
def secretConfig : Config :=
  { Config.standard with mode := .proxyAll, jwtSecret := some "s", maxBodyBytes := 1024 }

/-- The gateway of this configuration in front of `validatingRoute`. -/
def validatingEngine : Engine :=
  { ofRoute validatingRoute with verifier := .ofSecret secretConfig.secret? }

theorem ofLoaded_secretConfig :
    ∃ lines, ofLoaded secretConfig (.ok [validatingDefinition]) ⟨.direct, none⟩ =
      .ok ⟨validatingEngine, lines⟩ := by
  have built : Routing.Table.build [validatingDefinition] secretConfig.backendTimeout =
      .ok (validatingEngine.table, []) :=
    Routing.Table.build_of_toOption (by decide +kernel)
  simp only [ofLoaded, ofDefinitions, built]
  exact ⟨_, rfl⟩

/-- A request for `/a` with some credentials. -/
def Head.bearing (credentials : List HeaderValue) : Head :=
  { Head.get "/a" with headers := ⟨credentials.map fun value => ("authorization", value)⟩ }

theorem credentials_bearing (credentials : List HeaderValue) :
    (Head.bearing credentials).credentials = credentials := by
  simp [Head.bearing, Head.credentials, Http.Headers.values, List.filter_map, Function.comp_def]

theorem not_withdrawsCredentials_bearing (credentials : List HeaderValue) :
    ¬ (Head.bearing credentials).WithdrawsCredentials := by
  rintro ⟨value, listing, -⟩
  simp [Head.bearing, Http.Headers.values, List.filter_map, Function.comp_def] at listing

/-- One minute after the expiry 1700000000. -/
def minuteLate : Instant := 1700000060 * 1000000000

/-- A request with some credentials has arrived at the gateway. -/
def World.bearing (credentials : List HeaderValue) : World :=
  World.serve validatingEngine 0 (.bearing credentials) []
    (.initial validatingEngine ⟨[]⟩ minuteLate)

/-- A request is forwarded with all its credentials if the first one verifies. -/
theorem attempted?_bearing {first : HeaderValue} (others : List HeaderValue)
    (verifies : Verifies validatingEngine.verifier minuteLate first) :
    ∃ job exchange, (World.bearing (first :: others)).attempted? validatingEngine (.run 0) =
        some (job, exchange) ∧
      job.head = .bearing (first :: others) ∧ job.route = validatingRoute := by
  have matched : validatingEngine.table.match? "/a" = some validatingRoute := by decide
  have allowed : validatingRoute.allows "GET" = true := by decide
  have unknown : (World.initial validatingEngine ⟨[]⟩ minuteLate).statuses.get?
      validatingRoute.backendKey = some (.new minuteLate) := by
    decide
  have admitted : validatingEngine.dispatch
      (World.initial validatingEngine ⟨[]⟩ minuteLate).statuses minuteLate
      (.bearing (first :: others)) = .ok validatingRoute := by
    refine dispatch_eq_ok_iff.mpr ⟨⟨rfl, matched, allowed⟩, ?_, ?_⟩
    · simp only [Backend.StatusBook.availability, unknown]
      rfl
    · refine Auth.ensureAuth_validate_iff.mpr ⟨first, ?_, verifies⟩
      rw [Http.Headers.get?, ← Head.credentials, credentials_bearing, List.head?_cons]
  have joined : (Proxy.targetUri validatingRoute.target
      (validatingRoute.forwardedPath "/a") none).toOption.isSome = true := by
    decide
  cases target : Proxy.targetUri validatingRoute.target
      (validatingRoute.forwardedPath "/a") none with
  | error error => rw [target] at joined; cases joined
  | ok uri =>
      obtain ⟨exchange, attempts⟩ := World.attempted?_of_admitted admitted rfl target 0
      exact ⟨_, exchange, attempts, rfl, rfl⟩

theorem reached_bearing (credentials : List HeaderValue) :
    Steps validatingEngine (.initial validatingEngine ⟨[]⟩ minuteLate) (.bearing credentials) :=
  Steps.refl.step (.move _ (.serve 0 (.bearing credentials) []))

/-- The credential with a token for a payload that the secret `s` signs. -/
def signedCredential (payload : String) : HeaderValue :=
  Auth.valueOf (Auth.credentialText (Auth.signedToken .sha256 "s".toUTF8.toList
    "eyJhbGciOiJIUzI1NiJ9".toList payload.toList))

theorem verifies_signedCredential {payload : String} {claims : Auth.Claims}
    (graphic : payload.toList.all Auth.isGraphic = true)
    (undotted : payload.toList.contains '.' = false)
    (decoded : (Auth.documentOf? payload.toList).bind Auth.Claims.decode? = some claims)
    (admissible : (Auth.documentOf? payload.toList).any
      (Auth.isAdmissible · (Int.fdiv minuteLate 1000000000)) = true) :
    Verifies validatingEngine.verifier minuteLate (signedCredential payload) := by
  have absent : '.' ∉ payload.toList := by simpa using undotted
  have named : (Auth.documentOf? "eyJhbGciOiJIUzI1NiJ9".toList).bind Auth.digestOfHeader? =
      some .sha256 := by
    decide +kernel
  exact Auth.verifies_of_signedToken rfl (by decide) graphic
    (Auth.verified?_signedToken absent named decoded admissible)

/-! ## Attempts -/

/-- On a route that validates an attempt is made only if a secret is configured and the request
had, when it arrived, a token that passes under it as its first credential. -/
theorem token_of_attempt {config : Config}
    {loaded : Except GatewayError (List Routing.Definition)} {transport : Transport}
    {engine : Engine} {lines : List Log.Line}
    (configured : ofLoaded config loaded transport = .ok ⟨engine, lines⟩) {network : Network}
    {start : Instant} {world : World}
    (reached : Steps engine (.initial engine network start) world) {move : Move} {job : Job}
    {exchange : Exchange} (attempts : world.attempted? engine move = some (job, exchange))
    (guarded : job.route.requireAuth = true) (validates : job.route.strategy = .validate) :
    ∃ secret earlier, config.jwtSecret = some secret ∧ secret ≠ "" ∧
      job.AdmittedIn engine (.initial engine network start) world earlier ∧
      job.head.BearsToken secret.toUTF8.toList earlier.now := by
  obtain ⟨earlier, admitted⟩ := reached.admission_of_attempted attempts
  obtain ⟨first, others, credentials, text, token, claims, visible, bearer, verified⟩ :=
    verifies_of_dispatch admitted.passed guarded validates
  obtain ⟨key, keyed, passes⟩ := Auth.passes_of_verify verified
  rw [verifier_of_ofLoaded configured] at keyed
  obtain ⟨secret, isSecret, filled, rfl⟩ := secret_of_ofSecret keyed
  exact ⟨secret, earlier, isSecret, filled, admitted, first, others, text, token, claims,
    credentials, visible, bearer, passes⟩

/-- The payload with the expiry 1700000000. -/
def expiringPayload : String := "eyJleHAiOjE3MDAwMDAwMDB9"

theorem verifies_expiringPayload :
    Verifies validatingEngine.verifier minuteLate (signedCredential expiringPayload) :=
  verifies_signedCredential (by decide) (by decide)
    (by decide +kernel : _ = some ⟨"", "", some 1700000000⟩) (by decide +kernel)

/-- A request whose only credential is a token for a payload is forwarded. -/
def ForwardedFor (payload : String) : Prop :=
  ∃ job exchange, (World.bearing [signedCredential payload]).attempted? validatingEngine (.run 0) =
      some (job, exchange) ∧
    job.head.credentials = [signedCredential payload] ∧ job.route = validatingRoute

theorem forwardedFor_of_verifies {payload : String}
    (verifies : Verifies validatingEngine.verifier minuteLate (signedCredential payload)) :
    ForwardedFor payload := by
  obtain ⟨job, exchange, attempts, isHead, isRoute⟩ := attempted?_bearing [] verifies
  exact ⟨job, exchange, attempts, by rw [isHead, credentials_bearing], isRoute⟩

/-- The payloads are `{"aud":5}` and `{"exp":-1}`. -/
theorem forwarded_with_audience_or_past_expiry :
    (ForwardedFor "eyJhdWQiOjV9" ∧
      ((Auth.documentOf? "eyJhdWQiOjV9".toList).bind (·.member? "aud")).any (· matches .integer 5) =
        true) ∧
      ForwardedFor "eyJleHAiOi0xfQ" ∧
      (Auth.documentOf? "eyJleHAiOi0xfQ".toList).bind Auth.Claims.decode? =
        some ⟨"", "", some (-1)⟩ := by
  refine ⟨⟨forwardedFor_of_verifies ?_, by decide +kernel⟩, forwardedFor_of_verifies ?_,
    by decide +kernel⟩
  · exact verifies_signedCredential (by decide) (by decide)
      (by decide +kernel : _ = some ⟨"", "", none⟩) (by decide +kernel)
  · exact verifies_signedCredential (by decide) (by decide)
      (by decide +kernel : _ = some ⟨"", "", some (-1)⟩) (by decide +kernel)

theorem token_accepted_a_minute_late :
    ∃ job exchange secret,
      (World.bearing [signedCredential expiringPayload]).attempted? validatingEngine (.run 0) =
        some (job, exchange) ∧
      secretConfig.jwtSecret = some secret ∧
      job.head.BearsToken secret.toUTF8.toList minuteLate := by
  obtain ⟨job, exchange, attempts, -, isRoute⟩ := forwardedFor_of_verifies verifies_expiringPayload
  obtain ⟨lines, configured⟩ := ofLoaded_secretConfig
  obtain ⟨secret, earlier, isSecret, -, admitted, bears⟩ := token_of_attempt configured
    (reached_bearing [signedCredential expiringPayload]) attempts (by rw [isRoute]; rfl)
    (by rw [isRoute]; rfl)
  -- No time has passed since the start, so the request arrived then.
  have sameNow : earlier.now = minuteLate := by
    obtain ⟨move, pieces, -, later⟩ := admitted.arrived
    have notBefore : minuteLate ≤ earlier.now := admitted.before.now_le
    have notAfter := Int.le_trans (earlier.now_le_now_move validatingEngine move) later.now_le
    rw [World.bearing, World.now_serve] at notAfter
    exact Int.le_antisymm notAfter notBefore
  rw [sameNow] at bears
  exact ⟨job, exchange, secret, attempts, isSecret, bears⟩

/-- On a route that validates the first credential of a forwarded request verified when it
arrived. All credentials of an attempt did exactly if the others of the request did as well or if
the client listed `authorization` in a `connection` header. -/
theorem verified_credentials_iff {engine : Engine} {network : Network} {start : Instant}
    {world : World} (reached : Steps engine (.initial engine network start) world) {move : Move}
    {job : Job} {exchange : Exchange}
    (attempts : world.attempted? engine move = some (job, exchange))
    (guarded : job.route.requireAuth = true) (validates : job.route.strategy = .validate) :
    ∃ earlier first others, job.AdmittedIn engine (.initial engine network start) world earlier ∧
      job.head.credentials = first :: others ∧ Verifies engine.verifier earlier.now first ∧
      ((∀ value ∈ exchange.credentials, Verifies engine.verifier earlier.now value) ↔
        job.head.WithdrawsCredentials ∨
          ∀ value ∈ others, Verifies engine.verifier earlier.now value) := by
  obtain ⟨earlier, admitted⟩ := reached.admission_of_attempted attempts
  obtain ⟨first, others, credentials, verifies⟩ :=
    verifies_of_dispatch admitted.passed guarded validates
  obtain ⟨withdrawn, kept⟩ := (reached.attempted attempts).2.credentials
  refine ⟨earlier, first, others, admitted, credentials, verifies, ?_⟩
  by_cases withdraws : job.head.WithdrawsCredentials
  · rw [withdrawn withdraws]
    exact ⟨fun _ => .inl withdraws, fun _ => nofun⟩
  · rw [kept withdraws, credentials, List.forall_mem_cons]
    constructor
    · rintro ⟨-, rest⟩
      exact .inr rest
    · rintro (absent | rest)
      · exact absurd absent withdraws
      · exact ⟨verifies, rest⟩

/-- A forged credential. -/
def forgedCredential : HeaderValue := .ofString "Basic Zm9yZ2Vk"

/-- The first credential verifies, and the forged one is forwarded with it. -/
theorem forged_credential_forwarded :
    ∃ job exchange first,
      Verifies validatingEngine.verifier minuteLate first ∧
      (World.bearing [first, forgedCredential]).attempted? validatingEngine (.run 0) =
        some (job, exchange) ∧
      job.route = validatingRoute ∧ exchange.credentials = [first, forgedCredential] ∧
      ∀ instant, ¬ Verifies validatingEngine.verifier instant forgedCredential := by
  obtain ⟨job, exchange, attempts, isHead, isRoute⟩ :=
    attempted?_bearing [forgedCredential] verifies_expiringPayload
  refine ⟨job, exchange, _, verifies_expiringPayload, attempts, isRoute, ?_, ?_⟩
  · have kept := ((reached_bearing _).attempted attempts).2.credentials.2
    rw [isHead, credentials_bearing] at kept
    exact kept (not_withdrawsCredentials_bearing _)
  · rintro instant ⟨text, token, claims, visible, bearer, -⟩
    have noToken : (forgedCredential.text?).bind Auth.bearerToken? = none := by decide +kernel
    rw [visible, Option.bind_some, Auth.bearerToken?_eq_some_iff.mpr bearer] at noToken
    cases noToken

theorem single_credential_verified :
    ∃ job exchange,
      (World.bearing [signedCredential expiringPayload]).attempted? validatingEngine (.run 0) =
        some (job, exchange) ∧
      ∃ instant, ∀ value ∈ exchange.credentials,
        Verifies validatingEngine.verifier instant value := by
  obtain ⟨job, exchange, attempts, credentials, isRoute⟩ :=
    forwardedFor_of_verifies verifies_expiringPayload
  obtain ⟨earlier, first, others, -, same, -, all⟩ := verified_credentials_iff
    (reached_bearing [signedCredential expiringPayload]) attempts (by rw [isRoute]; rfl)
    (by rw [isRoute]; rfl)
  rw [credentials] at same
  cases same
  exact ⟨job, exchange, attempts, earlier.now, all.mpr (.inr nofun)⟩

end ApiGateway.Engine
