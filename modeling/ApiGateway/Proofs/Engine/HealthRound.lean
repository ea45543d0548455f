import ApiGateway.Proofs.Engine.HealthLoop
import ApiGateway.Proofs.Engine.Standing

/-!
# A round of probes

A round starts one probe of each backend whose health address can be requested, and
nothing else. What the probes send depends on who takes connections just then
(`sent_launchAll`); whatever becomes of them, each is settled when its time is over
(`within_launchAll`).
-/

namespace ApiGateway

namespace Network

theorem host?_setHost (network : Network) (authority other : String) (script : HostScript) :
    (network.setHost authority script).host? other =
      if other = authority then some script else network.host? other := by
  obtain ⟨hosts⟩ := network
  simp only [host?, setHost]
  induction hosts with
  | nil =>
      by_cases same : other = authority
      · simp [same]
      · simp [same]
  | cons host rest inductionHypothesis =>
      obtain ⟨name, known⟩ := host
      by_cases replaced : name = authority
      · subst replaced
        rw [List.filter_cons_of_neg (by simp), inductionHypothesis, List.lookup_cons]
        by_cases same : other = name
        · simp [same]
        · simp [same, beq_false_of_ne same]
      · rw [List.filter_cons_of_pos (by simpa using replaced), List.cons_append, List.lookup_cons,
          inductionHypothesis, List.lookup_cons]
        by_cases same : other = name
        · simp [same, replaced]
        · simp [beq_false_of_ne same]

/-- Does an authority take connections? -/
def accepts (network : Network) (authority : String) : Bool :=
  (network.host? authority).any fun script => script.connecting = .accepted

/-- Replies are used up, but who takes connections stays the same. -/
theorem accepts_setHost {network : Network} {authority : String} {script : HostScript}
    (found : network.host? authority = some script) {other : HostScript}
    (same : other.connecting = script.connecting) :
    (network.setHost authority other).accepts = network.accepts := by
  funext name
  simp only [accepts, host?_setHost]
  by_cases isAuthority : name = authority
  · simp [isAuthority, found, same]
  · simp [isAuthority]

theorem accepts_deliverConnection (network : Network) (purpose : Purpose)
    (request : Http.Request) :
    (network.deliverConnection purpose request).network.accepts = network.accepts := by
  simp only [deliverConnection]
  split
  · rfl
  · next script found =>
      split
      · rfl
      · rfl
      · split
        · rfl
        · cases purpose <;> exact accepts_setHost found rfl

end Network

/-- What a request without headers sends over a connection of its own. -/
def Sent.probe (request : Http.Request) : Sent :=
  let headers := Http.Headers.empty.append "host" (.ofString request.uri.hostHeader)
  ⟨.connection, .probe, request.uri.authority.getD "", { request with headers }⟩

/-- What a probe of a backend sends, if the health address can be requested and a connection comes
about. -/
def Backend.probe? (backend : Backend) : Option Sent :=
  match Health.probeRequest backend with
  | .ok request => some (.probe request)
  | .error _ => none

/-- The health address of a backend can be requested. -/
def Backend.IsProbeable (backend : Backend) : Prop :=
  ∃ uri, Http.Uri.parse backend.healthUrl = .ok uri

theorem Backend.isSome_probe?_iff {backend : Backend} :
    backend.probe?.isSome = true ↔ backend.IsProbeable := by
  simp only [probe?, Health.probeRequest, IsProbeable]
  cases Http.Uri.parse backend.healthUrl <;> simp [Except.map]

theorem Health.headers_probeRequest {backend : Backend} {request : Http.Request}
    (requested : probeRequest backend = .ok request) : request.headers = .empty := by
  simp only [probeRequest] at requested
  cases parsed : Http.Uri.parse backend.healthUrl with
  | error error =>
      rw [parsed] at requested
      cases requested
  | ok uri =>
      rw [parsed] at requested
      cases requested
      rfl

theorem Network.sent_deliverConnection (network : Network) {request : Http.Request}
    (bare : request.headers = .empty) :
    (network.deliverConnection .probe request).sent =
      if network.accepts (request.uri.authority.getD "") then some (.probe request) else none := by
  cases found : network.host? (request.uri.authority.getD "") with
  | none => simp [deliverConnection, accepts, found]
  | some script =>
      cases connecting : script.connecting with
      | accepted =>
          simp only [deliverConnection, accepts, found, Option.any_some, connecting, decide_true,
            if_true, Sent.probe, bare]
          split <;> rfl
      | _ => simp [deliverConnection, accepts, found, connecting]

namespace Health

variable (network : Network) {limit : Duration} (now : Instant) (backend : Backend)

/-- The first step of a probe is one delivery. -/
theorem launch_of_request (limit : Duration) {backend : Backend} {request : Http.Request}
    (requested : probeRequest backend = .ok request) :
    let delivery := network.deliverWithin .connection .probe request limit
    launch network limit now backend = ⟨delivery.network, delivery.sent, none,
      some ⟨backend, now + (findingOf limit delivery.outcome).1,
        (findingOf limit delivery.outcome).2⟩⟩ := by
  simp only [launch, requested]

theorem launch_of_error (limit : Duration) {backend : Backend} {error : Http.UriError}
    (refused : probeRequest backend = .error error) :
    launch network limit now backend =
      ⟨network, none, some (skippedLine backend error), none⟩ := by
  simp only [launch, refused]

/-- With any time at all a probe is sent to whoever takes the connection. -/
theorem sent_deliverWithin {request : Http.Request} (bare : request.headers = .empty)
    (someTime : limit ≠ 0) :
    (network.deliverWithin .connection .probe request limit).sent =
        (if network.accepts (request.uri.authority.getD "") then some (.probe request) else none) ∧
      (network.deliverWithin .connection .probe request limit).network.accepts =
        network.accepts := by
  have sent := network.sent_deliverConnection bare
  have accepts := network.accepts_deliverConnection .probe request
  simp only [Network.deliverWithin, Network.deliver, someTime, if_false]
  cases (network.deliverConnection .probe request).sent <;> exact ⟨sent, accepts⟩

theorem sent_launch (someTime : limit ≠ 0) :
    (launch network limit now backend).sent =
        backend.probe?.filter (fun sent => network.accepts sent.authority) ∧
      (launch network limit now backend).network.accepts = network.accepts := by
  cases requested : probeRequest backend with
  | error error => simp [launch_of_error _ _ _ requested, Backend.probe?, requested]
  | ok request =>
      obtain ⟨sent, accepts⟩ :=
        sent_deliverWithin network (headers_probeRequest requested) someTime
      simp only [launch_of_request _ _ _ requested, Backend.probe?, requested, sent, accepts]
      exact ⟨by simp [Option.filter_some, Sent.probe], trivial⟩

/-- A probe that is started is one of its backend. -/
theorem backend_launch (limit : Duration) :
    (launch network limit now backend).check.map (·.backend) =
      if backend.probe?.isSome then some backend else none := by
  cases requested : probeRequest backend with
  | error error =>
      simp [launch_of_error _ _ _ requested, Backend.probe?, requested]
  | ok request =>
      simp [launch_of_request _ _ _ requested, Backend.probe?, requested]

theorem delay_findingOf_le {request : Http.Request} :
    (findingOf limit (network.deliverWithin .connection .probe request limit).outcome).1 ≤
      limit := by
  cases known : (network.deliverWithin .connection .probe request limit).outcome with
  | none => exact Nat.le_refl _
  | some ended =>
      obtain ⟨delay, outcome⟩ := ended
      have early := (Network.outcome_of_deliverWithin known).2
      cases outcome <;> exact early

/-- What a probe finds is known when its time is over. -/
theorem due_launch_le {backend : Backend} {check : Check}
    (launched : (launch network limit now backend).check = some check) :
    check.due ≤ now + limit := by
  cases requested : probeRequest backend with
  | error error =>
      rw [launch_of_error _ _ _ requested] at launched
      cases launched
  | ok request =>
      rw [launch_of_request _ _ _ requested] at launched
      cases launched
      exact Int.add_le_add_left (Int.ofNat_le.mpr (delay_findingOf_le network)) now

end Health

namespace Engine.World

variable (backends : List Backend) (world : World)

/-- A round sends one probe to each backend that takes the connection, in the order of the
backends. -/
theorem sent_launchAll : (launchAll backends world).1.sent = world.sent ++
    (backends.filterMap Backend.probe?).filter
      (fun sent => world.network.accepts sent.authority) := by
  induction backends generalizing world with
  | nil => exact (List.append_nil _).symm
  | cons backend rest inductionHypothesis =>
      have someTime : Health.probeTimeout ≠ 0 := by decide
      obtain ⟨sent, accepts⟩ := Health.sent_launch world.network world.now backend someTime
      simp only [launchAll, inductionHypothesis, launchProbe, sent, accepts, List.append_assoc]
      congr 1
      cases probed : backend.probe? with
      | none => simp [probed]
      | some probe =>
          rw [List.filterMap_cons_some probed, List.filter_cons, Option.filter_some]
          split <;> rfl

/-- A round starts a probe of each backend that can be probed. -/
theorem backends_launchAll : (launchAll backends world).2.map (·.backend) =
    backends.filter fun backend => backend.probe?.isSome := by
  induction backends generalizing world with
  | nil => rfl
  | cons backend rest inductionHypothesis =>
      have launched := Health.backend_launch world.network world.now backend Health.probeTimeout
      simp only [launchAll, List.map_append, inductionHypothesis]
      rw [List.filter_cons, ← Option.toList_map, launchProbe, launched]
      split <;> rfl

theorem mem_backends_launchAll_iff {backend : Backend} :
    backend ∈ (launchAll backends world).2.map (·.backend) ↔
      backend ∈ backends ∧ backend.IsProbeable := by
  rw [backends_launchAll, List.mem_filter, Backend.isSome_probe?_iff]

/-- All probes of a round are settled when their time is over. -/
theorem within_launchAll : ∀ check ∈ (launchAll backends world).2,
    check.due ≤ world.now + Health.probeTimeout := by
  induction backends generalizing world with
  | nil =>
      intro check member
      cases member
  | cons backend rest inductionHypothesis =>
      intro check member
      simp only [launchAll] at member
      rcases List.mem_append.mp member with first | later
      · exact Health.due_launch_le world.network world.now (Option.mem_toList.mp first)
      · have inTime := inductionHypothesis (world.launchProbe backend).1 check later
        rwa [now_launchProbe] at inTime

/-! ## When a round goes on -/

theorem foldl_min_le (rest : List Instant) (first : Instant) : rest.foldl min first ≤ first := by
  induction rest generalizing first with
  | nil => exact Int.le_refl _
  | cons second rest inductionHypothesis =>
      exact Int.le_trans (inductionHypothesis _) (Int.min_le_left ..)

theorem earliest_le {default bound : Instant} {instants : List Instant} (atMost : default ≤ bound)
    (within : ∀ instant ∈ instants, instant ≤ bound) : earliest default instants ≤ bound := by
  cases instants with
  | nil => exact atMost
  | cons first rest =>
      exact Int.le_trans (foldl_min_le rest first) (within first List.mem_cons_self)

end Engine.World

end ApiGateway
