import ApiGateway.Proofs.Engine.Admission
import ApiGateway.Proofs.Engine.PassThrough
import Mathlib.Order.WellFounded

/-!
# The event that decides a body

A body may exceed the cap, break off, come to its end or meet the deadline. `Occurs` tells
for each of these events by itself, on the pieces of the body, when and where it occurs; two
events of one instant are ordered by their places, and the deadline comes behind everything
that is there by then. The event that comes first decides what becomes of the request
(`decided_by_first_event`). If all of the body arrives by the deadline, its size alone
tells which event that is, so it makes no difference how the body is cut into pieces.
-/

namespace ApiGateway.Engine

open BodyPiece (content duration)

/-- Something that ends the reading of a body. -/
inductive BodyEvent where
  /-- A piece of data brings the body over the cap. -/
  | overflow
  | failure (reason : String)
  | deadline
  | ending

namespace BodyEvent

/-- What has been read when the event comes first. -/
def result (pieces : List BodyPiece) : BodyEvent → Except BodyFault ByteArray
  | overflow => .error .tooLarge
  | failure reason => .error (.failed reason)
  | deadline => .error .timedOut
  | ending => .ok (content pieces)

/-- An event occurs so long after the body began to arrive, at a place among its pieces. What
stands behind a stall never comes. -/
inductive Occurs (maxBytes : Nat) (timeout : Duration) (pieces : List BodyPiece) :
    BodyEvent → Duration → Nat → Prop where
  | overflow {before rest : List BodyPiece} {bytes : ByteArray}
      (parted : pieces = before ++ .data bytes :: rest) (unstalled : .stall ∉ before)
      (fits : (content before).size ≤ maxBytes)
      (exceeds : maxBytes < (content before).size + bytes.size) :
      Occurs maxBytes timeout pieces .overflow (duration before) before.length
  | failure {before rest : List BodyPiece} {reason : String}
      (parted : pieces = before ++ .failure reason :: rest) (unstalled : .stall ∉ before) :
      Occurs maxBytes timeout pieces (.failure reason) (duration before) before.length
  | deadline : Occurs maxBytes timeout pieces .deadline timeout (pieces.length + 1)
  | ending (unstalled : .stall ∉ pieces) :
      Occurs maxBytes timeout pieces .ending (duration pieces) pieces.length

/-- An event comes first: no event is earlier, or of the same instant and in front of it. -/
structure ComesFirst (maxBytes : Nat) (timeout : Duration) (pieces : List BodyPiece)
    (event : BodyEvent) (time : Duration) (place : Nat) : Prop where
  occurs : event.Occurs maxBytes timeout pieces time place
  first : ∀ {other : BodyEvent} {later : Duration} {behind : Nat},
    other.Occurs maxBytes timeout pieces later behind →
      time < later ∨ time = later ∧ place ≤ behind

section First

variable {maxBytes : Nat} {timeout : Duration} {pieces : List BodyPiece} {event : BodyEvent}
  {time : Duration} {place : Nat}

/-- Some event comes first, since the deadline occurs for every body. -/
theorem exists_comesFirst (maxBytes : Nat) (timeout : Duration) (pieces : List BodyPiece) :
    ∃ event time place, ComesFirst maxBytes timeout pieces event time place := by
  -- The first event is a least one by time and then by place.
  have wellFounded := (Prod.lex Nat.lt_wfRel Nat.lt_wfRel).wf
  obtain ⟨⟨time, place⟩, ⟨event, occurs⟩, least⟩ := wellFounded.has_min
    {moment | ∃ event, Occurs maxBytes timeout pieces event moment.1 moment.2}
    ⟨(timeout, pieces.length + 1), .deadline, .deadline⟩
  refine ⟨event, time, place, occurs, ?_⟩
  intro other later behind otherOccurs
  have notBefore := least (later, behind) ⟨other, otherOccurs⟩
  have notEarlier : ¬ later < time := fun earlier => notBefore (.left _ _ earlier)
  by_cases same : later = time
  · subst same
    exact .inr ⟨rfl, Nat.not_lt.mp fun inFront => notBefore (.right _ inFront)⟩
  · exact .inl (Nat.lt_of_le_of_ne (Nat.not_lt.mp notEarlier) (Ne.symm same))

/-- Too much data has a piece that brings it over the cap. -/
theorem exists_crossing (large : maxBytes < (content pieces).size) :
    ∃ before bytes rest, pieces = before ++ .data bytes :: rest ∧
      (content before).size ≤ maxBytes ∧
      maxBytes < (content before).size + bytes.size := by
  -- From the last piece on: the front is too large already, or that piece brings it over the cap.
  induction pieces using List.reverseRecOn with
  | nil => exact absurd large (Nat.not_lt_zero _)
  | append_singleton before piece inductionHypothesis =>
      by_cases early : maxBytes < (content before).size
      · obtain ⟨front, bytes, rest, parted, crossing⟩ := inductionHypothesis early
        exact ⟨front, bytes, rest ++ [piece], by simp [parted], crossing⟩
      · rw [BodyPiece.content_append, ByteArray.size_append] at large
        cases piece with
        | data bytes =>
            refine ⟨before, bytes, [], rfl, Nat.not_lt.mp early, ?_⟩
            simpa [content] using large
        | _ => exact absurd (by simpa [content] using large) early

/-- If too much data has come, the body exceeds the cap at one of the pieces so far. -/
theorem exists_overflow {before rest : List BodyPiece} (parted : pieces = before ++ rest)
    (unstalled : .stall ∉ before) (large : maxBytes < (content before).size) :
    ∃ front piece back, before = front ++ piece :: back ∧
      overflow.Occurs maxBytes timeout pieces (duration front) front.length := by
  obtain ⟨front, bytes, back, inside, fits, exceeds⟩ := exists_crossing large
  have early : .stall ∉ front := fun stalls =>
    unstalled (inside ▸ List.mem_append_left _ stalls)
  have whole : pieces = front ++ .data bytes :: (back ++ rest) := by simp [parted, inside]
  exact ⟨front, _, back, inside, .overflow whole early fits exceeds⟩

/-- Only the deadline lies behind the last piece. -/
theorem Occurs.place_le (occurs : event.Occurs maxBytes timeout pieces time place) :
    place ≤ pieces.length ∨ event = .deadline := by
  cases occurs with
  | overflow parted => exact .inl (by simp [parted])
  | failure parted => exact .inl (by simp [parted])
  | deadline => exact .inr rfl
  | ending => exact .inl (Nat.le_refl _)

theorem unstalled_of_arrives (arrives : Arrives timeout pieces) : .stall ∉ pieces :=
  fun stalls => absurd (arrives.flowing _ stalls) (by decide)

theorem not_oversized_of_fits (fits : (content pieces).size ≤ maxBytes) :
    ¬ Oversized maxBytes timeout pieces := by
  rintro ⟨before, rest, rfl, -, large⟩
  rw [BodyPiece.content_append, ByteArray.size_append] at fits
  omega

namespace ComesFirst

/-- What comes first comes by the deadline. -/
theorem time_le (comesFirst : ComesFirst maxBytes timeout pieces event time place) :
    time ≤ timeout := by
  rcases comesFirst.first .deadline with earlier | ⟨same, -⟩
  · exact Nat.le_of_lt earlier
  · exact Nat.le_of_eq same

/-- No event occurs at a piece in front of the one that comes first. -/
theorem not_occurs {before front back : List BodyPiece} {piece : BodyPiece} {other : BodyEvent}
    (comesFirst : ComesFirst maxBytes timeout pieces event (duration before) before.length)
    (inside : before = front ++ piece :: back) :
    ¬ other.Occurs maxBytes timeout pieces (duration front) front.length := by
  intro occurs
  have notLater : duration front ≤ duration before := by
    rw [inside, BodyPiece.duration_append]
    exact Nat.le_add_right _ _
  have shorter : front.length < before.length := by simp [inside]
  rcases comesFirst.first occurs with earlier | ⟨-, behind⟩
  · exact absurd notLater (Nat.not_le.mpr earlier)
  · exact absurd behind (Nat.not_le.mpr shorter)

/-- What stands in front of the first event arrives by the deadline and fits. -/
theorem arrives_before {before rest : List BodyPiece}
    (comesFirst : ComesFirst maxBytes timeout pieces event (duration before) before.length)
    (parted : pieces = before ++ rest) (unstalled : .stall ∉ before) :
    Arrives timeout before ∧ (content before).size ≤ maxBytes := by
  refine ⟨⟨?_, comesFirst.time_le⟩, ?_⟩
  · intro piece member
    cases piece with
    | data bytes => rfl
    | pause length => rfl
    | stall => exact absurd member unstalled
    | failure reason =>
        obtain ⟨front, back, inside⟩ := List.append_of_mem member
        have early : .stall ∉ front := fun stalls =>
          unstalled (inside ▸ List.mem_append_left _ stalls)
        have whole : pieces = front ++ .failure reason :: (back ++ rest) := by
          simp [parted, inside]
        exact absurd (.failure whole early) (comesFirst.not_occurs inside)
  · refine Nat.not_lt.mp fun large => ?_
    obtain ⟨front, piece, back, inside, overflows⟩ := exists_overflow parted unstalled large
    exact comesFirst.not_occurs inside overflows

/-- If the deadline comes first, nothing else occurs by then. -/
theorem lt_of_deadline (comesFirst : ComesFirst maxBytes timeout pieces .deadline time place)
    {other : BodyEvent} {later : Duration} {behind : Nat}
    (occurs : other.Occurs maxBytes timeout pieces later behind) (apart : other ≠ .deadline) :
    timeout < later := by
  cases comesFirst.occurs
  rcases comesFirst.first occurs with earlier | ⟨-, inFront⟩
  · exact earlier
  · have within := occurs.place_le.resolve_right apart
    omega

/-- A body that is decided by the deadline is neither too large before nor complete. -/
theorem overdue_of_deadline
    (comesFirst : ComesFirst maxBytes timeout pieces .deadline time place) :
    Overdue timeout pieces ∧ ¬ Oversized maxBytes timeout pieces := by
  constructor
  · by_contra notOverdue
    have unbroken (reason : String) : ¬ Broken timeout reason pieces := by
      rintro ⟨before, rest, parted, arrives⟩
      have late := comesFirst.lt_of_deadline (.failure parted (unstalled_of_arrives arrives)) nofun
      exact absurd arrives.inTime (Nat.not_le.mpr late)
    have arrives := Arrives.of_neither unbroken notOverdue
    have late := comesFirst.lt_of_deadline (.ending (unstalled_of_arrives arrives)) nofun
    exact absurd arrives.inTime (Nat.not_le.mpr late)
  · rintro ⟨before, rest, parted, arrives, large⟩
    obtain ⟨front, piece, back, inside, overflows⟩ :=
      exists_overflow parted (unstalled_of_arrives arrives) large
    have late := comesFirst.lt_of_deadline overflows nofun
    have inTime := arrives.inTime
    rw [inside, BodyPiece.duration_append] at inTime
    exact absurd (Nat.le_trans (Nat.le_add_right _ _) inTime) (Nat.not_le.mpr late)

end ComesFirst

/-- Reading a body ends with the event that comes first, when it occurs. -/
theorem readBody_of_comesFirst
    (comesFirst : ComesFirst maxBytes timeout pieces event time place) (now : Instant) :
    readBody maxBytes now (now + timeout) pieces = ⟨now + time, event.result pieces⟩ := by
  cases comesFirst.occurs with
  | overflow parted unstalled fits exceeds =>
      obtain ⟨arrives, -⟩ := comesFirst.arrives_before parted unstalled
      rw [parted, readBody_append now arrives fits, readBodyFrom, if_pos exceeds]
      rfl
  | failure parted unstalled =>
      obtain ⟨arrives, fits⟩ := comesFirst.arrives_before parted unstalled
      rw [parted, readBody_append now arrives fits, readBodyFrom]
      rfl
  | deadline =>
      obtain ⟨overdue, notOversized⟩ := comesFirst.overdue_of_deadline
      exact readBody_of_overdue now overdue notOversized
  | ending unstalled =>
      obtain ⟨arrives, fits⟩ := comesFirst.arrives_before (List.append_nil _).symm unstalled
      exact readBody_of_arrives now arrives (not_oversized_of_fits fits)

/-- A body that arrives whole is decided by its size. -/
theorem ComesFirst.of_arrives (comesFirst : ComesFirst maxBytes timeout pieces event time place)
    (arrives : Arrives timeout pieces) :
    ((content pieces).size ≤ maxBytes → event = .ending) ∧
      (maxBytes < (content pieces).size → event = .overflow) := by
  have read := readBody_of_comesFirst comesFirst 0
  constructor
  · intro fits
    rw [readBody_of_arrives 0 arrives (not_oversized_of_fits fits)] at read
    have same : .ok (content pieces) = event.result pieces := congrArg BodyRead.result read
    cases event with
    | ending => rfl
    | _ => cases same
  · intro large
    have tooLarge : Oversized maxBytes timeout pieces :=
      ⟨pieces, [], (List.append_nil _).symm, arrives, large⟩
    have same := readBody_of_oversized 0 tooLarge
    rw [read] at same
    cases event with
    | overflow => rfl
    | _ => cases same

end First

end BodyEvent

/-! ## Executions -/

/-- A request is refused with a status and a message, and nothing else happens. -/
def Refused (arrival : Arrival) (route : Routing.Route) (status : Nat) (message : String)
    (before after : World) : Prop :=
  ∃ error : Http.ApiError, error.status = status ∧ error.message = message ∧
    TurnedAway arrival.ticket (some route) error before after

/-- What an event makes of a request whose body it decides. -/
def BodyEvent.Settles (engine : Engine) (arrival : Arrival) (route : Routing.Route)
    (before after : World) : BodyEvent → Prop
  | overflow => Refused arrival route 413
      ("request body exceeds " ++ toString engine.maxBodyBytes ++ " bytes") before after
  | failure reason => Refused arrival route 400
      ("failed to read request body: " ++ reason) before after
  | deadline => Refused arrival route 408
      ("request body not received within " ++ route.timeout.text) before after
  | ending => after = before.forward engine (arrival.job route) (content arrival.pieces)

/-- An event decides, so long after its arrival, what becomes of a request. -/
structure DecidedBy (engine : Engine) (first : World) (happenings : List Happening)
    (arrival : Arrival) (route : Routing.Route) (event : BodyEvent) (time : Duration) : Prop where
  /-- If the whole body comes by the deadline, only its size matters. -/
  whole : Arrives route.timeout arrival.pieces →
    ((content arrival.pieces).size ≤ engine.maxBodyBytes → event = .ending) ∧
      (engine.maxBodyBytes < (content arrival.pieces).size → event = .overflow)
  /-- The request waits for the event, or it has gone on as the event says. If nobody is passed
  over it has done so at that instant. -/
  goesOn : (.request (arrival.job route) (.reading (event.result arrival.pieces))
          (arrival.met.now + time) ∈ (first.through engine happenings).tasks ∧
        (Punctual happenings →
          (first.through engine happenings).now ≤ arrival.met.now + time)) ∨
    ∃ before index rest, happenings = before ++ .move (.run index) :: rest ∧
      arrival.met.now + time ≤ (first.through engine before).now ∧
      (Punctual happenings → (first.through engine before).now = arrival.met.now + time) ∧
      event.Settles engine arrival route ((first.through engine before).without index)
        (first.through engine (before ++ [.move (.run index)]))
  /-- Nothing is sent for a request before the end of its body, and all that is sent has the whole
  body. -/
  attempts : ∀ {before move rest job exchange}, happenings = before ++ .move move :: rest →
    (first.through engine before).attempted? engine move = some (job, exchange) →
    job.ticket = arrival.ticket →
      event = .ending ∧ exchange.outbound.body = content arrival.pieces

section Executions

variable {engine : Engine} {arrival : Arrival} {route : Routing.Route}

theorem BodyEvent.settles_resumeRequest (event : BodyEvent) (world : World) :
    event.Settles engine arrival route world (world.resumeRequest engine (arrival.job route)
      (.reading (event.result arrival.pieces))) := by
  have turnedAway := world.turnedAway_rejectBody engine (arrival.job route)
  cases event with
  | overflow => exact ⟨_, rfl, rfl, turnedAway .tooLarge⟩
  | failure reason => exact ⟨_, rfl, rfl, turnedAway (.failed reason)⟩
  | deadline => exact ⟨_, rfl, rfl, turnedAway .timedOut⟩
  | ending => rfl

/-- An admitted request that has arrived waits for the end of its body. -/
theorem exists_waits_of_arrived {first : World} {happenings : List Happening}
    (arrived : arrival ∈ first.arrivals engine happenings)
    (admitted : engine.dispatch arrival.met.statuses arrival.met.now arrival.head = .ok route) :
    ∃ before rest, happenings = before ++ rest ∧
      (first.through engine before).now = arrival.met.now ∧
      .request (arrival.job route) (.reading (arrival.read engine route).result)
        (arrival.read engine route).finished ∈ (first.through engine before).tasks := by
  obtain ⟨⟨met, happening⟩, member, arrives⟩ := List.mem_filterMap.mp arrived
  obtain ⟨before, rest, rfl, reached⟩ := first.exists_append_of_mem_moments engine member
  obtain ⟨⟨ticket, head, pieces⟩, handed, rfl⟩ := Option.map_eq_some_iff.mp arrives
  obtain ⟨move, made, served⟩ := Option.bind_eq_some_iff.mp handed
  cases happening with
  | move other =>
      cases made
      refine ⟨before ++ [.move move], rest, by simp, ?_⟩
      rw [World.through_concat, reached, World.after, World.move_eq_serve engine met served,
        World.serve_of_admitted admitted]
      exact ⟨rfl, List.mem_append_right _ List.mem_cons_self⟩
  | delay instant => cases made
  | report key finding => cases made

variable {network : Network} {start : Instant} {happenings : List Happening}
  (distinct : (tickets happenings).Nodup)
  (arrived : arrival ∈ (World.initial engine network start).arrivals engine happenings)
  (admitted : engine.dispatch arrival.met.statuses arrival.met.now arrival.head = .ok route)
include distinct arrived admitted

/-- The event that comes first decides a request in every execution. -/
theorem decidedBy_of_comesFirst {event : BodyEvent} {time : Duration} {place : Nat}
    (comesFirst : BodyEvent.ComesFirst engine.maxBodyBytes route.timeout arrival.pieces event time
      place) :
    DecidedBy engine (.initial engine network start) happenings arrival route event time where
  whole := comesFirst.of_arrives
  goesOn := by
    have read : arrival.read engine route =
        ⟨arrival.met.now + time, event.result arrival.pieces⟩ :=
      BodyEvent.readBody_of_comesFirst comesFirst arrival.met.now
    obtain ⟨before, rest, rfl, sameNow, waits⟩ := exists_waits_of_arrived arrived admitted
    rw [read] at waits
    have notOver : ((World.initial engine network start).through engine before).now ≤
        arrival.met.now + time := by
      rw [sameNow]
      exact Int.le_add_of_nonneg_right (Int.natCast_nonneg time)
    rw [World.through_append]
    rcases waits_or_resumed waits notOver rest with
      ⟨still, onTime⟩ | ⟨moment, member, move, made, going⟩
    · exact .inl ⟨still, fun punctual => onTime fun instant later =>
        punctual instant (List.mem_append_right _ later)⟩
    · right
      obtain ⟨more, others, rfl, reached⟩ := World.exists_append_of_mem_moments _ _ member
      obtain ⟨index, rfl, found, resumes⟩ := World.move_eq_resume engine going
      rw [made] at distinct ⊢
      rw [← World.through_append] at reached
      have ready : arrival.met.now + time ≤ moment.world.now :=
        of_decide_eq_true (Option.filter_eq_some_iff.mp going).2
      refine ⟨before ++ more, index, others, by simp, reached.symm ▸ ready, ?_, ?_⟩
      · intro punctual
        rw [← List.append_assoc] at punctual distinct
        rw [tickets_append] at distinct
        have punctualBefore : Punctual (before ++ more) := fun instant earlier =>
          punctual instant (List.mem_append_left _ earlier)
        have distinctBefore := distinct.of_append_left
        -- A request that is still under way has not been passed over.
        obtain ⟨-, -, -, -, -, -, onTime, -⟩ := stands_of_reached reached distinctBefore
          punctualBefore _ (List.mem_of_getElem? found) _ _ _ rfl
        rw [reached]
        exact Int.le_antisymm onTime ready
      · rw [World.through_concat, reached, World.after, resumes]
        exact event.settles_resumeRequest _
  attempts := by
    rintro before move rest job exchange rfl attempts same
    obtain ⟨-, built⟩ := builtFrom_of_attempted distinct arrived admitted attempts same
    refine ⟨?_, (built.outbound admitted).2⟩
    obtain ⟨body, read, -⟩ := built
    have ended : event.result arrival.pieces = .ok body := by
      rw [← read, Arrival.read, BodyEvent.readBody_of_comesFirst comesFirst]
    cases event with
    | ending => rfl
    | _ => cases ended

/-- The event that comes first decides what becomes of an admitted request: a body that exceeds the
cap, breaks off or is not there at the deadline is refused with 413, 400 or 408, and one that comes
to its end is forwarded with the content of all its pieces. -/
theorem decided_by_first_event :
    (∃ event time place, BodyEvent.ComesFirst engine.maxBodyBytes route.timeout arrival.pieces
      event time place) ∧
    ∀ {event time place}, BodyEvent.ComesFirst engine.maxBodyBytes route.timeout arrival.pieces
      event time place →
        DecidedBy engine (.initial engine network start) happenings arrival route event time :=
  ⟨BodyEvent.exists_comesFirst .., decidedBy_of_comesFirst distinct arrived admitted⟩

end Executions

/-! ### One execution -/

/-- A gateway that takes bodies of four bytes. -/
def cappedGateway : Engine := { ofRoute rootRoute with maxBodyBytes := 4 }

/-- Two bytes, an empty piece, and after a second three bytes more. -/
def pacedUpload : List BodyPiece :=
  [.data "ab".toUTF8, .data .empty, .pause (.ofSeconds 1), .data "cde".toUTF8]

/-- The upload is served to its end. -/
def uploading : List Happening :=
  [.move (.serve 1 (.get "/a") pacedUpload), .move (.advance 1000000000), .move (.run 0)]

theorem decided_by_overflow :
    (tickets uploading).Nodup ∧ ∃ before index rest,
      uploading = before ++ .move (.run index) :: rest ∧
      Refused ⟨1, .get "/a", pacedUpload, .initial cappedGateway ⟨[]⟩ 0⟩ rootRoute 413
        "request body exceeds 4 bytes"
        (((World.initial cappedGateway ⟨[]⟩ 0).through cappedGateway before).without index)
        ((World.initial cappedGateway ⟨[]⟩ 0).through cappedGateway
          (before ++ [.move (.run index)])) := by
  have distinct : (tickets uploading).Nodup := by decide
  let arrival : Arrival := ⟨1, .get "/a", pacedUpload, .initial cappedGateway ⟨[]⟩ 0⟩
  have arrived : arrival ∈ (World.initial cappedGateway ⟨[]⟩ 0).arrivals cappedGateway
      uploading := List.mem_cons_self
  have admitted : cappedGateway.dispatch arrival.met.statuses arrival.met.now arrival.head =
      .ok rootRoute := by rfl
  obtain ⟨⟨event, time, place, comesFirst⟩, decided⟩ :=
    decided_by_first_event distinct arrived admitted
  have decided := decided comesFirst
  have arrives : Arrives rootRoute.timeout pacedUpload :=
    ⟨by simp [pacedUpload, BodyPiece.flows], by decide⟩
  obtain rfl := (decided.whole arrives).2 (by decide +kernel)
  have idle : ((World.initial cappedGateway ⟨[]⟩ 0).through cappedGateway uploading).tasks = [] :=
    rfl
  rcases decided.goesOn with ⟨still, -⟩ | ⟨before, index, rest, parted, -, -, settles⟩
  · rw [idle] at still
    cases still
  · exact ⟨distinct, before, index, rest, parted, settles⟩

end ApiGateway.Engine
