import ApiGateway.Metrics.Basic
import ApiGateway.Proofs.Network.StatusCodes

/-!
# What one observation adds

A counter series is found by its labels written one after the other, so that two
pairs of labels may share a series: route `a1` with status `23` and route `a` with
status `123`. Statuses of HTTP have three digits, and among those no two pairs share
one. Then an observation adds one to exactly the count of its own labels
(`requestCount_observe`) and of its own route (`latencyCount_observe`).
-/

namespace ApiGateway.Metrics

open Http (IsStatus)

/-- How often latencies of a route were observed. -/
def latencyCount (metrics : Metrics) (route : String) : Nat :=
  match metrics.latencies.find? fun series => series.route == route with
  | some series => series.count
  | none => 0

/-- All statuses that label a series have three digits. -/
def HasStatuses (metrics : Metrics) : Prop :=
  ∀ series ∈ metrics.requests, series.status.length = 3

/-- The count of the series with a pair of labels. -/
def tally (route status : String) (counters : List CounterSeries) : Nat :=
  match counters.find? fun series => series.route == route && series.status == status with
  | some series => series.count
  | none => 0

section Counters

variable {counters : List CounterSeries} {route status : String}

/-- Statuses of one length are told apart. -/
theorem isFor_iff {series : CounterSeries} (sameLength : series.status.length = status.length) :
    CounterSeries.isFor series route status = true ↔
      series.route = route ∧ series.status = status := by
  simp only [CounterSeries.isFor, beq_iff_eq]
  constructor
  · intro same
    have lists := congrArg String.toList same
    rw [String.toList_append, String.toList_append] at lists
    obtain ⟨routes, statuses⟩ := List.append_inj' lists
      (by simpa [String.length_toList] using sameLength)
    exact ⟨String.toList_inj.mp routes, String.toList_inj.mp statuses⟩
  · rintro ⟨rfl, rfl⟩
    rfl

theorem length_of_mem_countRequest {length : Nat} (new : status.length = length)
    (known : ∀ series ∈ counters, series.status.length = length) :
    ∀ series ∈ countRequest route status counters, series.status.length = length := by
  induction counters with
  | nil => simpa [countRequest] using new
  | cons first rest inductionHypothesis =>
      have later := inductionHypothesis fun series member =>
        known series (List.mem_cons_of_mem _ member)
      have head := known first List.mem_cons_self
      simp only [countRequest]
      split
      · simpa using known
      · intro series member
        rcases List.mem_cons.mp member with rfl | member
        · exact head
        · exact later series member

theorem tally_cons (name label : String) (first : CounterSeries) (rest : List CounterSeries) :
    tally name label (first :: rest) =
      if first.route = name ∧ first.status = label then first.count
      else tally name label rest := by
  by_cases own : first.route = name ∧ first.status = label
  · simp [tally, own]
  · have other : (first.route == name && first.status == label) = false := by simpa using own
    simp [tally, own, other]

/-- Counting adds one to the count of its labels. -/
theorem tally_countRequest
    (sameLength : ∀ series ∈ counters, series.status.length = status.length)
    (name label : String) :
    tally name label (countRequest route status counters) =
      tally name label counters + if route = name ∧ status = label then 1 else 0 := by
  induction counters with
  | nil =>
      rw [countRequest, tally_cons]
      simp [tally]
  | cons first rest inductionHypothesis =>
      have later := inductionHypothesis fun series member =>
        sameLength series (List.mem_cons_of_mem _ member)
      simp only [countRequest]
      split
      · next isOwn =>
          obtain ⟨rfl, rfl⟩ := (isFor_iff (sameLength first List.mem_cons_self)).mp isOwn
          rw [tally_cons, tally_cons]
          split <;> simp [*]
      · next isOther =>
          rw [tally_cons, tally_cons, later]
          split
          · next found =>
              have apart : ¬ (route = name ∧ status = label) := by
                rintro ⟨rfl, rfl⟩
                exact isOther ((isFor_iff (sameLength first List.mem_cons_self)).mpr found)
              rw [if_neg apart, Nat.add_zero]
          · rfl

end Counters

section Observations

variable {metrics : Metrics} {status : Nat} (hasStatuses : metrics.HasStatuses)
  (valid : IsStatus status)

theorem hasStatuses_empty : Metrics.empty.HasStatuses := nofun

include hasStatuses valid

theorem HasStatuses.observe (route : String) (latency : Duration) :
    (metrics.observe route status latency).HasStatuses :=
  length_of_mem_countRequest valid.length_toString hasStatuses

theorem requestCount_observe (route : String) (latency : Duration) (name : String)
    (label : Nat) :
    (metrics.observe route status latency).requestCount name label =
      metrics.requestCount name label + if route = name ∧ status = label then 1 else 0 := by
  have sameLength : ∀ series ∈ metrics.requests,
      series.status.length = (toString status).length := by
    rw [valid.length_toString]
    exact hasStatuses
  calc (metrics.observe route status latency).requestCount name label
      = tally name (toString label) (countRequest route (toString status) metrics.requests) := rfl
    _ = tally name (toString label) metrics.requests +
          if route = name ∧ toString status = toString label then 1 else 0 :=
        tally_countRequest sameLength name (toString label)
    _ = metrics.requestCount name label + if route = name ∧ status = label then 1 else 0 := by
        simp only [Http.toString_eq_iff]
        rfl

omit hasStatuses valid

/-- An observation adds one to the latencies of its route. -/
theorem latencyCount_observe (metrics : Metrics) (route : String) (status : Nat)
    (latency : Duration) (name : String) :
    (metrics.observe route status latency).latencyCount name =
      metrics.latencyCount name + if route = name then 1 else 0 := by
  obtain ⟨requests, latencies⟩ := metrics
  simp only [observe, latencyCount]
  generalize seconds latency = value
  induction latencies with
  | nil => by_cases own : route = name <;> simp [addLatency, LatencySeries.add, own]
  | cons first rest inductionHypothesis =>
      simp only [addLatency]
      by_cases known : first.route = route
      · subst known
        by_cases own : first.route = name <;> simp [LatencySeries.add, own]
      · by_cases asked : first.route = name
        · subst asked
          simp [known, Ne.symm known]
        · simpa [known, asked] using inductionHypothesis

end Observations

end ApiGateway.Metrics
