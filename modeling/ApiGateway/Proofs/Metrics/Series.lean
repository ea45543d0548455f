import ApiGateway.Proofs.Metrics.Tally
import Mathlib.Data.List.Induction
import Mathlib.Data.List.Nodup

/-!
# The series of many observations

Both families change the one series that a text finds and add a series where there is none
(`amend`). A latency series is found by its route. A counter series is found by its label values
written one after the other, so an observation is counted in the series of the first observation
that reads the same, under the labels of that one (`series?_observeAll`).
-/

namespace ApiGateway

/-! ## Entries with keys -/

section Entries

variable {α : Type} (key : α → String)

/-- Change the first entry with a key, or add an entry if there is none. -/
def amend (text : String) (change : α → α) (fresh : α) : List α → List α
  | [] => [fresh]
  | entry :: rest =>
    if key entry = text then change entry :: rest else entry :: amend text change fresh rest

variable {key}

/-- Entries with keys of their own are found by them. -/
theorem find?_of_mem {entries : List α} (distinct : (entries.map key).Nodup) {entry : α}
    (member : entry ∈ entries) : entries.find? (key · == key entry) = some entry := by
  induction entries with
  | nil => cases member
  | cons first rest inductionHypothesis =>
      rw [List.map_cons, List.nodup_cons] at distinct
      rcases List.mem_cons.mp member with rfl | later
      · simp
      · have other : key first ≠ key entry := fun same =>
          distinct.1 (same ▸ List.mem_map_of_mem later)
        simp [other, inductionHypothesis distinct.2 later]

variable {text : String} {change : α → α} {fresh : α}
  (keeps : ∀ entry, key (change entry) = key entry) (fits : key fresh = text)
include keeps fits

/-- Nothing changes but what the key finds. -/
theorem find?_amend (entries : List α) (other : String) :
    (amend key text change fresh entries).find? (key · == other) =
      if text = other then some (((entries.find? (key · == other)).map change).getD fresh)
      else entries.find? (key · == other) := by
  induction entries with
  | nil => by_cases same : text = other <;> simp [amend, fits, same]
  | cons entry rest inductionHypothesis =>
      by_cases found : key entry = text
      · by_cases same : text = other <;> simp [amend, keeps, found, same]
      · by_cases same : key entry = other
        · have apart : text ≠ other := fun equal => found (same.trans equal.symm)
          simp [amend, same, apart, Ne.symm apart]
        · simp [amend, found, same, inductionHypothesis]

/-- A key that is new comes last. -/
theorem map_amend (entries : List α) :
    (amend key text change fresh entries).map key =
      if text ∈ entries.map key then entries.map key else entries.map key ++ [text] := by
  induction entries with
  | nil => simp [amend, fits]
  | cons entry rest inductionHypothesis =>
      by_cases found : key entry = text
      · simp [amend, keeps, found]
      · rw [amend, if_neg found, List.map_cons, inductionHypothesis, List.map_cons]
        by_cases later : text ∈ rest.map key
        · rw [if_pos later, if_pos (List.mem_cons_of_mem _ later)]
        · have absent : text ∉ key entry :: rest.map key :=
            List.not_mem_cons_of_ne_of_not_mem (Ne.symm found) later
          rw [if_neg later, if_neg absent, List.cons_append]

theorem nodup_amend {entries : List α} (distinct : (entries.map key).Nodup) :
    ((amend key text change fresh entries).map key).Nodup := by
  rw [map_amend keeps fits]
  split
  · exact distinct
  · next new =>
      rw [← List.concat_eq_append]
      exact List.Nodup.concat new distinct

theorem mem_map_amend {entries : List α} {other : String} :
    other ∈ (amend key text change fresh entries).map key ↔
      other ∈ entries.map key ∨ other = text := by
  rw [map_amend keeps fits]
  split
  · next old => exact ⟨.inl, fun known => known.elim id fun same => same ▸ old⟩
  · simp

end Entries

/-- The label values of a series, one after the other. -/
def CounterSeries.text (series : CounterSeries) : String := series.route ++ series.status

/-- One more request in a series. -/
def CounterSeries.bump (series : CounterSeries) : CounterSeries :=
  { series with count := series.count + 1 }

namespace Metrics

theorem countRequest_eq_amend (route status : String) (counters : List CounterSeries) :
    countRequest route status counters =
      amend CounterSeries.text (route ++ status) CounterSeries.bump ⟨route, status, 1⟩
        counters := by
  induction counters with
  | nil => rfl
  | cons series rest inductionHypothesis =>
      simp only [countRequest, amend, CounterSeries.isFor, beq_iff_eq, inductionHypothesis]
      rfl

theorem addLatency_eq_amend (route : String) (value : Binary64) (latencies : List LatencySeries) :
    addLatency route value latencies =
      amend LatencySeries.route route (LatencySeries.add value)
        (LatencySeries.add value ⟨route, bucketBounds.map fun _ => 0, 0, .zero false⟩)
        latencies := by
  induction latencies with
  | nil => rfl
  | cons series rest inductionHypothesis =>
      simp only [addLatency, amend, beq_iff_eq, inductionHypothesis]

/-! ## Observations -/

/-- What the metrics are told of one request. -/
structure Observation where
  route : String
  status : Nat
  latency : Duration
deriving DecidableEq

/-- The label values of a pair, one after the other. -/
def joined (labels : String × Nat) : String := labels.1 ++ toString labels.2

namespace Observation

variable (observation : Observation)

/-- The labels that an observation is meant for. -/
def labels : String × Nat := (observation.route, observation.status)

/-- The text that the counter series of an observation is found by. -/
def text : String := joined observation.labels

/-- The counter series that an observation opens. -/
def counter : CounterSeries := ⟨observation.route, toString observation.status, 1⟩

/-- The latency series that an observation opens. -/
def latencies : LatencySeries :=
  LatencySeries.add (seconds observation.latency)
    ⟨observation.route, bucketBounds.map fun _ => 0, 0, .zero false⟩

end Observation

/-- The metrics after some observations. -/
def observeAll (metrics : Metrics) (observations : List Observation) : Metrics :=
  observations.foldl
    (fun metrics observation =>
      metrics.observe observation.route observation.status observation.latency) metrics

section Step

variable (metrics : Metrics) (before : List Observation) (last : Observation)

theorem observeAll_concat :
    metrics.observeAll (before ++ [last]) =
      (metrics.observeAll before).observe last.route last.status last.latency := by
  rw [observeAll, List.foldl_append]
  rfl

theorem requests_concat :
    (metrics.observeAll (before ++ [last])).requests =
      amend CounterSeries.text last.text CounterSeries.bump last.counter
        (metrics.observeAll before).requests := by
  rw [observeAll_concat]
  exact countRequest_eq_amend ..

theorem latencies_concat :
    (metrics.observeAll (before ++ [last])).latencies =
      amend LatencySeries.route last.route (LatencySeries.add (seconds last.latency))
        last.latencies (metrics.observeAll before).latencies := by
  rw [observeAll_concat]
  exact addLatency_eq_amend ..

end Step

section Observed

variable (observations : List Observation)

theorem text_bump (series : CounterSeries) : series.bump.text = series.text := rfl

theorem text_counter (observation : Observation) :
    observation.counter.text = observation.text := rfl

theorem route_add (value : Binary64) (series : LatencySeries) :
    (LatencySeries.add value series).route = series.route := rfl

theorem route_latencies (observation : Observation) :
    observation.latencies.route = observation.route := rfl

/-- The series that a text finds has the labels of the first observation with that text, and
counts all of them. -/
theorem series?_observeAll (text : String) :
    (Metrics.empty.observeAll observations).requests.find? (·.text == text) =
      (observations.find? (·.text == text)).map fun first =>
        ⟨first.route, toString first.status, observations.countP (·.text == text)⟩ := by
  induction observations using List.reverseRecOn with
  | nil => rfl
  | append_singleton before last inductionHypothesis =>
      rw [requests_concat, find?_amend text_bump (text_counter last), inductionHypothesis,
        List.find?_append, List.countP_append, List.countP_singleton]
      by_cases own : last.text = text
      · cases earlier : before.find? (·.text == text) with
        | none =>
            have none : before.countP (·.text == text) = 0 := by
              rw [List.countP_eq_zero]
              exact List.find?_eq_none.mp earlier
            simp [own, none, Observation.counter]
        | some first => simp [own, CounterSeries.bump]
      · simp [own]

theorem nodup_texts :
    ((Metrics.empty.observeAll observations).requests.map CounterSeries.text).Nodup := by
  induction observations using List.reverseRecOn with
  | nil => exact List.nodup_nil
  | append_singleton before last inductionHypothesis =>
      rw [requests_concat]
      exact nodup_amend text_bump (text_counter last) inductionHypothesis

theorem nodup_routes :
    ((Metrics.empty.observeAll observations).latencies.map LatencySeries.route).Nodup := by
  induction observations using List.reverseRecOn with
  | nil => exact List.nodup_nil
  | append_singleton before last inductionHypothesis =>
      rw [latencies_concat]
      exact nodup_amend (route_add _) (route_latencies last) inductionHypothesis

/-- The routes of the latency series are those that were observed. -/
theorem mem_routes_iff {route : String} :
    route ∈ (Metrics.empty.observeAll observations).latencies.map LatencySeries.route ↔
      route ∈ observations.map Observation.route := by
  induction observations using List.reverseRecOn with
  | nil => rfl
  | append_singleton before last inductionHypothesis =>
      rw [latencies_concat, mem_map_amend (route_add _) (route_latencies last),
        inductionHypothesis, List.map_append, List.mem_append, List.map_singleton,
        List.mem_singleton]

/-- A latency series holds as many latencies as there are observations of its route. -/
theorem latencyCount_observeAll (route : String) :
    (Metrics.empty.observeAll observations).latencyCount route =
      observations.countP (·.route == route) := by
  induction observations using List.reverseRecOn with
  | nil => rfl
  | append_singleton before last inductionHypothesis =>
      rw [observeAll_concat, latencyCount_observe, inductionHypothesis, List.countP_append]
      simp [List.countP_singleton]

end Observed

end Metrics

end ApiGateway
