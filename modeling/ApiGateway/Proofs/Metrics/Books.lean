import ApiGateway.Proofs.Metrics.ExpositionLines
import ApiGateway.Proofs.Metrics.Series
import Mathlib.Data.List.Dedup
import Mathlib.Data.List.Perm.Basic

/-!
# The books that the metrics keep

After any history of observations and reads the counts, the lines of the counters and those of
the latency counts follow from the observations (`Books`). The text of a pair of labels is the
one label right behind the other. A pair has a series of its own if it is the first with its
text, and then that series counts all observations with the text. The books are exact (`IsExact`)
if and only if no two pairs have the same text (`TextsTellLabels`), as with statuses of three
digits (`isExact_of_statuses`). Reads change no later answer.
-/

namespace ApiGateway.Metrics

open Http (IsStatus)

section Pairs

variable (observed : List Observation)

/-- The pairs of labels that were observed, each once. -/
def pairs : List (String × Nat) := (observed.map Observation.labels).dedup

/-- How often a pair of labels was observed. -/
def times (labels : String × Nat) : Nat := observed.countP (·.labels == labels)

/-- How often the text of a pair of labels was observed. -/
def timesText (labels : String × Nat) : Nat := observed.countP (·.text == joined labels)

/-- Is a pair of labels that of the first observation with its text? -/
def Opens (labels : String × Nat) : Prop :=
  (observed.find? (·.text == joined labels)).map Observation.labels = some labels

instance : DecidablePred (Opens observed) := fun _ => inferInstanceAs (Decidable (_ = _))

/-- The pairs of labels that have a series. -/
def openers : List (String × Nat) := (pairs observed).filter (Opens observed)

/-- What is counted for a pair of labels: all observations with its text if it has a series. -/
def credited (labels : String × Nat) : Nat :=
  if Opens observed labels then timesText observed labels else 0

/-- No two pairs of labels have the same text. Of hashes, which may be the same for two texts,
nothing is said (`CounterSeries.isFor`). -/
def TextsTellLabels : Prop :=
  ∀ first ∈ observed, ∀ second ∈ observed, first.text = second.text → first.labels = second.labels

variable {observed} {labels : String × Nat}

theorem mem_pairs_iff :
    labels ∈ pairs observed ↔ ∃ observation ∈ observed, observation.labels = labels := by
  rw [pairs, List.mem_dedup, List.mem_map]

/-- A pair that opens is that of the observation that its text finds. -/
theorem opens_iff :
    Opens observed labels ↔ ∃ first, observed.find? (·.text == joined labels) = some first ∧
      first.labels = labels := Option.map_eq_some_iff

theorem Opens.mem_pairs (opens : Opens observed labels) : labels ∈ pairs observed := by
  obtain ⟨first, found, same⟩ := opens_iff.mp opens
  exact mem_pairs_iff.mpr ⟨first, List.mem_of_find?_eq_some found, same⟩

theorem Opens.labels_eq {other : String × Nat} (opens : Opens observed labels)
    (otherOpens : Opens observed other) (sameText : joined labels = joined other) :
    labels = other := by
  rw [Opens, sameText] at opens
  exact Option.some.inj (opens.symm.trans otherOpens)

theorem mem_openers_iff : labels ∈ openers observed ↔ Opens observed labels := by
  rw [openers, List.mem_filter, decide_eq_true_iff]
  exact ⟨And.right, fun opens => ⟨opens.mem_pairs, opens⟩⟩

theorem text_of_find? {text : String} {first : Observation}
    (found : observed.find? (·.text == text) = some first) : first.text = text := by
  have same := List.find?_some found
  exact beq_iff_eq.mp same

/-- If texts tell labels, each pair has a series. -/
theorem opens_of_mem_pairs (tell : TextsTellLabels observed) (known : labels ∈ pairs observed) :
    Opens observed labels := by
  obtain ⟨observation, member, rfl⟩ := mem_pairs_iff.mp known
  have finds : (observed.find? (·.text == joined observation.labels)).isSome :=
    List.find?_isSome.mpr ⟨observation, member, beq_self_eq_true _⟩
  obtain ⟨first, found⟩ := Option.isSome_iff_exists.mp finds
  exact opens_iff.mpr ⟨first, found,
    tell first (List.mem_of_find?_eq_some found) observation member (text_of_find? found)⟩

theorem openers_eq_pairs (tell : TextsTellLabels observed) : openers observed = pairs observed :=
  List.filter_eq_self.mpr fun _ known => decide_eq_true (opens_of_mem_pairs tell known)

theorem times_eq_zero (unknown : labels ∉ pairs observed) : times observed labels = 0 := by
  rw [times, List.countP_eq_zero]
  intro observation member same
  exact unknown (mem_pairs_iff.mpr ⟨observation, member, beq_iff_eq.mp same⟩)

theorem credited_eq_times (tell : TextsTellLabels observed) :
    credited observed = times observed := by
  funext labels
  by_cases known : labels ∈ pairs observed
  · rw [credited, if_pos (opens_of_mem_pairs tell known), timesText, times]
    obtain ⟨observation, member, rfl⟩ := mem_pairs_iff.mp known
    refine List.countP_congr fun other otherMember => ?_
    rw [beq_iff_eq, beq_iff_eq]
    exact ⟨tell other otherMember observation member, congrArg joined⟩
  · rw [credited, if_neg fun opens => known opens.mem_pairs, times_eq_zero known]

/-- Statuses of three digits leave no two pairs of labels with one text. -/
theorem textsTellLabels_of_statuses
    (statuses : ∀ observation ∈ observed, IsStatus observation.status) :
    TextsTellLabels observed := by
  intro first firstMember second secondMember sameText
  have sameLength : first.counter.status.length = (toString second.status).length :=
    (statuses first firstMember).length_toString.trans
      (statuses second secondMember).length_toString.symm
  obtain ⟨routes, digits⟩ := (isFor_iff sameLength).mp (beq_iff_eq.mpr sameText)
  exact Prod.ext routes (Http.toString_eq_iff.mp digits)

end Pairs

section Series

variable (observed : List Observation)

/-- The series that a pair of labels opens, with all observations of its text. -/
def seriesOf (labels : String × Nat) : CounterSeries :=
  ⟨labels.1, toString labels.2, timesText observed labels⟩

theorem labels_of_seriesOf {left right : String × Nat}
    (routes : (seriesOf observed left).route = (seriesOf observed right).route)
    (statuses : (seriesOf observed left).status = (seriesOf observed right).status) :
    left = right :=
  Prod.ext routes (Http.toString_eq_iff.mp statuses)

/-- The series are those of the pairs that open one. -/
theorem mem_requests_iff {series : CounterSeries} :
    series ∈ (Metrics.empty.observeAll observed).requests ↔
      ∃ labels, Opens observed labels ∧ seriesOf observed labels = series := by
  constructor
  · intro member
    have itself := find?_of_mem (nodup_texts observed) member
    rw [series?_observeAll, Option.map_eq_some_iff] at itself
    obtain ⟨first, found, same⟩ := itself
    have sameText := text_of_find? found
    rw [← sameText] at found same
    exact ⟨first.labels, opens_iff.mpr ⟨first, found, rfl⟩, same⟩
  · rintro ⟨labels, opens, rfl⟩
    obtain ⟨first, found, rfl⟩ := opens_iff.mp opens
    have kept := series?_observeAll observed (joined first.labels)
    rw [found] at kept
    exact List.mem_of_find?_eq_some kept

/-- Looked up by its labels, a pair has the count that is credited to it. -/
theorem requestCount_observeAll (labels : String × Nat) :
    (Metrics.empty.observeAll observed).requestCount labels.1 labels.2 =
      credited observed labels := by
  rw [requestCount, credited]
  split
  · next series found =>
      obtain ⟨owner, opens, rfl⟩ :=
        (mem_requests_iff observed).mp (List.mem_of_find?_eq_some found)
      have same := List.find?_some found
      rw [Bool.and_eq_true, beq_iff_eq, beq_iff_eq] at same
      obtain rfl : owner = labels := labels_of_seriesOf observed same.1 same.2
      rw [if_pos opens]
      rfl
  · next missing =>
      rw [if_neg]
      intro opens
      have member := (mem_requests_iff observed).mpr ⟨labels, opens, rfl⟩
      have other := List.find?_eq_none.mp missing _ member
      simp [seriesOf] at other

theorem nodup_openers : (openers observed).Nodup := (List.nodup_dedup _).filter _

/-- The series in any order are those of the openers. -/
theorem perm_requests :
    (Metrics.empty.observeAll observed).requests.Perm
      ((openers observed).map (seriesOf observed)) := by
  have distinct : ((openers observed).map (seriesOf observed)).Nodup :=
    (nodup_openers observed).map_on fun left _ right _ same =>
      labels_of_seriesOf observed (congrArg _ same) (congrArg _ same)
  rw [List.perm_ext_iff_of_nodup (.of_map _ (nodup_texts observed)) distinct]
  intro series
  simp only [mem_requests_iff, List.mem_map, mem_openers_iff]

/-- The latency series in any order are those of the observed routes. -/
theorem perm_latencies :
    ((Metrics.empty.observeAll observed).latencies.map LatencySeries.route).Perm
      (observed.map Observation.route).dedup := by
  rw [List.perm_ext_iff_of_nodup (nodup_routes observed) (List.nodup_dedup _)]
  intro route
  rw [mem_routes_iff, List.mem_dedup]

end Series

/-! ## Lines -/

/-- The line of a pair of labels with a count. -/
def requestLine (labels : String × Nat) (count : Nat) : List Char :=
  (counterLine ⟨labels.1, toString labels.2, count⟩).toList

/-- The line of a pair of labels is not that of another pair. -/
theorem labels_of_requestLine {left right : String × Nat} {m n : Nat}
    (same : requestLine left m = requestLine right n) : left = right := by
  obtain ⟨routes, statuses⟩ := labels_of_counterLine (String.toList_inj.mp same)
  exact Prod.ext routes (Http.toString_eq_iff.mp statuses)

section Lines

variable (observed : List Observation)

theorem perm_requestLines :
    (linesOf "gateway_requests_total" (Metrics.empty.observeAll observed).exposition).Perm
      ((openers observed).map fun labels => requestLine labels (timesText observed labels)) := by
  rw [linesOf_requests]
  have lines := ((perm_sortedRequests _).trans (perm_requests observed)).map
    fun series => (counterLine series).toList
  rw [List.map_map] at lines
  exact lines

/-- The line of a route with all its latencies. -/
def measuredLine (route : String) : List Char :=
  (latencyLine route (observed.countP (·.route == route))).toList

theorem perm_latencyLines :
    (linesOf "gateway_request_duration_seconds_count"
      (Metrics.empty.observeAll observed).exposition).Perm
      ((observed.map Observation.route).dedup.map (measuredLine observed)) := by
  have measured : ∀ series ∈ (Metrics.empty.observeAll observed).latencies,
      (latencyLine series.route series.count).toList =
        (measuredLine observed ∘ LatencySeries.route) series := by
    intro series member
    have counted : series.count = observed.countP (·.route == series.route) := by
      rw [← latencyCount_observeAll, latencyCount, find?_of_mem (nodup_routes observed) member]
    rw [counted, Function.comp_apply, measuredLine]
  rw [linesOf_latencyCounts]
  refine ((perm_sortedLatencies _).map _).trans ?_
  rw [List.map_congr_left measured, ← List.map_map]
  exact (perm_latencies observed).map _

end Lines

/-! ## Books -/

/-- The metrics have a series for some pairs of labels, with a count for each pair, and a latency
series for each observed route. -/
structure Keeps (observed : List Observation) (labelled : List (String × Nat))
    (count : String × Nat → Nat) (metrics : Metrics) : Prop where
  counted : ∀ labels : String × Nat, metrics.requestCount labels.1 labels.2 = count labels
  shown : (linesOf "gateway_requests_total" metrics.exposition).Perm
    (labelled.map fun labels => requestLine labels (count labels))
  /-- A pair of labels stands in the exposition if it has a series. -/
  told : ∀ labels, (∃ n, requestLine labels n ∈
    linesOf "gateway_requests_total" metrics.exposition) ↔ labels ∈ labelled
  measured : ∀ route, metrics.latencyCount route = observed.countP (·.route == route)
  shownLatencies : (linesOf "gateway_request_duration_seconds_count" metrics.exposition).Perm
    ((observed.map Observation.route).dedup.map (measuredLine observed))

/-- The pairs with a series are those that open one, and count for all with their text. -/
def Books (observed : List Observation) : Metrics → Prop :=
  Keeps observed (openers observed) (credited observed)

/-- Each observed pair has a series of its own, which counts its observations. -/
def IsExact (observed : List Observation) : Metrics → Prop :=
  Keeps observed (pairs observed) (times observed)

theorem books_observeAll (observed : List Observation) :
    Books observed (Metrics.empty.observeAll observed) where
  counted := requestCount_observeAll observed
  shown := by
    have counts : ∀ labels ∈ openers observed,
        requestLine labels (credited observed labels) =
          requestLine labels (timesText observed labels) := fun labels known => by
      rw [credited, if_pos (mem_openers_iff.mp known)]
    rw [List.map_congr_left counts]
    exact perm_requestLines observed
  told labels := by
    simp only [(perm_requestLines observed).mem_iff, List.mem_map]
    constructor
    · rintro ⟨n, owner, known, same⟩
      exact labels_of_requestLine same ▸ known
    · exact fun known => ⟨_, labels, known, rfl⟩
  measured := latencyCount_observeAll observed
  shownLatencies := perm_latencyLines observed

section Exact

variable {observed : List Observation}

theorem Books.isExact {metrics : Metrics} (books : Books observed metrics)
    (tell : TextsTellLabels observed) : IsExact observed metrics := by
  rw [IsExact, ← openers_eq_pairs tell, ← credited_eq_times tell]
  exact books

/-- Where the counts are exact each observed pair has opened a series. -/
theorem IsExact.opens {metrics : Metrics} (exact : IsExact observed metrics)
    (books : Books observed metrics) {observation : Observation} (member : observation ∈ observed) :
    Opens observed observation.labels := by
  by_contra closed
  have none : times observed observation.labels = 0 :=
    calc times observed observation.labels
      _ = metrics.requestCount observation.route observation.status :=
          (exact.counted observation.labels).symm
      _ = credited observed observation.labels := books.counted observation.labels
      _ = 0 := if_neg closed
  exact List.countP_eq_zero.mp none observation member (beq_self_eq_true _)

theorem IsExact.textsTellLabels {metrics : Metrics} (exact : IsExact observed metrics)
    (books : Books observed metrics) : TextsTellLabels observed :=
  fun _ firstMember _ secondMember =>
    (exact.opens books firstMember).labels_eq (exact.opens books secondMember)

end Exact

/-! ## Histories -/

/-- What is asked of the metrics. -/
inductive Operation
  | observe (observation : Observation)
  | count (labels : String × Nat)
  | encode
deriving DecidableEq

/-- What the metrics answer. -/
inductive Answer
  | done
  | count (n : Nat)
  | text (exposition : String)
deriving DecidableEq

/-- The metrics after an operation, with its answer. -/
def Operation.apply (metrics : Metrics) : Operation → Metrics × Answer
  | .observe observation =>
      (metrics.observe observation.route observation.status observation.latency, .done)
  | .count labels => (metrics, .count (metrics.requestCount labels.1 labels.2))
  | .encode => (metrics, .text metrics.exposition)

/-- What an operation observes. -/
def Operation.observation? : Operation → Option Observation
  | .observe observation => some observation
  | .count _ => none
  | .encode => none

/-- Operations one after the other. -/
def run (metrics : Metrics) : List Operation → Metrics
  | [] => metrics
  | operation :: rest => run (operation.apply metrics).1 rest

/-- The answer to an operation after a history. -/
def answerAfter (history : List Operation) (asked : Operation) : Answer :=
  (asked.apply (run .empty history)).2

/-- What was observed in a history. -/
def observed (history : List Operation) : List Observation :=
  history.filterMap Operation.observation?

/-- A history is its observations. -/
theorem run_eq_observeAll (metrics : Metrics) (history : List Operation) :
    run metrics history = metrics.observeAll (observed history) := by
  induction history generalizing metrics with
  | nil => rfl
  | cons operation rest inductionHypothesis =>
      rw [run, inductionHypothesis]
      cases operation <;> rfl

theorem books_of_run (history : List Operation) :
    Books (observed history) (run .empty history) := by
  rw [run_eq_observeAll]
  exact books_observeAll _

/-- With statuses of three digits each pair has a series of its own, unless two hashes collide,
which `CounterSeries.isFor` leaves out. -/
theorem isExact_of_statuses {history : List Operation}
    (statuses : ∀ observation ∈ observed history, IsStatus observation.status) :
    IsExact (observed history) (run .empty history) :=
  (books_of_run history).isExact (textsTellLabels_of_statuses statuses)

/-- The books of every history, which are exact if and only if texts tell labels; and an answer is
that to the observations before it, whatever was read in between. -/
theorem books_run (history : List Operation) :
    Books (observed history) (run .empty history) ∧
      (IsExact (observed history) (run .empty history) ↔ TextsTellLabels (observed history)) ∧
      ∀ asked, answerAfter history asked =
        answerAfter ((observed history).map .observe) asked := by
  have books := books_of_run history
  have observations : observed ((observed history).map .observe) = observed history :=
    List.filterMap_map.trans List.filterMap_some
  refine ⟨books, ⟨fun exact => exact.textsTellLabels books, books.isExact⟩, fun asked => ?_⟩
  rw [answerAfter, answerAfter, run_eq_observeAll, run_eq_observeAll, observations]

/-- Two requests whose labels have the same text. -/
def sameTextHistory : List Operation :=
  [.observe ⟨"a1", 200, 0⟩, .observe ⟨"a", 1200, 0⟩, .count ("a", 1200)]

/-- The second of two pairs with the same text is counted for the first. -/
theorem not_isExact_sameText :
    answerAfter sameTextHistory (.count ("a1", 200)) = .count 2 ∧
      answerAfter sameTextHistory (.count ("a", 1200)) = .count 0 ∧
      ¬ IsExact (observed sameTextHistory) (run .empty sameTextHistory) := by
  have none : (run .empty sameTextHistory).requestCount "a" 1200 = 0 := by decide +kernel
  refine ⟨by decide +kernel, congrArg Answer.count none, fun exact => ?_⟩
  have one : times (observed sameTextHistory) ("a", 1200) = 1 := by decide
  exact absurd (none.symm.trans ((exact.counted ("a", 1200)).trans one)) (by decide)

end ApiGateway.Metrics
