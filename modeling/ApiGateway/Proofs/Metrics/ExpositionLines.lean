import ApiGateway.Metrics.Exposition
import ApiGateway.Proofs.Json.OneLine
import ApiGateway.Proofs.Text.Lines

/-!
# The lines of the exposition

The exposition is a list of lines, whatever characters the names of routes have
(`splitOn_exposition`), and the name of a family stands before the first brace of each of its
lines. So the lines of the counters are the counter series (`linesOf_requests`), and the lines of
the latency counts are the latency series (`linesOf_latencyCounts`). The labels of a counter are
read off its line (`labels_of_counterLine`).
-/

namespace ApiGateway.Metrics

/-! ## Labels between quotes -/

/-- A character of a label value as it is written. -/
def escapedChar (c : Char) : List Char :=
  if c = '\\' then ['\\', '\\']
  else if c = '"' then ['\\', '"']
  else if c = '\n' then ['\\', 'n']
  else [c]

theorem toList_escapeLabel (text : String) :
    (escapeLabel text).toList = text.toList.flatMap escapedChar :=
  String.toList_ofList

theorem unbroken_escapeLabel (text : String) : '\n' ∉ (escapeLabel text).toList := by
  rw [toList_escapeLabel, List.mem_flatMap]
  rintro ⟨c, -, member⟩
  simp only [escapedChar] at member
  split at member
  · exact absurd member (by decide)
  · split at member
    · exact absurd member (by decide)
    · split at member
      · exact absurd member (by decide)
      · next other => exact other (List.mem_singleton.mp member).symm

/-- Read a label value up to its closing quote. -/
def readLabel? : List Char → Option (List Char × List Char)
  | [] => none
  | '"' :: rest => some ([], rest)
  | '\\' :: 'n' :: rest => (readLabel? rest).map fun (value, after) => ('\n' :: value, after)
  | '\\' :: c :: rest => (readLabel? rest).map fun (value, after) => (c :: value, after)
  | c :: rest => (readLabel? rest).map fun (value, after) => (c :: value, after)

/-- A label value is read as it was written, and reading stops at its quote. -/
theorem readLabel?_escaped (value after : List Char) :
    readLabel? (value.flatMap escapedChar ++ '"' :: after) = some (value, after) := by
  induction value with
  | nil => rfl
  | cons c rest inductionHypothesis =>
      rw [List.flatMap_cons, List.append_assoc]
      by_cases special : c = '\\' ∨ c = '"' ∨ c = '\n'
      · rcases special with rfl | rfl | rfl
        all_goals simp [escapedChar, readLabel?, inductionHypothesis]
      · simp only [not_or] at special
        obtain ⟨backslash, quote, lineFeed⟩ := special
        have plain : escapedChar c = [c] := by simp [escapedChar, backslash, quote, lineFeed]
        rw [plain, List.singleton_append, readLabel?]
        · simp [inductionHypothesis]
        · exact quote
        · exact fun _ opens _ => backslash opens
        · exact fun _ _ opens _ => backslash opens

/-- A label value ends where it is closed, so two that go on the same way are the same. -/
theorem label_of_escaped {left right : String} {after rest : List Char}
    (same : (escapeLabel left).toList ++ '"' :: after =
      (escapeLabel right).toList ++ '"' :: rest) : left = right ∧ after = rest := by
  rw [toList_escapeLabel, toList_escapeLabel] at same
  have read := congrArg readLabel? same
  rw [readLabel?_escaped, readLabel?_escaped, Option.some.injEq, Prod.mk.injEq] at read
  exact ⟨String.toList_inj.mp read.1, read.2⟩

/-! ## Lines -/

/-- One line without its line feed. -/
def sampleLine (name : String) (labels : List (String × String)) (value : String) : String :=
  let written := labels.map fun (label, text) => label ++ "=\"" ++ escapeLabel text ++ "\""
  name ++ "\x7b" ++ String.intercalate "," written ++ "\x7d " ++ value

theorem sample_eq (name : String) (labels : List (String × String)) (value : String) :
    sample name labels value = sampleLine name labels value ++ "\n" := rfl

/-- The lines of a counter series. -/
def counterLine (series : CounterSeries) : String :=
  sampleLine "gateway_requests_total" [("route", series.route), ("status", series.status)]
    (countText series.count)

/-- The line with the number of latencies of a route. -/
def latencyLine (route : String) (count : Nat) : String :=
  sampleLine "gateway_request_duration_seconds_count" [("route", route)] (countText count)

section Latency

variable (series : LatencySeries)

/-- The line of a bucket: how many latencies are at most its bound. -/
def bucketLine (bound : String) (count : Nat) : String :=
  sampleLine "gateway_request_duration_seconds_bucket" [("route", series.route), ("le", bound)]
    (countText count)

/-- The line with the sum of the latencies of a series. -/
def sumLine : String :=
  sampleLine "gateway_request_duration_seconds_sum" [("route", series.route)]
    (Number.plainText series.sum)

/-- The line with the number of latencies of a series. -/
def latencyCountLine : String := latencyLine series.route series.count

/-- The lines of the buckets that have a bound. -/
def boundedLines : List String :=
  (bucketBounds.zip (cumulative 0 series.buckets)).map fun entry =>
    bucketLine series (Number.plainText entry.1) entry.2

/-- The lines of a latency series. -/
def histogramLines : List String :=
  boundedLines series ++ [bucketLine series "+Inf" series.count, sumLine series,
    latencyCountLine series]

theorem latencySamples_eq :
    latencySamples "gateway_request_duration_seconds" series =
      String.join ((histogramLines series).map (· ++ "\n")) := by
  rw [histogramLines, List.map_append, String.join_append, boundedLines, List.map_map]
  simp only [List.map_cons, List.map_nil, String.join_cons, String.join_nil, String.append_empty]
  rw [← String.append_assoc, ← String.append_assoc]
  rfl

end Latency

/-- The lines of a family, with the lines of each series. -/
def familyLines (name kind help : String) (samples : List (List String)) : List String :=
  if samples.isEmpty then []
  else ("# HELP " ++ name ++ " " ++ help) :: ("# TYPE " ++ name ++ " " ++ kind) :: samples.flatten

/-- Lines that are joined series by series are joined one by one. -/
theorem join_samples (samples : List (List String)) :
    String.join (samples.map fun lines => String.join (lines.map (· ++ "\n"))) =
      String.join (samples.flatten.map (· ++ "\n")) := by
  induction samples with
  | nil => rfl
  | cons lines others inductionHypothesis =>
      rw [List.map_cons, String.join_cons, inductionHypothesis, List.flatten_cons,
        List.map_append, String.join_append]

theorem family_eq (name kind help : String) (samples : List (List String)) :
    family name kind help (samples.map fun lines => String.join (lines.map (· ++ "\n"))) =
      String.join ((familyLines name kind help samples).map (· ++ "\n")) := by
  have parted : "\n# TYPE " = "\n" ++ "# TYPE " := rfl
  rw [family, familyLines, join_samples, List.isEmpty_map, parted]
  split
  · rfl
  · simp only [List.map_cons, String.join_cons, String.append_assoc]

/-- The counter series in the order of their lines. -/
def sortedRequests (metrics : Metrics) : List CounterSeries :=
  metrics.requests.mergeSort fun a b =>
    a.route < b.route || (a.route == b.route && a.status ≤ b.status)

/-- The latency series in the order of their lines. -/
def sortedLatencies (metrics : Metrics) : List LatencySeries :=
  metrics.latencies.mergeSort fun a b => a.route ≤ b.route

theorem perm_sortedRequests (metrics : Metrics) :
    metrics.sortedRequests.Perm metrics.requests := List.mergeSort_perm _ _

theorem perm_sortedLatencies (metrics : Metrics) :
    metrics.sortedLatencies.Perm metrics.latencies := List.mergeSort_perm _ _

/-- The lines of all families. -/
def expositionLines (metrics : Metrics) : List String :=
  familyLines "gateway_request_duration_seconds" "histogram" "Upstream request latency by route"
      (metrics.sortedLatencies.map histogramLines) ++
    familyLines "gateway_requests_total" "counter" "Proxied requests by route and response status"
      (metrics.sortedRequests.map fun series => [counterLine series])

theorem exposition_eq (metrics : Metrics) :
    metrics.exposition = String.join (metrics.expositionLines.map (· ++ "\n")) := by
  have histograms :
      metrics.sortedLatencies.map (latencySamples "gateway_request_duration_seconds") =
        (metrics.sortedLatencies.map histogramLines).map
          fun lines => String.join (lines.map (· ++ "\n")) := by
    rw [List.map_map]
    exact List.map_congr_left fun series _ => latencySamples_eq series
  have counters : (metrics.sortedRequests.map fun series =>
        sample "gateway_requests_total" [("route", series.route), ("status", series.status)]
          (countText series.count)) =
      (metrics.sortedRequests.map fun series => [counterLine series]).map
        fun lines => String.join (lines.map (· ++ "\n")) := by
    rw [List.map_map]
    refine List.map_congr_left fun series _ => ?_
    rw [Function.comp_apply, List.map_singleton, String.join_cons, String.join_nil,
      String.append_empty]
    exact sample_eq ..
  rw [expositionLines, List.map_append, String.join_append, ← family_eq, ← family_eq,
    ← histograms, ← counters]
  rfl

/-- The line of a counter, cut behind the quotes of its labels. -/
theorem toList_counterLine (series : CounterSeries) :
    (counterLine series).toList = "gateway_requests_total\x7broute=\"".toList ++
      ((escapeLabel series.route).toList ++ '"' :: (",status=\"".toList ++
        ((escapeLabel series.status).toList ++
          '"' :: ("\x7d " ++ countText series.count).toList))) := by
  simp [counterLine, sampleLine, String.intercalate_cons_cons, String.toList_append]

/-- The line of a counter tells its labels. -/
theorem labels_of_counterLine {left right : CounterSeries}
    (same : counterLine left = counterLine right) :
    left.route = right.route ∧ left.status = right.status := by
  have lists := congrArg String.toList same
  rw [toList_counterLine, toList_counterLine] at lists
  obtain ⟨routes, after⟩ := label_of_escaped (List.append_cancel_left lists)
  obtain ⟨statuses, -⟩ := label_of_escaped (List.append_cancel_left after)
  exact ⟨routes, statuses⟩

/-! ## No line is broken -/

theorem unbroken_countText (n : Nat) : '\n' ∉ (countText n).toList :=
  (Number.visible_plainText _).not_mem (by decide)

theorem mem_of_mem_intercalate {c : Char} {separator : String} {pieces : List String}
    (member : c ∈ (separator.intercalate pieces).toList) :
    c ∈ separator.toList ∨ ∃ piece ∈ pieces, c ∈ piece.toList := by
  induction pieces with
  | nil => cases member
  | cons first rest inductionHypothesis =>
      cases rest with
      | nil => exact .inr ⟨first, List.mem_cons_self, member⟩
      | cons next others =>
          rw [String.intercalate_cons_cons, String.toList_append, String.toList_append,
            List.mem_append, List.mem_append] at member
          rcases member with (own | between) | later
          · exact .inr ⟨first, List.mem_cons_self, own⟩
          · exact .inl between
          · exact (inductionHypothesis later).imp_right fun ⟨piece, known, within⟩ =>
              ⟨piece, List.mem_cons_of_mem _ known, within⟩

/-- A line of a series is broken nowhere, whatever the values of its labels are. -/
theorem unbroken_sampleLine {name value : String} {labels : List (String × String)}
    (named : '\n' ∉ name.toList) (labelled : ∀ label ∈ labels, '\n' ∉ label.1.toList)
    (shown : '\n' ∉ value.toList) : '\n' ∉ (sampleLine name labels value).toList := by
  simp only [sampleLine, String.toList_append, List.mem_append, not_or]
  refine ⟨⟨⟨⟨named, by decide⟩, fun member => ?_⟩, by decide⟩, shown⟩
  rcases mem_of_mem_intercalate member with separator | ⟨piece, written, within⟩
  · exact absurd separator (by decide)
  · obtain ⟨label, known, rfl⟩ := List.mem_map.mp written
    simp only [String.toList_append, List.mem_append] at within
    rcases within with ((own | opened) | value) | closed
    · exact labelled label known own
    · exact absurd opened (by decide)
    · exact unbroken_escapeLabel _ value
    · exact absurd closed (by decide)

theorem unbroken_counterLine (series : CounterSeries) : '\n' ∉ (counterLine series).toList :=
  unbroken_sampleLine (by decide) (by simp) (unbroken_countText _)

theorem unbroken_bucketLine (series : LatencySeries) (bound : String) (count : Nat) :
    '\n' ∉ (bucketLine series bound count).toList :=
  unbroken_sampleLine (by decide) (by simp) (unbroken_countText _)

theorem unbroken_histogramLines (series : LatencySeries) :
    ∀ line ∈ histogramLines series, '\n' ∉ line.toList := by
  simp only [histogramLines, List.forall_mem_append, List.forall_mem_cons, boundedLines,
    List.forall_mem_map]
  exact ⟨fun entry _ => unbroken_bucketLine series _ _, unbroken_bucketLine series _ _,
    unbroken_sampleLine (by decide) (by simp) ((Number.visible_plainText _).not_mem (by decide)),
    unbroken_sampleLine (by decide) (by simp) (unbroken_countText _), nofun⟩

theorem unbroken_familyLines {name kind help : String} {samples : List (List String)}
    (named : '\n' ∉ name.toList) (typed : '\n' ∉ kind.toList) (told : '\n' ∉ help.toList)
    (sampled : ∀ lines ∈ samples, ∀ line ∈ lines, '\n' ∉ line.toList) :
    ∀ line ∈ familyLines name kind help samples, '\n' ∉ line.toList := by
  rw [familyLines]
  split
  · exact nofun
  · rw [List.forall_mem_cons, List.forall_mem_cons]
    have space : '\n' ∉ " ".toList := by decide
    refine ⟨?_, ?_, fun line member => ?_⟩
    · simp only [String.toList_append, List.mem_append, not_or]
      exact ⟨⟨⟨by decide, named⟩, space⟩, told⟩
    · simp only [String.toList_append, List.mem_append, not_or]
      exact ⟨⟨⟨by decide, named⟩, space⟩, typed⟩
    · obtain ⟨lines, known, within⟩ := List.mem_flatten.mp member
      exact sampled lines known line within

theorem unbroken_expositionLines (metrics : Metrics) :
    ∀ line ∈ metrics.expositionLines, '\n' ∉ line.toList := by
  rw [expositionLines, List.forall_mem_append]
  constructor
  · refine unbroken_familyLines (by decide) (by decide) (by decide) ?_
    rw [List.forall_mem_map]
    exact fun series _ => unbroken_histogramLines series
  · refine unbroken_familyLines (by decide) (by decide) (by decide) ?_
    rw [List.forall_mem_map]
    intro series _ line single
    rw [List.mem_singleton.mp single]
    exact unbroken_counterLine series

/-- Cut at its line feeds the exposition is its lines again. -/
theorem splitOn_exposition (metrics : Metrics) :
    Text.splitOn '\n' metrics.exposition.toList =
      metrics.expositionLines.map String.toList ++ [[]] := by
  rw [exposition_eq, Text.splitOn_join_lines metrics.unbroken_expositionLines]

/-! ## The lines of a family -/

/-- The name of the family that a line belongs to: what stands before its first brace. -/
def familyName? (line : List Char) : Option (List Char) :=
  (Text.splitAtFirst? '\x7b' line).map Prod.fst

/-- Does a line belong to a family? -/
def belongsTo (name : String) (line : List Char) : Bool := familyName? line == some name.toList

/-- The lines of a text that belong to a family. -/
def linesOf (name text : String) : List (List Char) :=
  (Text.splitOn '\n' text.toList).filter (belongsTo name)

theorem familyName?_sampleLine {name : String} (plain : '\x7b' ∉ name.toList)
    (labels : List (String × String)) (value : String) :
    familyName? (sampleLine name labels value).toList = some name.toList := by
  have opened : (name ++ "\x7b").toList = name.toList ++ ['\x7b'] := by
    rw [String.toList_append]
    rfl
  rw [familyName?, sampleLine, String.append_assoc, String.append_assoc, String.toList_append,
    opened, List.append_assoc, List.singleton_append, Text.splitAtFirst?_append_cons plain]
  rfl

theorem belongsTo_sampleLine {own : String} (plain : '\x7b' ∉ own.toList) (name : String)
    (labels : List (String × String)) (value : String) :
    belongsTo name (sampleLine own labels value).toList = decide (own = name) := by
  rw [belongsTo, familyName?_sampleLine plain, Bool.eq_iff_iff, beq_iff_eq, Option.some.injEq,
    String.toList_inj, decide_eq_true_iff]

/-- A line without a brace belongs to no family. -/
theorem belongsTo_of_plain {line : List Char} (plain : familyName? line = none) (name : String) :
    belongsTo name line = false := by
  rw [belongsTo, plain]
  rfl

theorem filter_familyLines {keep : String → Bool} {name kind help : String}
    (notHelp : keep ("# HELP " ++ name ++ " " ++ help) = false)
    (notType : keep ("# TYPE " ++ name ++ " " ++ kind) = false) (samples : List (List String)) :
    (familyLines name kind help samples).filter keep =
      samples.flatMap fun lines => lines.filter keep := by
  rw [familyLines]
  split
  · next none => simp [List.isEmpty_iff.mp none]
  · simp [notHelp, notType, List.filter_flatten, List.flatMap_def]

/-- Of the lines of a histogram one is in the family of the counts. -/
theorem filter_histogramLines {name : String}
    (notBucket : "gateway_request_duration_seconds_bucket" ≠ name)
    (notSum : "gateway_request_duration_seconds_sum" ≠ name) (series : LatencySeries) :
    (histogramLines series).filter (fun line => belongsTo name line.toList) =
      if "gateway_request_duration_seconds_count" = name then [latencyCountLine series]
      else [] := by
  have bucket (bound : String) (count : Nat) :
      belongsTo name (bucketLine series bound count).toList = false :=
    (belongsTo_sampleLine (by decide) ..).trans (decide_eq_false notBucket)
  have sum : belongsTo name (sumLine series).toList = false :=
    (belongsTo_sampleLine (by decide) ..).trans (decide_eq_false notSum)
  have count : belongsTo name (latencyCountLine series).toList =
      decide ("gateway_request_duration_seconds_count" = name) :=
    belongsTo_sampleLine (by decide) ..
  have bounded : (boundedLines series).filter (fun line => belongsTo name line.toList) = [] := by
    rw [List.filter_eq_nil_iff, boundedLines, List.forall_mem_map]
    exact fun _ _ => Bool.eq_false_iff.mp (bucket _ _)
  rw [histogramLines, List.filter_append, bounded, List.nil_append]
  simp only [List.filter_cons, List.filter_nil, bucket, sum, count, decide_eq_true_eq,
    Bool.false_eq_true, if_false]

/-- A family, but for the buckets and the sums, has a line for each series. -/
theorem filter_expositionLines {name : String}
    (notBucket : "gateway_request_duration_seconds_bucket" ≠ name)
    (notSum : "gateway_request_duration_seconds_sum" ≠ name) (metrics : Metrics) :
    metrics.expositionLines.filter (fun line => belongsTo name line.toList) =
      (metrics.sortedLatencies.flatMap fun series =>
        if "gateway_request_duration_seconds_count" = name then [latencyCountLine series]
        else []) ++
      metrics.sortedRequests.flatMap fun series =>
        if "gateway_requests_total" = name then [counterLine series] else [] := by
  have requests (series : CounterSeries) :
      [counterLine series].filter (fun line => belongsTo name line.toList) =
        if "gateway_requests_total" = name then [counterLine series] else [] := by
    rw [List.filter_cons, counterLine, belongsTo_sampleLine (by decide), List.filter_nil]
    simp only [decide_eq_true_eq]
  rw [expositionLines, List.filter_append,
    filter_familyLines (belongsTo_of_plain (by decide) name) (belongsTo_of_plain (by decide) name),
    filter_familyLines (belongsTo_of_plain (by decide) name) (belongsTo_of_plain (by decide) name),
    List.flatMap_map, List.flatMap_map]
  simp only [filter_histogramLines notBucket notSum, requests]

/-- The lines of a family are among those of the exposition. -/
theorem linesOf_exposition (name : String) (metrics : Metrics) :
    linesOf name metrics.exposition =
      (metrics.expositionLines.filter fun line => belongsTo name line.toList).map
        String.toList := by
  have blank : [([] : List Char)].filter (belongsTo name) = [] := rfl
  rw [linesOf, splitOn_exposition, List.filter_append, blank, List.append_nil, List.filter_map]
  rfl

/-- The lines of the counters are the counter series. -/
theorem linesOf_requests (metrics : Metrics) :
    linesOf "gateway_requests_total" metrics.exposition =
      metrics.sortedRequests.map fun series => (counterLine series).toList := by
  have noLatencies : metrics.sortedLatencies.flatMap (fun _ => ([] : List String)) = [] :=
    List.flatMap_eq_nil_iff.mpr fun _ _ => rfl
  rw [linesOf_exposition, filter_expositionLines (by decide) (by decide)]
  simp [← List.map_eq_flatMap, noLatencies]

/-- The lines of the latency counts are the latency series. -/
theorem linesOf_latencyCounts (metrics : Metrics) :
    linesOf "gateway_request_duration_seconds_count" metrics.exposition =
      metrics.sortedLatencies.map fun series =>
        (latencyLine series.route series.count).toList := by
  have noRequests : metrics.sortedRequests.flatMap (fun _ => ([] : List String)) = [] :=
    List.flatMap_eq_nil_iff.mpr fun _ _ => rfl
  rw [linesOf_exposition, filter_expositionLines (by decide) (by decide)]
  simp [← List.map_eq_flatMap, latencyCountLine, noRequests]

end ApiGateway.Metrics
