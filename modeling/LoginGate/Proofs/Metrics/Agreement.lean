/-
# Two ways of keeping metrics agree

The same calls are told to metrics that are kept by type and counter and to metrics that are kept by
labels.  What the text of the latter lists is then what the former hold (`sinks_agree`): a sample for
each row of the snapshot, with its labels and its count, and the number of samples of each type that
has any.  Values are numbers of binary64, so a count is listed in full up to 2^53.
-/
import LoginGate.Proofs.Metrics.TextFormat
import LoginGate.Proofs.WholeNumbers

namespace LoginGate.Exposition

/-! ## 1. Series -/

/-- The labels and values that are listed under a name. -/
def series (name : String) (readings : List Reading) : List (Labels × String) :=
  (readings.filter (·.name = name)).map fun r => (r.labels, r.value)

theorem series_append (name : String) (xs ys : List Reading) :
    series name (xs ++ ys) = series name xs ++ series name ys := by
  simp [series]

theorem series_flatMap {α : Type} (name : String) (f : α → List Reading) (l : List α) :
    series name (l.flatMap f) = l.flatMap fun a => series name (f a) := by
  simp only [series, List.filter_flatMap, List.map_flatMap]

/-- Samples with other names are not part of a series. -/
theorem series_eq_nil {name : String} {samples : List Sample} (h : ∀ s ∈ samples, s.name ≠ name) :
    series name (samples.map Sample.reading) = [] := by
  simpa [series, Sample.reading] using h

/-- Samples with the name are all of the series. -/
theorem series_eq_map {name : String} {samples : List Sample} (h : ∀ s ∈ samples, s.name = name) :
    series name (samples.map Sample.reading) = samples.map fun s => (s.labels, s.value.plain) := by
  have hall : (samples.map Sample.reading).filter (·.name = name) = samples.map Sample.reading := by
    refine List.filter_eq_self.mpr fun r hr => ?_
    obtain ⟨s, hs, rfl⟩ := List.mem_map.mp hr
    exact decide_eq_true (h s hs)
  rw [series, hall, List.map_map]
  rfl

/-- What is read of a report. -/
def listed (service : String) (m : Metrics) : List Reading :=
  (targetFamily.samples ++ (eventsFamily service m).samples ++
    (latencyFamily service m).samples).map Sample.reading

section Series

variable (service : String) (m : Metrics)

/-- The name of the counts of latencies. -/
def countName : String := latencyName ++ "_count"

theorem series_listed (name : String) :
    series name (listed service m) =
      series name (targetFamily.samples.map Sample.reading) ++
        series name ((eventsFamily service m).samples.map Sample.reading) ++
        series name ((latencyFamily service m).samples.map Sample.reading) := by
  rw [listed, List.map_append, List.map_append, series_append, series_append]

theorem series_target {name : String} (h : "target_info" ≠ name) :
    series name (targetFamily.samples.map Sample.reading) = [] :=
  series_eq_nil fun s hs => by rwa [List.mem_singleton.mp hs]

theorem name_of_mem_events {s : Sample} (hs : s ∈ (eventsFamily service m).samples) :
    s.name = eventsName := by
  rw [eventsFamily_samples] at hs
  obtain ⟨r, -, rfl⟩ := List.mem_map.mp hs
  rfl

theorem series_events_of_ne {name : String} (h : eventsName ≠ name) :
    series name ((eventsFamily service m).samples.map Sample.reading) = [] :=
  series_eq_nil fun s hs => by rwa [name_of_mem_events service m hs]

theorem series_latencies_of_notMem {name : String}
    (h : name ∉ [latencyName ++ "_bucket", latencyName ++ "_sum", countName]) :
    series name ((latencyFamily service m).samples.map Sample.reading) = [] := by
  refine series_eq_nil fun s hs heq => h ?_
  rw [latencyFamily_samples] at hs
  obtain ⟨t, -, hs⟩ := List.mem_flatMap.mp hs
  simp only [histogram, List.mem_append, List.mem_map, List.mem_cons, List.not_mem_nil,
    or_false] at hs
  rcases hs with ⟨b, -, rfl⟩ | rfl | rfl | rfl <;> simp [← heq, countName]

/-- **The series of the counters** are the rows of the snapshot. -/
theorem series_events :
    series eventsName (listed service m) = (rowsByName m).map fun r =>
      (eventLabels r.1 r.2.1 ++ [scopeLabel service], (Binary64.ofNat r.2.2).plain) := by
  rw [series_listed, series_target (by decide), series_latencies_of_notMem service m (by decide),
    List.nil_append, List.append_nil, series_eq_map fun s => name_of_mem_events service m,
    eventsFamily_samples, List.map_map]
  rfl

/-- **The series of the counts** are the numbers of samples. -/
theorem series_counts :
    series countName (listed service m) = (sampledTypes m).map fun t =>
      (latencyLabels t ++ [scopeLabel service], (Binary64.ofNat (m.samples t).length).plain) := by
  have hhistogram (t : AuthType) :
      series countName ((histogram service t ((m.samples t).map seconds)).map Sample.reading) =
        [(latencyLabels t ++ [scopeLabel service],
          (Binary64.ofNat (m.samples t).length).plain)] := by
    have hbucket : ¬ latencyName ++ "_bucket" = countName := by decide
    have hsum : ¬ latencyName ++ "_sum" = countName := by decide
    have hcount : latencyName ++ "_count" = countName := rfl
    simp [histogram, series, Sample.reading, List.filter_map, Function.comp_def, hbucket, hsum,
      hcount, latencyLabels]
  rw [series_listed, series_target (by decide), series_events_of_ne service m (by decide),
    List.nil_append, List.nil_append, latencyFamily_samples, List.map_flatMap, series_flatMap]
  simp only [hhistogram]
  exact List.flatMap_pure_eq_map _ _

end Series

/-! ## 2. The agreement -/

/-- What is read of the report of metrics that are kept by labels. -/
theorem readings?_ofCalls (service : String) (calls : List Metrics.Call) :
    readings? ((Instruments.ofCalls calls).render service) =
      some (listed service (Metrics.ofCalls calls)) := by
  rw [render_ofCalls, readings?_render, listed]

/-- **Two ways of keeping metrics agree.**  After the same calls, the text of the metrics by labels
is the report of the metrics in memory.  It is a text of the format, and read back, its samples of
the counters are the rows of the snapshot, one for each, with labels that spell the row; no two of
them have the same labels.  Its counts of latencies are the numbers of the samples, for the types
that have any.  A value is the number of binary64 nearest to what is counted, up to 2^53 in full.
The snapshot lists what was incremented, with the number of times, the samples of a type are its
latencies, and the total of a counter is the sum of its rows. -/
theorem sinks_agree (service : String) (calls : List Metrics.Call) :
    let memory := Metrics.ofCalls calls
    let text := (Instruments.ofCalls calls).render service
    text = render service memory ∧
    (∃ readings, readings? text = some readings ∧
      ((series eventsName readings).Perm <| memory.snapshot.map fun (t, c, n) =>
        ([("auth_type", t.name), ("event", c.name), ("otel_scope_name", service)],
          (Binary64.ofNat n).plain)) ∧
      ((series eventsName readings).map Prod.fst).Nodup ∧
      ((series countName readings).Perm <|
        (AuthType.all.filter fun t => !(memory.samples t).isEmpty).map fun t =>
          ([("auth_type", t.name), ("otel_scope_name", service)],
            (Binary64.ofNat (memory.samples t).length).plain))) ∧
    (∀ n ≤ 2 ^ 53, (Binary64.ofNat n).plain = toString n) ∧
    (∀ t c n, (t, c, n) ∈ memory.snapshot ↔
      .increment t c ∈ calls ∧ n = calls.count (.increment t c)) ∧
    (∀ t, memory.samples t = calls.filterMap (Metrics.Call.latencyOf? t)) ∧
    ∀ c, memory.total c = ((memory.snapshot.filter fun r => r.2.1 = c).map fun r => r.2.2).sum := by
  intro memory text
  have hwell : memory.WellFormed := Metrics.wellFormed_ofCalls calls
  refine ⟨render_ofCalls service calls,
    ⟨listed service memory, readings?_ofCalls service calls, ?_, ?_, ?_⟩,
    fun n hn => Binary64.plain_ofNat hn, fun t c n => ?_, Metrics.samples_ofCalls calls,
    Metrics.total_eq memory hwell⟩
  · rw [series_events]
    exact (rowsByName_perm memory).map _
  · -- The rows are in the strict order of their labels.
    rw [series_events, List.map_map]
    refine List.pairwise_map.mpr ((pairwise_rowsByName memory).imp fun hlt heq => ?_)
    rw [List.append_cancel_right heq] at hlt
    exact lt_irrefl _ hlt
  · rw [series_counts]
    exact (typesByName_perm.filter _).map _
  · rw [Metrics.mem_snapshot_iff, Metrics.Row.key, Metrics.get?_counters_ofCalls,
      Option.ite_none_right_eq_some, Option.some.injEq, @eq_comm _ n]

/-- The series of the counters does not have the name of its instrument, and a count that is no
number of binary64 is not listed. -/
theorem series_renamed_and_rounded :
    (let calls := [Metrics.Call.increment .steam .resultsAccepted]
     (Metrics.ofCalls calls).snapshot = [(.steam, .resultsAccepted, 1)] ∧
     (readings? ((Instruments.ofCalls calls).render "xauth_test")).map
       (series "xauth_auth_events_total") = some []) ∧
    (let calls := List.replicate 9007199254740993 (Metrics.Call.increment .steam .resultsAccepted)
     (Metrics.ofCalls calls).snapshot = [(.steam, .resultsAccepted, 9007199254740993)] ∧
     (readings? ((Instruments.ofCalls calls).render "xauth_test")).map (series eventsName) =
       some [([("auth_type", "Steam"), ("event", "results_accepted"),
         ("otel_scope_name", "xauth_test")], "9007199254740992")]) := by
  refine ⟨⟨by decide, ?_⟩, ?_⟩
  · rw [readings?_ofCalls, Option.map_some, series_listed, series_target (by decide),
      series_events_of_ne _ _ (by decide), series_latencies_of_notMem _ _ (by decide)]
    rfl
  · intro calls
    have hrows : (Metrics.ofCalls calls).snapshot =
        [(.steam, .resultsAccepted, 9007199254740993)] := by
      simp only [Metrics.snapshot, calls, Metrics.get?_counters_ofCalls, List.mem_replicate,
        List.count_replicate]
      simp [AuthType.all, Counter.byName]
    have hvalue : (Binary64.ofNat 9007199254740993).plain = "9007199254740992" := by
      decide +kernel
    have hbyName := rowsByName_perm (Metrics.ofCalls calls)
    rw [hrows, List.perm_singleton] at hbyName
    refine ⟨hrows, ?_⟩
    rw [readings?_ofCalls, Option.map_some, series_events, hbyName, List.map_singleton, hvalue]
    rfl

end LoginGate.Exposition
