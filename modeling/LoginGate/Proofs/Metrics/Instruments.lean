/-
# Metrics that are kept by labels

Metrics can also be kept without types and counters: `Instruments` hold a number for each set of
labels that was ever added to, and of latencies only how many there were, their sum and how many of
them were within each bound.  A report puts the points into the order of their labels.

No two counters have the same labels, so after the same calls the instruments hold what the metrics
hold (`events_ofCalls`, `latencies_ofCalls`), and the order of labels is the one in which the metrics
are reported.  So the two reports are the same (`families_ofCalls`).
-/
import LoginGate.Exposition
import LoginGate.Proofs.Metrics.Calls
import Mathlib.Data.String.Basic

namespace LoginGate.Exposition

/-! ## 1. Instruments -/

/-- The labels of a point. -/
abbrev Labels := List (String × String)

/-- The labels of a counter. -/
def eventLabels (t : AuthType) (c : Counter) : Labels := [("auth_type", t.name), ("event", c.name)]

/-- The labels of the latencies of a type. -/
def latencyLabels (t : AuthType) : Labels := [("auth_type", t.name)]

/-- What is kept of the latencies under one set of labels. -/
structure HistogramPoint where
  count : Nat := 0
  sum : Binary64 := Binary64.zero false
  /-- For each bound, how many values were at most it. -/
  buckets : List Nat := bounds.map fun _ => 0
  deriving DecidableEq, Repr

/-- Takes one more value in. -/
def HistogramPoint.record (p : HistogramPoint) (x : Binary64) : HistogramPoint where
  count := p.count + 1
  sum := p.sum.add x
  buckets := List.zipWith (fun b n => if x.le b then n + 1 else n) bounds p.buckets

/-- The samples of a point of the latencies. -/
def HistogramPoint.samples (labels : Labels) (p : HistogramPoint) : List Sample :=
  let bucket (bound : String) (n : Nat) : Sample :=
    { name := latencyName ++ "_bucket", labels := labels ++ [("le", bound)]
      value := Binary64.ofNat n }
  List.zipWith (fun b n => bucket b.plain n) bounds p.buckets ++
    [bucket "+Inf" p.count, { name := latencyName ++ "_sum", labels, value := p.sum },
      { name := latencyName ++ "_count", labels, value := Binary64.ofNat p.count }]

/-- Metrics by labels. -/
structure Instruments where
  events : List (Labels × Nat) := []
  latencies : List (Labels × HistogramPoint) := []

namespace Instruments

/-- What a call does. -/
def apply (i : Instruments) : Metrics.Call → Instruments
  | .increment t c =>
    let labels := eventLabels t c
    { i with
      events := Entries.insert labels ((Entries.get? labels i.events).getD 0 + 1) i.events }
  | .latency t nanoseconds =>
    let labels := latencyLabels t
    let point := (Entries.get? labels i.latencies).getD {}
    { i with
      latencies := Entries.insert labels (point.record (seconds nanoseconds)) i.latencies }

/-- The instruments after calls. -/
def ofCalls (calls : List Metrics.Call) : Instruments := calls.foldl apply {}

/-- Points in the order of the values of their labels. -/
def inOrder {β : Type} (points : List (Labels × β)) : List (Labels × β) :=
  points.mergeSort fun p q => p.1.map Prod.snd ≤ q.1.map Prod.snd

/-- The counters. -/
def eventsFamily (service : String) (i : Instruments) : Family where
  name := eventsName
  help := Instrument.events.help
  kind := Instrument.events.kind
  samples := (inOrder i.events).map fun p =>
    { name := eventsName, labels := p.1 ++ [scopeLabel service], value := Binary64.ofNat p.2 }

/-- The latencies. -/
def latencyFamily (service : String) (i : Instruments) : Family where
  name := latencyName
  help := Instrument.latencies.help
  kind := Instrument.latencies.kind
  samples := (inOrder i.latencies).flatMap fun p => p.2.samples (p.1 ++ [scopeLabel service])

/-- The families of a report; those without samples are left out. -/
def families (service : String) (i : Instruments) : List Family :=
  targetFamily ::
    [i.eventsFamily service, i.latencyFamily service].filter fun f => !f.samples.isEmpty

/-- The report of a service. -/
def render (service : String) (i : Instruments) : String :=
  String.join ((i.families service).map Family.text)

theorem ofCalls_concat (calls : List Metrics.Call) (call : Metrics.Call) :
    ofCalls (calls ++ [call]) = (ofCalls calls).apply call := by
  rw [ofCalls, List.foldl_append, ← ofCalls, List.foldl_cons, List.foldl_nil]

end Instruments

/-! ## 2. Points -/

theorem eventLabels_injective :
    Function.Injective fun k : AuthType × Counter => eventLabels k.1 k.2 := by
  rintro ⟨t, c⟩ ⟨u, d⟩ h
  simp only [eventLabels, List.cons.injEq, Prod.mk.injEq, true_and, and_true] at h
  exact Prod.ext (AuthType.name_injective h.1) (Counter.name_injective h.2)

theorem latencyLabels_injective : Function.Injective latencyLabels := by
  intro t u h
  simp only [latencyLabels, List.cons.injEq, Prod.mk.injEq, true_and, and_true] at h
  exact AuthType.name_injective h

/-- The point of values that were taken in one after another. -/
def HistogramPoint.ofValues (values : List Binary64) : HistogramPoint where
  count := values.length
  sum := values.foldl Binary64.add (Binary64.zero false)
  buckets := bounds.map fun b => (values.filter (·.le b)).length

theorem HistogramPoint.record_ofValues (values : List Binary64) (x : Binary64) :
    (ofValues values).record x = ofValues (values ++ [x]) := by
  simp only [record, ofValues, List.zipWith_map_right, List.zipWith_self, List.filter_append,
    List.length_append, List.length_singleton, List.foldl_append, List.foldl_cons, List.foldl_nil,
    mk.injEq, true_and]
  refine List.map_congr_left fun b _ => ?_
  by_cases hb : x.le b <;> simp [hb]

theorem HistogramPoint.samples_ofValues (service : String) (t : AuthType)
    (values : List Binary64) :
    (ofValues values).samples (latencyLabels t ++ [scopeLabel service]) =
      histogram service t values := by
  simp only [samples, ofValues, List.zipWith_map_right, List.zipWith_self, histogram,
    latencyLabels, List.singleton_append]

/-! ## 3. After the same calls -/

namespace Instruments

/-- **The numbers under labels** are those of the counters with the labels. -/
theorem events_ofCalls (calls : List Metrics.Call) :
    (ofCalls calls).events =
      (Metrics.ofCalls calls).counters.map fun e => (eventLabels e.1.1 e.1.2, e.2) := by
  induction calls using List.reverseRecOn with
  | nil => rfl
  | append_singleton calls call ih =>
    rw [ofCalls_concat, Metrics.ofCalls_concat]
    cases call with
    | latency t nanoseconds => exact ih
    | increment t c =>
      have hget := Entries.get?_mapEntries eventLabels_injective id (t, c)
        (Metrics.ofCalls calls).counters
      have hinsert := Entries.insert_mapEntries eventLabels_injective id (t, c)
        ((Metrics.ofCalls calls).count t c + 1) (Metrics.ofCalls calls).counters
      simp only [id_eq, Option.map_id_fun] at hget hinsert
      rw [apply, Metrics.apply, Metrics.increment, ← hinsert, ih, hget, Metrics.count]

/-- **The points of latencies** are those of the samples of the types. -/
theorem latencies_ofCalls (calls : List Metrics.Call) :
    (ofCalls calls).latencies = (Metrics.ofCalls calls).latencies.map fun e =>
      (latencyLabels e.1, HistogramPoint.ofValues (e.2.map seconds)) := by
  induction calls using List.reverseRecOn with
  | nil => rfl
  | append_singleton calls call ih =>
    rw [ofCalls_concat, Metrics.ofCalls_concat]
    cases call with
    | increment t c => exact ih
    | latency t nanoseconds =>
      have hpoint : ((Entries.get? (latencyLabels t) (ofCalls calls).latencies).getD {}).record
          (seconds nanoseconds) = HistogramPoint.ofValues
            (((Metrics.ofCalls calls).samples t ++ [nanoseconds]).map seconds) := by
        rw [List.map_append, List.map_singleton, ← HistogramPoint.record_ofValues, ih,
          Entries.get?_mapEntries latencyLabels_injective
            fun ns : List Nat => HistogramPoint.ofValues (ns.map seconds), Metrics.samples]
        cases Entries.get? t (Metrics.ofCalls calls).latencies <;> rfl
      rw [apply, Metrics.apply, Metrics.recordLatency, hpoint, ih,
        ← Entries.insert_mapEntries latencyLabels_injective
          fun ns : List Nat => HistogramPoint.ofValues (ns.map seconds)]

end Instruments

/-! ## 4. The order of labels -/

/-- Sorting by a key puts the keys in order. -/
theorem pairwise_mergeSort_key {α κ : Type} [LinearOrder κ] (key : α → κ) (l : List α) :
    (l.mergeSort fun a b => decide (key a ≤ key b)).Pairwise fun a b => key a ≤ key b := by
  have htrans (a b c : α) (hab : decide (key a ≤ key b) = true)
      (hbc : decide (key b ≤ key c) = true) : decide (key a ≤ key c) = true :=
    decide_eq_true (le_trans (of_decide_eq_true hab) (of_decide_eq_true hbc))
  have htotal (a b : α) : (decide (key a ≤ key b) || decide (key b ≤ key a)) = true := by
    simpa using le_total (key a) (key b)
  exact (List.pairwise_mergeSort htrans htotal l).imp of_decide_eq_true

/-- Points in strict order are the order of the same points. -/
theorem Instruments.inOrder_eq {β : Type} {points sorted : List (Labels × β)}
    (hperm : points.Perm sorted)
    (hsorted : sorted.Pairwise fun p q => p.1.map Prod.snd < q.1.map Prod.snd) :
    Instruments.inOrder points = sorted := by
  have hsame : (Instruments.inOrder points).Perm sorted := (List.mergeSort_perm _ _).trans hperm
  have hdistinct : (sorted.map fun p => p.1.map Prod.snd).Nodup :=
    List.pairwise_map.mpr (hsorted.imp fun h => ne_of_lt h)
  have hanti (p q : Labels × β) (hp : p ∈ Instruments.inOrder points) (hq : q ∈ sorted)
      (hpq : p.1.map Prod.snd ≤ q.1.map Prod.snd) (hqp : q.1.map Prod.snd ≤ p.1.map Prod.snd) :
      p = q :=
    List.inj_on_of_nodup_map hdistinct (hsame.mem_iff.mp hp) hq (le_antisymm hpq hqp)
  have hmerge : (Instruments.inOrder points).Pairwise fun p q =>
      p.1.map Prod.snd ≤ q.1.map Prod.snd :=
    pairwise_mergeSort_key (fun p : Labels × β => p.1.map Prod.snd) points
  exact List.Perm.eq_of_pairwise hanti hmerge (hsorted.imp le_of_lt) hsame

theorem typesByName_perm : typesByName.Perm AuthType.all := List.mergeSort_perm _ _

theorem nodup_typesByName : typesByName.Nodup := typesByName_perm.nodup_iff.mpr (by decide)

theorem pairwise_typesByName : typesByName.Pairwise fun t u => t.name < u.name := by
  have hsorted : typesByName.Pairwise fun t u => t.name ≤ u.name :=
    pairwise_mergeSort_key AuthType.name AuthType.all
  exact hsorted.imp₂ (fun t u hle hne => lt_of_le_of_ne hle
    (mt AuthType.name_injective hne)) nodup_typesByName

theorem pairwise_byName : Counter.byName.Pairwise fun c d => c.name < d.name := by decide

/-! ## 5. Reports -/

section Reports

variable (m : Metrics)

/-- The rows of the snapshot, types in the order of their names. -/
def rowsByName : List Metrics.Row := typesByName.flatMap m.rowsOf

theorem rowsByName_perm : (rowsByName m).Perm m.snapshot :=
  typesByName_perm.flatMap_right m.rowsOf

theorem filter_snapshot (t : AuthType) : m.snapshot.filter (·.1 = t) = m.rowsOf t := by
  have hrows (u : AuthType) : (m.rowsOf u).filter (·.1 = t) = if u = t then m.rowsOf u else [] := by
    split
    · rename_i hu
      refine List.filter_eq_self.mpr fun r hr => decide_eq_true ?_
      rw [((Metrics.mem_rowsOf_iff m).mp hr).1, hu]
    · rename_i hu
      refine List.filter_eq_nil_iff.mpr fun r hr => ?_
      rw [((Metrics.mem_rowsOf_iff m).mp hr).1]
      simpa using hu
  rw [Metrics.snapshot_eq, List.filter_flatMap]
  simp only [hrows]
  cases t <;> simp [AuthType.all]

/-- The samples of the counters are the rows of the snapshot. -/
theorem eventsFamily_samples (service : String) :
    (eventsFamily service m).samples =
      (rowsByName m).map fun r => eventSample service r.1 r.2.1 r.2.2 := by
  simp only [eventsFamily, filter_snapshot, rowsByName, List.map_flatMap]

/-- The types with samples, in the order of their names. -/
def sampledTypes : List AuthType := typesByName.filter fun t => !(m.samples t).isEmpty

/-- The samples of the latencies are the histograms of the types that have any. -/
theorem latencyFamily_samples (service : String) :
    (latencyFamily service m).samples =
      (sampledTypes m).flatMap fun t => histogram service t ((m.samples t).map seconds) := by
  simp only [latencyFamily, sampledTypes]
  induction typesByName with
  | nil => rfl
  | cons t ts ih =>
    rw [List.flatMap_cons, ih, List.filter_cons]
    cases (m.samples t).isEmpty <;> simp

theorem pairwise_sampledTypes :
    (sampledTypes m).Pairwise fun t u =>
      (latencyLabels t).map Prod.snd < (latencyLabels u).map Prod.snd := by
  refine (pairwise_typesByName.filter _).imp fun hlt => ?_
  exact List.Lex.rel hlt

theorem pairwise_rowsByName :
    (rowsByName m).Pairwise fun r s =>
      (eventLabels r.1 r.2.1).map Prod.snd < (eventLabels s.1 s.2.1).map Prod.snd := by
  rw [rowsByName, List.pairwise_flatMap]
  constructor
  · intro t _
    rw [Metrics.rowsOf, List.pairwise_filterMap]
    refine pairwise_byName.imp fun {c d} hlt r hr s hs => ?_
    obtain ⟨n, -, rfl⟩ := Option.map_eq_some_iff.mp hr
    obtain ⟨k, -, rfl⟩ := Option.map_eq_some_iff.mp hs
    exact List.Lex.cons (List.Lex.rel hlt)
  · refine pairwise_typesByName.imp fun {t u} hlt r hr s hs => ?_
    obtain rfl := ((Metrics.mem_rowsOf_iff m).mp hr).1
    obtain rfl := ((Metrics.mem_rowsOf_iff m).mp hs).1
    exact List.Lex.rel hlt

variable {m}

/-- The entries of the latencies are the types with samples. -/
theorem latencies_perm (h : m.WellFormed) :
    m.latencies.Perm ((sampledTypes m).map fun t => (t, m.samples t)) := by
  have hentries : m.latencies = (Entries.keys m.latencies).map fun t => (t, m.samples t) :=
    Entries.eq_map_keys h.latencies
  have hnodup : (sampledTypes m).Nodup := nodup_typesByName.filter _
  have hkeys : (Entries.keys m.latencies).Perm (sampledTypes m) := by
    refine (List.perm_ext_iff_of_nodup h.latencies hnodup).mpr fun t => ?_
    rw [h.sampled, sampledTypes, List.mem_filter, typesByName_perm.mem_iff]
    simp [AuthType.mem_all]
  rw [hentries]
  exact hkeys.map _

end Reports

section Calls

variable (service : String) (calls : List Metrics.Call)

/-- In their order, the numbers under labels are the rows of the snapshot. -/
theorem inOrder_events :
    Instruments.inOrder (Instruments.ofCalls calls).events =
      (rowsByName (Metrics.ofCalls calls)).map fun r => (eventLabels r.1 r.2.1, r.2.2) := by
  have hrows := (rowsByName_perm _).trans
    (Metrics.snapshot_perm _ (Metrics.wellFormed_ofCalls calls))
  have hpoints := hrows.symm.map fun r : Metrics.Row => (eventLabels r.1 r.2.1, r.2.2)
  rw [List.map_map] at hpoints
  refine Instruments.inOrder_eq ?_ (List.pairwise_map.mpr (pairwise_rowsByName _))
  rw [Instruments.events_ofCalls]
  exact hpoints

/-- In their order, the points of latencies are the types that have samples. -/
theorem inOrder_latencies :
    Instruments.inOrder (Instruments.ofCalls calls).latencies =
      (sampledTypes (Metrics.ofCalls calls)).map fun t => (latencyLabels t,
        HistogramPoint.ofValues (((Metrics.ofCalls calls).samples t).map seconds)) := by
  have hpoints := (latencies_perm (Metrics.wellFormed_ofCalls calls)).map
    fun e : AuthType × List Nat => (latencyLabels e.1, HistogramPoint.ofValues (e.2.map seconds))
  rw [List.map_map] at hpoints
  refine Instruments.inOrder_eq ?_ (List.pairwise_map.mpr (pairwise_sampledTypes _))
  rw [Instruments.latencies_ofCalls]
  exact hpoints

/-- **Metrics by labels report the same** after the same calls. -/
theorem families_ofCalls :
    (Instruments.ofCalls calls).families service = families service (Metrics.ofCalls calls) := by
  have heventsFamily : (Instruments.ofCalls calls).eventsFamily service =
      eventsFamily service (Metrics.ofCalls calls) := by
    rw [Instruments.eventsFamily, inOrder_events, List.map_map, eventsFamily, Family.mk.injEq]
    exact ⟨rfl, rfl, rfl, (eventsFamily_samples _ service).symm⟩
  have hlatencyFamily : (Instruments.ofCalls calls).latencyFamily service =
      latencyFamily service (Metrics.ofCalls calls) := by
    rw [Instruments.latencyFamily, inOrder_latencies, List.flatMap_map, latencyFamily,
      Family.mk.injEq]
    refine ⟨rfl, rfl, rfl, ?_⟩
    simp only [HistogramPoint.samples_ofValues]
    exact (latencyFamily_samples _ service).symm
  rw [Instruments.families, heventsFamily, hlatencyFamily, families]

theorem render_ofCalls :
    (Instruments.ofCalls calls).render service = render service (Metrics.ofCalls calls) := by
  rw [Instruments.render, families_ofCalls, render]

end Calls

end LoginGate.Exposition
