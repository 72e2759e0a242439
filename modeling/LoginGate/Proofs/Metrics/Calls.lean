/-
# Metrics after a sequence of calls

What metrics hold is known from the calls that made them.  A counter is listed if it was incremented,
with the number of times that it was (`get?_counters_ofCalls`), and the samples of a type are its
latencies in their order (`samples_ofCalls`).  The snapshot lists the counters, each once
(`snapshot_perm`), so the sum of a counter over all types is that of its rows (`total_eq`).
-/
import LoginGate.Metrics
import LoginGate.Proofs.Entries
import Mathlib.Algebra.Ring.Nat
import Mathlib.Data.List.Count
import Mathlib.Data.List.Nodup

namespace LoginGate.Metrics

/-- A call that metrics are told of. -/
inductive Call where
  | increment (t : AuthType) (c : Counter)
  | latency (t : AuthType) (nanoseconds : Nat)
  deriving DecidableEq, Repr

/-- The latency of a call, if it is one of the type. -/
def Call.latencyOf? (t : AuthType) : Call → Option Nat
  | increment _ _ => none
  | latency u nanoseconds => if u = t then some nanoseconds else none

/-- What a call does. -/
def apply (m : Metrics) : Call → Metrics
  | .increment t c => m.increment t c
  | .latency t nanoseconds => m.recordLatency t nanoseconds

/-- The metrics that calls make. -/
def ofCalls (calls : List Call) : Metrics := calls.foldl apply {}

theorem ofCalls_concat (calls : List Call) (call : Call) :
    ofCalls (calls ++ [call]) = (ofCalls calls).apply call := by
  rw [ofCalls, List.foldl_append, ← ofCalls, List.foldl_cons, List.foldl_nil]

section Steps

variable (m : Metrics) (t u : AuthType) (c : Counter)

theorem samples_recordLatency (nanoseconds : Nat) :
    (m.recordLatency t nanoseconds).samples u =
      m.samples u ++ if t = u then [nanoseconds] else [] := by
  rw [samples, recordLatency, Entries.get?_insert]
  by_cases h : t = u
  · subst h
    rw [if_pos rfl, if_pos rfl]
    rfl
  · rw [if_neg h, if_neg h, List.append_nil]
    rfl

theorem count_recordLatency (nanoseconds : Nat) :
    (m.recordLatency t nanoseconds).count u c = m.count u c := rfl

theorem samples_increment : (m.increment t c).samples u = m.samples u := rfl

end Steps

/-! ## 1. Counters -/

section Counters

variable (calls : List Call) (t : AuthType) (c : Counter)

/-- **A counter counts its increments.** -/
theorem count_ofCalls : (ofCalls calls).count t c = calls.count (.increment t c) := by
  induction calls using List.reverseRecOn with
  | nil => rfl
  | append_singleton calls call ih =>
    rw [ofCalls_concat, List.count_append, ← ih]
    cases call with
    | latency u nanoseconds => simp [apply, count_recordLatency]
    | increment u d => simp [apply, count_increment, List.count_singleton]

/-- A counter is listed once it was incremented. -/
theorem get?_counters_ofCalls :
    Entries.get? (t, c) (ofCalls calls).counters =
      if .increment t c ∈ calls then some (calls.count (.increment t c)) else none := by
  induction calls using List.reverseRecOn with
  | nil => rfl
  | append_singleton calls call ih =>
    rw [ofCalls_concat]
    cases call with
    | latency u nanoseconds =>
      have hcounters : ((ofCalls calls).apply (.latency u nanoseconds)).counters =
          (ofCalls calls).counters := rfl
      rw [hcounters, ih]
      simp
    | increment u d =>
      have hcounters : ((ofCalls calls).apply (.increment u d)).counters =
          Entries.insert (u, d) (calls.count (.increment u d) + 1) (ofCalls calls).counters := by
        rw [← count_ofCalls]
        rfl
      rw [hcounters, Entries.get?_insert]
      by_cases hcall : (u, d) = (t, c)
      · obtain ⟨rfl, rfl⟩ := Prod.mk.inj hcall
        simp
      · have hne : Call.increment u d ≠ .increment t c := fun h =>
          hcall (Prod.ext (Call.increment.inj h).1 (Call.increment.inj h).2)
        rw [if_neg hcall, ih]
        simp [hne, hne.symm]

end Counters

/-! ## 2. Latencies -/

/-- **The samples of a type** are the latencies that were recorded for it. -/
theorem samples_ofCalls (calls : List Call) (t : AuthType) :
    (ofCalls calls).samples t = calls.filterMap (Call.latencyOf? t) := by
  induction calls using List.reverseRecOn with
  | nil => rfl
  | append_singleton calls call ih =>
    rw [ofCalls_concat, List.filterMap_append, ← ih]
    cases call with
    | increment u d => rw [apply, samples_increment]; simp [Call.latencyOf?]
    | latency u nanoseconds =>
      rw [apply, samples_recordLatency]
      by_cases hu : u = t <;> simp [Call.latencyOf?, hu]

/-! ## 3. Keys -/

/-- Keys are distinct, and a type is kept once it has samples. -/
structure WellFormed (m : Metrics) : Prop where
  counters : (Entries.keys m.counters).Nodup
  latencies : (Entries.keys m.latencies).Nodup
  sampled : ∀ t, t ∈ Entries.keys m.latencies ↔ m.samples t ≠ []

theorem WellFormed.apply {m : Metrics} (h : m.WellFormed) (call : Call) :
    (m.apply call).WellFormed := by
  cases call with
  | increment t c => exact ⟨Entries.insert_nodup h.counters, h.latencies, h.sampled⟩
  | latency t nanoseconds =>
    refine ⟨h.counters, Entries.insert_nodup h.latencies, fun u => ?_⟩
    have hkeys : u ∈ Entries.keys (m.recordLatency t nanoseconds).latencies ↔
        t = u ∨ u ∈ Entries.keys m.latencies := by
      rw [← Entries.get?_isSome_iff, ← Entries.get?_isSome_iff, recordLatency,
        Entries.get?_insert]
      by_cases hu : t = u <;> simp [hu]
    rw [Metrics.apply, hkeys, samples_recordLatency, h.sampled]
    by_cases hu : t = u <;> simp [hu]

theorem wellFormed_ofCalls (calls : List Call) : (ofCalls calls).WellFormed := by
  induction calls using List.reverseRecOn with
  | nil =>
    exact ⟨List.nodup_nil, List.nodup_nil,
      fun t => iff_of_false List.not_mem_nil (not_not_intro rfl)⟩
  | append_singleton calls call ih =>
    rw [ofCalls_concat]
    exact ih.apply call

/-! ## 4. The snapshot -/

section Snapshot

variable (m : Metrics)

/-- A row of the snapshot. -/
abbrev Row := AuthType × Counter × Nat

/-- What a row is about. -/
def Row.key (r : Row) : AuthType × Counter := (r.1, r.2.1)

/-- The rows of a type. -/
def rowsOf (t : AuthType) : List Row :=
  Counter.byName.filterMap fun c => (Entries.get? (t, c) m.counters).map fun n => (t, c, n)

theorem snapshot_eq : m.snapshot = AuthType.all.flatMap m.rowsOf := rfl

theorem mem_rowsOf_iff {t : AuthType} {r : Row} :
    r ∈ m.rowsOf t ↔ r.1 = t ∧ Entries.get? r.key m.counters = some r.2.2 := by
  obtain ⟨u, d, n⟩ := r
  rw [rowsOf, List.mem_filterMap]
  constructor
  · rintro ⟨c, -, hrow⟩
    obtain ⟨n', hn, heq⟩ := Option.map_eq_some_iff.mp hrow
    cases heq
    exact ⟨rfl, hn⟩
  · rintro ⟨rfl, hn⟩
    exact ⟨d, Counter.mem_byName d, Option.map_eq_some_iff.mpr ⟨n, hn, rfl⟩⟩

theorem mem_snapshot_iff {r : Row} :
    r ∈ m.snapshot ↔ Entries.get? r.key m.counters = some r.2.2 := by
  rw [snapshot_eq, List.mem_flatMap]
  constructor
  · rintro ⟨t, -, hrow⟩
    exact ((mem_rowsOf_iff m).mp hrow).2
  · intro h
    exact ⟨r.1, AuthType.mem_all r.1, (mem_rowsOf_iff m).mpr ⟨rfl, h⟩⟩

theorem nodup_rowsOf (t : AuthType) : (m.rowsOf t).Nodup := by
  refine List.Nodup.filterMap ?_ (by decide)
  intro c d r hc hd
  obtain ⟨n, -, rfl⟩ := Option.map_eq_some_iff.mp hc
  obtain ⟨n', -, heq⟩ := Option.map_eq_some_iff.mp hd
  exact (Prod.mk.inj (Prod.mk.inj heq).2).1.symm

theorem nodup_snapshot : m.snapshot.Nodup := by
  rw [snapshot_eq, List.nodup_flatMap]
  refine ⟨fun t _ => nodup_rowsOf m t, ?_⟩
  have hall : AuthType.all.Nodup := by decide
  refine hall.imp fun hne r hr hr' => hne ?_
  rw [← ((mem_rowsOf_iff m).mp hr).1, ((mem_rowsOf_iff m).mp hr').1]

/-- **The snapshot lists the counters**, each once. -/
theorem snapshot_perm (h : m.WellFormed) :
    m.snapshot.Perm (m.counters.map fun e => (e.1.1, e.1.2, e.2)) := by
  have hinj : Function.Injective fun e : (AuthType × Counter) × Nat => (e.1.1, e.1.2, e.2) := by
    rintro ⟨⟨t, c⟩, n⟩ ⟨⟨u, d⟩, k⟩ heq
    cases heq
    rfl
  have hcounters : m.counters.Nodup := List.Nodup.of_map _ h.counters
  refine (List.perm_ext_iff_of_nodup (nodup_snapshot m) (hcounters.map hinj)).mpr fun r => ?_
  rw [mem_snapshot_iff, Entries.get?_eq_some_iff h.counters, List.mem_map]
  constructor
  · exact fun hr => ⟨_, hr, rfl⟩
  · rintro ⟨e, he, rfl⟩
    exact he

/-- **The sum of a counter over all types** is that of its rows. -/
theorem total_eq (h : m.WellFormed) (c : Counter) :
    m.total c = ((m.snapshot.filter fun r => r.2.1 = c).map fun r => r.2.2).sum := by
  have hperm := ((snapshot_perm m h).filter fun r => decide (r.2.1 = c)).map fun r => r.2.2
  rw [hperm.sum_nat, total, List.filter_map, List.map_map, ← List.sum_eq_foldl]
  rfl

end Snapshot

end LoginGate.Metrics
