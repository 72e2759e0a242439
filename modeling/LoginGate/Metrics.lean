/-
# Metrics

Counters by authentication type and the latencies of provider calls.  `snapshot` lists the counters
that were ever incremented, types in their order and the counters of a type by name.
-/
import LoginGate.AuthType
import LoginGate.Entries

namespace LoginGate

/-- What is counted. -/
inductive Counter where
  | resultsAccepted
  | resultsData
  | resultsDenied
  | queueFullErrors
  | queueTimeouts
  | httpErrors
  | httpTimeouts
  /-- Local failures that never reached a provider. -/
  | errors
  deriving DecidableEq, Repr, Inhabited

namespace Counter

/-- All counters in their order of declaration. -/
def all : List Counter :=
  [resultsAccepted, resultsData, resultsDenied, queueFullErrors, queueTimeouts, httpErrors,
    httpTimeouts, errors]

/-- The name under which a counter is reported. -/
def name : Counter → String
  | resultsAccepted => "results_accepted"
  | resultsData => "results_data"
  | resultsDenied => "results_denied"
  | queueFullErrors => "queue_full_errors"
  | queueTimeouts => "queue_timeouts"
  | httpErrors => "http_errors"
  | httpTimeouts => "http_timeouts"
  | errors => "errors"

/-- The name of a counter in records. -/
def recordName : Counter → String
  | resultsAccepted => "ResultsAccepted"
  | resultsData => "ResultsData"
  | resultsDenied => "ResultsDenied"
  | queueFullErrors => "QueueFullErrors"
  | queueTimeouts => "QueueTimeouts"
  | httpErrors => "HttpErrors"
  | httpTimeouts => "HttpTimeouts"
  | errors => "Errors"

/-- The counter of a record name. -/
def ofRecordName? (name : String) : Option Counter := all.find? (·.recordName = name)

/-- All counters in the order of their names. -/
def byName : List Counter :=
  [errors, httpErrors, httpTimeouts, queueFullErrors, queueTimeouts, resultsAccepted, resultsData,
    resultsDenied]

theorem mem_byName (c : Counter) : c ∈ byName := by cases c <;> decide

theorem name_injective {c d : Counter} (h : c.name = d.name) : c = d := by
  have hfind (e : Counter) : all.find? (·.name = e.name) = some e := by cases e <;> decide
  have hname := hfind c
  rw [h, hfind d] at hname
  exact (Option.some.inj hname).symm

end Counter

/-- Counters and latency samples; durations are in nanoseconds. -/
structure Metrics where
  counters : List ((AuthType × Counter) × Nat) := []
  /-- The samples of each type, the first one first. -/
  latencies : List (AuthType × List Nat) := []
  deriving DecidableEq, Repr, Inhabited

namespace Metrics

/-- The count of one counter of a type. -/
def count (m : Metrics) (t : AuthType) (c : Counter) : Nat :=
  (Entries.get? (t, c) m.counters).getD 0

/-- Adds one to a counter. -/
def increment (m : Metrics) (t : AuthType) (c : Counter) : Metrics :=
  { m with counters := Entries.insert (t, c) (m.count t c + 1) m.counters }

/-- The latency samples of a type. -/
def samples (m : Metrics) (t : AuthType) : List Nat :=
  (Entries.get? t m.latencies).getD []

/-- Adds a latency sample. -/
def recordLatency (m : Metrics) (t : AuthType) (nanoseconds : Nat) : Metrics :=
  { m with latencies := Entries.insert t (m.samples t ++ [nanoseconds]) m.latencies }

/-- The sum of one counter over all types. -/
def total (m : Metrics) (c : Counter) : Nat :=
  ((m.counters.filter fun e => e.1.2 = c).map (·.2)).foldl (· + ·) 0

/-- The mean latency of a type in whole nanoseconds, rounded down. -/
def averageLatency (m : Metrics) (t : AuthType) : Option Nat :=
  let s := m.samples t
  if s.isEmpty then none else some (s.foldl (· + ·) 0 / s.length)

/-- The counters that were ever incremented, types in order and the counters of each by name. -/
def snapshot (m : Metrics) : List (AuthType × Counter × Nat) :=
  AuthType.all.flatMap fun t =>
    Counter.byName.filterMap fun c => (Entries.get? (t, c) m.counters).map fun n => (t, c, n)

/-- One line per counter: type, counter and count. -/
def report (m : Metrics) : String :=
  String.intercalate "\n" (m.snapshot.map fun (t, c, n) => s!"{t.name} {c.name} {n}")

theorem count_increment (m : Metrics) (t u : AuthType) (c d : Counter) :
    (m.increment t c).count u d = m.count u d + if (t, c) = (u, d) then 1 else 0 := by
  simp only [increment, count, Entries.get?_insert]
  by_cases h : (t, c) = (u, d)
  · obtain ⟨rfl, rfl⟩ := Prod.mk.injEq .. ▸ h
    simp
  · simp [h]

end Metrics

end LoginGate
