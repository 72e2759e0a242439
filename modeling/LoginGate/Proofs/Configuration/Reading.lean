/-
# Reading the parts of a configuration

A configuration is read part by part, each from what stands under its key
(`ofSetting?_table_eq_some_iff`), and the part about queues field by field, each from what stands under
its own (`queue?_table_eq_some_iff`); what is missing keeps its default.  So what stands elsewhere in
the tree has no say in a part or a field.
-/
import LoginGate.Configuration.Loading

namespace LoginGate.Configuration

open Setting (fields? orDefault toNat? toList?)

/-! ## 1. The settings of the queue -/

/-- A setting of the part about queues. -/
inductive QueueField where
  | maxConcurrent
  | maxQueued
  | requestTimeout
  | queueTimeout
  | retries
  | offlineThreshold
  | offlineRetry
  deriving DecidableEq, Repr

/-- What the part about queues comes to: their settings and the number of retries. -/
abbrev QueuePart := Queue.Settings × Nat

/-- The part about queues when nothing is said about it. -/
def defaultQueue : QueuePart := ({}, 1)

namespace QueueField

/-- The key of a setting. -/
def key : QueueField → String
  | maxConcurrent => "max_concurrent_requests"
  | maxQueued => "max_queued_requests"
  | requestTimeout => "request_timeout_ms"
  | queueTimeout => "queue_timeout_ms"
  | retries => "retry_count"
  | offlineThreshold => "offline_error_threshold"
  | offlineRetry => "offline_retry_interval_ms"

/-- The greatest value of a setting. -/
def bound : QueueField → Nat
  | retries | offlineThreshold => Word.maxNat32
  | _ => Word.maxNat64

/-- The value of a setting. -/
def get : QueueField → QueuePart → Nat
  | maxConcurrent, (q, _) => q.maxConcurrent
  | maxQueued, (q, _) => q.maxQueued
  | requestTimeout, (q, _) => q.requestTimeout
  | queueTimeout, (q, _) => q.queueTimeout
  | retries, (_, r) => r
  | offlineThreshold, (q, _) => q.offlineThreshold
  | offlineRetry, (q, _) => q.offlineRetry

/-- Another value for a setting. -/
def set (n : Nat) : QueueField → QueuePart → QueuePart
  | maxConcurrent, (q, r) => ({ q with maxConcurrent := n }, r)
  | maxQueued, (q, r) => ({ q with maxQueued := n }, r)
  | requestTimeout, (q, r) => ({ q with requestTimeout := n }, r)
  | queueTimeout, (q, r) => ({ q with queueTimeout := n }, r)
  | retries, (q, _) => (q, n)
  | offlineThreshold, (q, r) => ({ q with offlineThreshold := n }, r)
  | offlineRetry, (q, r) => ({ q with offlineRetry := n }, r)

theorem get_set_self (f : QueueField) (n : Nat) (p : QueuePart) : f.get (f.set n p) = n := by
  cases f <;> rfl

theorem get_set_of_ne {f g : QueueField} (h : g ≠ f) (n : Nat) (p : QueuePart) :
    g.get (f.set n p) = g.get p := by
  cases f <;> cases g <;> first | rfl | exact absurd rfl h

theorem key_injective {f g : QueueField} (h : f.key = g.key) : f = g := by
  revert h
  cases f <;> cases g <;> decide

end QueueField

/-! ## 2. Parts and fields -/

/-- **Every setting of the part is read by itself**, from what stands under its key. -/
theorem queue?_table_eq_some_iff {es : List (String × Setting)} {p : QueuePart} :
    queue? (.table es) = some p ↔ ∀ f : QueueField,
      orDefault (f.get defaultQueue) (toNat? f.bound) (Entries.get? f.key es) = some (f.get p) := by
  simp only [queue?, fields?, queueFields, List.map_cons, List.map_nil, Option.bind_eq_bind,
    Option.bind_some, Option.bind_eq_some_iff, Option.some.injEq]
  constructor
  · rintro ⟨_, h1, _, h2, _, h3, _, h4, _, h5, _, h6, _, h7, rfl⟩ f
    cases f <;> assumption
  · intro h
    exact ⟨_, h .maxConcurrent, _, h .maxQueued, _, h .requestTimeout, _, h .queueTimeout, _,
      h .retries, _, h .offlineThreshold, _, h .offlineRetry, rfl⟩

/-- **Every part of a configuration is read by itself**, from what stands under its key. -/
theorem ofSetting?_table_eq_some_iff {es : List (String × Setting)} {c : Configuration} :
    ofSetting? (.table es) = some c ↔
      orDefault { applicationId := "" } application? (Entries.get? "application" es) =
          some c.application ∧
        orDefault defaultQueue queue? (Entries.get? "queue" es) = some (c.queue, c.retries) ∧
        orDefault [] (toList? provider?) (Entries.get? "providers" es) = some c.providers ∧
        orDefault {} nintendo? (Entries.get? "nintendo" es) = some c.nintendo ∧
        orDefault {} logging? (Entries.get? "logging" es) = some c.logging := by
  simp only [ofSetting?, fields?, List.map_cons, List.map_nil, Option.bind_eq_bind,
    Option.bind_some, Option.bind_eq_some_iff, Option.some.injEq]
  constructor
  · rintro ⟨_, h1, ⟨_, _⟩, h2, _, h3, _, h4, _, h5, rfl⟩
    exact ⟨h1, h2, h3, h4, h5⟩
  · rintro ⟨h1, h2, h3, h4, h5⟩
    exact ⟨_, h1, _, h2, _, h3, _, h4, _, h5, rfl⟩

end LoginGate.Configuration
