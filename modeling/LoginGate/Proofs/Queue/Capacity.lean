/-
# A queue keeps within its limits

A submission to a queue that is online looks for room before it starts a call, but a probe is started
without looking.  That the limit holds all the same rests on a fact about every run: **a queue that
is offline without a probe has room for one** (`Bounded.room`).  It went offline when a call
completed, which freed a place, and nothing but a probe has started since.

`Bounded` is the invariant, `Bounded.step` says that every event keeps it, and `capacity` is what it
comes to for every reachable run.
-/
import LoginGate.Proofs.Queue.Operations

namespace LoginGate.Queue

/-! ## 1. The invariant -/

/-- The limits, and what holds them when a probe is started. -/
structure Bounded (settings : Settings) (r : Run) : Prop where
  /-- The queue counts the calls in flight. -/
  counted : r.queue.inFlight = r.flights.length
  capped : r.queue.inFlight ≤ settings.maxConcurrent
  /-- A queue that is offline without a probe has room for one. -/
  room : r.queue.isOffline = true → r.queue.probing = false →
    r.queue.inFlight < settings.maxConcurrent
  short : r.queue.waiting.length ≤ settings.maxQueued

theorem bounded_start (settings : Settings) : Bounded settings {} where
  counted := rfl
  capped := Nat.zero_le _
  room h := absurd h (by decide)
  short := Nat.zero_le _

/-! ## 2. Each event keeps it -/

variable {settings : Settings} {r : Run}

theorem Bounded.submit (h : Bounded settings r) (now : Nat) (job : Job) :
    Bounded settings (r.after settings now (.submit job)) := by
  have hs := submit_submission settings now job r.queue
  have hc := h.counted
  obtain ⟨q', es, hq, he⟩ : ∃ q' es, (r.queue.submit settings now job).1 = q' ∧
      (r.queue.submit settings now job).2 = es := ⟨_, _, rfl, rfl⟩
  rw [hq, he] at hs
  simp only [Run.after, react, Event.leaves, hq, he]
  cases hs with
  | refused offline closed => exact ⟨by simpa using hc, h.capped, h.room, h.short⟩
  | probe offline due idle =>
    have room := h.room (by simp [isOffline, offline]) idle
    exact ⟨by simpa using hc, room, fun _ hp => absurd hp (by simp), h.short⟩
  | started online room =>
    refine ⟨by simpa using hc, room, fun ho => ?_, h.short⟩
    simp [isOffline, online] at ho
  | waits online busy space =>
    refine ⟨by simpa using hc, h.capped, h.room, ?_⟩
    simpa using Nat.succ_le_of_lt space
  | full online busy crowded => exact ⟨by simpa using hc, h.capped, h.room, h.short⟩

theorem Bounded.complete (h : Bounded settings r) (now : Nat) {job : Job} {probe : Bool}
    (reply : Reply) (hf : ⟨job, probe⟩ ∈ r.flights) :
    Bounded settings (r.after settings now (.complete job reply probe)) := by
  have hpos : 0 < r.flights.length := List.length_pos_of_mem hf
  have herase : (r.flights.erase ⟨job, probe⟩).length = r.flights.length - 1 :=
    List.length_erase_of_mem hf
  have hc := h.counted
  have hcap := h.capped
  have hs := complete_completion settings now job reply.answer probe r.queue
  obtain ⟨q', es, hq, he⟩ : ∃ q' es,
      (r.queue.complete settings now job reply.answer probe).1 = q' ∧
      (r.queue.complete settings now job reply.answer probe).2 = es := ⟨_, _, rfl, rfl⟩
  rw [hq, he] at hs
  simp only [Run.after, react, Event.leaves, hq, he]
  cases hs with
  | flushed offline =>
    have hst : starts (.answer job reply.answer :: r.queue.waiting.map (dismiss · offlineAnswer)) =
        [] := starts_map_dismiss _ _
    refine ⟨?_, ?_, fun _ _ => ?_, Nat.zero_le _⟩
    · simp only [landed_inFlight, hst, List.append_nil, herase, hc]
    · simp only [landed_inFlight]
      omega
    · -- the place of the completed call is free
      simp only [landed_inFlight]
      omega
  | @released passed rest online line busy room =>
    have hst : starts (.answer job reply.answer :: passed.map (settle settings now)) =
        starts (passed.map (settle settings now)) := rfl
    refine ⟨?_, room (by omega), fun ho => ?_, ?_⟩
    · simp only [hst, List.length_append, herase, hc]
    · have online' : (r.queue.landed settings now reply.answer.result probe).isOffline = true := ho
      rw [online] at online'
      exact absurd online' (by decide)
    · have := h.short
      rw [line, List.length_append] at this
      simp only
      omega

theorem Bounded.expire (h : Bounded settings r) (now : Nat) :
    Bounded settings (r.after settings now .expire) := by
  obtain ⟨passed, rest, line, he, -, -⟩ := expire_eq settings now r.queue
  have hshort := h.short
  rw [line, List.length_append] at hshort
  simp only [Run.after, react, Event.leaves, he, starts_map_dismiss, List.append_nil]
  exact ⟨h.counted, h.capped, h.room, by simp only; omega⟩

theorem Bounded.abandon (h : Bounded settings r) (now ticket : Nat) :
    Bounded settings (r.after settings now (.abandon ticket)) := by
  refine ⟨by simpa [Run.after, react, Event.leaves, Queue.abandon] using h.counted, h.capped,
    h.room, ?_⟩
  simpa [Run.after, react, Queue.abandon] using h.short

/-- **Every event that can occur keeps the invariant.** -/
theorem Bounded.step (h : Bounded settings r) (now : Nat) {event : Event} (ha : r.Admits event) :
    Bounded settings (r.after settings now event) := by
  cases event with
  | submit job => exact h.submit now job
  | complete job reply probe => exact h.complete now reply ha
  | expire => exact h.expire now
  | abandon ticket => exact h.abandon now ticket

theorem bounded_of_reachable (h : r.Reachable settings) : Bounded settings r :=
  h.rec_steps (bounded_start settings) fun _ now _ _ _ admitted ih => ih.step now admitted

/-! ## 3. The limits -/

/-- **A queue keeps within its limits.**  At every moment of every run the queue counts exactly the
calls that were started and have not completed; they are at most as many as the limit says, and so
are the jobs in line.  Probes are no exception. -/
theorem capacity (h : r.Reachable settings) :
    r.started.Perm (r.completed ++ r.flights) ∧ r.queue.inFlight = r.flights.length ∧
      r.queue.inFlight ≤ settings.maxConcurrent ∧
      r.queue.waiting.length ≤ settings.maxQueued :=
  have hb := bounded_of_reachable h
  ⟨h.started_perm, hb.counted, hb.capped, hb.short⟩

namespace Example

/-- Two calls at a time, and offline after a single failure. -/
def fragile : Settings :=
  { maxConcurrent := 2, maxQueued := 1, offlineThreshold := 1, offlineRetry := 10 }

/-- Of two calls one fails, and a probe starts while the other is still in flight. -/
def probeBesideCall : List (Nat × Event) :=
  [(0, .submit (job 0)), (0, .submit (job 1)), (1, .complete (job 0) (.failure .timeout) false),
    (11, .submit (job 2))]

end Example

/-- The limit is reached by a probe that starts beside an older call. -/
theorem capacity_probe_beside_call :
    let r := Run.replay Example.fragile Example.probeBesideCall {}
    r.Reachable Example.fragile ∧ r.queue.probing = true ∧
      r.flights = [⟨Example.job 1, false⟩, ⟨Example.job 2, true⟩] ∧
      r.started.Perm (r.completed ++ r.flights) ∧ r.queue.inFlight = r.flights.length ∧
      r.queue.inFlight ≤ Example.fragile.maxConcurrent ∧
      r.queue.waiting.length ≤ Example.fragile.maxQueued :=
  have hr := Run.reachable_replay (.start _) (by decide)
  ⟨hr, by decide, by decide, capacity hr⟩

end LoginGate.Queue
