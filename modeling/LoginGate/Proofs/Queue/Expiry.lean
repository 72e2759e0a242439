/-
# Expiry and completion commute

A call may end at the very instant at which jobs in line have waited too long.  Whether the queue
hears of the one or of the other first makes no difference, as long as it is online afterwards
(`expiry_commutes`).

* The line is in the order of the instants of submission, so the jobs that have waited too long are
  a front part of it, and nobody behind them has (`young_of_sorted`).
* A completion frees a place.  While there is room, jobs that have waited too long are passed over
  and answered as an expiry answers them (`release_overdue`), and none of them takes the place.

A completion that takes the queue offline is another matter: it turns the whole line away, those that
have waited too long included, with the answer that the provider is offline.
-/
import LoginGate.Proofs.Queue.Capacity
import LoginGate.Proofs.Queue.Offline
import LoginGate.Proofs.Queue.Order

namespace LoginGate.Queue

variable {settings : Settings} {now : Nat} {q : Queue} {r : Run}

/-! ## 1. Jobs that have waited too long -/

/-- **While there is room, a release begins with the work of an expiry.** -/
theorem release_overdue {n : Nat} (room : n < settings.maxConcurrent) {late : List WaitingJob}
    (hlate : ∀ w ∈ late, isOverdue settings now w = true) (rest : List WaitingJob) :
    release settings now n (late ++ rest) =
      ((release settings now n rest).1, (release settings now n rest).2.1,
        late.map (dismiss · timeoutAnswer) ++ (release settings now n rest).2.2) := by
  induction late with
  | nil => rfl
  | cons w late ih =>
    obtain ⟨hw, hlate⟩ := List.forall_mem_cons.mp hlate
    have hwaited := isOverdue_iff.mp hw
    cases ha : w.abandoned <;> simp [release, room, ha, hwaited, ih hlate, dismiss]

/-! ## 2. One queue, two orders -/

/-- The queue with another line. -/
def relined (ws : List WaitingJob) (q : Queue) : Queue := { q with waiting := ws }

theorem noteFailure_relined (ws : List WaitingJob) (probe : Bool) (q : Queue) :
    (q.relined ws).noteFailure settings now probe =
      (q.noteFailure settings now probe).relined ws := by
  rw [noteFailure, noteFailure, apply_ite (relined ws)]
  rfl

theorem note_relined (ws : List WaitingJob) (result : QueueResult) (probe : Bool) (q : Queue) :
    (q.relined ws).note settings now result probe =
      (q.note settings now result probe).relined ws := by
  cases result with
  | success | queueFull | queueTimeout | offline => rfl
  | error => exact noteFailure_relined ws probe { q with totalErrors := q.totalErrors + 1 }
  | requestTimeout =>
    exact noteFailure_relined ws probe { q with totalTimeouts := q.totalTimeouts + 1 }

/-- How a call ended is noted without a look at the line. -/
theorem landed_relined (ws : List WaitingJob) (result : QueueResult) (probe : Bool) (q : Queue) :
    (q.relined ws).landed settings now result probe =
      (q.landed settings now result probe).relined ws :=
  note_relined ws result probe { q with inFlight := q.inFlight - 1, probing := q.probing && !probe }

/-- A completion after which the queue is online releases the line. -/
theorem complete_online (job : Job) {answer : Answer} {probe : Bool}
    (online : (q.landed settings now answer.result probe).isOffline = false) :
    q.complete settings now job answer probe =
      ({ q.landed settings now answer.result probe with
          inFlight := (release settings now (q.inFlight - 1) q.waiting).1
          waiting := (release settings now (q.inFlight - 1) q.waiting).2.1 },
        .answer job answer :: (release settings now (q.inFlight - 1) q.waiting).2.2) := by
  have hdrain : (q.landed settings now answer.result probe).drain settings now =
      ({ q.landed settings now answer.result probe with
          inFlight := (release settings now (q.inFlight - 1) q.waiting).1
          waiting := (release settings now (q.inFlight - 1) q.waiting).2.1 },
        (release settings now (q.inFlight - 1) q.waiting).2.2) := by
    simp [drain, online]
  calc q.complete settings now job answer probe
    _ = (((q.landed settings now answer.result probe).drain settings now).1,
        .answer job answer ::
          ((q.landed settings now answer.result probe).drain settings now).2) := rfl
    _ = _ := by rw [hdrain]

/-- **The two orders at one queue.**  A completion that comes first leads to the same queue as one
behind an expiry, and has the work of the expiry put in behind its own answer; nothing is left for an
expiry after it. -/
theorem complete_eq_behind_expire (job : Job) {answer : Answer} {probe : Bool}
    (sorted : (q.waiting.map WaitingJob.since).Pairwise (· ≤ ·))
    (room : q.inFlight - 1 < settings.maxConcurrent)
    (online : (q.landed settings now answer.result probe).isOffline = false) :
    ∃ q' settled,
      (q.expire settings now).1.complete settings now job answer probe =
        (q', .answer job answer :: settled) ∧
      q.complete settings now job answer probe =
        (q', .answer job answer :: ((q.expire settings now).2 ++ settled)) ∧
      q'.expire settings now = (q', []) := by
  obtain ⟨late, rest, line, hexpire, hlate, hfirst⟩ := expire_eq settings now q
  have honline : ((q.relined rest).landed settings now answer.result probe).isOffline = false := by
    rw [landed_relined]
    exact online
  -- What a release leaves of the rest of the line is some of it, so nobody there is late either.
  obtain ⟨passed, left, hrest, hrelease, -⟩ := release_eq settings now (q.inFlight - 1) rest
  have hsorted : (rest.map WaitingJob.since).Pairwise (· ≤ ·) := by
    rw [line, List.map_append, List.pairwise_append] at sorted
    exact sorted.2.1
  have hyoung : ∀ w ∈ left, isOverdue settings now w = false := fun w hw =>
    young_of_sorted hsorted hfirst w (hrest ▸ List.mem_append_right _ hw)
  have hbehind := complete_online job honline
  have hahead := complete_online job online
  rw [landed_relined, relined, relined, hrelease] at hbehind
  rw [line, release_overdue room hlate, hrelease] at hahead
  rw [hexpire]
  exact ⟨_, _, hbehind, hahead, expire_of_young hyoung⟩

/-! ## 3. Runs -/

/-- **Expiry and completion commute.**  In every run, let a call end at an instant, so that the queue
is online after that.  Whether the queue looks for jobs that have waited too long right after it was
told of the end, or right before, at the same instant: its state is the same in the end, the same
calls have been started, in the same order, and every caller that is still there has the same
answer. -/
theorem expiry_commutes (h : r.Reachable settings) {now : Nat} {job : Job} {reply : Reply}
    {probe : Bool} (later : r.now ≤ now) (flying : r.Admits (.complete job reply probe))
    (online : (r.after settings now (.complete job reply probe)).queue.isOffline = false) :
    let first := (r.after settings now (.complete job reply probe)).after settings now .expire
    let second := (r.after settings now .expire).after settings now (.complete job reply probe)
    first.Reachable settings ∧ second.Reachable settings ∧
      first.queue = second.queue ∧ first.flights = second.flights ∧
      first.started = second.started ∧ first.answered.Perm second.answered ∧
      first.discarded = second.discarded := by
  intro first second
  have hbounds := bounded_of_reachable h
  have hpos : 0 < r.flights.length := List.length_pos_of_mem flying
  have room : r.queue.inFlight - 1 < settings.maxConcurrent := by
    have hcounted := hbounds.counted
    have hcapped := hbounds.capped
    omega
  have hlanded : (r.queue.landed settings now reply.answer.result probe).isOffline = false :=
    (health_complete settings now job reply probe r.queue).1.symm.trans online
  obtain ⟨q', settled, hbehind, hcomplete, hidle⟩ :=
    complete_eq_behind_expire job (ordered_of_reachable h).sorted room hlanded
  have hnone : starts (r.queue.expire settings now).2 = [] := starts_map_dismiss _ _
  have hexpired : (r.after settings now .expire).Reachable settings := h.after later trivial
  refine ⟨(h.after later flying).after (Nat.le_refl _) trivial,
    hexpired.after (Nat.le_refl _) ?_, ?_⟩
  · simpa [Run.Admits, react, Event.leaves, hnone] using flying
  · simp only [first, second, Run.queue_after, Run.flights_after, Run.started_after,
      Run.answered_after, Run.discarded_after, react, Event.leaves, hcomplete, hidle, hbehind, hnone,
      starts_answer, starts_append, discards_answer, discards_append, starts_nil, discards_nil,
      answers_answer, answers_append, answers_nil, List.append_nil, List.nil_append,
      List.append_assoc, true_and, and_true]
    exact List.Perm.append_left _ List.perm_middle.symm

namespace Example

/-- Two calls at a time, and five instants in line. -/
def hurried : Settings := { maxConcurrent := 2, queueTimeout := 5, offlineThreshold := 1 }

/-- Behind two calls four jobs wait; the caller of the first of them has gone away, and the last of
them came later. -/
def crowded : Run :=
  Run.replay hurried
    [(0, .submit (job 0)), (0, .submit (job 1)), (0, .submit (job 2)), (0, .submit (job 3)),
      (3, .submit (job 4)), (4, .submit (job 5)), (4, .abandon 2)] {}

end Example

/-- One job is discarded, one answered and one started, while one goes on waiting. -/
theorem expiry_commutes_crowded :
    let event := Event.complete (Example.job 1) (.success 200 []) false
    let first := (Example.crowded.after Example.hurried 5 event).after Example.hurried 5 .expire
    let second := (Example.crowded.after Example.hurried 5 .expire).after Example.hurried 5 event
    Example.crowded.Reachable Example.hurried ∧ Example.crowded.now ≤ 5 ∧
      Example.crowded.Admits event ∧
      (Example.crowded.after Example.hurried 5 event).queue.isOffline = false ∧
      first.queue.waiting.map (·.job) = [Example.job 5] ∧
      first.started = [⟨Example.job 0, false⟩, ⟨Example.job 1, false⟩, ⟨Example.job 4, false⟩] ∧
      first.discarded = [Example.job 2] ∧
      first.answered =
        [(Example.job 1, Reply.answer (.success 200 [])), (Example.job 3, timeoutAnswer)] ∧
      second.answered =
        [(Example.job 3, timeoutAnswer), (Example.job 1, Reply.answer (.success 200 []))] ∧
      first.queue = second.queue ∧ first.started = second.started ∧
      first.answered.Perm second.answered := by
  intro event first second
  have hr : Example.crowded.Reachable Example.hurried :=
    Run.reachable_replay (.start _) (by decide)
  have hlater : Example.crowded.now ≤ 5 := by decide
  have hflying : Example.crowded.Admits event := by decide
  have honline : (Example.crowded.after Example.hurried 5 event).queue.isOffline = false := by
    decide
  obtain ⟨-, -, hqueue, -, hstarted, hanswered, -⟩ := expiry_commutes hr hlater hflying honline
  exact ⟨hr, hlater, hflying, honline, by decide, by decide, by decide, by decide, by decide, hqueue,
    hstarted, hanswered⟩

end LoginGate.Queue
