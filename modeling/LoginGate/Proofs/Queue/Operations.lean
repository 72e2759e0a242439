/-
# What each operation of a queue does

One statement for each operation, from which everything else about runs is derived without
unfolding the operations again.

* `Submission` lists the five ways in which a job can be taken (`submit_submission`).
* An operation that empties the line takes jobs from its front only, and every job that it takes has
  exactly one effect: `release_eq`, `drain_offline`, `drain_online`, `expire_eq`.
* Noting how a call ended touches neither the line nor the calls in flight (`note_waiting` and its
  neighbours), so a completion goes on in one of two ways (`complete_completion`).
* `Reaction` is all of it, event by event (`react_reaction`).
-/
import Mathlib.Data.List.TakeWhile
import LoginGate.Proofs.Queue.Runs

namespace LoginGate.Queue

variable {settings : Settings} {now : Nat} {q : Queue}

/-! ## 1. Submission -/

/-- The ways in which a job is taken, with the queue after it and the effects. -/
inductive Submission (settings : Settings) (now : Nat) (job : Job) (q : Queue) :
    Queue → List Effect → Prop
  | refused {instant : Nat} (offline : q.offlineUntil = some instant)
      (closed : now < instant ∨ q.probing = true) :
      Submission settings now job q { q with totalRequests := q.totalRequests + 1 }
        [.answer job offlineAnswer]
  | probe {instant : Nat} (offline : q.offlineUntil = some instant) (due : instant ≤ now)
      (idle : q.probing = false) :
      Submission settings now job q
        { q with totalRequests := q.totalRequests + 1, inFlight := q.inFlight + 1, probing := true }
        [.start job true]
  | started (online : q.offlineUntil = none) (room : q.inFlight < settings.maxConcurrent) :
      Submission settings now job q
        { q with totalRequests := q.totalRequests + 1, inFlight := q.inFlight + 1 }
        [.start job false]
  | waits (online : q.offlineUntil = none) (busy : settings.maxConcurrent ≤ q.inFlight)
      (space : q.waiting.length < settings.maxQueued) :
      Submission settings now job q
        { q with totalRequests := q.totalRequests + 1
                 waiting := q.waiting ++ [{ job, since := now }] } []
  | full (online : q.offlineUntil = none) (busy : settings.maxConcurrent ≤ q.inFlight)
      (crowded : settings.maxQueued ≤ q.waiting.length) :
      Submission settings now job q { q with totalRequests := q.totalRequests + 1 }
        [.answer job fullAnswer]

/-- **A job is taken in one of the five ways.** -/
theorem submit_submission (settings : Settings) (now : Nat) (job : Job) (q : Queue) :
    Submission settings now job q (q.submit settings now job).1 (q.submit settings now job).2 := by
  unfold submit
  cases ho : q.offlineUntil with
  | some instant =>
    simp only
    split
    · rename_i h
      rw [← ho]
      exact .refused ho (by simpa using h)
    · rename_i h
      simp only [Bool.or_eq_true, decide_eq_true_eq, not_or, Nat.not_lt, Bool.not_eq_true] at h
      rw [← ho]
      exact .probe ho h.1 h.2
  | none =>
    simp only
    rw [← ho]
    split
    · rename_i h
      exact .started ho h
    · rename_i h
      split
      · rename_i hw
        exact .waits ho (Nat.le_of_not_lt h) hw
      · rename_i hw
        exact .full ho (Nat.le_of_not_lt h) (Nat.le_of_not_lt hw)

/-! ## 2. Leaving the line -/

/-- What becomes of a job in line that is passed while there is room. -/
def settle (settings : Settings) (now : Nat) (w : WaitingJob) : Effect :=
  if w.abandoned then .discard w.job
  else if isOverdue settings now w then .answer w.job timeoutAnswer
  else .start w.job false

theorem isOverdue_iff {w : WaitingJob} :
    isOverdue settings now w = true ↔ w.since + settings.queueTimeout ≤ now := by
  simp [isOverdue]

theorem isOverdue_eq_false_iff {w : WaitingJob} :
    isOverdue settings now w = false ↔ now < w.since + settings.queueTimeout := by
  simp [isOverdue]

@[simp] theorem job_settle (settings : Settings) (now : Nat) (w : WaitingJob) :
    (settle settings now w).job = w.job := by
  unfold settle
  split
  · rfl
  · split <;> rfl

@[simp] theorem job_dismiss (w : WaitingJob) (a : Answer) : (dismiss w a).job = w.job := by
  unfold dismiss
  split <;> rfl

theorem settle_eq_start {w : WaitingJob} {job : Job} {probe : Bool} :
    settle settings now w = .start job probe ↔
      w.abandoned = false ∧ isOverdue settings now w = false ∧ w.job = job ∧ probe = false := by
  cases ha : w.abandoned <;> cases hd : isOverdue settings now w <;> simp [settle, ha, hd, eq_comm]

theorem settle_eq_answer {w : WaitingJob} {job : Job} {a : Answer} :
    settle settings now w = .answer job a ↔
      w.abandoned = false ∧ isOverdue settings now w = true ∧ w.job = job ∧ a = timeoutAnswer := by
  cases ha : w.abandoned <;> cases hd : isOverdue settings now w <;> simp [settle, ha, hd, eq_comm]

theorem settle_eq_discard {w : WaitingJob} {job : Job} :
    settle settings now w = .discard job ↔ w.abandoned = true ∧ w.job = job := by
  cases ha : w.abandoned <;> cases hd : isOverdue settings now w <;> simp [settle, ha, hd]

theorem dismiss_eq_answer {w : WaitingJob} {a a' : Answer} {job : Job} :
    dismiss w a = .answer job a' ↔ w.abandoned = false ∧ w.job = job ∧ a' = a := by
  cases ha : w.abandoned <;> simp [dismiss, ha, eq_comm]

theorem dismiss_eq_discard {w : WaitingJob} {a : Answer} {job : Job} :
    dismiss w a = .discard job ↔ w.abandoned = true ∧ w.job = job := by
  cases ha : w.abandoned <;> simp [dismiss, ha]

/-- Dismissing starts nothing. -/
@[simp] theorem starts_map_dismiss (ws : List WaitingJob) (a : Answer) :
    starts (ws.map (dismiss · a)) = [] := by
  refine List.eq_nil_iff_forall_not_mem.mpr fun f hf => ?_
  obtain ⟨w, -, hw⟩ := List.mem_map.mp (mem_starts.mp hf)
  cases ha : w.abandoned <;> simp [dismiss, ha] at hw

/-- **Releasing a line**: the jobs of some front part are settled one after another, each start
takes one place, and what is left of the line is left for want of room. -/
theorem release_eq (settings : Settings) (now n : Nat) (ws : List WaitingJob) :
    ∃ passed rest, ws = passed ++ rest ∧
      release settings now n ws =
        (n + (starts (passed.map (settle settings now))).length, rest,
          passed.map (settle settings now)) ∧
      (rest ≠ [] → settings.maxConcurrent ≤ n + (starts (passed.map (settle settings now))).length) ∧
      (n ≤ settings.maxConcurrent →
        n + (starts (passed.map (settle settings now))).length ≤ settings.maxConcurrent) := by
  induction ws generalizing n with
  | nil => exact ⟨[], [], rfl, rfl, by simp, by simp⟩
  | cons w ws ih =>
    by_cases room : n < settings.maxConcurrent
    · by_cases ha : w.abandoned = true
      · have hw : settle settings now w = .discard w.job := by simp [settle, ha]
        obtain ⟨passed, rest, rfl, hr, hb, hc⟩ := ih n
        refine ⟨w :: passed, rest, rfl, ?_, ?_⟩
        · simp [release, room, ha, hr, hw]
        · rw [List.map_cons, hw, starts_discard]
          exact ⟨hb, hc⟩
      · by_cases hd : isOverdue settings now w = true
        · have hw : settle settings now w = .answer w.job timeoutAnswer := by simp [settle, ha, hd]
          obtain ⟨passed, rest, rfl, hr, hb, hc⟩ := ih n
          refine ⟨w :: passed, rest, rfl, ?_, ?_⟩
          · simp [release, room, ha, of_decide_eq_true hd, hr, hw]
          · rw [List.map_cons, hw, starts_answer]
            exact ⟨hb, hc⟩
        · have hw : settle settings now w = .start w.job false := by simp [settle, ha, hd]
          have hlate : ¬ w.since + settings.queueTimeout ≤ now := fun h => hd (decide_eq_true h)
          obtain ⟨passed, rest, rfl, hr, hb, hc⟩ := ih (n + 1)
          have hlen : n + (starts ((w :: passed).map (settle settings now))).length =
              n + 1 + (starts (passed.map (settle settings now))).length := by
            rw [List.map_cons, hw, starts_start, List.length_cons]
            omega
          refine ⟨w :: passed, rest, rfl, ?_, ?_⟩
          · rw [hlen]
            simp [release, room, ha, hlate, hr, hw]
          · rw [hlen]
            exact ⟨hb, fun _ => hc room⟩
    · refine ⟨[], w :: ws, rfl, by simp [release, room], fun _ => ?_, fun h => by simpa using h⟩
      simpa using Nat.le_of_not_lt room

/-- Draining a queue that is offline empties the line. -/
theorem drain_offline (h : q.isOffline = true) :
    q.drain settings now = ({ q with waiting := [] }, q.waiting.map (dismiss · offlineAnswer)) := by
  simp [drain, h]

/-- Draining a queue that is online releases a front part of the line. -/
theorem drain_online (settings : Settings) (now : Nat) {q : Queue} (h : q.isOffline = false) :
    ∃ passed rest, q.waiting = passed ++ rest ∧
      q.drain settings now =
        ({ q with inFlight := q.inFlight + (starts (passed.map (settle settings now))).length
                  waiting := rest }, passed.map (settle settings now)) ∧
      (rest ≠ [] → settings.maxConcurrent ≤
        q.inFlight + (starts (passed.map (settle settings now))).length) ∧
      (q.inFlight ≤ settings.maxConcurrent →
        q.inFlight + (starts (passed.map (settle settings now))).length ≤
          settings.maxConcurrent) := by
  obtain ⟨passed, rest, hw, hr, hb, hc⟩ := release_eq settings now q.inFlight q.waiting
  exact ⟨passed, rest, hw, by simp [drain, h, hr], hb, hc⟩

/-- Expiry takes the jobs at the front of the line that have waited too long. -/
theorem expire_eq (settings : Settings) (now : Nat) (q : Queue) :
    ∃ passed rest, q.waiting = passed ++ rest ∧
      q.expire settings now = ({ q with waiting := rest }, passed.map (dismiss · timeoutAnswer)) ∧
      (∀ w ∈ passed, isOverdue settings now w = true) ∧
      (∀ w ∈ rest.head?, isOverdue settings now w = false) := by
  refine ⟨q.waiting.takeWhile (isOverdue settings now), q.waiting.dropWhile (isOverdue settings now),
    List.takeWhile_append_dropWhile.symm, rfl, fun w hw => List.mem_takeWhile_imp hw, ?_⟩
  intro w hw
  have := List.head?_dropWhile_not (isOverdue settings now) q.waiting
  rw [Option.mem_def.mp hw] at this
  simpa using this

/-- **In a line in the order of submission nobody has waited longer than the first one.** -/
theorem young_of_sorted {ws : List WaitingJob}
    (sorted : (ws.map WaitingJob.since).Pairwise (· ≤ ·))
    (young : ∀ w ∈ ws.head?, isOverdue settings now w = false) :
    ∀ w ∈ ws, isOverdue settings now w = false := by
  cases ws with
  | nil => exact fun w hw => absurd hw List.not_mem_nil
  | cons first ws =>
    have hfirst := isOverdue_eq_false_iff.mp (young first rfl)
    obtain ⟨hle, -⟩ := List.pairwise_cons.mp sorted
    intro w hw
    refine isOverdue_eq_false_iff.mpr ?_
    rcases List.mem_cons.mp hw with rfl | hw
    · exact hfirst
    · have hsince := hle _ (List.mem_map_of_mem hw)
      omega

/-- Where nobody has waited too long, an expiry does nothing. -/
theorem expire_of_young (young : ∀ w ∈ q.waiting, isOverdue settings now w = false) :
    q.expire settings now = (q, []) := by
  have hnone : q.waiting.takeWhile (isOverdue settings now) = [] := by
    cases hw : q.waiting with
    | nil => rfl
    | cons w ws => exact List.takeWhile_cons_of_neg (by simp [young w (by simp [hw])])
  have hall : q.waiting.dropWhile (isOverdue settings now) = q.waiting := by
    have hparts := List.takeWhile_append_dropWhile (p := isOverdue settings now) (l := q.waiting)
    rwa [hnone, List.nil_append] at hparts
  rw [expire, hnone, hall, List.map_nil]

/-! ## 3. Noting how a call ended -/

section Note

variable (settings : Settings) (now : Nat) (result : QueueResult) (probe : Bool) (q : Queue)

@[simp] theorem noteFailure_waiting :
    (q.noteFailure settings now probe).waiting = q.waiting := by
  unfold noteFailure
  dsimp only
  split <;> rfl

@[simp] theorem noteFailure_inFlight :
    (q.noteFailure settings now probe).inFlight = q.inFlight := by
  unfold noteFailure
  dsimp only
  split <;> rfl

@[simp] theorem noteFailure_probing :
    (q.noteFailure settings now probe).probing = q.probing := by
  unfold noteFailure
  dsimp only
  split <;> rfl

@[simp] theorem noteFailure_totalRequests :
    (q.noteFailure settings now probe).totalRequests = q.totalRequests := by
  unfold noteFailure
  dsimp only
  split <;> rfl

@[simp] theorem note_waiting : (q.note settings now result probe).waiting = q.waiting := by
  cases result <;> simp [note]

@[simp] theorem note_inFlight : (q.note settings now result probe).inFlight = q.inFlight := by
  cases result <;> simp [note]

@[simp] theorem note_probing : (q.note settings now result probe).probing = q.probing := by
  cases result <;> simp [note]

@[simp] theorem note_totalRequests :
    (q.note settings now result probe).totalRequests = q.totalRequests := by
  cases result <;> simp [note]

end Note

/-! ## 4. Completion -/

/-- A queue that was told the end of a call, before anything is done about its line. -/
def landed (settings : Settings) (now : Nat) (result : QueueResult) (probe : Bool) (q : Queue) :
    Queue :=
  { q with inFlight := q.inFlight - 1, probing := q.probing && !probe }.note settings now result
    probe

/-- The two ways in which a completion goes on, with the queue after it and the effects. -/
inductive Completion (settings : Settings) (now : Nat) (job : Job) (answer : Answer) (probe : Bool)
    (q : Queue) : Queue → List Effect → Prop
  /-- The queue is offline, and everybody in line is turned away. -/
  | flushed (offline : (q.landed settings now answer.result probe).isOffline = true) :
      Completion settings now job answer probe q
        { q.landed settings now answer.result probe with waiting := [] }
        (.answer job answer :: q.waiting.map (dismiss · offlineAnswer))
  /-- The queue is online, and a front part of the line is settled. -/
  | released {passed rest : List WaitingJob}
      (online : (q.landed settings now answer.result probe).isOffline = false)
      (line : q.waiting = passed ++ rest)
      (busy : rest ≠ [] → settings.maxConcurrent ≤
        q.inFlight - 1 + (starts (passed.map (settle settings now))).length)
      (room : q.inFlight - 1 ≤ settings.maxConcurrent →
        q.inFlight - 1 + (starts (passed.map (settle settings now))).length ≤
          settings.maxConcurrent) :
      Completion settings now job answer probe q
        { q.landed settings now answer.result probe with
          inFlight := q.inFlight - 1 + (starts (passed.map (settle settings now))).length
          waiting := rest }
        (.answer job answer :: passed.map (settle settings now))

@[simp] theorem landed_waiting (result : QueueResult) (probe : Bool) :
    (q.landed settings now result probe).waiting = q.waiting := by
  simp [landed]

@[simp] theorem landed_inFlight (result : QueueResult) (probe : Bool) :
    (q.landed settings now result probe).inFlight = q.inFlight - 1 := by
  simp [landed]

@[simp] theorem landed_probing (result : QueueResult) (probe : Bool) :
    (q.landed settings now result probe).probing = (q.probing && !probe) := by
  simp [landed]

@[simp] theorem landed_totalRequests (result : QueueResult) (probe : Bool) :
    (q.landed settings now result probe).totalRequests = q.totalRequests := by
  simp [landed]

/-- **A completion goes on in one of the two ways.** -/
theorem complete_completion (settings : Settings) (now : Nat) (job : Job) (answer : Answer)
    (probe : Bool) (q : Queue) :
    Completion settings now job answer probe q (q.complete settings now job answer probe).1
      (q.complete settings now job answer probe).2 := by
  have hc : q.complete settings now job answer probe =
      (((q.landed settings now answer.result probe).drain settings now).1,
        .answer job answer :: ((q.landed settings now answer.result probe).drain settings now).2) :=
    rfl
  rw [hc]
  cases ho : (q.landed settings now answer.result probe).isOffline with
  | true =>
    rw [drain_offline ho, landed_waiting]
    exact .flushed ho
  | false =>
    obtain ⟨passed, rest, line, hd, busy, room⟩ := drain_online settings now ho
    rw [landed_inFlight] at hd busy room
    rw [landed_waiting] at line
    rw [hd]
    exact .released ho line busy room

/-! ## 5. Marking -/

/-- Marking the jobs of a caller changes nothing else about the line. -/
theorem map_waiting_abandon {β : Type} (f : WaitingJob → β)
    (hf : ∀ w, f { w with abandoned := true } = f w) (ticket : Nat) (q : Queue) :
    (q.abandon ticket).waiting.map f = q.waiting.map f := by
  rw [Queue.abandon, List.map_map]
  refine List.map_congr_left fun w _ => ?_
  simp only [Function.comp]
  split
  · exact hf w
  · rfl

/-! ## 6. Events -/

/-- What an event can do to a queue, with the queue after it and the effects. -/
inductive Reaction (settings : Settings) (now : Nat) (q : Queue) :
    Event → Queue → List Effect → Prop
  | submit {job : Job} {q' : Queue} {es : List Effect}
      (taken : Submission settings now job q q' es) : Reaction settings now q (.submit job) q' es
  | complete {job : Job} {reply : Reply} {probe : Bool} {q' : Queue} {es : List Effect}
      (ended : Completion settings now job reply.answer probe q q' es) :
      Reaction settings now q (.complete job reply probe) q' es
  | expire {passed rest : List WaitingJob} (line : q.waiting = passed ++ rest)
      (late : ∀ w ∈ passed, isOverdue settings now w = true)
      (young : ∀ w ∈ rest.head?, isOverdue settings now w = false) :
      Reaction settings now q .expire { q with waiting := rest }
        (passed.map (dismiss · timeoutAnswer))
  | abandon {ticket : Nat} : Reaction settings now q (.abandon ticket) (q.abandon ticket) []

/-- **Nothing else happens**, whatever the event. -/
theorem react_reaction (settings : Settings) (now : Nat) (q : Queue) (event : Event) :
    Reaction settings now q event (q.react settings now event).1
      (q.react settings now event).2 := by
  cases event with
  | submit job => exact .submit (submit_submission settings now job q)
  | complete job reply probe =>
    exact .complete (complete_completion settings now job reply.answer probe q)
  | expire =>
    obtain ⟨passed, rest, line, he, late, young⟩ := expire_eq settings now q
    rw [react, he]
    exact .expire line late young
  | abandon ticket => exact .abandon

end LoginGate.Queue
