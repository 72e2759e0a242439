/-
# No job is lost and none is answered twice

Jobs are answered from six places: at once when the queue is offline or its line is full, when their
call completes, and from the line when the queue goes offline, when room is made, or when they have
waited too long.  Each of these consumes the job that it answers.  `react_perm` says so for every
event at once: the jobs in line and the job that comes with the event are, up to order, the jobs in
line afterwards and the jobs that the effects concern.

From this, `Conserved` is an invariant of runs, and `conservation` reads off it that every job that
was submitted is in exactly one place: in line, in flight, answered, or discarded because its caller
was gone.

The result of an answer tells where it came from.  Answers by the transport are exactly those with a
result of a reply (`Reply.isReply_answer`), all others were made without a call.
-/
import Mathlib.Data.List.Nodup
import LoginGate.Proofs.Queue.Operations

namespace LoginGate

/-- Whether a result says how a call ended. -/
def QueueResult.isReply : QueueResult → Bool
  | .success | .error | .requestTimeout => true
  | .queueFull | .queueTimeout | .offline => false

/-- A reply makes an answer of one of three results. -/
theorem Reply.isReply_answer (reply : Reply) : reply.answer.result.isReply = true := by
  cases reply with
  | success status body => rfl
  | failure e => cases e <;> rfl

namespace Queue

variable {settings : Settings} {now : Nat} {q : Queue} {r : Run}

/-! ## 1. Each event consumes the jobs that it concerns -/

/-- The job that an event comes with. -/
def Event.jobs : Event → List Job
  | submit job | complete job _ _ => [job]
  | expire | abandon _ => []

/-- A front part of the line that leaves it with one effect for each job. -/
theorem jobs_of_passed {passed rest : List WaitingJob} (f : WaitingJob → Effect)
    (hf : ∀ w, (f w).job = w.job) (line : q.waiting = passed ++ rest) :
    (q.waiting.map WaitingJob.job).Perm
      (rest.map WaitingJob.job ++ (passed.map f).map Effect.job) := by
  have he : (passed.map f).map Effect.job = passed.map WaitingJob.job := by
    rw [List.map_map]
    exact List.map_congr_left fun w _ => hf w
  rw [line, he, List.map_append]
  exact List.perm_append_comm

/-- **Conservation, one event.**  The jobs in line and the job that comes with the event are the
jobs in line afterwards and those that the effects concern. -/
theorem react_perm (settings : Settings) (now : Nat) (q : Queue) (event : Event) :
    (event.jobs ++ q.waiting.map WaitingJob.job).Perm
      ((q.react settings now event).1.waiting.map WaitingJob.job ++
        (q.react settings now event).2.map Effect.job) := by
  have hr := react_reaction settings now q event
  generalize q.react settings now event = out at hr ⊢
  obtain ⟨q', es⟩ := out
  cases hr with
  | @submit job _ _ taken =>
    cases taken with
    | refused | probe | started | full => exact (List.perm_append_singleton _ _).symm
    | waits =>
      simp only [Event.jobs, List.map_append, List.map_cons, List.map_nil, List.append_nil]
      exact (List.perm_append_singleton _ _).symm
  | @complete job reply probe _ _ ended =>
    cases ended with
    | flushed offline =>
      have hall : q.waiting = q.waiting ++ [] := (List.append_nil _).symm
      exact (jobs_of_passed (dismiss · offlineAnswer) (fun w => job_dismiss w _) hall).cons job
    | released online line busy room =>
      have hpassed := jobs_of_passed (settle settings now) (job_settle settings now) line
      exact (hpassed.cons job).trans List.perm_middle.symm
  | expire line late young =>
    exact jobs_of_passed (dismiss · timeoutAnswer) (fun w => job_dismiss w _) line
  | @abandon ticket =>
    have hj : (q.abandon ticket).waiting.map WaitingJob.job = q.waiting.map WaitingJob.job :=
      map_waiting_abandon WaitingJob.job (fun _ => rfl) ticket q
    simp only [Event.jobs, List.map_nil, List.append_nil, List.nil_append]
    exact List.Perm.of_eq hj.symm

/-! ## 2. Where answers and discards come from -/

theorem answers_dismiss {ws : List WaitingJob} {a : Answer} {p : Job × Answer}
    (h : p ∈ answers (ws.map (dismiss · a))) : p.2 = a := by
  obtain ⟨w, -, hw⟩ := List.mem_map.mp (mem_answers.mp h)
  exact (dismiss_eq_answer.mp hw).2.2

theorem answers_settle {ws : List WaitingJob} {p : Job × Answer}
    (h : p ∈ answers (ws.map (settle settings now))) : p.2 = timeoutAnswer := by
  obtain ⟨w, -, hw⟩ := List.mem_map.mp (mem_answers.mp h)
  exact (settle_eq_answer.mp hw).2.2.2

theorem discards_dismiss {ws : List WaitingJob} {a : Answer} {job : Job}
    (h : job ∈ discards (ws.map (dismiss · a))) : ∃ w ∈ ws, w.abandoned = true ∧ w.job = job := by
  obtain ⟨w, hmem, hw⟩ := List.mem_map.mp (mem_discards.mp h)
  exact ⟨w, hmem, dismiss_eq_discard.mp hw⟩

theorem discards_settle {ws : List WaitingJob} {job : Job}
    (h : job ∈ discards (ws.map (settle settings now))) :
    ∃ w ∈ ws, w.abandoned = true ∧ w.job = job := by
  obtain ⟨w, hmem, hw⟩ := List.mem_map.mp (mem_discards.mp h)
  exact ⟨w, hmem, settle_eq_discard.mp hw⟩

/-- The jobs whose answers say how a call ended. -/
def replied (answers : List (Job × Answer)) : List Job :=
  (answers.filter (·.2.result.isReply)).map Prod.fst

theorem replied_append (l m : List (Job × Answer)) : replied (l ++ m) = replied l ++ replied m := by
  simp [replied]

/-- Answers without a call reply to nobody. -/
theorem replied_eq_nil {l : List (Job × Answer)} (h : ∀ p ∈ l, p.2.result.isReply = false) :
    replied l = [] := by
  rw [replied, List.filter_eq_nil_iff.mpr (fun p hp => by simp [h p hp]), List.map_nil]

/-- **A reply comes with a completion**, and with nothing else. -/
theorem replied_react (settings : Settings) (now : Nat) (q : Queue) (event : Event) :
    replied (answers (q.react settings now event).2) =
      event.completed?.toList.map Flight.job := by
  have hr := react_reaction settings now q event
  generalize q.react settings now event = out at hr ⊢
  obtain ⟨q', es⟩ := out
  cases hr with
  | submit taken => cases taken <;> rfl
  | @complete job reply probe _ _ ended =>
    have hhead : ∀ l, replied ((job, reply.answer) :: l) = job :: replied l := fun l => by
      simp [replied, reply.isReply_answer]
    cases ended with
    | flushed offline =>
      rw [answers_answer, hhead, replied_eq_nil fun p hp => by rw [answers_dismiss hp]; rfl]
      rfl
    | released online line busy room =>
      rw [answers_answer, hhead, replied_eq_nil fun p hp => by rw [answers_settle hp]; rfl]
      rfl
  | expire line late young => exact replied_eq_nil fun p hp => by rw [answers_dismiss hp]; rfl
  | abandon => rfl

/-- **Only the jobs of callers that are marked as gone are discarded**, and the line holds no other
marks than before. -/
theorem discards_react {event : Event} (h : event.gone? = none) :
    (∀ job ∈ discards (q.react settings now event).2,
        ∃ w ∈ q.waiting, w.abandoned = true ∧ w.job = job) ∧
      ∀ w ∈ (q.react settings now event).1.waiting, w.abandoned = true → w ∈ q.waiting := by
  have hr := react_reaction settings now q event
  generalize q.react settings now event = out at hr ⊢
  obtain ⟨q', es⟩ := out
  cases hr with
  | submit taken =>
    cases taken with
    | refused | probe | started | full => exact ⟨by simp, fun w hw _ => hw⟩
    | waits =>
      refine ⟨by simp, fun w hw ha => ?_⟩
      rcases List.mem_append.mp hw with hw | hw
      · exact hw
      · rw [List.mem_singleton.mp hw] at ha
        cases ha
  | complete ended =>
    cases ended with
    | flushed offline => exact ⟨fun job hj => discards_dismiss hj, by simp⟩
    | released online line busy room =>
      refine ⟨fun job hj => ?_, fun w hw _ => line ▸ List.mem_append_right _ hw⟩
      obtain ⟨w, hw, hm⟩ := discards_settle hj
      exact ⟨w, line ▸ List.mem_append_left _ hw, hm⟩
  | expire line late young =>
    refine ⟨fun job hj => ?_, fun w hw _ => line ▸ List.mem_append_right _ hw⟩
    obtain ⟨w, hw, hm⟩ := discards_dismiss hj
    exact ⟨w, line ▸ List.mem_append_left _ hw, hm⟩
  | abandon => cases h

/-- Every submission is counted, and nothing else is. -/
theorem totalRequests_react (settings : Settings) (now : Nat) (q : Queue) (event : Event) :
    (q.react settings now event).1.totalRequests =
      q.totalRequests + event.submitted?.toList.length := by
  have hr := react_reaction settings now q event
  generalize q.react settings now event = out at hr ⊢
  obtain ⟨q', es⟩ := out
  cases hr with
  | submit taken => cases taken <;> rfl
  | complete ended => cases ended <;> exact landed_totalRequests _ _
  | expire line late young => rfl
  | abandon => rfl

/-! ## 3. The invariant -/

/-- The jobs of a run, place by place: in line, in flight, answered, discarded. -/
def Run.places (r : Run) : List Job :=
  r.queue.waiting.map WaitingJob.job ++ r.flights.map Flight.job ++ r.answered.map Prod.fst ++
    r.discarded

/-- What a run conserves. -/
structure Conserved (r : Run) : Prop where
  distinct : (r.submitted.map Job.ticket).Nodup
  places : r.places.Perm r.submitted
  replied : replied r.answered = r.completed.map Flight.job
  /-- A mark in line means that the caller is gone. -/
  marked : ∀ w ∈ r.queue.waiting, w.abandoned = true → w.job.ticket ∈ r.gone
  left : ∀ job ∈ r.discarded, job.ticket ∈ r.gone
  counted : r.queue.totalRequests = r.submitted.length

theorem conserved_start : Conserved {} where
  distinct := List.nodup_nil
  places := List.Perm.refl _
  replied := rfl
  marked _ hw := absurd hw List.not_mem_nil
  left _ hj := absurd hj List.not_mem_nil
  counted := rfl

/-- The places after an event are the places before it and the job that is submitted. -/
theorem places_after {event : Event} (ha : r.Admits event) :
    (r.after settings now event).places.Perm (r.places ++ event.submitted?.toList) := by
  have hr := react_perm settings now r.queue event
  have hm := map_job_perm (r.queue.react settings now event).2
  have hf : (r.flights.map Flight.job ++ event.submitted?.toList).Perm
      ((event.leaves r.flights).map Flight.job ++ event.jobs) := by
    cases event with
    | submit job => exact List.Perm.refl _
    | complete job reply probe =>
      have := (List.perm_cons_erase ha).map Flight.job
      rw [List.map_cons] at this
      simp only [Event.submitted?, Option.toList_none, List.append_nil, Event.jobs, Event.leaves]
      exact this.trans (List.perm_append_singleton _ _).symm
    | expire => exact List.Perm.refl _
    | abandon ticket => exact List.Perm.refl _
  rw [List.perm_iff_count] at hr hm hf ⊢
  intro job
  have hr := hr job
  have hm := hm job
  have hf := hf job
  simp only [Run.places, Run.queue_after, Run.flights_after, Run.answered_after,
    Run.discarded_after, List.map_append, List.count_append] at hr hm hf ⊢
  omega

/-- **Every event that can occur keeps the invariant.** -/
theorem Conserved.step (h : Conserved r) (now : Nat) {event : Event} (ha : r.Admits event) :
    Conserved (r.after settings now event) where
  distinct := by
    rw [Run.submitted_after, List.map_append]
    cases event with
    | submit job =>
      rw [List.nodup_append]
      refine ⟨h.distinct, by simp [Event.submitted?], fun t ht u hu => ?_⟩
      simp only [Event.submitted?, Option.toList_some, List.map_cons, List.map_nil,
        List.mem_singleton] at hu
      rintro rfl
      exact ha (hu ▸ ht)
    | complete job reply probe => simpa [Event.submitted?] using h.distinct
    | expire => simpa [Event.submitted?] using h.distinct
    | abandon ticket => simpa [Event.submitted?] using h.distinct
  places := by
    rw [Run.submitted_after]
    exact (places_after ha).trans (h.places.append_right _)
  replied := by
    rw [Run.answered_after, Run.completed_after, replied_append, h.replied, replied_react,
      List.map_append]
  marked := by
    intro w hw hm
    rw [Run.gone_after]
    cases hg : event.gone? with
    | none =>
      exact List.mem_append_left _ (h.marked w ((discards_react hg).2 w hw hm) hm)
    | some ticket =>
      cases event with
      | abandon t =>
        obtain rfl : t = ticket := Option.some.inj hg
        simp only [Run.queue_after, react, Queue.abandon, List.mem_map] at hw
        obtain ⟨v, hv, rfl⟩ := hw
        by_cases ht : v.job.ticket = t
        · rw [if_pos ht]
          exact List.mem_append_right _ (by simp [ht])
        · rw [if_neg ht] at hm ⊢
          exact List.mem_append_left _ (h.marked v hv hm)
      | submit | complete | expire => cases hg
  left := by
    intro job hj
    rw [Run.gone_after]
    rw [Run.discarded_after] at hj
    rcases List.mem_append.mp hj with hj | hj
    · exact List.mem_append_left _ (h.left job hj)
    · cases hg : event.gone? with
      | none =>
        obtain ⟨w, hw, hm, rfl⟩ := (discards_react hg).1 job hj
        exact List.mem_append_left _ (h.marked w hw hm)
      | some ticket =>
        cases event with
        | abandon t => simp [react] at hj
        | submit | complete | expire => cases hg
  counted := by
    rw [Run.submitted_after, List.length_append, ← h.counted]
    exact totalRequests_react settings now r.queue event

theorem conserved_of_reachable (h : r.Reachable settings) : Conserved r :=
  h.rec_steps conserved_start fun _ now _ _ _ admitted ih => ih.step now admitted

/-! ## 4. Conservation -/

theorem Conserved.nodup_places (h : Conserved r) : r.places.Nodup :=
  h.places.nodup_iff.mpr (List.Nodup.of_map _ h.distinct)

/-- No job is both in flight and answered. -/
theorem Conserved.flying_answered (h : Conserved r) :
    (r.flights.map Flight.job ++ r.answered.map Prod.fst).Nodup := by
  refine h.nodup_places.sublist ?_
  rw [Run.places, List.append_assoc, List.append_assoc]
  refine List.Sublist.trans ?_ (List.sublist_append_right _ _)
  exact List.Sublist.append (List.Sublist.refl _) (List.sublist_append_left _ _)

theorem replied_sublist (l : List (Job × Answer)) : (replied l).Sublist (l.map Prod.fst) :=
  List.filter_sublist.map _

/-- The calls that were started are those in flight and those that were answered with a reply. -/
theorem started_jobs_perm (h : r.Reachable settings) :
    (r.started.map Flight.job).Perm (r.flights.map Flight.job ++ replied r.answered) := by
  rw [(conserved_of_reachable h).replied]
  refine (h.started_perm.map _).trans ?_
  rw [List.map_append]
  exact List.perm_append_comm

/-- No job is started twice. -/
theorem nodup_started (h : r.Reachable settings) : (r.started.map Flight.job).Nodup := by
  refine (started_jobs_perm h).nodup_iff.mpr ((conserved_of_reachable h).flying_answered.sublist ?_)
  exact List.Sublist.append (List.Sublist.refl _) (replied_sublist _)

/-- **What an answer says about the call**: the job of an answer was started exactly if the answer
is a reply. -/
theorem mem_started_iff_isReply (h : r.Reachable settings) {p : Job × Answer}
    (hp : p ∈ r.answered) :
    p.1 ∈ r.started.map Flight.job ↔ p.2.result.isReply = true := by
  obtain ⟨-, hanswered, hdisjoint⟩ :=
    List.nodup_append.mp (conserved_of_reachable h).flying_answered
  rw [(started_jobs_perm h).mem_iff, List.mem_append]
  constructor
  · rintro (hf | hr)
    · exact absurd rfl (hdisjoint _ hf _ (List.mem_map_of_mem hp))
    · obtain ⟨p', hp', he⟩ := List.mem_map.mp hr
      obtain ⟨hmem, hreply⟩ := List.mem_filter.mp hp'
      rwa [List.inj_on_of_nodup_map hanswered hmem hp he] at hreply
  · intro hr
    exact Or.inr (List.mem_map.mpr ⟨p, List.mem_filter.mpr ⟨hp, hr⟩, rfl⟩)

/-- A job that was discarded was not started. -/
theorem unstarted_of_mem_discarded (h : r.Reachable settings) {job : Job} (hj : job ∈ r.discarded) :
    job ∉ r.started.map Flight.job := by
  have hdisjoint := (List.nodup_append.mp (conserved_of_reachable h).nodup_places).2.2
  intro hs
  refine hdisjoint job ?_ job hj rfl
  rw [List.append_assoc, List.mem_append]
  refine Or.inr (List.mem_append.mpr ?_)
  rcases List.mem_append.mp ((started_jobs_perm h).subset hs) with hf | hr
  · exact Or.inl hf
  · exact Or.inr ((replied_sublist _).subset hr)

/-- **No job is lost and none is answered twice.**  At every moment of every run each job that was
submitted is in exactly one place; a job is discarded only if its caller was gone; the queue counts
the jobs that were submitted; a job answered for want of room, for waiting too long or because the
queue is offline was never started, and one answered with how its call ended was started exactly
once. -/
theorem conservation (h : r.Reachable settings) :
    r.places.Nodup ∧ r.places.Perm r.submitted ∧ (∀ job ∈ r.discarded, job.ticket ∈ r.gone) ∧
      r.queue.totalRequests = r.submitted.length ∧
      (∀ p ∈ r.answered, p.2.result ∈ [.queueFull, .offline, .queueTimeout] →
        p.1 ∉ r.started.map Flight.job) ∧
      ∀ p ∈ r.answered, p.2.result ∈ [.success, .error, .requestTimeout] →
        (r.started.map Flight.job).count p.1 = 1 := by
  have hc := conserved_of_reachable h
  refine ⟨hc.nodup_places, hc.places, hc.left, hc.counted, fun p hp hl hs => ?_, fun p hp hr => ?_⟩
  · have hreply := (mem_started_iff_isReply h hp).mp hs
    generalize p.2.result = result at hl hreply
    revert hl hreply
    cases result <;> decide
  · refine List.count_eq_one_of_mem (nodup_started h) ((mem_started_iff_isReply h hp).mpr ?_)
    generalize p.2.result = result at hr
    revert hr
    cases result <;> decide

namespace Example

/-- One call at a time, two jobs in line, and five milliseconds of patience. -/
def narrow : Settings :=
  { maxConcurrent := 1, maxQueued := 2, queueTimeout := 5, offlineThreshold := 1 }

/-- Every way in which a job can end: a reply, no room, discarded, too late, offline. -/
def allEnds : List (Nat × Event) :=
  [(0, .submit (job 0)), (0, .submit (job 1)), (1, .submit (job 2)),
    (2, .submit (job 3)), (3, .abandon 1),
    (4, .complete (job 0) (.success 200 []) false), (4, .submit (job 4)),
    (9, .expire), (9, .submit (job 5)), (10, .complete (job 2) (.failure .timeout) false)]

end Example

/-- Six jobs in the five ways of ending. -/
theorem conservation_all_ends :
    let r := Run.replay Example.narrow Example.allEnds {}
    r.Reachable Example.narrow ∧
      r.answered.map (fun p => (p.1.ticket, p.2.result)) =
        [(3, .queueFull), (0, .success), (4, .queueTimeout), (2, .requestTimeout), (5, .offline)] ∧
      r.discarded = [Example.job 1] ∧
      r.places.Nodup ∧ r.places.Perm r.submitted ∧ (∀ job ∈ r.discarded, job.ticket ∈ r.gone) ∧
      r.queue.totalRequests = r.submitted.length ∧
      (∀ p ∈ r.answered, p.2.result ∈ [.queueFull, .offline, .queueTimeout] →
        p.1 ∉ r.started.map Flight.job) ∧
      ∀ p ∈ r.answered, p.2.result ∈ [.success, .error, .requestTimeout] →
        (r.started.map Flight.job).count p.1 = 1 :=
  have hr := Run.reachable_replay (.start _) (by decide)
  ⟨hr, by decide, by decide, conservation hr⟩

end Queue

end LoginGate
