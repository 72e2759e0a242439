/-
# A queue serves in the order of submission

A submission is started whenever there is room, without a look at the line.  That it overtakes nobody
rests on **work conservation**: whoever is in line waits because the queue is online and full
(`IsFull`).  Every event keeps this, since a completion starts jobs from the line until there is no
room again, and a queue that goes offline turns away everybody in line.

So the jobs that were started and, behind them, the line are always in the order of submission
(`Ordered`).  A job in line whose caller goes away is marked, keeps its mark for as long as it is in
line, and is never started (`Forsaken`).  `served_in_order` puts all of this
together.
-/
import LoginGate.Proofs.Queue.Conservation

namespace LoginGate.Queue

open scoped List

variable {settings : Settings} {now : Nat} {q : Queue} {r r' : Run}

/-! ## 1. What is started -/

/-- Settling a front part of the line starts some of its jobs, in their order. -/
theorem starts_settle_sublist (settings : Settings) (now : Nat) (ws : List WaitingJob) :
    ((starts (ws.map (settle settings now))).map Flight.job).Sublist (ws.map WaitingJob.job) := by
  induction ws with
  | nil => exact List.Sublist.refl _
  | cons w ws ih =>
    rw [List.map_cons, List.map_cons, settle]
    split
    · exact ih.cons _
    · split
      · exact ih.cons _
      · exact ih.cons_cons _

/-- Settling starts no job whose caller is marked as gone, and none that has waited too long. -/
theorem fit_of_mem_starts_settle {ws : List WaitingJob} {f : Flight}
    (h : f ∈ starts (ws.map (settle settings now))) :
    ∃ w ∈ ws, w.job = f.job ∧ w.abandoned = false ∧ isOverdue settings now w = false := by
  obtain ⟨w, hmem, hw⟩ := List.mem_map.mp (mem_starts.mp h)
  obtain ⟨ha, hd, hj, -⟩ := settle_eq_start.mp hw
  exact ⟨w, hmem, hj, ha, hd⟩

/-! ## 2. What one event does -/

/-- The queue is online and has no room. -/
def IsFull (settings : Settings) (q : Queue) : Prop :=
  q.isOffline = false ∧ settings.maxConcurrent ≤ q.inFlight

/-- **Work conservation, one event.**  If jobs wait only while the queue is full, then so they do
afterwards. -/
theorem isFull_react (h : q.waiting ≠ [] → q.IsFull settings) (event : Event)
    (hw : (q.react settings now event).1.waiting ≠ []) :
    (q.react settings now event).1.IsFull settings := by
  have hr := react_reaction settings now q event
  generalize q.react settings now event = out at hr hw ⊢
  obtain ⟨q', es⟩ := out
  cases hr with
  | submit taken =>
    cases taken with
    | refused offline closed => exact h hw
    | probe offline due idle => exact absurd (h hw).1 (by simp [isOffline, offline])
    | started online room => exact absurd (h hw).2 (Nat.not_le_of_lt room)
    | waits online busy space => exact ⟨by simp [isOffline, online], busy⟩
    | full online busy crowded => exact h hw
  | complete ended =>
    cases ended with
    | flushed offline => exact absurd rfl hw
    | released online line busy room => exact ⟨online, busy hw⟩
  | expire line late young => exact h (by rw [line]; exact List.append_ne_nil_of_right_ne_nil _ hw)
  | abandon => exact h fun hn => hw (by simp [hn])

/-- **No overtaking, one event.**  While jobs wait only when the queue is full, those that an event
starts and, behind them, the line are in the order of the line, with a submission at its end. -/
theorem inOrder_react (h : q.waiting ≠ [] → q.IsFull settings) (now : Nat) (event : Event) :
    ((starts (q.react settings now event).2).map Flight.job ++
      (q.react settings now event).1.waiting.map WaitingJob.job).Sublist
        (q.waiting.map WaitingJob.job ++ event.submitted?.toList) := by
  have hr := react_reaction settings now q event
  generalize q.react settings now event = out at hr ⊢
  obtain ⟨q', es⟩ := out
  cases hr with
  | submit taken =>
    cases taken with
    | refused | full => exact List.sublist_append_left _ _
    | probe offline due idle =>
      have hnil : q.waiting = [] := by
        by_contra hw
        exact absurd (h hw).1 (by simp [isOffline, offline])
      simp [hnil, Event.submitted?]
    | started online room =>
      have hnil : q.waiting = [] := by
        by_contra hw
        exact absurd (h hw).2 (Nat.not_le_of_lt room)
      simp [hnil, Event.submitted?]
    | waits => simp [Event.submitted?]
  | complete ended =>
    cases ended with
    | flushed offline => simp
    | @released passed rest online line busy room =>
      rw [line, List.map_append, starts_answer]
      exact ((starts_settle_sublist settings now passed).append (List.Sublist.refl _)).trans
        (List.sublist_append_left _ _)
  | expire line late young =>
    rw [line, starts_map_dismiss]
    simp [Event.submitted?]
  | @abandon ticket =>
    calc (q.abandon ticket).waiting.map WaitingJob.job
      _ = q.waiting.map WaitingJob.job := map_waiting_abandon WaitingJob.job (fun _ => rfl) ticket q
      _ <+ q.waiting.map WaitingJob.job ++ [] := List.sublist_append_left _ _

/-- The line after an event is some of the line before it, in its order, with a submission at its
end. -/
theorem line_react (settings : Settings) (now : Nat) (q : Queue) (event : Event) :
    ((q.react settings now event).1.waiting.map WaitingJob.since).Sublist
      (q.waiting.map WaitingJob.since ++ [now]) := by
  have hr := react_reaction settings now q event
  generalize q.react settings now event = out at hr ⊢
  obtain ⟨q', es⟩ := out
  cases hr with
  | submit taken =>
    cases taken with
    | refused | probe | started | full => exact List.sublist_append_left _ _
    | waits => simp
  | complete ended =>
    cases ended with
    | flushed offline => simp
    | released online line busy room =>
      rw [line, List.map_append, List.append_assoc]
      exact (List.sublist_append_left _ _).trans (List.sublist_append_right _ _)
  | expire line late young =>
    rw [line, List.map_append, List.append_assoc]
    exact (List.sublist_append_left _ _).trans (List.sublist_append_right _ _)
  | @abandon ticket =>
    calc (q.abandon ticket).waiting.map WaitingJob.since
      _ = q.waiting.map WaitingJob.since :=
        map_waiting_abandon WaitingJob.since (fun _ => rfl) ticket q
      _ <+ q.waiting.map WaitingJob.since ++ [now] := List.sublist_append_left _ _

/-- An event starts the job that it submits, or jobs in line whose callers are not marked as gone and
that have not waited too long. -/
theorem fit_of_mem_starts_react {event : Event} {f : Flight}
    (h : f ∈ starts (q.react settings now event).2) :
    event.submitted? = some f.job ∨ ∃ w ∈ q.waiting, w.job = f.job ∧ w.abandoned = false ∧
      isOverdue settings now w = false := by
  have hr := react_reaction settings now q event
  generalize q.react settings now event = out at hr h
  obtain ⟨q', es⟩ := out
  cases hr with
  | submit taken =>
    cases taken with
    | refused | waits | full => simp at h
    | probe | started =>
      rw [starts_start, starts_nil, List.mem_singleton] at h
      exact Or.inl (congrArg (some ∘ Flight.job) h).symm
  | complete ended =>
    cases ended with
    | flushed offline => simp at h
    | released online line busy room =>
      obtain ⟨w, hw, hm⟩ := fit_of_mem_starts_settle h
      exact Or.inr ⟨w, line ▸ List.mem_append_left _ hw, hm⟩
  | expire line late young => simp at h
  | abandon => simp at h

/-- Whoever is in line after an event was so before, since the same instant and with its mark if it
had one, or is the job that was submitted. -/
theorem origin_of_mem_waiting_react {event : Event} {w : WaitingJob}
    (h : w ∈ (q.react settings now event).1.waiting) :
    (event.submitted? = some w.job ∧ w.since = now) ∨
      ∃ v ∈ q.waiting, v.job = w.job ∧ v.since = w.since ∧
        (v.abandoned = true → w.abandoned = true) := by
  have hr := react_reaction settings now q event
  generalize q.react settings now event = out at hr h
  obtain ⟨q', es⟩ := out
  cases hr with
  | submit taken =>
    cases taken with
    | refused | probe | started | full => exact Or.inr ⟨w, h, rfl, rfl, id⟩
    | waits =>
      rcases List.mem_append.mp h with h | h
      · exact Or.inr ⟨w, h, rfl, rfl, id⟩
      · rw [List.mem_singleton.mp h]
        exact Or.inl ⟨rfl, rfl⟩
  | complete ended =>
    cases ended with
    | flushed offline => exact absurd h List.not_mem_nil
    | released online line busy room =>
      exact Or.inr ⟨w, line ▸ List.mem_append_right _ h, rfl, rfl, id⟩
  | expire line late young => exact Or.inr ⟨w, line ▸ List.mem_append_right _ h, rfl, rfl, id⟩
  | abandon =>
    obtain ⟨v, hv, rfl⟩ := List.mem_map.mp h
    refine Or.inr ⟨v, hv, ?_⟩
    split
    · exact ⟨rfl, rfl, fun _ => rfl⟩
    · exact ⟨rfl, rfl, id⟩

/-! ## 3. Order -/

/-- What keeps the jobs of a run in order. -/
structure Ordered (settings : Settings) (r : Run) : Prop where
  /-- Nobody waits while there is room. -/
  busy : r.queue.waiting ≠ [] → r.queue.IsFull settings
  /-- Whoever has waited longest stands first. -/
  sorted : (r.queue.waiting.map WaitingJob.since).Pairwise (· ≤ ·)
  past : ∀ instant ∈ r.queue.waiting.map WaitingJob.since, instant ≤ r.now
  /-- The jobs that were started and, behind them, the line are in the order of submission. -/
  inOrder : (r.started.map Flight.job ++ r.queue.waiting.map WaitingJob.job).Sublist r.submitted

theorem ordered_start (settings : Settings) : Ordered settings {} where
  busy hw := absurd rfl hw
  sorted := List.Pairwise.nil
  past _ hi := absurd hi List.not_mem_nil
  inOrder := List.Sublist.refl _

/-- **Every event keeps the order.** -/
theorem Ordered.step (h : Ordered settings r) (later : r.now ≤ now) (event : Event) :
    Ordered settings (r.after settings now event) where
  busy := isFull_react h.busy event
  sorted := by
    refine List.Pairwise.sublist (line_react settings now r.queue event) ?_
    rw [List.pairwise_append]
    refine ⟨h.sorted, List.pairwise_singleton _ _, fun a ha b hb => ?_⟩
    rw [List.mem_singleton.mp hb]
    exact (h.past a ha).trans later
  past := by
    intro instant hi
    rcases List.mem_append.mp ((line_react settings now r.queue event).subset hi) with hi | hi
    · exact (h.past instant hi).trans later
    · exact (List.mem_singleton.mp hi).le
  inOrder := by
    rw [Run.started_after, Run.submitted_after, List.map_append, List.append_assoc]
    refine (List.Sublist.append_left (inOrder_react h.busy now event) _).trans ?_
    rw [← List.append_assoc]
    exact h.inOrder.append (List.Sublist.refl _)

theorem ordered_of_reachable (h : r.Reachable settings) : Ordered settings r :=
  h.rec_steps (ordered_start settings) fun _ _ event _ later _ ih => ih.step later event

/-- The jobs that were started are in the order of submission. -/
theorem started_sublist (h : r.Reachable settings) :
    (r.started.map Flight.job).Sublist r.submitted :=
  (List.sublist_append_left _ _).trans (ordered_of_reachable h).inOrder

/-- What stands in order in a list of distinct elements does so in every part of it. -/
theorem pair_sublist_of_sublist {α : Type} {a b : α} {l m : List α} (h : l.Sublist m)
    (hm : m.Nodup) (ha : a ∈ l) (hb : b ∈ l) (hab : [a, b].Sublist m) : [a, b].Sublist l := by
  induction h with
  | slnil => exact absurd ha List.not_mem_nil
  | cons x h ih =>
    have hx := (List.nodup_cons.mp hm).1
    rcases List.sublist_cons_iff.mp hab with hab | ⟨_, heq, -⟩
    · exact ih (List.nodup_cons.mp hm).2 ha hb hab
    · cases heq
      exact absurd (h.subset ha) hx
  | @cons_cons l m x h ih =>
    obtain ⟨hx, hm⟩ := List.nodup_cons.mp hm
    have tail : ∀ {y}, y ∈ m → y ∈ x :: l → y ∈ l := fun hy hl =>
      (List.mem_cons.mp hl).resolve_left fun he => hx (he ▸ hy)
    rcases List.sublist_cons_iff.mp hab with hab | ⟨_, heq, hb'⟩
    · have hsub := hab.subset
      exact (ih hm (tail (hsub (by simp)) ha) (tail (hsub (by simp)) hb) hab).cons _
    · cases heq
      exact (List.singleton_sublist.mpr (tail (List.singleton_sublist.mp hb') hb)).cons_cons _

/-! ## 4. Jobs whose callers have gone away -/

/-- The caller of a job went away before the job was started. -/
structure Forsaken (job : Job) (r : Run) : Prop where
  submitted : job ∈ r.submitted
  unstarted : job ∉ r.started.map Flight.job
  marked : ∀ w ∈ r.queue.waiting, w.job = job → w.abandoned = true

/-- A job in line was not started. -/
theorem unstarted_of_mem_waiting (h : r.Reachable settings) {w : WaitingJob}
    (hw : w ∈ r.queue.waiting) : w.job ∉ r.started.map Flight.job := by
  have hnodup := (conserved_of_reachable h).distinct.of_map.sublist (ordered_of_reachable h).inOrder
  exact fun hs => (List.nodup_append.mp hnodup).2.2 _ hs _ (List.mem_map_of_mem hw) rfl

/-- A job whose caller goes away while it is in line is forsaken. -/
theorem forsaken_of_mem_waiting (h : r.Reachable settings) {w : WaitingJob}
    (hw : w ∈ r.queue.waiting) (now : Nat) :
    Forsaken w.job (r.after settings now (.abandon w.job.ticket)) where
  submitted := by
    rw [Run.submitted_after]
    exact List.mem_append_left _ ((ordered_of_reachable h).inOrder.subset
      (List.mem_append_right _ (List.mem_map_of_mem hw)))
  unstarted := by
    rw [Run.started_after]
    simpa [react] using unstarted_of_mem_waiting h hw
  marked := by
    intro v hv hj
    simp only [Run.queue_after, react, Queue.abandon, List.mem_map] at hv
    obtain ⟨u, -, rfl⟩ := hv
    split
    · rfl
    · rename_i ht
      rw [if_neg ht] at hj
      exact absurd (congrArg Job.ticket hj) ht

/-- **A forsaken job stays so.** -/
theorem Forsaken.step {job : Job} (h : Forsaken job r) {event : Event} (ha : r.Admits event) :
    Forsaken job (r.after settings now event) := by
  have hnew : event.submitted? ≠ some job := by
    cases event with
    | submit other =>
      rintro heq
      cases heq
      exact ha (List.mem_map_of_mem h.submitted)
    | complete | expire | abandon => simp [Event.submitted?]
  refine ⟨?_, ?_, ?_⟩
  · rw [Run.submitted_after]
    exact List.mem_append_left _ h.submitted
  · rw [Run.started_after, List.map_append, List.mem_append, not_or]
    refine ⟨h.unstarted, fun hs => ?_⟩
    obtain ⟨f, hf, rfl⟩ := List.mem_map.mp hs
    rcases fit_of_mem_starts_react hf with hsub | ⟨w, hw, hj, hu, -⟩
    · exact hnew hsub
    · rw [h.marked w hw hj] at hu
      cases hu
  · intro w hw hj
    rcases origin_of_mem_waiting_react hw with ⟨hsub, -⟩ | ⟨v, hv, hvj, -, hkept⟩
    · exact absurd (hj ▸ hsub) hnew
    · exact hkept (h.marked v hv (hvj.trans hj))

theorem Forsaken.leads {job : Job} (h : Forsaken job r) (hl : Run.Leads settings r r') :
    Forsaken job r' := by
  induction hl with
  | refl => exact h
  | tail _ hs ih =>
    cases hs with
    | event later admitted => exact ih.step admitted

/-! ## 5. The order of a run -/

/-- **A queue serves in the order of submission.**  At every moment of every run: if jobs wait, the
queue is online and full; whoever has waited longest stands first; of two jobs that were both
started, by submission, from the line or as probes, the one submitted first was started first; and a
job whose caller goes away while it is in line is never started. -/
theorem served_in_order (h : r.Reachable settings) :
    (r.queue.waiting ≠ [] →
        r.queue.isOffline = false ∧ settings.maxConcurrent ≤ r.queue.inFlight) ∧
      r.queue.waiting.Pairwise (fun v w => v.since ≤ w.since) ∧
      (∀ a ∈ r.started.map Flight.job, ∀ b ∈ r.started.map Flight.job,
        [a, b].Sublist r.submitted → [a, b].Sublist (r.started.map Flight.job)) ∧
      ∀ w ∈ r.queue.waiting, ∀ now r',
        Run.Leads settings (r.after settings now (.abandon w.job.ticket)) r' →
          w.job ∉ r'.started.map Flight.job := by
  have ho := ordered_of_reachable h
  refine ⟨ho.busy, List.pairwise_map.mp ho.sorted, fun a ha b hb hab => ?_,
    fun w hw now r' hl => ((forsaken_of_mem_waiting h hw now).leads hl).unstarted⟩
  exact pair_sublist_of_sublist (started_sublist h) (conserved_of_reachable h).distinct.of_map ha hb
    hab

namespace Example

/-- One call at a time, and offline after a single failure. -/
def single : Settings := { maxConcurrent := 1, offlineThreshold := 1, offlineRetry := 10 }

/-- Behind a call in flight two jobs wait. -/
def twoInLine : Run :=
  Run.replay single [(0, .submit (job 0)), (0, .submit (job 1)), (1, .submit (job 2))] {}

/-- The first of the two loses its caller, the other one is started and fails, and a probe
follows. -/
def firstGone : Run :=
  Run.replay single
    [(3, .complete (job 0) (.success 200 []) false), (4, .complete (job 2) (.failure .timeout) false),
      (14, .submit (job 3))] (twoInLine.after single 2 (.abandon 1))

end Example

/-- Started at once, from the line and as a probe, past a job whose caller has gone away. -/
theorem served_in_order_first_gone :
    Example.twoInLine.Reachable Example.single ∧ Example.firstGone.Reachable Example.single ∧
      Example.twoInLine.queue.waiting.map (·.job.ticket) = [1, 2] ∧
      Example.firstGone.started =
        [⟨Example.job 0, false⟩, ⟨Example.job 2, false⟩, ⟨Example.job 3, true⟩] ∧
      (Example.twoInLine.queue.isOffline = false ∧
        Example.single.maxConcurrent ≤ Example.twoInLine.queue.inFlight) ∧
      [Example.job 0, Example.job 3].Sublist (Example.firstGone.started.map Flight.job) ∧
      Example.job 1 ∉ Example.firstGone.started.map Flight.job := by
  have hr : Example.twoInLine.Reachable Example.single :=
    Run.reachable_replay (.start _) (by decide)
  have hgone : Run.Leads Example.single (Example.twoInLine.after Example.single 2 (.abandon 1))
      Example.firstGone := Run.leads_replay (by decide)
  have hr' : Example.firstGone.Reachable Example.single :=
    (hr.after (by decide) (by decide)).trans hgone
  refine ⟨hr, hr', by decide, by decide, (served_in_order hr).1 (by decide),
    (served_in_order hr').2.2.1 _ (by decide) _ (by decide) (by decide), ?_⟩
  exact (served_in_order hr).2.2.2 { job := Example.job 1, since := 0 } (by decide) 2 _ hgone

end LoginGate.Queue
