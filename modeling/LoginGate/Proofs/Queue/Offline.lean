/-
# When a queue is offline

The log of a run tells which calls have failed since the last one that succeeded (`Run.failures`).
A run of failures as long as the threshold takes the queue offline, and so does a single failure of
a probe, whatever came before it.  Nothing but a success brings the queue online again, so whether it
is offline can be read off the failures alone (`offline_iff_failures`).

A probe need not find the queue as it left it.  An older call that succeeds while the probe is in
flight brings the queue online and ends the run of failures; when the probe fails after that, the
queue is offline again after **one** failure (`offline_after_late_probe`).
-/
import LoginGate.Proofs.Queue.Conservation

namespace LoginGate.Queue

variable {settings : Settings} {now : Nat} {q : Queue} {r : Run}

/-! ## 1. Failures -/

/-- The call that an event completes, and how it ended. -/
def Event.ended? : Event → Option (Flight × QueueResult)
  | complete job reply probe => some (⟨job, probe⟩, reply.answer.result)
  | _ => none

/-- The calls that have failed since the last one that succeeded, the latest first. -/
def Run.failures (r : Run) : List Flight :=
  ((r.log.filterMap (·.event.ended?)).reverse.takeWhile (·.2 ≠ .success)).map Prod.fst

theorem Run.failures_after_of_none (settings : Settings) (now : Nat) (r : Run) {event : Event}
    (h : event.ended? = none) : (r.after settings now event).failures = r.failures := by
  simp [failures, after, h]

theorem Run.failures_after_complete (settings : Settings) (now : Nat) (r : Run) (job : Job)
    (reply : Reply) (probe : Bool) :
    (r.after settings now (.complete job reply probe)).failures =
      if reply.answer.result = .success then [] else ⟨job, probe⟩ :: r.failures := by
  have hlog : (r.after settings now (.complete job reply probe)).log.filterMap (·.event.ended?) =
      r.log.filterMap (·.event.ended?) ++ [(⟨job, probe⟩, reply.answer.result)] := by
    simp [after, Event.ended?]
  rw [failures, hlog, List.reverse_concat, List.takeWhile_cons]
  by_cases hs : reply.answer.result = .success
  · simp [hs]
  · simp [hs, failures]

/-! ## 2. What one event does -/

/-- A success brings the queue online and ends the run of failures. -/
theorem landed_success (settings : Settings) (now : Nat) (probe : Bool) (q : Queue) :
    (q.landed settings now .success probe).isOffline = false ∧
      (q.landed settings now .success probe).consecutiveErrors = 0 :=
  ⟨rfl, rfl⟩

theorem noteFailure_consecutiveErrors (settings : Settings) (now : Nat) (probe : Bool) (q : Queue) :
    (q.noteFailure settings now probe).consecutiveErrors = q.consecutiveErrors + 1 := by
  unfold noteFailure
  dsimp only
  split <;> rfl

/-- A failure takes the queue offline if it is that of a probe or ends a run as long as the
threshold; a queue that is offline stays so. -/
theorem noteFailure_isOffline (settings : Settings) (now : Nat) (probe : Bool) (q : Queue) :
    (q.noteFailure settings now probe).isOffline = true ↔
      q.isOffline = true ∨ probe = true ∨
        0 < settings.offlineThreshold ∧ settings.offlineThreshold ≤ q.consecutiveErrors + 1 := by
  have hview : ({ q with consecutiveErrors := q.consecutiveErrors + 1 } : Queue).isOffline =
      q.isOffline := rfl
  unfold noteFailure
  dsimp only
  rw [hview]
  split
  · rename_i h
    simp only [Bool.or_eq_true, Bool.and_eq_true, decide_eq_true_eq] at h
    exact iff_of_true rfl (by tauto)
  · rename_i h
    simp only [Bool.or_eq_true, Bool.and_eq_true, decide_eq_true_eq, Bool.not_eq_true'] at h
    rw [hview]
    cases hq : q.isOffline <;> simp_all

/-- What a failed call leaves of the queue's state. -/
theorem landed_failure {result : QueueResult} (hreply : result.isReply = true)
    (hfailed : result ≠ .success) (settings : Settings) (now : Nat) (probe : Bool) (q : Queue) :
    (q.landed settings now result probe).consecutiveErrors = q.consecutiveErrors + 1 ∧
      ((q.landed settings now result probe).isOffline = true ↔
        q.isOffline = true ∨ probe = true ∨
          0 < settings.offlineThreshold ∧
            settings.offlineThreshold ≤ q.consecutiveErrors + 1) := by
  cases result with
  | success => exact absurd rfl hfailed
  | error | requestTimeout =>
    exact ⟨noteFailure_consecutiveErrors .., noteFailure_isOffline ..⟩
  | queueFull | queueTimeout | offline => cases hreply

/-- What a completion does to the line touches neither the count of failures nor whether the queue is
offline. -/
theorem health_complete (settings : Settings) (now : Nat) (job : Job) (reply : Reply) (probe : Bool)
    (q : Queue) :
    (q.react settings now (.complete job reply probe)).1.isOffline =
        (q.landed settings now reply.answer.result probe).isOffline ∧
      (q.react settings now (.complete job reply probe)).1.consecutiveErrors =
        (q.landed settings now reply.answer.result probe).consecutiveErrors := by
  have hc := complete_completion settings now job reply.answer probe q
  rw [react]
  generalize q.complete settings now job reply.answer probe = out at hc ⊢
  obtain ⟨q', es⟩ := out
  cases hc with
  | flushed | released => exact ⟨rfl, rfl⟩

/-- Nothing but a completion touches either. -/
theorem health_react (settings : Settings) (now : Nat) (q : Queue) {event : Event}
    (h : event.ended? = none) :
    (q.react settings now event).1.isOffline = q.isOffline ∧
      (q.react settings now event).1.consecutiveErrors = q.consecutiveErrors := by
  have hr := react_reaction settings now q event
  generalize q.react settings now event = out at hr ⊢
  obtain ⟨q', es⟩ := out
  cases hr with
  | submit taken => cases taken <;> exact ⟨rfl, rfl⟩
  | complete ended => cases h
  | expire | abandon => exact ⟨rfl, rfl⟩

theorem not_probe_of_mem_starts_settle {ws : List WaitingJob} {f : Flight}
    (h : f ∈ starts (ws.map (settle settings now))) : f.probe = false := by
  obtain ⟨w, -, hw⟩ := List.mem_map.mp (mem_starts.mp h)
  exact (settle_eq_start.mp hw).2.2.2

/-- A probe is started only by a queue that is offline, when it is due and no other one is marked. -/
theorem due_of_probe_mem_starts {event : Event} {f : Flight}
    (h : f ∈ starts (q.react settings now event).2) (hp : f.probe = true) :
    q.probing = false ∧ ∃ instant, q.offlineUntil = some instant ∧ instant ≤ now := by
  have hr := react_reaction settings now q event
  generalize q.react settings now event = out at hr h
  obtain ⟨q', es⟩ := out
  cases hr with
  | submit taken =>
    cases taken with
    | refused | waits | full => simp at h
    | @probe instant offline due idle => exact ⟨idle, instant, offline, due⟩
    | started =>
      rw [starts_start, starts_nil, List.mem_singleton] at h
      rw [h] at hp
      cases hp
  | complete ended =>
    cases ended with
    | flushed offline => simp at h
    | released online line busy room =>
      rw [starts_answer] at h
      rw [not_probe_of_mem_starts_settle h] at hp
      cases hp
  | expire line late young => simp at h
  | abandon => simp at h

/-- A probe is started only while the queue is offline. -/
theorem isOffline_of_probe_mem_starts {event : Event} {f : Flight}
    (h : f ∈ starts (q.react settings now event).2) (hp : f.probe = true) : q.isOffline = true := by
  obtain ⟨-, instant, ho, -⟩ := due_of_probe_mem_starts h hp
  simp [isOffline, ho]

/-! ## 3. Failures and state -/

/-- Failures in a row that take a queue offline. -/
def TakesOffline (settings : Settings) (failures : List Flight) : Prop :=
  (∃ f ∈ failures, f.probe = true) ∨
    0 < settings.offlineThreshold ∧ settings.offlineThreshold ≤ failures.length

theorem not_takesOffline_nil (settings : Settings) : ¬ TakesOffline settings [] := by
  rintro (⟨f, hf, -⟩ | ⟨hpos, hle⟩)
  · exact absurd hf List.not_mem_nil
  · exact absurd hle (Nat.not_le_of_lt hpos)

/-- One more failure takes a queue offline as a probe or as the last one up to the threshold. -/
theorem takesOffline_cons (settings : Settings) (f : Flight) (failures : List Flight) :
    TakesOffline settings (f :: failures) ↔
      TakesOffline settings failures ∨ f.probe = true ∨
        0 < settings.offlineThreshold ∧ settings.offlineThreshold ≤ failures.length + 1 := by
  simp only [TakesOffline, List.mem_cons, exists_eq_or_imp, List.length_cons]
  constructor
  · rintro ((hp | hp) | hrun)
    · exact Or.inr (Or.inl hp)
    · exact Or.inl (Or.inl hp)
    · exact Or.inr (Or.inr hrun)
  · rintro ((hp | ⟨hpos, hle⟩) | hp | hrun)
    · exact Or.inl (Or.inr hp)
    · exact Or.inr ⟨hpos, hle.trans (Nat.le_succ _)⟩
    · exact Or.inl (Or.inl hp)
    · exact Or.inr hrun

/-- How the state of a run's queue goes with the run's failures. -/
structure Tallied (settings : Settings) (r : Run) : Prop where
  counted : r.queue.consecutiveErrors = r.failures.length
  offline : r.queue.isOffline = true ↔ TakesOffline settings r.failures
  /-- Without a threshold there are no probes. -/
  enabled : ∀ f ∈ r.flights ++ r.failures, f.probe = true → 0 < settings.offlineThreshold

theorem tallied_start (settings : Settings) : Tallied settings {} where
  counted := rfl
  offline := iff_of_false (by decide) (not_takesOffline_nil settings)
  enabled _ hf := absurd hf List.not_mem_nil

/-- A queue that is offline has a threshold. -/
theorem Tallied.threshold_pos (h : Tallied settings r) (ho : r.queue.isOffline = true) :
    0 < settings.offlineThreshold := by
  rcases h.offline.mp ho with ⟨f, hf, hp⟩ | ⟨hpos, -⟩
  · exact h.enabled f (List.mem_append_right _ hf) hp
  · exact hpos

/-- The failures after an event were failures or in flight before. -/
theorem mem_failures_after {event : Event} (ha : r.Admits event) {f : Flight}
    (hf : f ∈ (r.after settings now event).failures) : f ∈ r.flights ++ r.failures := by
  cases he : event.ended? with
  | none =>
    rw [Run.failures_after_of_none settings now r he] at hf
    exact List.mem_append_right _ hf
  | some ended =>
    cases event with
    | complete job reply probe =>
      rw [Run.failures_after_complete] at hf
      split at hf
      · exact absurd hf List.not_mem_nil
      · rcases List.mem_cons.mp hf with rfl | hf
        · exact List.mem_append_left _ ha
        · exact List.mem_append_right _ hf
    | submit | expire | abandon => cases he

/-- Where probes are in flight or have failed after an event, there is a threshold. -/
theorem Tallied.enabled_after (h : Tallied settings r) (now : Nat) {event : Event}
    (ha : r.Admits event) :
    ∀ f ∈ (r.after settings now event).flights ++ (r.after settings now event).failures,
      f.probe = true → 0 < settings.offlineThreshold := by
  intro f hf hp
  rw [Run.flights_after, List.append_assoc] at hf
  rcases List.mem_append.mp hf with hf | hf
  · have hflight : f ∈ r.flights := by
      cases event with
      | complete job reply probe => exact List.mem_of_mem_erase hf
      | submit | expire | abandon => exact hf
    exact h.enabled f (List.mem_append_left _ hflight) hp
  · rcases List.mem_append.mp hf with hf | hf
    · exact h.threshold_pos (isOffline_of_probe_mem_starts hf hp)
    · exact h.enabled f (mem_failures_after ha hf) hp

/-- **Every event that can occur keeps the tally.** -/
theorem Tallied.step (h : Tallied settings r) (now : Nat) {event : Event} (ha : r.Admits event) :
    Tallied settings (r.after settings now event) := by
  have henabled := h.enabled_after now ha
  cases he : event.ended? with
  | none =>
    obtain ⟨hoffline, hcount⟩ := health_react settings now r.queue he
    have hfailures := Run.failures_after_of_none settings now r he
    refine ⟨?_, ?_, henabled⟩
    · rw [Run.queue_after, hcount, hfailures, h.counted]
    · rw [Run.queue_after, hoffline, hfailures]
      exact h.offline
  | some ended =>
    cases event with
    | submit | expire | abandon => cases he
    | complete job reply probe =>
      obtain ⟨hoffline, hcount⟩ := health_complete settings now job reply probe r.queue
      have hfailures := Run.failures_after_complete settings now r job reply probe
      by_cases hs : reply.answer.result = .success
      · rw [hs] at hoffline hcount
        rw [if_pos hs] at hfailures
        obtain ⟨honline, hzero⟩ := landed_success settings now probe r.queue
        refine ⟨?_, ?_, henabled⟩
        · rw [Run.queue_after, hcount, hfailures, hzero, List.length_nil]
        · rw [Run.queue_after, hoffline, hfailures, honline]
          exact iff_of_false Bool.false_ne_true (not_takesOffline_nil settings)
      · rw [if_neg hs] at hfailures
        obtain ⟨hsucc, hiff⟩ := landed_failure reply.isReply_answer hs settings now probe r.queue
        refine ⟨?_, ?_, henabled⟩
        · rw [Run.queue_after, hcount, hfailures, hsucc, h.counted, List.length_cons]
        · rw [Run.queue_after, hoffline, hfailures, hiff, h.offline, h.counted, takesOffline_cons]

theorem tallied_of_reachable (h : r.Reachable settings) : Tallied settings r :=
  h.rec_steps (tallied_start settings) fun _ now _ _ _ admitted ih => ih.step now admitted

/-! ## 4. What takes a queue offline -/

/-- **When a queue is offline.**  At every moment of every run the queue counts the calls that have
failed since the last success, and it is offline exactly if there is a threshold and they are as many
as it says or a probe is among them. -/
theorem offline_iff_failures (h : r.Reachable settings) :
    r.queue.consecutiveErrors = r.failures.length ∧
      (r.queue.isOffline = true ↔
        0 < settings.offlineThreshold ∧
          (settings.offlineThreshold ≤ r.failures.length ∨ ∃ f ∈ r.failures, f.probe = true)) := by
  have ht := tallied_of_reachable h
  refine ⟨ht.counted, fun ho => ⟨ht.threshold_pos ho, ?_⟩, ?_⟩
  · rcases ht.offline.mp ho with hp | ⟨-, hle⟩
    · exact Or.inr hp
    · exact Or.inl hle
  · rintro ⟨hpos, hle | hp⟩
    · exact ht.offline.mpr (Or.inr ⟨hpos, hle⟩)
    · exact ht.offline.mpr (Or.inl hp)

namespace Example

/-- Three calls at a time, and offline after two failures in a row. -/
def lenient : Settings := { maxConcurrent := 3, offlineThreshold := 2, offlineRetry := 10 }

/-- Two of three calls fail, and a probe follows; the third call succeeds before the probe fails. -/
def lateProbe : List (Nat × Event) :=
  [(0, .submit (job 0)), (0, .submit (job 1)), (0, .submit (job 2)),
    (0, .complete (job 1) (.failure .timeout) false),
    (0, .complete (job 2) (.failure .timeout) false), (11, .submit (job 3)),
    (50, .complete (job 0) (.success 200 []) false),
    (71, .complete (job 3) (.failure .timeout) true)]

end Example

/-- A late probe takes the queue offline after a single failure. -/
theorem offline_after_late_probe :
    let r := Run.replay Example.lenient Example.lateProbe {}
    r.Reachable Example.lenient ∧ r.queue.isOffline = true ∧
      r.failures = [⟨Example.job 3, true⟩] ∧
      r.queue.consecutiveErrors = r.failures.length ∧
      (r.queue.isOffline = true ↔ 0 < Example.lenient.offlineThreshold ∧
        (Example.lenient.offlineThreshold ≤ r.failures.length ∨
          ∃ f ∈ r.failures, f.probe = true)) :=
  have hr := Run.reachable_replay (.start _) (by decide)
  ⟨hr, by decide, by decide, offline_iff_failures hr⟩

end LoginGate.Queue
