/-
# Nobody waits longer than the timeout

There is one timer for the whole line, and it is set for the first job in it.  Here runs are
followed in time: events occur at the present instant, in any order, and **time passes only up to
the instant of the timer** (`Run.Tick`).  So a timer that is due goes off before time moves on,
while a completion at the same instant may come before it or after it.

That one timer does for everybody rests on the order of the line: whoever stands first has waited
longest, so nobody behind has waited too long before the first has.  `InTime` is the invariant:
nobody is in line beyond the timeout, whoever was answered for waiting too long was answered when
the timeout was over to the very instant, and nobody was started from the line as late as that.

A job that is still in line when its timeout is over leaves the line before time moves on, in one of
three ways (`Run.Over`), none of which starts it (`waits_exactly`).
-/
import Mathlib.Data.List.Pairwise
import LoginGate.Proofs.Queue.Order

namespace LoginGate.Queue

variable {settings : Settings} {now : Nat} {q : Queue} {r r' : Run}

/-! ## 1. Time -/

namespace Run

/-- An event occurs at the present instant, or time moves on, but not beyond the instant at which
the first job in line will have waited too long. -/
inductive Tick (settings : Settings) (r : Run) : Run → Prop
  | event {event : Event} (admitted : r.Admits event) :
    Tick settings r (r.after settings r.now event)
  | pass {now : Nat} (later : r.now < now)
      (idle : ∀ instant ∈ r.queue.deadline? settings, now ≤ instant) :
    Tick settings r { r with now }

/-- Events and passing time lead from one run to another. -/
abbrev Ticks (settings : Settings) : Run → Run → Prop := Relation.ReflTransGen (Tick settings)

/-- Events and passing time lead to the run from the empty queue. -/
def Punctual (settings : Settings) (r : Run) : Prop := Ticks settings {} r

theorem Punctual.ticks (h : r.Punctual settings) (ht : Ticks settings r r') :
    r'.Punctual settings :=
  Relation.ReflTransGen.trans h ht

/-- What happens in time can happen: the last event was at the present instant or before it. -/
theorem Punctual.reachable (h : r.Punctual settings) :
    ∃ last ≤ r.now, Reachable settings { r with now := last } := by
  induction h with
  | refl => exact ⟨0, Nat.le_refl _, .start settings⟩
  | @tail r _ _ ht ih =>
    obtain ⟨last, hlast, hr⟩ := ih
    cases ht with
    | event admitted => exact ⟨r.now, Nat.le_refl _, hr.after hlast admitted⟩
    | pass later idle => exact ⟨last, hlast.trans later.le, hr⟩

theorem log_prefix_of_ticks (h : Ticks settings r r') : r.log <+: r'.log := by
  induction h with
  | refl => exact List.prefix_refl _
  | tail _ ht ih =>
    cases ht with
    | event admitted => exact ih.trans (List.prefix_append _ _)
    | pass later idle => exact ih

/-! ## 2. What is on record -/

/-- The job was submitted at the instant. -/
def SubmittedAt (r : Run) (job : Job) (instant : Nat) : Prop :=
  ∃ e ∈ r.log, e.instant = instant ∧ e.event = .submit job

/-- The caller of the job got the answer at the instant; an answer tells how long after the
submission it came. -/
def DeliveredAt (r : Run) (job : Job) (answer : Answer) (instant : Nat) : Prop :=
  ∃ e ∈ r.log, e.instant = instant ∧ ∃ a submission, (job, a) ∈ answers e.effects ∧
    r.SubmittedAt job submission ∧ answer = { a with elapsed := instant - submission }

/-- A completion at the instant turned the job away with everybody else in line. -/
def FlushedAt (r : Run) (job : Job) (instant : Nat) : Prop :=
  ∃ e ∈ r.log, e.instant = instant ∧ e.event.completed?.isSome = true ∧
    (job, offlineAnswer) ∈ answers e.effects ∧ starts e.effects = []

/-- The job left the line at the instant, and its caller was gone. -/
def DiscardedAt (r : Run) (job : Job) (instant : Nat) : Prop :=
  job.ticket ∈ r.gone ∧ ∃ e ∈ r.log, e.instant = instant ∧ job ∈ discards e.effects

theorem SubmittedAt.mono {job : Job} {instant : Nat} (h : r.SubmittedAt job instant)
    (hlog : r.log <+: r'.log) : r'.SubmittedAt job instant := by
  obtain ⟨e, he, h⟩ := h
  exact ⟨e, hlog.subset he, h⟩

theorem DeliveredAt.mono {job : Job} {answer : Answer} {instant : Nat}
    (h : r.DeliveredAt job answer instant) (hlog : r.log <+: r'.log) :
    r'.DeliveredAt job answer instant := by
  obtain ⟨e, he, hi, a, submission, ha, hs, h⟩ := h
  exact ⟨e, hlog.subset he, hi, a, submission, ha, hs.mono hlog, h⟩

theorem FlushedAt.mono {job : Job} {instant : Nat} (h : r.FlushedAt job instant)
    (hlog : r.log <+: r'.log) : r'.FlushedAt job instant := by
  obtain ⟨e, he, h⟩ := h
  exact ⟨e, hlog.subset he, h⟩

theorem DiscardedAt.mono {job : Job} {instant : Nat} (h : r.DiscardedAt job instant)
    (hlog : r.log <+: r'.log) : r'.DiscardedAt job instant := by
  obtain ⟨hg, e, he, h⟩ := h
  exact ⟨(hlog.filterMap _).subset hg, e, hlog.subset he, h⟩

/-- No job is submitted at two instants. -/
theorem SubmittedAt.unique (hd : (r.submitted.map Job.ticket).Nodup) {job : Job} {s t : Nat}
    (hs : r.SubmittedAt job s) (ht : r.SubmittedAt job t) : s = t := by
  obtain ⟨d, hd', rfl, hds⟩ := hs
  obtain ⟨e, he', rfl, hes⟩ := ht
  have hpair : r.log.Pairwise fun d e =>
      ∀ a, d.event.submitted? = some a → ∀ b, e.event.submitted? = some b → a ≠ b :=
    List.pairwise_filterMap.mp hd.of_map
  have : Std.Symm fun d e : Entry =>
      ∀ a, d.event.submitted? = some a → ∀ b, e.event.submitted? = some b → a ≠ b :=
    ⟨fun d e h a ha b hb => (h b hb a ha).symm⟩
  by_contra hne
  refine hpair.forall hd' he' (fun h => hne (congrArg Entry.instant h)) job ?_ job ?_ rfl
  · rw [hds, Event.submitted?]
  · rw [hes, Event.submitted?]

/-- What became of a job when its timeout was over: its caller got the answer of the timeout at that
very instant, or a completion at that instant turned the job away, or its caller was gone. -/
def Over (settings : Settings) (job : Job) (submission : Nat) (r : Run) : Prop :=
  r.DeliveredAt job { timeoutAnswer with elapsed := settings.queueTimeout }
      (submission + settings.queueTimeout) ∨
    r.FlushedAt job (submission + settings.queueTimeout) ∨
    r.DiscardedAt job (submission + settings.queueTimeout)

theorem Over.mono {job : Job} {submission : Nat} (h : r.Over settings job submission)
    (hlog : r.log <+: r'.log) : r'.Over settings job submission :=
  h.imp (·.mono hlog) (Or.imp (·.mono hlog) (·.mono hlog))

end Run

/-! ## 3. What one event does -/

/-- Whoever is answered for waiting too long has waited too long in line. -/
theorem overdue_of_timeout_react {event : Event} {p : Job × Answer}
    (h : p ∈ answers (q.react settings now event).2) (ht : p.2.result = .queueTimeout) :
    p.2 = timeoutAnswer ∧ ∃ w ∈ q.waiting, w.job = p.1 ∧ isOverdue settings now w = true := by
  have hr := react_reaction settings now q event
  generalize q.react settings now event = out at hr h
  obtain ⟨q', es⟩ := out
  cases hr with
  | submit taken =>
    cases taken with
    | refused | full =>
      rw [answers_answer, answers_nil, List.mem_singleton] at h
      rw [h] at ht
      cases ht
    | probe | started | waits => simp at h
  | @complete job reply probe _ _ ended =>
    have hreply : p ≠ (job, reply.answer) := by
      rintro rfl
      have := reply.isReply_answer
      rw [ht] at this
      cases this
    cases ended with
    | flushed offline =>
      rw [answers_answer, List.mem_cons] at h
      rw [answers_dismiss (h.resolve_left hreply)] at ht
      cases ht
    | released online line busy room =>
      rw [answers_answer, List.mem_cons] at h
      obtain ⟨w, hw, he⟩ := List.mem_map.mp (mem_answers.mp (h.resolve_left hreply))
      obtain ⟨-, hd, hj, ha⟩ := settle_eq_answer.mp he
      exact ⟨ha, w, line ▸ List.mem_append_left _ hw, hj, hd⟩
  | expire line late young =>
    obtain ⟨w, hw, he⟩ := List.mem_map.mp (mem_answers.mp h)
    obtain ⟨-, hj, ha⟩ := dismiss_eq_answer.mp he
    exact ⟨ha, w, line ▸ List.mem_append_left _ hw, hj, late w hw⟩
  | abandon => simp at h

/-- Whoever is dismissed is answered or discarded. -/
theorem answered_or_discarded_of_dismiss {w : WaitingJob} {ws : List WaitingJob} (hw : w ∈ ws)
    (a : Answer) :
    (w.job, a) ∈ answers (ws.map (dismiss · a)) ∨ w.job ∈ discards (ws.map (dismiss · a)) := by
  have hmem := List.mem_map_of_mem (f := (dismiss · a)) hw
  cases ha : w.abandoned with
  | false =>
    rw [dismiss_eq_answer.mpr ⟨ha, rfl, rfl⟩] at hmem
    exact Or.inl (mem_answers.mpr hmem)
  | true =>
    rw [dismiss_eq_discard.mpr ⟨ha, rfl⟩] at hmem
    exact Or.inr (mem_discards.mpr hmem)

/-- Whoever has waited too long and is settled is answered for that or discarded. -/
theorem answered_or_discarded_of_settle {w : WaitingJob} {ws : List WaitingJob} (hw : w ∈ ws)
    (hd : isOverdue settings now w = true) :
    (w.job, timeoutAnswer) ∈ answers (ws.map (settle settings now)) ∨
      w.job ∈ discards (ws.map (settle settings now)) := by
  have hmem := List.mem_map_of_mem (f := settle settings now) hw
  cases ha : w.abandoned with
  | false =>
    rw [settle_eq_answer.mpr ⟨ha, hd, rfl, rfl⟩] at hmem
    exact Or.inl (mem_answers.mpr hmem)
  | true =>
    rw [settle_eq_discard.mpr ⟨ha, rfl⟩] at hmem
    exact Or.inr (mem_discards.mpr hmem)

/-- **A job that has waited too long stays in line or leaves it without being started**: it is
answered for that, turned away with everybody else, or discarded. -/
theorem leave_of_overdue {w : WaitingJob} (hw : w ∈ q.waiting)
    (hd : isOverdue settings now w = true) (event : Event) :
    (∃ v ∈ (q.react settings now event).1.waiting, v.job = w.job ∧ v.since = w.since) ∨
      (w.job, timeoutAnswer) ∈ answers (q.react settings now event).2 ∨
      (event.completed?.isSome = true ∧
        (w.job, offlineAnswer) ∈ answers (q.react settings now event).2 ∧
        starts (q.react settings now event).2 = []) ∨
      w.job ∈ discards (q.react settings now event).2 := by
  have hr := react_reaction settings now q event
  generalize q.react settings now event = out at hr ⊢
  obtain ⟨q', es⟩ := out
  cases hr with
  | submit taken =>
    refine Or.inl ⟨w, ?_, rfl, rfl⟩
    cases taken with
    | refused | probe | started | full => exact hw
    | waits => exact List.mem_append_left _ hw
  | complete ended =>
    cases ended with
    | flushed offline =>
      rcases answered_or_discarded_of_dismiss hw offlineAnswer with h | h
      · exact Or.inr (Or.inr (Or.inl ⟨rfl, List.mem_cons_of_mem _ h, starts_map_dismiss _ _⟩))
      · exact Or.inr (Or.inr (Or.inr h))
    | released online line busy room =>
      rcases List.mem_append.mp (line ▸ hw) with hw | hw
      · rcases answered_or_discarded_of_settle hw hd with h | h
        · exact Or.inr (Or.inl (List.mem_cons_of_mem _ h))
        · exact Or.inr (Or.inr (Or.inr h))
      · exact Or.inl ⟨w, hw, rfl, rfl⟩
  | expire line late young =>
    rcases List.mem_append.mp (line ▸ hw) with hw | hw
    · rcases answered_or_discarded_of_dismiss hw timeoutAnswer with h | h
      · exact Or.inr (Or.inl h)
      · exact Or.inr (Or.inr (Or.inr h))
    · exact Or.inl ⟨w, hw, rfl, rfl⟩
  | abandon =>
    refine Or.inl ⟨_, List.mem_map_of_mem hw, ?_⟩
    split <;> exact ⟨rfl, rfl⟩

/-- Expiry leaves nobody in a sorted line who has waited too long. -/
theorem young_of_mem_expire (hsorted : (q.waiting.map WaitingJob.since).Pairwise (· ≤ ·))
    {v : WaitingJob} (hv : v ∈ (q.react settings now .expire).1.waiting) :
    now < v.since + settings.queueTimeout := by
  obtain ⟨passed, rest, line, he, -, young⟩ := expire_eq settings now q
  rw [react, he] at hv
  rw [line, List.map_append, List.pairwise_append] at hsorted
  exact isOverdue_eq_false_iff.mp (young_of_sorted hsorted.2.1 young v hv)

/-! ## 4. The timer -/

/-- What the one timer achieves for the whole line. -/
structure InTime (settings : Settings) (r : Run) : Prop where
  submitted : ∀ w ∈ r.queue.waiting, r.SubmittedAt w.job w.since
  /-- Nobody is in line beyond the timeout. -/
  early : ∀ w ∈ r.queue.waiting, r.now ≤ w.since + settings.queueTimeout
  /-- Whoever was answered for waiting too long was so when the timeout was over. -/
  exact : ∀ e ∈ r.log, ∀ p ∈ answers e.effects, p.2.result = .queueTimeout →
    ∃ submission, r.SubmittedAt p.1 submission ∧ e.instant = submission + settings.queueTimeout
  /-- Whoever was started from the line was so before. -/
  young : ∀ e ∈ r.log, ∀ f ∈ starts e.effects, e.event = .submit f.job ∨
    ∃ submission, r.SubmittedAt f.job submission ∧ e.instant < submission + settings.queueTimeout

theorem inTime_start (settings : Settings) : InTime settings {} where
  submitted _ hw := absurd hw List.not_mem_nil
  early _ hw := absurd hw List.not_mem_nil
  exact _ he := absurd he List.not_mem_nil
  young _ he := absurd he List.not_mem_nil

/-- **Every event at the present instant keeps the line in time.** -/
theorem InTime.event (h : InTime settings r) (event : Event) :
    InTime settings (r.after settings r.now event) := by
  have hlog : r.log <+: (r.after settings r.now event).log := List.prefix_append _ _
  have hlast : ⟨r.now, event, (r.queue.react settings r.now event).2⟩ ∈
      (r.after settings r.now event).log := Run.mem_log_after.mpr (Or.inr rfl)
  refine ⟨?_, ?_, ?_, ?_⟩
  · intro w hw
    rcases origin_of_mem_waiting_react hw with ⟨hsub, hsince⟩ | ⟨v, hv, hj, hs, -⟩
    · exact ⟨_, hlast, hsince.symm, eq_submit_of_submitted? hsub⟩
    · exact hj ▸ hs ▸ (h.submitted v hv).mono hlog
  · intro w hw
    rcases origin_of_mem_waiting_react hw with ⟨-, hsince⟩ | ⟨v, hv, -, hs, -⟩
    · rw [hsince, Run.now_after]
      exact Nat.le_add_right _ _
    · exact hs ▸ h.early v hv
  · intro e he p hp ht
    rcases Run.mem_log_after.mp he with he | rfl
    · obtain ⟨submission, hsub, hi⟩ := h.exact e he p hp ht
      exact ⟨submission, hsub.mono hlog, hi⟩
    · obtain ⟨-, w, hw, hj, hd⟩ := overdue_of_timeout_react hp ht
      have hle := isOverdue_iff.mp hd
      exact ⟨w.since, hj ▸ (h.submitted w hw).mono hlog, Nat.le_antisymm (h.early w hw) hle⟩
  · intro e he f hf
    rcases Run.mem_log_after.mp he with he | rfl
    · rcases h.young e he f hf with hsub | ⟨submission, hsub, hi⟩
      · exact Or.inl hsub
      · exact Or.inr ⟨submission, hsub.mono hlog, hi⟩
    · rcases fit_of_mem_starts_react hf with hsub | ⟨w, hw, hj, -, hd⟩
      · exact Or.inl (eq_submit_of_submitted? hsub)
      · have hlt := isOverdue_eq_false_iff.mp hd
        exact Or.inr ⟨w.since, hj ▸ (h.submitted w hw).mono hlog, hlt⟩

/-- **Passing time keeps the line in time**: it stops for the first job, and the others came
later. -/
theorem InTime.pass (h : InTime settings r)
    (hsorted : (r.queue.waiting.map WaitingJob.since).Pairwise (· ≤ ·)) {now : Nat}
    (idle : ∀ instant ∈ r.queue.deadline? settings, now ≤ instant) :
    InTime settings { r with now } := by
  refine ⟨h.submitted, ?_, h.exact, h.young⟩
  intro w hw
  have hw : w ∈ r.queue.waiting := hw
  cases hline : r.queue.waiting with
  | nil =>
    rw [hline] at hw
    exact absurd hw List.not_mem_nil
  | cons first others =>
    have hfirst : now ≤ first.since + settings.queueTimeout :=
      idle _ (by simp [deadline?, hline])
    rw [hline, List.map_cons, List.pairwise_cons] at hsorted
    rcases List.mem_cons.mp (hline ▸ hw) with rfl | hw
    · exact hfirst
    · have hle := hsorted.1 w.since (List.mem_map_of_mem hw)
      show now ≤ w.since + settings.queueTimeout
      omega

theorem sorted_of_punctual (h : r.Punctual settings) :
    (r.queue.waiting.map WaitingJob.since).Pairwise (· ≤ ·) := by
  obtain ⟨last, -, hr⟩ := h.reachable
  exact (ordered_of_reachable hr).sorted

theorem inTime_of_punctual (h : r.Punctual settings) : InTime settings r := by
  induction h with
  | refl => exact inTime_start settings
  | tail hr ht ih =>
    cases ht with
    | event admitted => exact ih.event _
    | pass later idle => exact ih.pass (sorted_of_punctual hr) idle

/-! ## 5. The timeout -/

theorem conserved_of_punctual (h : r.Punctual settings) : Conserved r := by
  obtain ⟨last, -, hr⟩ := h.reachable
  have hc := conserved_of_reachable hr
  exact ⟨hc.distinct, hc.places, hc.replied, hc.marked, hc.left, hc.counted⟩

/-- An event at the instant when a timeout is over leaves the job in line, or the job is over. -/
theorem over_of_event (h : r.Punctual settings) {w : WaitingJob} (hw : w ∈ r.queue.waiting)
    (hdue : r.now = w.since + settings.queueTimeout) {event : Event} (admitted : r.Admits event) :
    (∃ v ∈ (r.after settings r.now event).queue.waiting, v.job = w.job ∧ v.since = w.since) ∨
      (r.after settings r.now event).Over settings w.job w.since := by
  have hnext : (r.after settings r.now event).Punctual settings :=
    h.ticks (.single (.event admitted))
  have hlast : ⟨r.now, event, (r.queue.react settings r.now event).2⟩ ∈
      (r.after settings r.now event).log := Run.mem_log_after.mpr (Or.inr rfl)
  rcases leave_of_overdue hw (isOverdue_iff.mpr hdue.ge) event with hv | ha | hflushed | hdiscarded
  · exact Or.inl hv
  · refine Or.inr (Or.inl ⟨_, hlast, hdue, timeoutAnswer, w.since, ha, ?_, ?_⟩)
    · exact ((inTime_of_punctual h).submitted w hw).mono (List.prefix_append _ _)
    · rw [Nat.add_sub_cancel_left]
  · exact Or.inr (Or.inr (Or.inl ⟨_, hlast, hdue, hflushed⟩))
  · have hgone := (conserved_of_punctual hnext).left w.job (Run.mem_discarded hlast hdiscarded)
    exact Or.inr (Or.inr (Or.inr ⟨hgone, _, hlast, hdue, hdiscarded⟩))

/-- **A job whose timeout is over stays in line for that instant only.** -/
theorem awaits_or_over (h : r.Punctual settings) {w : WaitingJob} (hw : w ∈ r.queue.waiting)
    (hdue : r.now = w.since + settings.queueTimeout) (ht : Run.Ticks settings r r') :
    (r'.now = r.now ∧ ∃ v ∈ r'.queue.waiting, v.job = w.job ∧ v.since = w.since) ∨
      r'.Over settings w.job w.since := by
  induction ht with
  | refl => exact Or.inl ⟨rfl, w, hw, rfl, rfl⟩
  | @tail mid _ hmid step ih =>
    have hpunctual : mid.Punctual settings := h.ticks hmid
    rcases ih with ⟨hnow, v, hv, hj, hs⟩ | hover
    · have hdue' : mid.now = v.since + settings.queueTimeout := by rw [hnow, hdue, hs]
      cases step with
      | event admitted =>
        rw [← hj, ← hs]
        exact (over_of_event hpunctual hv hdue' admitted).imp (fun hv => ⟨hnow, hv⟩) id
      | @pass now later idle =>
        -- The timer of the first job would have gone off before time moved on.
        have htime := (inTime_of_punctual hpunctual).pass (sorted_of_punctual hpunctual) idle
        have hle : now ≤ v.since + settings.queueTimeout := htime.early v hv
        omega
    · exact Or.inr (hover.mono (Run.log_prefix_of_ticks (.single step)))

/-- A job that is over was not started. -/
theorem unstarted_of_over (h : r.Punctual settings) {job : Job} {submission : Nat}
    (ho : r.Over settings job submission) : job ∉ r.started.map Flight.job := by
  obtain ⟨last, -, hr⟩ := h.reachable
  rcases ho with ⟨e, he, -, a, s, ha, -, heq⟩ | ⟨e, he, -, -, ha, -⟩ | ⟨-, e, he, -, hd⟩
  · have hresult : a.result = .queueTimeout := (congrArg Answer.result heq).symm
    intro hs
    have hreply := (mem_started_iff_isReply hr (Run.mem_answered he ha)).mp hs
    rw [hresult] at hreply
    cases hreply
  · intro hs
    have hreply := (mem_started_iff_isReply hr (Run.mem_answered he ha)).mp hs
    cases hreply
  · exact unstarted_of_mem_discarded hr (Run.mem_discarded he hd)

/-- **Nobody waits longer than the timeout, and nobody is told so before it is over.**  At every
moment of every run in time: whoever is in line was submitted not longer ago than the timeout.  A
job that is in line when its timeout is over leaves the line at that very instant, with the answer
of the timeout unless a completion at that instant turns everybody away (or its caller is gone): it
does so if the timer comes next, it has done so whenever time has moved on, and whatever comes
first, it is never started.  Nobody is answered for waiting too long but when the timeout is over to
the very instant, and nobody is started from the line as late as that. -/
theorem waits_exactly (h : r.Punctual settings) :
    (∀ w ∈ r.queue.waiting,
        r.SubmittedAt w.job w.since ∧ r.now ≤ w.since + settings.queueTimeout) ∧
      (∀ w ∈ r.queue.waiting, r.now = w.since + settings.queueTimeout →
        (r.after settings r.now .expire).Over settings w.job w.since ∧
          ∀ r', Run.Ticks settings r r' →
            w.job ∉ r'.started.map Flight.job ∧
              (r.now < r'.now → r'.Over settings w.job w.since)) ∧
      (∀ job a instant, r.DeliveredAt job a instant → a.result = .queueTimeout →
        a.elapsed = settings.queueTimeout ∧
          ∀ submission, r.SubmittedAt job submission →
            instant = submission + settings.queueTimeout) ∧
      ∀ e ∈ r.log, ∀ f ∈ starts e.effects, e.event ≠ .submit f.job →
        ∀ submission, r.SubmittedAt f.job submission →
          e.instant < submission + settings.queueTimeout := by
  have htime := inTime_of_punctual h
  have hdistinct := (conserved_of_punctual h).distinct
  refine ⟨fun w hw => ⟨htime.submitted w hw, htime.early w hw⟩, ?_, ?_, ?_⟩
  · intro w hw hdue
    refine ⟨?_, fun r' ht => ⟨?_, fun hlater => ?_⟩⟩
    · have admitted : r.Admits .expire := trivial
      refine (over_of_event h hw hdue admitted).resolve_left ?_
      rintro ⟨v, hv, -, hs⟩
      have hlt := young_of_mem_expire (sorted_of_punctual h) hv
      omega
    · rcases awaits_or_over h hw hdue ht with ⟨-, v, hv, hj, -⟩ | hover
      · obtain ⟨last, -, hr⟩ := (h.ticks ht).reachable
        exact hj ▸ unstarted_of_mem_waiting hr hv
      · exact unstarted_of_over (h.ticks ht) hover
    · exact (awaits_or_over h hw hdue ht).resolve_left fun hstill => hlater.ne hstill.1.symm
  · rintro job _ _ ⟨e, he, rfl, a, s, ha, hs, rfl⟩ hresult
    obtain ⟨submission, hsub, hi⟩ := htime.exact e he _ ha hresult
    have hexact : ∀ submission, r.SubmittedAt job submission →
        e.instant = submission + settings.queueTimeout := by
      intro other hother
      rw [hi, Run.SubmittedAt.unique hdistinct hsub hother]
    refine ⟨?_, hexact⟩
    show e.instant - s = settings.queueTimeout
    rw [hexact s hs, Nat.add_sub_cancel_left]
  · intro e he f hf hne submission hsub
    obtain ⟨other, hother, hlt⟩ := (htime.young e he f hf).resolve_left hne
    rwa [Run.SubmittedAt.unique hdistinct hsub hother]

namespace Example

/-- Behind a call in flight one job is in line, and time has moved on to the end of its timeout. -/
def dueInLine : Run :=
  { Run.replay narrow [(0, .submit (job 0)), (0, .submit (job 1))] {} with now := 5 }

/-- The call completes before the timer has gone off, and time moves on. -/
def afterCompletion : Run :=
  { dueInLine.after narrow 5 (.complete (job 0) (.success 200 []) false) with now := 6 }

end Example

/-- A completion makes room at the instant when the timeout of a job in line is over; the job is
answered for waiting too long all the same. -/
theorem waits_exactly_due_in_line :
    Example.dueInLine.Punctual Example.narrow ∧
      Run.Ticks Example.narrow Example.dueInLine Example.afterCompletion ∧
      Example.dueInLine.queue.waiting.map WaitingJob.job = [Example.job 1] ∧
      Example.job 1 ∉ Example.afterCompletion.started.map Flight.job ∧
      Example.afterCompletion.Over Example.narrow (Example.job 1) 0 := by
  have hfirst : Run.Punctual Example.narrow
      (Run.after Example.narrow 0 (.submit (Example.job 0)) {}) := .single (.event (by decide))
  have hline : Run.Punctual Example.narrow
      (Run.replay Example.narrow [(0, .submit (Example.job 0)), (0, .submit (Example.job 1))] {}) :=
    hfirst.ticks (.single (.event (by decide)))
  have hdue : Example.dueInLine.Punctual Example.narrow :=
    hline.ticks (.single (.pass (by decide) (by decide)))
  have hmoved : Run.Ticks Example.narrow Example.dueInLine Example.afterCompletion :=
    .tail (.single (.event (by decide))) (.pass (by decide) (by decide))
  obtain ⟨-, hafter⟩ := (waits_exactly hdue).2.1 { job := Example.job 1, since := 0 } (by decide)
    (by decide)
  exact ⟨hdue, hmoved, by decide, (hafter _ hmoved).1, (hafter _ hmoved).2 (by decide)⟩

end LoginGate.Queue
