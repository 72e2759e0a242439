/-
# The gate of an offline queue

A queue that is offline lets one job through as a probe and turns everybody else away.  Three pieces
of its state work together here, and different operations change them: the instant from which on a
probe may start, the mark that a probe is in flight, and the calls in flight.  They may disagree for
a while.  An older call that succeeds brings the queue online under a probe that is still in flight,
and failures may take it offline again before that probe has completed.

What never comes apart is the mark: **it is set exactly while a probe is in flight** (`Marked`).  A
probe sets it, no second probe starts while it is set, and the completion of the probe takes it away
whatever else has happened.  So a queue with nothing in flight is not marked, and a submission that
comes when it is due goes through (`offline_gate`).
-/
import Mathlib.Data.List.Count
import LoginGate.Proofs.Queue.Capacity
import LoginGate.Proofs.Queue.Offline
import LoginGate.Proofs.Queue.Order

namespace LoginGate.Queue

variable {settings : Settings} {now : Nat} {q : Queue} {r : Run}

/-! ## 1. What one event starts -/

/-- **Nothing but a probe is started while a queue is offline**, be it offline before the event or
after it, if nobody waits while it is. -/
theorem probe_of_mem_starts_offline {event : Event} {f : Flight}
    (hempty : q.isOffline = true → q.waiting = [])
    (hoffline : q.isOffline = true ∨ (q.react settings now event).1.isOffline = true)
    (h : f ∈ starts (q.react settings now event).2) : f.probe = true := by
  have hr := react_reaction settings now q event
  generalize q.react settings now event = out at hr h hoffline
  obtain ⟨q', es⟩ := out
  cases hr with
  | submit taken =>
    cases taken with
    | refused | waits | full => simp at h
    | probe =>
      rw [starts_start, starts_nil, List.mem_singleton] at h
      rw [h]
    | started online room => simp [isOffline, online] at hoffline
  | complete ended =>
    cases ended with
    | flushed offline => simp at h
    | @released passed rest online line busy room =>
      rcases hoffline with hoffline | hoffline
      · -- Nobody was in line, so the success that brings the queue online starts nothing.
        have hnil : passed ++ rest = [] := line.symm.trans (hempty hoffline)
        rw [(List.append_eq_nil_iff.mp hnil).1] at h
        simp at h
      · have honline : (q.landed settings now _ _).isOffline = true := hoffline
        rw [online] at honline
        cases honline
  | expire line late young => simp at h
  | abandon => simp at h

/-! ## 2. The mark -/

/-- The mark of a probe says how many probes are in flight, one or none. -/
def Marked (r : Run) : Prop := r.flights.countP Flight.probe = r.queue.probing.toNat

theorem marked_start : Marked {} := rfl

theorem countP_probe_starts_settle (settings : Settings) (now : Nat) (ws : List WaitingJob) :
    (starts (ws.map (settle settings now))).countP Flight.probe = 0 :=
  List.countP_eq_zero.mpr fun f hf => by simp [not_probe_of_mem_starts_settle hf]

/-- The completion of a probe takes its mark away, and that of another call leaves the mark. -/
theorem countP_probe_erase (h : Marked r) {job : Job} {probe : Bool}
    (hf : ⟨job, probe⟩ ∈ r.flights) :
    (r.flights.erase ⟨job, probe⟩).countP Flight.probe =
      (r.queue.probing && !probe).toNat := by
  have hcount := List.countP_erase Flight.probe r.flights ⟨job, probe⟩
  rw [Marked] at h
  cases probe with
  | false =>
    rw [hcount, h]
    simp
  | true =>
    have hpos : 0 < r.flights.countP Flight.probe := List.countP_pos_iff.mpr ⟨_, hf, rfl⟩
    have hone : r.queue.probing.toNat ≤ 1 := Bool.toNat_le _
    rw [hcount, if_pos ⟨hf, rfl⟩]
    simp only [Bool.not_true, Bool.and_false, Bool.toNat_false]
    omega

/-- **Every event that can occur keeps the mark true.** -/
theorem Marked.step (h : Marked r) (now : Nat) {event : Event} (ha : r.Admits event) :
    Marked (r.after settings now event) := by
  have hr := react_reaction settings now r.queue event
  have hmark : r.flights.countP Flight.probe = r.queue.probing.toNat := h
  rw [Marked, Run.flights_after, Run.queue_after, List.countP_append]
  generalize r.queue.react settings now event = out at hr ⊢
  obtain ⟨q', es⟩ := out
  cases hr with
  | submit taken =>
    cases taken with
    | refused | waits | full => simpa [Event.leaves] using hmark
    | probe offline due idle =>
      rw [idle] at hmark
      simp [Event.leaves, hmark]
    | started => simpa [Event.leaves] using hmark
  | @complete job reply probe _ _ ended =>
    have hleft := countP_probe_erase h ha
    cases ended with
    | flushed offline => simpa [Event.leaves] using hleft
    | released online line busy room =>
      simpa [Event.leaves, countP_probe_starts_settle] using hleft
  | expire line late young => simpa [Event.leaves] using hmark
  | abandon => simpa [Event.leaves, Queue.abandon] using hmark

theorem marked_of_reachable (h : r.Reachable settings) : Marked r :=
  h.rec_steps marked_start fun _ now _ _ _ admitted ih => ih.step now admitted

/-- A queue with nothing in flight is not marked. -/
theorem probing_eq_false_of_idle (h : r.Reachable settings) (hidle : r.queue.inFlight = 0) :
    r.queue.probing = false := by
  have hmark := marked_of_reachable h
  have hflights : r.flights = [] := by
    rw [← List.length_eq_zero_iff, ← (bounded_of_reachable h).counted, hidle]
  rw [Marked, hflights] at hmark
  cases hp : r.queue.probing with
  | false => rfl
  | true =>
    rw [hp] at hmark
    cases hmark

/-- A queue that is offline has nobody in line. -/
theorem waiting_eq_nil_of_offline (h : r.Reachable settings) (ho : r.queue.isOffline = true) :
    r.queue.waiting = [] := by
  by_contra hw
  have honline := ((ordered_of_reachable h).busy hw).1
  rw [ho] at honline
  cases honline

/-! ## 3. The gate -/

/-- A submission that is due is started as the probe, if no probe is in flight. -/
theorem react_submit_due {instant : Nat} (job : Job) (hp : q.probing = false)
    (ho : q.offlineUntil = some instant) (hdue : instant ≤ now) :
    (q.react settings now (.submit job)).2 = [.start job true] := by
  have hlate : ¬ now < instant := Nat.not_lt.mpr hdue
  simp [react, submit, ho, hp, hlate]

/-- A success brings the queue online, whatever has happened meanwhile. -/
theorem online_of_success (settings : Settings) (now : Nat) (job : Job) (status : Nat)
    (body : List UInt8) (probe : Bool) (q : Queue) :
    (q.react settings now (.complete job (.success status body) probe)).1.isOffline = false ∧
      (q.react settings now (.complete job (.success status body) probe)).1.consecutiveErrors =
        0 := by
  obtain ⟨hoffline, hcount⟩ := health_complete settings now job (.success status body) probe q
  obtain ⟨honline, hzero⟩ := landed_success settings now probe q
  exact ⟨hoffline.trans honline, hcount.trans hzero⟩

/-- **The gate of an offline queue.**  At every moment of every run: at most one probe is in flight;
while the queue is offline nobody waits, and with nothing in flight no probe is marked; whatever
happens next, nothing but a probe is started while the queue is offline, and a probe only from the
instant on that the queue has set for it.  So the queue does not get stuck: with nothing in flight,
a submission that is due is started as the probe, which stays in flight until it completes, and its
success brings the queue online with no failures counted. -/
theorem offline_gate (h : r.Reachable settings) :
    r.flights.countP Flight.probe ≤ 1 ∧
      (r.queue.isOffline = true → r.queue.waiting = []) ∧
      (r.queue.inFlight = 0 → r.queue.probing = false) ∧
      (∀ now event, ∀ f ∈ starts (r.queue.react settings now event).2,
        (r.queue.isOffline = true ∨ (r.queue.react settings now event).1.isOffline = true →
          f.probe = true) ∧
        (f.probe = true → ∃ instant, r.queue.offlineUntil = some instant ∧ instant ≤ now)) ∧
      ∀ now job instant, r.now ≤ now → r.Admits (.submit job) → r.queue.inFlight = 0 →
        r.queue.offlineUntil = some instant → instant ≤ now →
        (r.queue.react settings now (.submit job)).2 = [.start job true] ∧
          ∀ r', Run.Leads settings (r.after settings now (.submit job)) r' →
            (⟨job, true⟩ ∈ r'.flights ∨ ⟨job, true⟩ ∈ r'.completed) ∧
              ∀ later status body,
                (r'.after settings later (.complete job (.success status body) true)).queue.isOffline
                    = false ∧
                  (r'.after settings later
                    (.complete job (.success status body) true)).queue.consecutiveErrors = 0 := by
  refine ⟨?_, waiting_eq_nil_of_offline h, probing_eq_false_of_idle h, ?_, ?_⟩
  · rw [marked_of_reachable h]
    exact Bool.toNat_le _
  · intro now event f hf
    exact ⟨fun ho => probe_of_mem_starts_offline (waiting_eq_nil_of_offline h) ho hf,
      fun hp => (due_of_probe_mem_starts hf hp).2⟩
  · intro now job instant later admitted hidle ho hdue
    have hprobe : (r.queue.react settings now (.submit job)).2 = [.start job true] :=
      react_submit_due job (probing_eq_false_of_idle h hidle) ho hdue
    refine ⟨hprobe, fun r' hl => ⟨?_, fun later status body => ?_⟩⟩
    · have hstarted : ⟨job, true⟩ ∈ r'.started := by
        refine Run.mem_started_of_log_prefix (Run.log_prefix_of_leads hl) ?_
        rw [Run.started_after, hprobe]
        exact List.mem_append_right _ List.mem_cons_self
      have hr' : r'.Reachable settings := (h.after later admitted).trans hl
      exact (List.mem_append.mp (hr'.started_perm.subset hstarted)).symm
    · exact online_of_success settings later job status body true r'.queue

namespace Example

/-- The only call fails and takes the queue offline. -/
def failedOnce : Run :=
  Run.replay single [(0, .submit (job 0)), (3, .complete (job 0) (.failure .timeout) false)] {}

/-- Somebody is turned away while the probe is in flight. -/
def probeInFlight : Run := (failedOnce.after single 13 (.submit (job 1))).after single 14
  (.submit (job 2))

end Example

/-- At the very instant that is set for it a probe goes through, nobody else does, and its success
brings the queue online. -/
theorem offline_gate_failed_once :
    Example.failedOnce.Reachable Example.single ∧ Example.failedOnce.queue.isOffline = true ∧
      Example.failedOnce.queue.waiting = [] ∧ Example.failedOnce.queue.probing = false ∧
      (Example.failedOnce.queue.react Example.single 13 (.submit (Example.job 1))).2 =
        [.start (Example.job 1) true] ∧
      Example.probeInFlight.flights = [⟨Example.job 1, true⟩] ∧
      Example.probeInFlight.queue.isOffline = true ∧
      Example.probeInFlight.flights.countP Flight.probe ≤ 1 ∧
      (Example.probeInFlight.after Example.single 20
        (.complete (Example.job 1) (.success 200 []) true)).queue.isOffline = false := by
  have hr : Example.failedOnce.Reachable Example.single :=
    Run.reachable_replay (.start _) (by decide)
  have hprobe : (Example.failedOnce.after Example.single 13
      (.submit (Example.job 1))).Reachable Example.single := hr.after (by decide) (by decide)
  have hlead : Run.Leads Example.single
      (Example.failedOnce.after Example.single 13 (.submit (Example.job 1)))
      Example.probeInFlight := .single (.event (by decide) (by decide))
  obtain ⟨-, hempty, hmark, -, hgate⟩ := offline_gate hr
  obtain ⟨hstart, hafter⟩ := hgate 13 (Example.job 1) 13 (by decide) (by decide) (by decide)
    (by decide) (by decide)
  exact ⟨hr, by decide, hempty (by decide), hmark (by decide), hstart, by decide, by decide,
    (offline_gate (hprobe.trans hlead)).1, ((hafter _ hlead).2 20 200 []).1⟩

end LoginGate.Queue
