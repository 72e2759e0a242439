/-
# Runs come to an end by themselves

A timeline runs with a bound on its turns and instants (`Timeline.work`), and that bound is never the
reason why it stops.  Each turn, and each instant that time moves on to, takes something off the
effort that is still ahead (`Timeline.effort`), and all of it is below the bound (`effort_lt_work`).
So a run goes on until it may stop or has nothing left to do (`run_settles`).

The effort of a job pays for the turns that it may still take, and depends on where the job is, with
2 more for each retry that is left:

* 8 in a mailbox or in line, and 5 from when it has waited too long: the 3 pay for the instant and for
  the turn of its station;
* 5 when an attempt is to be made, 4 while the attempt goes on, 3 when it has ended;
* 2 for each turn of a station.

This comes out even because no station with something to do is without a turn (`Timeline.Prompt`).
-/
import Mathlib
import LoginGate.Proofs.Queue.Stations

namespace LoginGate

/-! ## 1. The effort ahead -/

/-- The most that a job can take. -/
def Job.effort (job : Job) : Nat := 2 * job.retries + 8

/-- The effort that a job in line will take. -/
def WaitingJob.effort (settings : Queue.Settings) (now : Nat) (w : WaitingJob) : Nat :=
  2 * w.job.retries + if Queue.isOverdue settings now w then 5 else 8

def Message.effort : Message → Nat
  | submit job => job.effort
  | complete .. => 0

def Queue.effort (settings : Settings) (now : Nat) (q : Queue) : Nat :=
  (q.waiting.map (WaitingJob.effort settings now)).sum

def Queue.Effect.effort : Queue.Effect → Nat
  | start job _ => 2 * job.retries + 5
  | answer .. | discard _ => 0

def Station.effort (now : Nat) (s : Station) : Nat :=
  s.queue.effort s.settings now + (s.mailbox.map Message.effort).sum

def Turn.effort : Turn → Nat
  | handle _ => 2
  | attempt e => 2 * e.retries + 5
  | reply e _ => 2 * e.retries + 3

/-- The job that a turn takes further. -/
def Turn.job? : Turn → Option Job
  | handle _ => none
  | attempt e | reply e _ => some e.job

def PendingReply.effort (p : PendingReply) : Nat := 2 * p.exchange.retries + 4

/-- The effort that is still ahead. -/
def Timeline.effort (t : Timeline) : Nat :=
  (t.stations.map (Station.effort t.now)).sum + (t.ready.map Turn.effort).sum +
    (t.pending.map PendingReply.effort).sum

section Sums

variable {α : Type} {l : List α}

theorem sum_map_modify {f : α → α} {g : α → Nat} {i : Nat} {a : α} (h : l[i]? = some a) :
    ((l.modify i f).map g).sum + g a = (l.map g).sum + g (f a) := by
  induction l generalizing i with
  | nil => cases h
  | cons b l ih =>
    cases i with
    | zero =>
      cases h
      rw [List.modify_zero_cons, List.map_cons, List.map_cons, List.sum_cons, List.sum_cons]
      omega
    | succ i =>
      have hrest := ih (i := i) h
      rw [List.modify_succ_cons, List.map_cons, List.map_cons, List.sum_cons, List.sum_cons]
      omega

/-- A sum falls by as much as each of some elements contributes less. -/
theorem sum_map_add_countP_le {f g : α → Nat} {p : α → Bool} {n : Nat}
    (h : ∀ a ∈ l, f a + (if p a then n else 0) ≤ g a) :
    (l.map f).sum + n * l.countP p ≤ (l.map g).sum := by
  induction l with
  | nil => exact Nat.le_refl 0
  | cons a l ih =>
    obtain ⟨ha, hl⟩ := List.forall_mem_cons.mp h
    have hrest := ih hl
    rw [List.map_cons, List.map_cons, List.sum_cons, List.sum_cons, List.countP_cons]
    split at ha
    · rename_i hp
      rw [if_pos hp, Nat.mul_add, Nat.mul_one]
      omega
    · rename_i hp
      rw [if_neg hp, Nat.add_zero]
      omega

end Sums

/-! ## 2. What handling messages takes -/

namespace Queue

variable {settings : Settings} {now : Nat} {q : Queue}

theorem effort_settle_le (w : WaitingJob) :
    (settle settings now w).effort ≤ w.effort settings now := by
  rw [settle, WaitingJob.effort]
  split
  · exact Nat.zero_le _
  · split <;> simp only [Effect.effort] <;> omega

theorem effort_dismiss_le (a : Answer) (w : WaitingJob) :
    (dismiss w a).effort ≤ w.effort settings now := by
  rw [dismiss]
  split <;> exact Nat.zero_le _

/-- A front part of the line leaves it. -/
theorem effort_of_passed (settings : Settings) (now : Nat) {passed rest : List WaitingJob}
    {f : WaitingJob → Effect} (hf : ∀ w, (f w).effort ≤ w.effort settings now)
    (line : q.waiting = passed ++ rest) :
    (rest.map (WaitingJob.effort settings now)).sum + ((passed.map f).map Effect.effort).sum ≤
      q.effort settings now := by
  have hpassed : ((passed.map f).map Effect.effort).sum ≤
      (passed.map (WaitingJob.effort settings now)).sum := by
    rw [List.map_map]
    exact List.sum_le_sum fun w _ => hf w
  rw [effort, line, List.map_append, List.sum_append]
  omega

/-- **A message** costs no more than it adds. -/
theorem effort_handleMessage_le (settings : Settings) (now : Nat) (q : Queue) (m : Message) :
    (Timeline.handleMessage settings now q m).1.effort settings now +
        ((Timeline.handleMessage settings now q m).2.map Effect.effort).sum ≤
      q.effort settings now + m.effort := by
  have hm := Timeline.handleMessage_handling settings now q m
  generalize Timeline.handleMessage settings now q m = out at hm ⊢
  obtain ⟨q', es⟩ := out
  cases hm with
  | submit taken =>
    cases taken with
    | refused | full => exact Nat.add_le_add_left (Nat.zero_le _) _
    | probe | started =>
      exact Nat.add_le_add_left (Nat.add_le_add_left (show 5 ≤ 8 by decide) _) _
    | waits =>
      simp only [effort, Message.effort, Job.effort, List.map_append, List.sum_append, List.map_cons,
        List.map_nil, List.sum_cons, List.sum_nil, WaitingJob.effort]
      split <;> omega
  | complete ended =>
    cases ended with
    | flushed offline =>
      have hall := effort_of_passed settings now (effort_dismiss_le offlineAnswer)
        (List.append_nil q.waiting).symm
      simpa [Effect.effort, effort, Message.effort] using hall
    | released online line busy room =>
      have hpassed := effort_of_passed settings now effort_settle_le line
      simpa [Effect.effort, effort, Message.effort] using hpassed

theorem effort_handleMessages_le (settings : Settings) (now : Nat) (q : Queue)
    (ms : List Message) :
    (Timeline.handleMessages settings now q ms).1.effort settings now +
        ((Timeline.handleMessages settings now q ms).2.map Effect.effort).sum ≤
      q.effort settings now + (ms.map Message.effort).sum := by
  induction ms generalizing q with
  | nil => exact Nat.le_refl _
  | cons m ms ih =>
    have hfirst := effort_handleMessage_le settings now q m
    have hrest := ih (Timeline.handleMessage settings now q m).1
    rw [Timeline.handleMessages, List.map_append, List.sum_append, List.map_cons, List.sum_cons]
    dsimp only
    omega

theorem effort_expire_le (settings : Settings) (now : Nat) (q : Queue) :
    (q.expire settings now).1.effort settings now +
      ((q.expire settings now).2.map Effect.effort).sum ≤ q.effort settings now := by
  obtain ⟨passed, rest, line, he, -⟩ := expire_eq settings now q
  rw [he]
  exact effort_of_passed settings now (effort_dismiss_le timeoutAnswer) line

end Queue

/-! ## 3. What turns take -/

namespace Timeline

variable {t : Timeline} {i : Nat}

theorem effort_ready_append (turns : List Turn) :
    ({ t with ready := t.ready ++ turns } : Timeline).effort =
      t.effort + (turns.map Turn.effort).sum := by
  simp only [effort, List.map_append, List.sum_append]
  omega

theorem effort_post_le (m : Message) : (t.post i m).effort ≤ t.effort + m.effort + 2 := by
  obtain ⟨turns, hturns, heq⟩ := post_cases t i m
  have hwoken : (turns.map Turn.effort).sum ≤ 2 := by
    rcases hturns with ⟨rfl, -⟩ | rfl
    · exact Nat.zero_le _
    · exact Nat.le_refl _
  rw [heq, effort, effort]
  dsimp only
  rw [List.map_append, List.sum_append]
  cases hi : t.stations[i]? with
  | none =>
    rw [List.modify_eq_self (List.getElem?_eq_none_iff.mp hi)]
    omega
  | some s =>
    have hsum := sum_map_modify (f := fun s : Station => { s with mailbox := s.mailbox ++ [m] })
      (g := Station.effort t.now) hi
    simp only [Station.effort, List.map_append, List.sum_append, List.map_cons, List.map_nil,
      List.sum_cons, List.sum_nil] at hsum ⊢
    omega

theorem effort_carryOut (e : Queue.Effect) : (carryOut i t e).effort = t.effort + e.effort := by
  cases e with
  | start job probe => exact effort_ready_append _
  | answer job a =>
    rw [carryOut, deliver]
    split <;> rfl
  | discard job => rfl

theorem effort_foldl_carryOut (effects : List Queue.Effect) :
    (effects.foldl (carryOut i) t).effort =
      t.effort + (effects.map Queue.Effect.effort).sum := by
  induction effects generalizing t with
  | nil => rfl
  | cons e rest ih =>
    rw [List.foldl_cons, ih, effort_carryOut, List.map_cons, List.sum_cons, Nat.add_assoc]

theorem effort_handle_le : (t.handle i).effort ≤ t.effort := by
  rw [handle]
  cases hi : t.stations[i]? with
  | none => exact Nat.le_refl _
  | some s =>
    dsimp only
    have hmessages := Queue.effort_handleMessages_le s.settings t.now s.queue s.mailbox
    have hexpire := Queue.effort_expire_le s.settings t.now
      (handleMessages s.settings t.now s.queue s.mailbox).1
    have hsum := sum_map_modify (g := Station.effort t.now) (f := fun s' : Station => { s' with
      queue := ((handleMessages s.settings t.now s.queue s.mailbox).1.expire s.settings t.now).1
      mailbox := [] }) hi
    rw [effort_foldl_carryOut, List.map_append, List.sum_append, effort, effort, modifyStation]
    simp only [Station.effort, List.map_nil, List.sum_nil] at hsum ⊢
    omega

theorem effort_attempt_le (e : Exchange) (retries : Nat) :
    (attempt e retries t).effort ≤ t.effort + 2 * retries + 4 := by
  obtain ⟨transport, sent, ⟨reply, h⟩ | ⟨due, left, reply, hleft, h⟩⟩ := attempt_cases t e retries
  · have hpost := effort_post_le (t := { t with transport, sent }) (i := e.station)
      (.complete e.job reply.answer e.probe)
    have hsame : ({ t with transport, sent } : Timeline).effort = t.effort := rfl
    rw [h]
    simp only [Message.effort] at hpost
    omega
  · rw [h]
    simp only [effort, List.map_append, List.sum_append, List.map_cons, List.map_nil,
      List.sum_cons, List.sum_nil, PendingReply.effort]
    omega

/-- **Each turn takes something off the effort ahead.** -/
theorem effort_perform_lt {turn : Turn} {rest : List Turn} (hready : t.ready = turn :: rest) :
    (perform { t with ready := rest } turn).effort < t.effort := by
  have hturn : t.effort = ({ t with ready := rest } : Timeline).effort + turn.effort := by
    simp only [effort, hready, List.map_cons, List.sum_cons]
    omega
  generalize ({ t with ready := rest } : Timeline) = t' at hturn ⊢
  have hended : ∀ e : Exchange, ∀ reply : Reply,
      (t'.post e.station (.complete e.job reply.answer e.probe)).effort ≤ t'.effort + 2 :=
    fun e reply => effort_post_le _
  cases turn with
  | handle i =>
    have hhandle := effort_handle_le (t := t') (i := i)
    simp only [Turn.effort] at hturn
    exact Nat.lt_of_le_of_lt hhandle (by omega)
  | attempt e =>
    have hattempt := effort_attempt_le (t := t') e e.retries
    simp only [Turn.effort] at hturn
    exact Nat.lt_of_le_of_lt hattempt (by omega)
  | reply e reply =>
    have hpost := hended e reply
    simp only [Turn.effort] at hturn
    rw [perform]
    split
    · rename_i r hretries
      have hattempt := effort_attempt_le (t := t') e r
      split <;> omega
    · omega

/-! ## 4. No station is overlooked -/

theorem mem_deadlines {instant : Nat} : (instant, i) ∈ t.deadlines ↔
    ∃ s, t.stations[i]? = some s ∧ s.queue.deadline? s.settings = some instant := by
  rw [deadlines, List.mem_filterMap]
  constructor
  · rintro ⟨⟨s, j⟩, hs, h⟩
    obtain ⟨d, hd, heq⟩ := Option.map_eq_some_iff.mp h
    cases heq
    exact ⟨s, List.mem_zipIdx_iff_getElem?.mp hs, hd⟩
  · rintro ⟨s, hs, hd⟩
    exact ⟨(s, i), List.mem_zipIdx_iff_getElem?.mpr hs, Option.map_eq_some_iff.mpr ⟨_, hd, rfl⟩⟩

end Timeline

/-- The station has messages to handle, or someone in its line has waited too long. -/
def Station.IsBusy (now : Nat) (s : Station) : Prop :=
  s.mailbox ≠ [] ∨ ∃ instant, s.queue.deadline? s.settings = some instant ∧ instant ≤ now

/-- No more retries are left than the job has. -/
def Exchange.IsWithin (e : Exchange) : Prop := e.retries ≤ e.job.retries

def Turn.IsWithin : Turn → Prop
  | handle _ => True
  | attempt e | reply e _ => e.IsWithin

/-- Every station with something to do has a turn, and nobody has more retries left than there were
at first. -/
structure Timeline.Prompt (t : Timeline) : Prop where
  stations : ∀ i s, t.stations[i]? = some s → s.IsBusy t.now → .handle i ∈ t.ready
  ready : ∀ turn ∈ t.ready, turn.IsWithin
  pending : ∀ p ∈ t.pending, p.exchange.IsWithin

/-- Whoever is first in line after an expiry has time left. -/
theorem Queue.lt_of_deadline_expire {settings : Settings} {now instant : Nat} {q : Queue}
    (h : (q.expire settings now).1.deadline? settings = some instant) : now < instant := by
  obtain ⟨passed, rest, -, he, -, young⟩ := expire_eq settings now q
  rw [he] at h
  obtain ⟨w, hw, rfl⟩ := Option.map_eq_some_iff.mp h
  exact isOverdue_eq_false_iff.mp (young w hw)

namespace Timeline.Prompt

variable {t : Timeline} {i : Nat}

/-- Where nothing is ready, no station has anything to do. -/
theorem not_busy (h : t.Prompt) (hready : t.ready = []) : ∀ s ∈ t.stations, ¬ s.IsBusy t.now := by
  intro s hs busy
  obtain ⟨i, hi⟩ := List.mem_iff_getElem?.mp hs
  have hturn := h.stations i s hi busy
  rw [hready] at hturn
  cases hturn

theorem ready_append (h : t.Prompt) {turns : List Turn} (hturns : ∀ turn ∈ turns, turn.IsWithin) :
    ({ t with ready := t.ready ++ turns } : Timeline).Prompt where
  stations := fun j s hs busy => List.mem_append_left _ (h.stations j s hs busy)
  ready := fun x hx => (List.mem_append.mp hx).elim (h.ready x) (hturns x)
  pending := h.pending

/-- A message wakes its station. -/
theorem post (h : t.Prompt) (m : Message) : (t.post i m).Prompt := by
  obtain ⟨turns, hturns, heq⟩ := post_cases t i m
  rw [heq]
  refine ⟨fun j s hs busy => ?_, fun turn hturn => ?_, h.pending⟩
  · by_cases hij : i = j
    · subst hij
      rcases hturns with ⟨-, hmem⟩ | rfl
      · exact List.mem_append_left _ hmem
      · exact List.mem_append_right _ (List.mem_singleton_self _)
    · rw [List.getElem?_modify_ne _ _ hij] at hs
      exact List.mem_append_left _ (h.stations j s hs busy)
  · rcases List.mem_append.mp hturn with hold | hnew
    · exact h.ready turn hold
    · rcases hturns with ⟨rfl, -⟩ | rfl
      · cases hnew
      · rw [List.mem_singleton.mp hnew]
        trivial

theorem carryOut (h : t.Prompt) (e : Queue.Effect) : (carryOut i t e).Prompt := by
  cases e with
  | start job probe =>
    exact h.ready_append fun x hx => by
      rw [List.mem_singleton.mp hx]
      exact Nat.le_refl job.retries
  | answer job a =>
    rw [Timeline.carryOut, deliver]
    split
    · exact h
    · exact ⟨h.stations, h.ready, h.pending⟩
  | discard job => exact h

theorem foldl_carryOut (h : t.Prompt) (effects : List Queue.Effect) :
    (effects.foldl (Timeline.carryOut i) t).Prompt := by
  induction effects generalizing t with
  | nil => exact h
  | cons e rest ih => exact ih (h.carryOut e)

theorem attempt (h : t.Prompt) {e : Exchange} {retries : Nat} (he : retries ≤ e.job.retries) :
    (attempt e retries t).Prompt := by
  obtain ⟨transport, sent, ⟨reply, heq⟩ | ⟨_, left, _, hleft, heq⟩⟩ := attempt_cases t e retries
  · rw [heq]
    exact post (t := { t with transport, sent }) ⟨h.stations, h.ready, h.pending⟩ _
  · rw [heq]
    refine ⟨h.stations, h.ready, fun p hp => (List.mem_append.mp hp).elim (h.pending p) fun hp => ?_⟩
    rw [List.mem_singleton.mp hp]
    exact hleft.trans he

/-- A station that has handled its messages has nothing to do. -/
theorem handle {rest : List Turn} (h : t.Prompt) (hready : t.ready = .handle i :: rest) :
    (Timeline.handle { t with ready := rest } i).Prompt := by
  have hothers : ∀ j s, j ≠ i → t.stations[j]? = some s → s.IsBusy t.now → .handle j ∈ rest := by
    intro j s hij hs busy
    have hmem := h.stations j s hs busy
    rw [hready] at hmem
    exact (List.mem_cons.mp hmem).resolve_left fun heq => hij (Turn.handle.inj heq)
  have hrest : ∀ turn ∈ rest, turn.IsWithin :=
    fun turn hturn => h.ready turn (hready ▸ List.mem_cons_of_mem _ hturn)
  rw [Timeline.handle]
  dsimp only
  cases hi : t.stations[i]? with
  | none =>
    refine ⟨fun j s hs busy => hothers j s (fun hij => ?_) hs busy, hrest, h.pending⟩
    cases (hij ▸ hi).symm.trans hs
  | some s =>
    refine foldl_carryOut (Prompt.mk (t := ({ t with ready := rest } : Timeline).modifyStation i _)
      (fun j s' hs' busy => ?_) hrest h.pending) _
    dsimp only [modifyStation] at hs'
    by_cases hij : i = j
    · rw [← hij, List.getElem?_modify_eq, hi] at hs'
      cases hs'
      rcases busy with hmail | ⟨instant, hdeadline, hle⟩
      · exact absurd rfl hmail
      · exact absurd hle (Nat.not_le_of_lt (Queue.lt_of_deadline_expire hdeadline))
    · rw [List.getElem?_modify_ne _ _ hij] at hs'
      exact hothers j s' (Ne.symm hij) hs' busy

theorem perform {turn : Turn} {rest : List Turn} (h : t.Prompt) (hready : t.ready = turn :: rest) :
    (Timeline.perform { t with ready := rest } turn).Prompt := by
  have hwithin := h.ready turn (hready ▸ List.mem_cons_self)
  have hrest : (∀ i, turn ≠ .handle i) → ({ t with ready := rest } : Timeline).Prompt := by
    refine fun hturn => ⟨fun i s hs busy => ?_, fun x hx => ?_, h.pending⟩
    · have hmem := h.stations i s hs busy
      rw [hready] at hmem
      exact (List.mem_cons.mp hmem).resolve_left (Ne.symm (hturn i))
    · exact h.ready x (hready ▸ List.mem_cons_of_mem _ hx)
  cases turn with
  | handle i => exact h.handle hready
  | attempt e => exact (hrest fun _ h => Turn.noConfusion h).attempt hwithin
  | reply e reply =>
    have hrest := hrest fun _ h => Turn.noConfusion h
    rw [Timeline.perform]
    split
    · rename_i r hretries
      split
      · rw [Turn.IsWithin, Exchange.IsWithin, hretries] at hwithin
        exact hrest.attempt (Nat.le_of_succ_le hwithin)
      · exact hrest.post _
    · exact hrest.post _

/-- A station whose first in line has waited too long is woken. -/
theorem moveTo (h : t.Prompt) (instant : Nat) : (t.moveTo instant).Prompt := by
  refine ⟨fun i s hs busy => ?_, fun turn hturn => ?_,
    fun p hp => h.pending p (mem_pending_moveTo hp)⟩
  · rw [moveTo_eq] at hs busy ⊢
    by_cases hold : s.IsBusy t.now
    · exact List.mem_append_left _ (List.mem_append_left _ (h.stations i s hs hold))
    · obtain ⟨deadline, hd, hle⟩ := busy.resolve_left fun hmail => hold (.inl hmail)
      have hlater := (le_max_iff.mp hle).resolve_left fun hnow => hold (.inr ⟨deadline, hd, hnow⟩)
      refine List.mem_append_right _ (List.mem_map.mpr ⟨(deadline, i), ?_, rfl⟩)
      exact List.mem_filter.mpr ⟨mem_deadlines.mpr ⟨s, hs, hd⟩, decide_eq_true hlater⟩
  · rcases mem_ready_moveTo hturn with hturn | ⟨p, hp, rfl⟩ | ⟨d, -, rfl⟩
    · exact h.ready turn hturn
    · exact h.pending p hp
    · trivial

theorem run (h : t.Prompt) (stop : Timeline → Bool) (horizon : Option Nat) (fuel : Nat) :
    (run stop horizon fuel t).Prompt :=
  run_induction t (P := Prompt) (fun _ _ _ hready h => h.perform hready)
    (fun _ instant h => h.moveTo instant) stop horizon fuel h

end Timeline.Prompt

/-! ## 5. Instants -/

theorem WaitingJob.effort_le_of_le {settings : Queue.Settings} {now later : Nat} (hle : now ≤ later)
    (w : WaitingJob) : w.effort settings later ≤ w.effort settings now := by
  rw [effort, effort]
  split
  · split <;> omega
  · rename_i hyoung
    rw [if_neg fun hold => hyoung (Queue.isOverdue_iff.mpr ((Queue.isOverdue_iff.mp hold).trans hle))]

/-- **Time takes effort off a station** whose first in line has waited too long, when there was
nothing else for it to do. -/
theorem Station.effort_later {s : Station} {now : Nat} (idle : ¬ s.IsBusy now) (instant : Nat) :
    s.effort (max now instant) +
        (if (s.queue.deadline? s.settings).any (· ≤ instant) then 3 else 0) ≤ s.effort now := by
  have hlater : ∀ w : WaitingJob, w.effort s.settings (max now instant) ≤ w.effort s.settings now :=
    WaitingJob.effort_le_of_le (Nat.le_max_left now instant)
  rw [effort, effort, Queue.effort, Queue.effort, Queue.deadline?]
  cases hline : s.queue.waiting with
  | nil => exact Nat.le_refl _
  | cons w ws =>
    have hrest : (ws.map (WaitingJob.effort s.settings (max now instant))).sum ≤
        (ws.map (WaitingJob.effort s.settings now)).sum := List.sum_le_sum fun w _ => hlater w
    have hyoung : Queue.isOverdue s.settings now w = false := by
      refine Queue.isOverdue_eq_false_iff.mpr (Nat.lt_of_not_le fun hle => idle (.inr ⟨_, ?_, hle⟩))
      rw [Queue.deadline?, hline]
      rfl
    simp only [List.map_cons, List.sum_cons, List.head?_cons, Option.map_some, Option.any_some,
      decide_eq_true_eq]
    split
    · rename_i hdue
      have hold : Queue.isOverdue s.settings (max now instant) w = true :=
        Queue.isOverdue_iff.mpr (hdue.trans (Nat.le_max_right ..))
      rw [WaitingJob.effort, WaitingJob.effort, hold, hyoung]
      simp only [if_true, Bool.false_eq_true, if_false]
      omega
    · have hw := hlater w
      omega

namespace Timeline

variable {t : Timeline}

/-- The stations that are woken are those whose first in line has waited too long. -/
theorem length_overdue (t : Timeline) (instant : Nat) :
    (t.deadlines.filter (·.1 ≤ instant)).length =
      t.stations.countP fun s => (s.queue.deadline? s.settings).any (· ≤ instant) := by
  rw [deadlines]
  generalize 0 = k
  induction t.stations generalizing k with
  | nil => rfl
  | cons s l ih =>
    rw [List.zipIdx_cons, List.countP_cons, ← ih (k + 1)]
    cases hd : s.queue.deadline? s.settings with
    | none => simp [hd]
    | some d => by_cases hdue : d ≤ instant <;> simp [hd, hdue]

/-- Attempts that have ended take a turn each. -/
theorem effort_pending (ended : PendingReply → Bool) (l : List PendingReply) :
    ((l.filter ended).map fun p => (Turn.reply p.exchange p.reply).effort).sum + l.countP ended +
        ((l.filter fun p => !ended p).map PendingReply.effort).sum =
      (l.map PendingReply.effort).sum := by
  induction l with
  | nil => rfl
  | cons p l ih =>
    rw [List.filter_cons, List.filter_cons, List.countP_cons, List.map_cons, List.sum_cons]
    cases ended p
    · simp only [Bool.false_eq_true, if_false, Bool.not_false, if_true, List.map_cons,
        List.sum_cons]
      omega
    · simp only [if_true, Bool.not_true, Bool.false_eq_true, if_false, List.map_cons, List.sum_cons,
        Turn.effort, PendingReply.effort] at ih ⊢
      omega

/-- **Each instant takes something off the effort ahead**, when nothing more can happen before it. -/
theorem effort_moveTo_lt (h : t.Prompt) (hready : t.ready = []) {instant : Nat}
    (hnext : t.nextInstant? = some instant) : (t.moveTo instant).effort < t.effort := by
  have hstations := sum_map_add_countP_le fun s hs =>
    Station.effort_later (h.not_busy hready s hs) instant
  have hpending := effort_pending (fun p => decide (p.due ≤ instant)) t.pending
  have hsome : 0 < t.pending.countP (fun p => decide (p.due ≤ instant)) +
      t.stations.countP fun s => (s.queue.deadline? s.settings).any (· ≤ instant) := by
    rcases List.mem_append.mp (List.min?_mem hnext) with hmem | hmem
    · obtain ⟨p, hp, hdue⟩ := List.mem_map.mp hmem
      exact Nat.add_pos_left
        (List.countP_pos_iff.mpr ⟨p, hp, decide_eq_true (Nat.le_of_eq hdue)⟩) _
    · obtain ⟨d, hd, hinstant⟩ := List.mem_map.mp hmem
      refine Nat.add_pos_right _ (length_overdue t instant ▸ List.length_pos_of_mem
        (List.mem_filter.mpr ⟨hd, decide_eq_true (Nat.le_of_eq hinstant)⟩))
  rw [moveTo_eq, effort, effort, hready]
  simp only [List.nil_append, List.map_append, List.sum_append, List.map_map, Function.comp_def,
    List.map_nil, List.sum_nil]
  have hwoken : ((t.deadlines.filter (·.1 ≤ instant)).map fun d => (Turn.handle d.2).effort).sum =
      2 * t.stations.countP fun s => (s.queue.deadline? s.settings).any (· ≤ instant) := by
    rw [← length_overdue]
    simp [Turn.effort, Nat.mul_comm]
  omega

/-! ## 6. Runs -/

/-- Nothing more can happen at the instant, and the run may stop there or has no next instant before
its horizon. -/
def IsSettled (stop : Timeline → Bool) (horizon : Option Nat) (t : Timeline) : Prop :=
  t.ready = [] ∧ (stop t = true ∨
    ∀ instant, t.nextInstant? = some instant → horizon.all (instant ≤ ·) = false)

/-- **A run ends because it may**, and not for want of turns. -/
theorem run_settles (h : t.Prompt) (stop : Timeline → Bool) (horizon : Option Nat) {fuel : Nat}
    (hfuel : t.effort < fuel) : (run stop horizon fuel t).IsSettled stop horizon := by
  induction fuel generalizing t with
  | zero => exact absurd hfuel (Nat.not_lt_zero _)
  | succ fuel ih =>
    have hless : ∀ {effort}, effort < t.effort → effort < fuel := fun hlt =>
      Nat.lt_of_lt_of_le hlt (Nat.le_of_lt_succ hfuel)
    rw [run]
    split
    · rename_i turn rest hready
      exact ih (h.perform hready) (hless (effort_perform_lt hready))
    · rename_i hready
      split
      · rename_i hstop
        exact ⟨hready, .inl hstop⟩
      · split
        · rename_i hnone
          exact ⟨hready, .inr fun instant hnext => by rw [hnone] at hnext; cases hnext⟩
        · rename_i instant hnext
          split
          · exact ih (h.moveTo instant) (hless (effort_moveTo_lt h hready hnext))
          · rename_i hlate
            refine ⟨hready, .inr fun later hlater => ?_⟩
            rw [hnext] at hlater
            cases hlater
            exact Bool.eq_false_iff.mpr hlate

theorem Station.effort_le_outstanding (now : Nat) (s : Station) :
    s.effort now ≤ ((Station.outstanding s).map Job.effort).sum := by
  rw [Station.effort, Queue.effort, Station.outstanding, List.map_append, List.sum_append,
    List.map_map, List.map_map]
  refine Nat.add_le_add (List.sum_le_sum fun w _ => ?_) (List.sum_le_sum fun m _ => ?_)
  · dsimp only [WaitingJob.effort, Job.effort, Function.comp_apply]
    split <;> omega
  · cases m with
    | submit job => exact Nat.le_refl _
    | complete job a probe => exact Nat.zero_le _

/-- The bound on a run, by what is at the stations, what is ready and what will end by itself. -/
theorem work_eq (t : Timeline) : t.work =
    2 * t.ready.length + (2 + (((t.stations.flatMap Station.outstanding).map Job.effort).sum +
      (((t.pending.map (·.exchange.job)).map Job.effort).sum +
        ((t.ready.filterMap Turn.job?).map Job.effort).sum))) := by
  have hfold : ∀ (jobs : List Job) (n : Nat),
      jobs.foldl (fun n j => n + 2 * j.retries + 8) n = n + (jobs.map Job.effort).sum := by
    intro jobs
    induction jobs with
    | nil => exact fun n => rfl
    | cons job jobs ih =>
      intro n
      rw [List.foldl_cons, ih, List.map_cons, List.sum_cons, Job.effort]
      omega
  rw [work, hfold, List.map_append, List.map_append, List.sum_append, List.sum_append]
  rfl

/-- **The bound on a run is above the effort ahead.** -/
theorem effort_lt_work (h : t.Prompt) : t.effort < t.work := by
  have hstations : (t.stations.map (Station.effort t.now)).sum ≤
      ((t.stations.flatMap Station.outstanding).map Job.effort).sum := by
    induction t.stations with
    | nil => exact Nat.le_refl 0
    | cons s l ih =>
      rw [List.map_cons, List.sum_cons, List.flatMap_cons, List.map_append, List.sum_append]
      exact Nat.add_le_add (Station.effort_le_outstanding t.now s) ih
  have hpending : (t.pending.map PendingReply.effort).sum ≤
      ((t.pending.map (·.exchange.job)).map Job.effort).sum := by
    rw [List.map_map]
    refine List.sum_le_sum fun p hp => ?_
    have hwithin := h.pending p hp
    rw [Exchange.IsWithin] at hwithin
    dsimp only [PendingReply.effort, Job.effort, Function.comp_apply]
    omega
  have hready : ∀ l : List Turn, (∀ turn ∈ l, turn.IsWithin) → (l.map Turn.effort).sum ≤
      2 * l.length + ((l.filterMap Turn.job?).map Job.effort).sum := by
    intro l hl
    induction l with
    | nil => exact Nat.le_refl 0
    | cons turn l ih =>
      obtain ⟨hturn, hl⟩ := List.forall_mem_cons.mp hl
      have hrest := ih hl
      rw [List.map_cons, List.sum_cons, List.filterMap_cons, List.length_cons]
      cases turn <;>
        simp only [Turn.IsWithin, Exchange.IsWithin, Turn.job?, Turn.effort, Job.effort,
          List.map_cons, List.sum_cons] at hturn hrest ⊢ <;> omega
  have hturns := hready t.ready h.ready
  rw [work_eq, effort]
  omega

theorem IsSettled.lt_of_deadline {horizon instant : Nat} {stop : Timeline → Bool}
    (h : t.IsSettled stop (some horizon)) (hstop : stop t = false)
    (hinstant : instant ∈ t.deadlines.map (·.1)) : horizon < instant := by
  have hmem : instant ∈ t.pending.map (·.due) ++ t.deadlines.map (·.1) :=
    List.mem_append_right _ hinstant
  cases hnext : t.nextInstant? with
  | none => exact absurd (List.min?_eq_none_iff.mp hnext) (List.ne_nil_of_mem hmem)
  | some next =>
    have hlate := (h.2.resolve_left (by rw [hstop]; exact Bool.false_ne_true)) next hnext
    have hle := (List.min?_eq_some_iff.mp hnext).2 instant hmem
    simp only [Option.all_some, decide_eq_false_iff_not] at hlate
    omega

namespace Prompt

/-- Up to an instant, everything is done that can be done. -/
theorem advance (h : t.Prompt) (horizon : Nat) : (t.advance horizon).Prompt := by
  have hsettled := run_settles h (fun _ => false) (some horizon) (effort_lt_work h)
  have hrun := h.run (fun _ => false) (some horizon) t.work
  rw [Timeline.advance]
  generalize Timeline.run (fun _ => false) (some horizon) t.work t = t' at hsettled hrun ⊢
  refine ⟨fun i s hs busy => ?_, hrun.ready, hrun.pending⟩
  refine hrun.stations i s hs (busy.imp_right ?_)
  rintro ⟨instant, hdeadline, hle⟩
  have hlate : horizon < instant := hsettled.lt_of_deadline rfl
    (List.mem_map.mpr ⟨(instant, i), mem_deadlines.mpr ⟨s, hs, hdeadline⟩, rfl⟩)
  refine ⟨instant, hdeadline, ?_⟩
  rcases le_max_iff.mp hle with hnow | hhorizon
  · exact hnow
  · exact absurd hhorizon (Nat.not_le_of_lt hlate)

theorem await (h : t.Prompt) (tickets : List Nat) : (t.await tickets).Prompt := h.run _ _ _

theorem submit (h : t.Prompt) (i : Nat) (call : Call) (retries : Nat) :
    (t.submit i call retries).1.Prompt :=
  post (t := { t with
    nextTicket := t.nextTicket + 1
    callers := t.callers ++ [(t.nextTicket, t.now)] }) ⟨h.stations, h.ready, h.pending⟩ _

theorem abandon (h : t.Prompt) (ticket : Nat) : (t.abandon ticket).Prompt := by
  refine ⟨fun i s hs busy => ?_, h.ready, h.pending⟩
  rw [Timeline.abandon, List.getElem?_map] at hs
  obtain ⟨s, hold, rfl⟩ := Option.map_eq_some_iff.mp hs
  refine h.stations i s hold (busy.imp_right ?_)
  rintro ⟨instant, hdeadline, hle⟩
  refine ⟨instant, ?_, hle⟩
  have hsame := Queue.map_waiting_abandon (fun w => w.since + s.settings.queueTimeout)
    (fun _ => rfl) ticket s.queue
  rw [← hdeadline, Queue.deadline?, Queue.deadline?, ← List.head?_map, ← List.head?_map]
  exact (congrArg List.head? hsame).symm

theorem extend (h : t.Prompt) {extra : List Station} (idle : ∀ s ∈ extra, s.IsIdle) :
    (t.extend extra).Prompt := by
  refine ⟨fun i s hs busy => ?_, h.ready, h.pending⟩
  rw [Timeline.extend, List.getElem?_append] at hs
  split at hs
  · exact h.stations i s hs busy
  · obtain ⟨hqueue, hmailbox⟩ := idle s (List.mem_of_getElem? hs)
    rcases busy with hmail | ⟨instant, hdeadline, -⟩
    · exact absurd hmailbox hmail
    · rw [hqueue] at hdeadline
      cases hdeadline

end Prompt

end Timeline

end LoginGate
