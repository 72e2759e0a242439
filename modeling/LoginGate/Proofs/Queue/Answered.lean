/-
# Time answers everybody

As long as a caller waits, its job is somewhere: in the line or the mailbox of a station, ready to be
taken further, or on its way (`Timeline.Served`).  Every turn keeps this, since a station loses no
job whose caller is still there.  A timeline that has nothing left to do has no job anywhere, so it
has answered everybody, and a run for the answers of some tickets does not end before they are there
(`answered_await`).
-/
import LoginGate.Proofs.Queue.Settling

namespace LoginGate

/-! ## 1. Jobs at a station -/

/-- The job that a message is about. -/
def Message.job : Message → Job
  | submit job | complete job .. => job

namespace Queue

variable {settings : Settings} {now n : Nat} {q : Queue}

/-- A job of the ticket is started or answered. -/
def Effect.Serves (n : Nat) : Effect → Prop
  | start job _ | answer job _ => job.ticket = n
  | discard _ => False

/-- Someone in line waits for the answer of the ticket. -/
def Holds (n : Nat) (q : Queue) : Prop :=
  ∃ w ∈ q.waiting, w.abandoned = false ∧ w.job.ticket = n

theorem serves_settle {w : WaitingJob} (h : w.abandoned = false) :
    (settle settings now w).Serves w.job.ticket := by
  rw [settle, h]
  simp only [Bool.false_eq_true, if_false]
  split <;> rfl

theorem serves_dismiss (a : Answer) {w : WaitingJob} (h : w.abandoned = false) :
    (dismiss w a).Serves w.job.ticket := by
  rw [dismiss, h]
  rfl

/-- Whoever leaves the line while its caller waits is started or answered. -/
theorem holds_or_serves_of_passed {passed rest : List WaitingJob} {f : WaitingJob → Effect}
    (hf : ∀ w, w.abandoned = false → (f w).Serves w.job.ticket)
    (line : q.waiting = passed ++ rest) (h : q.Holds n) :
    (∃ w ∈ rest, w.abandoned = false ∧ w.job.ticket = n) ∨ ∃ e ∈ passed.map f, e.Serves n := by
  obtain ⟨w, hw, present, rfl⟩ := h
  rw [line] at hw
  rcases List.mem_append.mp hw with hw | hw
  · exact .inr ⟨f w, List.mem_map_of_mem hw, hf w present⟩
  · exact .inl ⟨w, hw, present, rfl⟩

/-- **No job gets lost in a message.** -/
theorem holds_or_serves_handleMessage (settings : Settings) (now : Nat) {m : Message}
    (h : q.Holds n ∨ m.job.ticket = n) :
    (Timeline.handleMessage settings now q m).1.Holds n ∨
      ∃ e ∈ (Timeline.handleMessage settings now q m).2, e.Serves n := by
  have hm := Timeline.handleMessage_handling settings now q m
  generalize Timeline.handleMessage settings now q m = out at hm ⊢
  obtain ⟨q', es⟩ := out
  cases hm with
  | submit taken =>
    cases taken with
    | refused | full | probe | started =>
      exact h.imp id fun hjob => ⟨_, List.mem_singleton_self _, hjob⟩
    | waits =>
      rcases h with ⟨w, hw, hwait⟩ | hjob
      · exact .inl ⟨w, List.mem_append_left _ hw, hwait⟩
      · exact .inl ⟨_, List.mem_append_right _ (List.mem_singleton_self _), rfl, hjob⟩
  | complete ended =>
    rcases h with hqueue | hjob
    · cases ended with
      | flushed offline =>
        refine (holds_or_serves_of_passed (fun w => serves_dismiss offlineAnswer)
          (List.append_nil q.waiting).symm hqueue).imp id fun ⟨e, he, hserves⟩ => ?_
        exact ⟨e, List.mem_cons_of_mem _ he, hserves⟩
      | released online line busy room =>
        refine (holds_or_serves_of_passed (f := settle settings now) (fun w => serves_settle) line
          hqueue).imp id fun ⟨e, he, hserves⟩ => ?_
        exact ⟨e, List.mem_cons_of_mem _ he, hserves⟩
    · cases ended <;> exact .inr ⟨_, List.mem_cons_self, hjob⟩

theorem holds_or_serves_handleMessages (settings : Settings) (now : Nat) {ms : List Message}
    (h : q.Holds n ∨ ∃ m ∈ ms, m.job.ticket = n) :
    (Timeline.handleMessages settings now q ms).1.Holds n ∨
      ∃ e ∈ (Timeline.handleMessages settings now q ms).2, e.Serves n := by
  induction ms generalizing q with
  | nil => exact h.imp id fun ⟨m, hm, _⟩ => absurd hm List.not_mem_nil
  | cons m ms ih =>
    have hnext : ((Timeline.handleMessage settings now q m).1.Holds n ∨
          ∃ e ∈ (Timeline.handleMessage settings now q m).2, e.Serves n) ∨
        ∃ m ∈ ms, m.job.ticket = n := by
      rcases h with hqueue | ⟨m', hm', hjob⟩
      · exact .inl (holds_or_serves_handleMessage settings now (.inl hqueue))
      · rcases List.mem_cons.mp hm' with rfl | hm'
        · exact .inl (holds_or_serves_handleMessage settings now (.inr hjob))
        · exact .inr ⟨m', hm', hjob⟩
    rcases hnext with (hqueue | ⟨e, he, hserves⟩) | hlater
    · exact (ih (.inl hqueue)).imp id fun ⟨e, he, hserves⟩ =>
        ⟨e, List.mem_append_right _ he, hserves⟩
    · exact .inr ⟨e, List.mem_append_left _ he, hserves⟩
    · exact (ih (.inr hlater)).imp id fun ⟨e, he, hserves⟩ =>
        ⟨e, List.mem_append_right _ he, hserves⟩

theorem holds_or_serves_expire (settings : Settings) (now : Nat) (h : q.Holds n) :
    (q.expire settings now).1.Holds n ∨ ∃ e ∈ (q.expire settings now).2, e.Serves n := by
  obtain ⟨passed, rest, line, he, -⟩ := expire_eq settings now q
  rw [he]
  exact holds_or_serves_of_passed (fun w => serves_dismiss timeoutAnswer) line h

end Queue

/-! ## 2. Jobs under way -/

/-- A job of the ticket is at the station, and its caller waits if it is in line. -/
def Station.Holds (n : Nat) (s : Station) : Prop :=
  s.queue.Holds n ∨ ∃ m ∈ s.mailbox, m.job.ticket = n

/-- A job of the ticket is under way. -/
inductive Timeline.Holds (n : Nat) (t : Timeline) : Prop
  | station {s : Station} (hs : s ∈ t.stations) (h : s.Holds n)
  | ready {turn : Turn} {job : Job} (hturn : turn ∈ t.ready) (hjob : turn.job? = some job)
      (hn : job.ticket = n)
  | pending {p : PendingReply} (hp : p ∈ t.pending) (hn : p.exchange.job.ticket = n)

namespace Timeline

variable {t : Timeline} {i n : Nat}

theorem exists_mem_modify {α : Type} {P : α → Prop} {f : α → α} {l : List α}
    (hf : ∀ a, P a → P (f a)) (h : ∃ a ∈ l, P a) : ∃ a ∈ l.modify i f, P a := by
  obtain ⟨a, ha, hP⟩ := h
  obtain ⟨j, hj⟩ := List.mem_iff_getElem?.mp ha
  by_cases hij : i = j
  · refine ⟨f a, List.mem_of_getElem? (i := i) ?_, hf a hP⟩
    rw [List.getElem?_modify_eq, hij, hj]
    rfl
  · exact ⟨a, List.mem_of_getElem? ((List.getElem?_modify_ne f l hij).trans hj), hP⟩

theorem Holds.mono {t' : Timeline} (h : t.Holds n)
    (hstations : (∃ s ∈ t.stations, s.Holds n) → ∃ s ∈ t'.stations, s.Holds n)
    (hready : t.ready ⊆ t'.ready) (hpending : t.pending ⊆ t'.pending) : t'.Holds n := by
  cases h with
  | station hs hholds =>
    obtain ⟨s, hs, hholds⟩ := hstations ⟨_, hs, hholds⟩
    exact .station hs hholds
  | ready hturn hjob hn => exact .ready (hready hturn) hjob hn
  | pending hp hn => exact .pending (hpending hp) hn

theorem Holds.post (h : t.Holds n) (m : Message) : (t.post i m).Holds n := by
  obtain ⟨turns, -, heq⟩ := post_cases t i m
  rw [heq]
  exact h.mono (exists_mem_modify fun s h =>
      h.imp_right fun ⟨m', hm', hn⟩ => ⟨m', List.mem_append_left _ hm', hn⟩)
    (List.subset_append_left _ _) (List.Subset.refl _)

/-- A message to a station that there is arrives. -/
theorem holds_post_self (hi : i < t.stations.length) (m : Message) :
    (t.post i m).Holds m.job.ticket := by
  refine .station (s := { t.stations[i] with mailbox := t.stations[i].mailbox ++ [m] })
    (List.mem_of_getElem? (i := i) ?_)
    (.inr ⟨m, List.mem_append_right _ (List.mem_singleton_self m), rfl⟩)
  rw [stations_post, List.getElem?_modify_eq, List.getElem?_eq_getElem hi]
  rfl

/-- Jobs stay under way when an answer is handed over. -/
theorem Holds.deliver (h : t.Holds n) (job : Job) (a : Answer) : (t.deliver job a).Holds n := by
  rw [Timeline.deliver]
  split
  · exact h
  · exact h.mono id (List.Subset.refl _) (List.Subset.refl _)

/-- What was answered stays so. -/
theorem answered_prefix_deliver (job : Job) (a : Answer) :
    t.answered <+: (t.deliver job a).answered := by
  rw [deliver]
  split
  · exact List.prefix_refl _
  · exact List.prefix_append ..

/-- A caller that waits for its answer gets it. -/
theorem answered_deliver {job : Job} (h : job.ticket ∈ Entries.keys t.callers) (a : Answer) :
    job.ticket ∈ Entries.keys (t.deliver job a).answered := by
  obtain ⟨since, hsince⟩ := Option.isSome_iff_exists.mp (Entries.get?_isSome_iff.mpr h)
  rw [deliver, hsince, Entries.keys, List.map_append]
  exact List.mem_append_right _ (List.mem_singleton_self _)

/-- All others go on waiting. -/
theorem callers_deliver {job : Job} (hjob : job.ticket ≠ n) (a : Answer)
    (h : n ∈ Entries.keys t.callers) : n ∈ Entries.keys (t.deliver job a).callers := by
  rw [deliver]
  split
  · exact h
  · obtain ⟨c, hc, rfl⟩ := List.mem_map.mp h
    exact List.mem_map_of_mem (List.mem_filter.mpr ⟨hc, decide_eq_true (Ne.symm hjob)⟩)

theorem answered_prefix_foldl (effects : List Queue.Effect) :
    t.answered <+: (effects.foldl (carryOut i) t).answered := by
  induction effects generalizing t with
  | nil => exact List.prefix_refl _
  | cons e rest ih =>
    refine List.IsPrefix.trans ?_ ih
    cases e with
    | answer job a => exact answered_prefix_deliver job a
    | start job probe | discard job => exact List.prefix_refl _

theorem answered_post (m : Message) : (t.post i m).answered = t.answered := by
  obtain ⟨turns, -, heq⟩ := post_cases t i m
  rw [heq]

theorem callers_post (m : Message) : (t.post i m).callers = t.callers := by
  obtain ⟨turns, -, heq⟩ := post_cases t i m
  rw [heq]

theorem answered_prefix_perform (turn : Turn) : t.answered <+: (t.perform turn).answered := by
  rcases perform_cases t turn with ⟨i, -, h⟩ | ⟨e, retries, -, h⟩ | ⟨e, reply, -, h⟩
  · rw [h, handle]
    split
    · exact List.prefix_refl _
    · exact answered_prefix_foldl (t := t.modifyStation i _) _
  · have hsame : (t.perform turn).answered = t.answered := by
      obtain ⟨_, _, ⟨_, hended⟩ | ⟨_, _, _, -, hpending⟩⟩ := attempt_cases t e retries
      · rw [h, hended, answered_post]
      · rw [h, hpending]
    exact hsame ▸ List.prefix_refl _
  · have hsame : (t.perform turn).answered = t.answered := by rw [h, answered_post]
    exact hsame ▸ List.prefix_refl _

/-- **What was answered stays so.** -/
theorem answered_prefix_run (stop : Timeline → Bool) (horizon : Option Nat) (fuel : Nat) :
    t.answered <+: (run stop horizon fuel t).answered :=
  run_induction t (P := fun t' => t.answered <+: t'.answered)
    (fun t' turn rest _ h => h.trans (answered_prefix_perform (t := { t' with ready := rest }) turn))
    (fun _ _ h => h) stop horizon fuel (List.prefix_refl _)

theorem answered_prefix_advance (horizon : Nat) : t.answered <+: (t.advance horizon).answered :=
  answered_prefix_run ..

/-! ## 3. Everybody is served -/

/-- The caller with the ticket has its answer, or it waits while its job is under way or just in
hand. -/
def ServedWith (n : Nat) (InHand : Prop) (t : Timeline) : Prop :=
  n ∈ Entries.keys t.answered ∨ (n ∈ Entries.keys t.callers ∧ (t.Holds n ∨ InHand))

/-- The caller with the ticket has its answer, or it waits while its job is under way. -/
def Served (n : Nat) (t : Timeline) : Prop := t.ServedWith n False

namespace ServedWith

variable {InHand : Prop}

/-- What is in hand is put somewhere. -/
theorem served {t' : Timeline} (h : t.ServedWith n InHand) (hanswered : t'.answered = t.answered)
    (hcallers : t'.callers = t.callers) (hholds : t.Holds n ∨ InHand → t'.Holds n) :
    t'.Served n := by
  rw [Served, ServedWith, hanswered, hcallers]
  exact h.imp_right (And.imp_right fun h => .inl (hholds h))

theorem post {m : Message} (h : t.ServedWith n (m.job.ticket = n)) (hi : i < t.stations.length) :
    (t.post i m).Served n :=
  h.served (answered_post m) (callers_post m) fun hplace => by
    rcases hplace with hholds | rfl
    · exact hholds.post m
    · exact holds_post_self hi m

theorem attempt {e : Exchange} (h : t.ServedWith n (e.job.ticket = n))
    (he : e.station < t.stations.length) (retries : Nat) : (attempt e retries t).Served n := by
  obtain ⟨transport, sent, ⟨reply, heq⟩ | ⟨_, _, _, -, heq⟩⟩ := attempt_cases t e retries
  · rw [heq]
    refine post (t := { t with transport, sent }) (h.imp_right (And.imp_right ?_)) he
    exact Or.imp_left fun hholds => hholds.mono id (List.Subset.refl _) (List.Subset.refl _)
  · rw [heq]
    refine h.served rfl rfl fun hplace => ?_
    rcases hplace with hholds | hn
    · exact hholds.mono id (List.Subset.refl _) (List.subset_append_left _ _)
    · exact .pending (List.mem_append_right _ (List.mem_singleton_self _)) hn

/-- **Whoever is started or answered is served.** -/
theorem foldl_carryOut {effects : List Queue.Effect}
    (h : t.ServedWith n (∃ e ∈ effects, e.Serves n)) :
    (effects.foldl (carryOut i) t).Served n := by
  induction effects generalizing t with
  | nil => exact h.served rfl rfl fun hplace => hplace.elim id fun ⟨e, he, _⟩ =>
      absurd he List.not_mem_nil
  | cons e rest ih =>
    refine ih ?_
    cases e with
    | start job probe =>
      refine h.imp_right (And.imp_right fun hplace => ?_)
      rcases hplace with hholds | ⟨e, he, hserves⟩
      · exact .inl (hholds.mono id (List.subset_append_left _ _) (List.Subset.refl _))
      · rcases List.mem_cons.mp he with rfl | he
        · exact .inl (.ready (List.mem_append_right _ (List.mem_singleton_self _)) rfl hserves)
        · exact .inr ⟨e, he, hserves⟩
    | answer job a =>
      rcases h with hanswered | ⟨hcaller, hplace⟩
      · exact .inl (((answered_prefix_deliver job a).map Prod.fst).subset hanswered)
      · by_cases hjob : job.ticket = n
        · exact .inl (hjob ▸ answered_deliver (hjob ▸ hcaller) a)
        · refine .inr ⟨callers_deliver hjob a hcaller, ?_⟩
          rcases hplace with hholds | ⟨e, he, hserves⟩
          · exact .inl (hholds.deliver job a)
          · rcases List.mem_cons.mp he with rfl | he
            · exact absurd hserves hjob
            · exact .inr ⟨e, he, hserves⟩
    | discard job =>
      refine h.imp_right (And.imp_right fun hplace => hplace.imp_right ?_)
      rintro ⟨e, he, hserves⟩
      rcases List.mem_cons.mp he with rfl | he
      · cases hserves
      · exact ⟨e, he, hserves⟩

end ServedWith

namespace Served

/-- **A station loses no job whose caller waits.** -/
theorem handle (h : t.Served n) : (t.handle i).Served n := by
  rw [Timeline.handle]
  cases hi : t.stations[i]? with
  | none => exact h
  | some s =>
    refine ServedWith.foldl_carryOut (h.imp_right (And.imp_right fun hplace => ?_))
    cases hplace.resolve_right id with
    | ready hturn hjob hn => exact .inl (.ready hturn hjob hn)
    | pending hp hn => exact .inl (.pending hp hn)
    | @station s' hs hholds =>
      obtain ⟨j, hj⟩ := List.mem_iff_getElem?.mp hs
      by_cases hij : i = j
      · obtain rfl := Option.some.inj (hi.symm.trans (hij ▸ hj))
        rcases Queue.holds_or_serves_handleMessages s.settings t.now hholds with
          hqueue | ⟨e, he, hserves⟩
        · rcases Queue.holds_or_serves_expire s.settings t.now hqueue with
            hqueue | ⟨e, he, hserves⟩
          · refine .inl (.station (s := { s with queue := _, mailbox := [] })
              (List.mem_of_getElem? (i := i) ?_) (.inl hqueue))
            rw [modifyStation, List.getElem?_modify_eq, hi]
            rfl
          · exact .inr ⟨e, List.mem_append_right _ he, hserves⟩
        · exact .inr ⟨e, List.mem_append_left _ he, hserves⟩
      · refine .inl (.station (List.mem_of_getElem? (i := j) ?_) hholds)
        rw [modifyStation, List.getElem?_modify_ne _ _ hij, hj]

theorem perform {turn : Turn} {rest : List Turn} (h : t.Served n) (hready : t.ready = turn :: rest)
    (hattached : turn.station < t.stations.length) :
    (Timeline.perform { t with ready := rest } turn).Served n := by
  have hplace : ({ t with ready := rest } : Timeline).ServedWith n
      (∃ job, turn.job? = some job ∧ job.ticket = n) := by
    refine h.imp_right (And.imp_right fun hplace => ?_)
    cases hplace.resolve_right id with
    | station hs hholds => exact .inl (.station hs hholds)
    | pending hp hn => exact .inl (.pending hp hn)
    | ready hturn hjob hn =>
      rw [hready] at hturn
      rcases List.mem_cons.mp hturn with rfl | hturn
      · exact .inr ⟨_, hjob, hn⟩
      · exact .inl (.ready hturn hjob hn)
  have hinHand : ∀ e : Exchange, turn.job? = some e.job →
      ({ t with ready := rest } : Timeline).ServedWith n (e.job.ticket = n) := by
    refine fun e he => hplace.imp_right (And.imp_right (Or.imp_right ?_))
    rintro ⟨job, hjob, hn⟩
    rwa [Option.some.inj (he.symm.trans hjob)]
  cases turn with
  | handle i =>
    exact handle (hplace.imp_right (And.imp_right (Or.imp_right fun ⟨_, hjob, _⟩ => nomatch hjob)))
  | attempt e => exact (hinHand e rfl).attempt hattached e.retries
  | reply e reply =>
    rw [Timeline.perform]
    split
    · split
      · exact (hinHand e rfl).attempt hattached _
      · exact (hinHand e rfl).post hattached
    · exact (hinHand e rfl).post hattached

theorem moveTo (h : t.Served n) (instant : Nat) : (t.moveTo instant).Served n := by
  rw [moveTo_eq]
  refine ServedWith.served h rfl rfl fun hplace => ?_
  cases hplace.resolve_right id with
  | station hs hholds => exact .station hs hholds
  | ready hturn hjob hn =>
    exact .ready (List.mem_append_left _ (List.mem_append_left _ hturn)) hjob hn
  | @pending p hp hn =>
    by_cases hdue : p.due ≤ instant
    · have hturn : Turn.reply p.exchange p.reply ∈ (t.pending.filter (·.due ≤ instant)).map
          fun p => Turn.reply p.exchange p.reply :=
        List.mem_map_of_mem (List.mem_filter.mpr ⟨hp, decide_eq_true hdue⟩)
      exact .ready (List.mem_append_left _ (List.mem_append_right _ hturn)) rfl hn
    · exact .pending (List.mem_filter.mpr ⟨hp, by simp [hdue]⟩) hn

theorem run (h : t.Served n) (hattached : t.Attached) (stop : Timeline → Bool)
    (horizon : Option Nat) (fuel : Nat) : (run stop horizon fuel t).Served n :=
  (run_induction t (P := fun t => t.Attached ∧ t.Served n)
    (fun _ _ _ hready ⟨hattached, h⟩ =>
      have ⟨hrest, hturn⟩ := hattached.turn hready
      ⟨hrest.perform hturn, h.perform hready hturn⟩)
    (fun _ instant ⟨hattached, h⟩ => ⟨hattached.moveTo instant, h.moveTo instant⟩)
    stop horizon fuel ⟨hattached, h⟩).2

/-- Whoever submits a call to a station that there is, is served. -/
theorem submit_self (hi : i < t.stations.length) (call : Call) (retries : Nat) :
    (t.submit i call retries).1.Served t.nextTicket := by
  refine ServedWith.post (.inr ⟨?_, .inr rfl⟩) hi
  exact List.mem_map.mpr
    ⟨(t.nextTicket, t.now), List.mem_append_right _ (List.mem_singleton_self _), rfl⟩

theorem submit (h : t.Served n) (hi : i < t.stations.length) (call : Call) (retries : Nat) :
    (t.submit i call retries).1.Served n := by
  refine ServedWith.post (h.imp_right ?_) hi
  rintro ⟨hcaller, hplace⟩
  have hgrown : n ∈ Entries.keys (t.callers ++ [(t.nextTicket, t.now)]) := by
    rw [Entries.keys, List.map_append]
    exact List.mem_append_left _ hcaller
  exact ⟨hgrown, .inl ((hplace.resolve_right id).mono id (List.Subset.refl _) (List.Subset.refl _))⟩

end Served

/-! ## 4. Nobody is left waiting -/

/-- Where nothing is left to do, no job is under way. -/
theorem not_holds_of_nextInstant (h : t.Prompt) (hready : t.ready = [])
    (hnext : t.nextInstant? = none) : ¬ t.Holds n := by
  obtain ⟨hpending, hdeadlines⟩ := List.append_eq_nil_iff.mp (List.min?_eq_none_iff.mp hnext)
  intro hholds
  cases hholds with
  | ready hturn => exact absurd (hready ▸ hturn) List.not_mem_nil
  | pending hp => exact absurd (List.map_eq_nil_iff.mp hpending ▸ hp) List.not_mem_nil
  | @station s hs hholds =>
    rcases hholds with ⟨w, hw, -⟩ | ⟨m, hm, -⟩
    · obtain ⟨i, hi⟩ := List.mem_iff_getElem?.mp hs
      obtain ⟨instant, hinstant⟩ : ∃ instant, s.queue.deadline? s.settings = some instant := by
        rw [Queue.deadline?]
        cases hline : s.queue.waiting with
        | nil => exact absurd (hline ▸ hw) List.not_mem_nil
        | cons w ws => exact ⟨_, rfl⟩
      have hmem := mem_deadlines.mpr ⟨s, hi, hinstant⟩
      rw [List.map_eq_nil_iff.mp hdeadlines] at hmem
      cases hmem
    · exact h.not_busy hready s hs (.inl (List.ne_nil_of_mem hm))

/-- **Whoever is awaited gets an answer.** -/
theorem answered_await (h : t.Prompt) (hattached : t.Attached) (hserved : t.Served n)
    {tickets : List Nat} (hn : n ∈ tickets) : n ∈ Entries.keys (t.await tickets).answered := by
  obtain ⟨hready, hsettled⟩ := run_settles h
    (fun t => tickets.all fun n => t.callers.all (·.1 ≠ n)) none (effort_lt_work h)
  rcases hserved.run hattached (fun t => tickets.all fun n => t.callers.all (·.1 ≠ n)) none t.work
    with hanswered | ⟨hcaller, hholds⟩
  · exact hanswered
  · refine absurd (hholds.resolve_right id) ?_
    rcases hsettled with hstop | hnext
    · obtain ⟨c, hc, rfl⟩ := List.mem_map.mp hcaller
      have hgone := List.all_eq_true.mp (List.all_eq_true.mp hstop c.1 hn) c hc
      exact absurd rfl (of_decide_eq_true hgone)
    · refine not_holds_of_nextInstant (h.run _ none _) hready ?_
      refine Option.eq_none_iff_forall_ne_some.mpr fun instant hinstant => ?_
      cases hnext instant hinstant

end Timeline

end LoginGate
