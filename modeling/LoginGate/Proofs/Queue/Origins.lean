/-
# Where answers come from

A caller is answered with the reply to its own call, or with one of the three answers that a queue
gives without a call (`Answer.Origin`).  A reply on its way passes through four places: the transport
that makes it, the attempt that waits for its end, the mailbox of the station, and the record of the
caller.  Nothing on the way mixes up calls or makes up replies: `Timeline.Traced` says so of all these
places at once, given the calls that were submitted by their tickets, and every operation of a
timeline keeps it.
-/
import LoginGate.Proofs.Queue.Stations

namespace LoginGate

/-! ## 1. Replies of a transport -/

/-- The replies that a transport may make to a call: those in the script for the call's URL, those in
the common script, and the one that is made where a script ends. -/
inductive Transport.Makes (t : Transport) (call : Call) : Reply → Prop
  | byUrl {attempts : List Attempt} {a : Attempt}
      (hurl : Entries.get? call.url t.byUrl = some attempts) (ha : a ∈ attempts) :
      Makes t call a.reply
  | common {a : Attempt} (ha : a ∈ t.common) : Makes t call a.reply
  | ended : Makes t call (.success 200 [])

namespace Transport

variable {t : Transport} {call : Call}

/-- The next attempt ends with a reply that may be made. -/
theorem makes_take (t : Transport) (call : Call) : t.Makes call (t.take call).1.reply := by
  rw [take]
  split
  · rename_i a rest hurl
    exact .byUrl hurl List.mem_cons_self
  · split
    · rename_i a rest hcommon
      exact .common (hcommon ▸ List.mem_cons_self)
    · exact .ended

/-- What may still be made after an attempt could be made before it. -/
theorem makes_of_take {other : Call} {reply : Reply} (h : (t.take other).2.Makes call reply) :
    t.Makes call reply := by
  rw [take] at h
  split at h
  · rename_i a rest hother
    cases h with
    | byUrl hurl ha =>
      rw [Entries.get?_insert] at hurl
      split at hurl
      · rename_i heq
        cases hurl
        exact .byUrl (heq ▸ hother) (List.mem_cons_of_mem a ha)
      · exact .byUrl hurl ha
    | common ha => exact .common ha
    | ended => exact .ended
  · split at h
    · rename_i a rest hcommon
      cases h with
      | byUrl hurl ha => exact .byUrl hurl ha
      | common ha => exact .common (hcommon ▸ List.mem_cons_of_mem a ha)
      | ended => exact .ended
    · exact h

end Transport

/-! ## 2. Answers of a queue -/

/-- The answers that a queue gives without a call. -/
def Queue.ownAnswers : List Answer := [offlineAnswer, fullAnswer, timeoutAnswer]

/-- An answer is that of a reply which was made, or one of the queue's own; the time that it took is
put in when it is handed over. -/
inductive Answer.Origin (Made : Reply → Prop) : Answer → Prop
  | reply {reply : Reply} (h : Made reply) (elapsed : Nat) :
      Origin Made { reply.answer with elapsed }
  | own {a : Answer} (h : a ∈ Queue.ownAnswers) (elapsed : Nat) : Origin Made { a with elapsed }

theorem Answer.Origin.withElapsed {Made : Reply → Prop} {a : Answer} (h : a.Origin Made)
    (elapsed : Nat) : Answer.Origin Made { a with elapsed } := by
  cases h with
  | reply h => exact .reply h elapsed
  | own h => exact .own h elapsed

/-- **An answer is the queue's own unless it says how a call ended.** -/
theorem Queue.own_or_reply {settings : Settings} {now : Nat} {q : Queue} {event : Event}
    {job : Job} {a : Answer} (h : (job, a) ∈ answers (q.react settings now event).2) :
    a ∈ ownAnswers ∨ ∃ reply probe, event = .complete job reply probe ∧ a = reply.answer := by
  have hr := react_reaction settings now q event
  generalize q.react settings now event = out at hr h
  obtain ⟨q', es⟩ := out
  cases hr with
  | submit taken =>
    cases taken with
    | probe | started | waits => cases h
    | refused | full =>
      cases List.mem_singleton.mp h
      exact .inl (by simp [ownAnswers])
  | @complete done reply probe _ _ ended =>
    cases ended with
    | flushed offline =>
      rcases List.mem_cons.mp h with heq | h
      · cases heq
        exact .inr ⟨reply, probe, rfl, rfl⟩
      · rw [show a = _ from answers_dismiss h]
        exact .inl (by simp [ownAnswers])
    | released online line busy room =>
      rcases List.mem_cons.mp h with heq | h
      · cases heq
        exact .inr ⟨reply, probe, rfl, rfl⟩
      · rw [show a = _ from answers_settle h]
        exact .inl (by simp [ownAnswers])
  | expire line late young =>
    rw [show a = _ from answers_dismiss h]
    exact .inl (by simp [ownAnswers])
  | abandon => cases h

/-! ## 3. Jobs for the calls that were submitted -/

section Traced

variable (calls : List Call) (Made : Call → Reply → Prop)

/-- The job is for the call that was submitted under its ticket. -/
def Job.IsFor (job : Job) : Prop := calls[job.ticket]? = some job.call

/-- Whoever is in line has a job for the call that was submitted. -/
def Queue.Traced (q : Queue) : Prop := ∀ w ∈ q.waiting, w.job.IsFor calls

/-- A message concerns such a job, and one that tells the end of a call holds a reply to it. -/
def Message.Traced : Message → Prop
  | submit job => job.IsFor calls
  | complete job answer _ => job.IsFor calls ∧ ∃ reply, Made job.call reply ∧ answer = reply.answer

/-- An effect concerns such a job, and the answer to it comes from its call. -/
def Queue.Effect.Traced : Queue.Effect → Prop
  | start job _ | discard job => job.IsFor calls
  | answer job a => job.IsFor calls ∧ a.Origin (Made job.call)

/-- What is ready to happen concerns such a job, and a reply is one to its call. -/
def Turn.Traced : Turn → Prop
  | handle _ => True
  | attempt e => e.job.IsFor calls
  | reply e r => e.job.IsFor calls ∧ Made e.job.call r

/-- Every reply, wherever it is, was made to the call that was submitted under the ticket. -/
structure Timeline.Traced (t : Timeline) : Prop where
  tickets : t.nextTicket = calls.length
  transport : ∀ call reply, t.transport.Makes call reply → Made call reply
  queue : ∀ s ∈ t.stations, s.queue.Traced calls
  mailbox : ∀ s ∈ t.stations, ∀ m ∈ s.mailbox, m.Traced calls Made
  ready : ∀ turn ∈ t.ready, turn.Traced calls Made
  pending : ∀ p ∈ t.pending, p.exchange.job.IsFor calls ∧ Made p.exchange.job.call p.reply
  answered : ∀ n a, (n, a) ∈ t.answered → ∃ call, calls[n]? = some call ∧ a.Origin (Made call)

end Traced

variable {calls : List Call} {Made : Call → Reply → Prop}

theorem Job.IsFor.append {job : Job} (h : job.IsFor calls) (more : List Call) :
    job.IsFor (calls ++ more) := by
  rw [IsFor, List.getElem?_append_left (List.getElem?_eq_some_iff.mp h).1]
  exact h

theorem Message.Traced.append {m : Message} (h : m.Traced calls Made) (more : List Call) :
    m.Traced (calls ++ more) Made := by
  cases m with
  | submit job => exact Job.IsFor.append h more
  | complete job answer probe => exact ⟨h.1.append more, h.2⟩

theorem Turn.Traced.append {turn : Turn} (h : turn.Traced calls Made) (more : List Call) :
    turn.Traced (calls ++ more) Made := by
  cases turn with
  | handle i => trivial
  | attempt e => exact Job.IsFor.append h more
  | reply e reply => exact ⟨h.1.append more, h.2⟩

/-! ## 4. One message -/

namespace Queue

variable {q : Queue} (settings : Settings) (now : Nat)

/-- **An event passes on what it concerns**, and an answer comes from the call that it concerns. -/
theorem Traced.react (h : q.Traced calls) (event : Event)
    (hjobs : ∀ job ∈ event.jobs, job.IsFor calls)
    (hreply : ∀ job reply probe, event = .complete job reply probe → Made job.call reply) :
    (q.react settings now event).1.Traced calls ∧
      ∀ e ∈ (q.react settings now event).2, e.Traced calls Made := by
  have hbefore : ∀ job ∈ event.jobs ++ q.waiting.map WaitingJob.job, job.IsFor calls := by
    intro job hjob
    rcases List.mem_append.mp hjob with hjob | hjob
    · exact hjobs job hjob
    · obtain ⟨w, hw, rfl⟩ := List.mem_map.mp hjob
      exact h w hw
  have hperm := react_perm settings now q event
  refine ⟨fun w hw => ?_, fun e he => ?_⟩
  · exact hbefore _ (hperm.mem_iff.mpr (List.mem_append_left _ (List.mem_map_of_mem hw)))
  · have hjob := hbefore _ (hperm.mem_iff.mpr (List.mem_append_right _ (List.mem_map_of_mem he)))
    cases e with
    | start job probe => exact hjob
    | discard job => exact hjob
    | answer job a =>
      refine ⟨hjob, ?_⟩
      rcases own_or_reply (mem_answers.mpr he) with hown | ⟨reply, probe, hevent, rfl⟩
      · exact .own hown a.elapsed
      · exact .reply (hreply job reply probe hevent) _

theorem Traced.handleMessage (h : q.Traced calls) {m : Message} (hm : m.Traced calls Made) :
    (Timeline.handleMessage settings now q m).1.Traced calls ∧
      ∀ e ∈ (Timeline.handleMessage settings now q m).2, e.Traced calls Made := by
  cases m with
  | submit job =>
    exact h.react settings now (.submit job) (fun j hj => List.mem_singleton.mp hj ▸ hm) nofun
  | complete job answer probe =>
    obtain ⟨hjob, reply, hmade, rfl⟩ := hm
    refine h.react settings now (.complete job reply probe)
      (fun j hj => List.mem_singleton.mp hj ▸ hjob) fun j r p heq => ?_
    cases heq
    exact hmade

theorem Traced.handleMessages (h : q.Traced calls) {ms : List Message}
    (hms : ∀ m ∈ ms, m.Traced calls Made) :
    (Timeline.handleMessages settings now q ms).1.Traced calls ∧
      ∀ e ∈ (Timeline.handleMessages settings now q ms).2, e.Traced calls Made := by
  induction ms generalizing q with
  | nil => exact ⟨h, nofun⟩
  | cons m ms ih =>
    obtain ⟨hm, hms⟩ := List.forall_mem_cons.mp hms
    obtain ⟨hfirst, heffects⟩ := h.handleMessage settings now hm
    obtain ⟨hrest, hmore⟩ := ih hfirst hms
    exact ⟨hrest, fun e he => (List.mem_append.mp he).elim (heffects e) (hmore e)⟩

end Queue

/-! ## 5. Operations of a timeline -/

namespace Timeline.Traced

variable {t : Timeline} {i : Nat}

theorem mem_modify {α : Type} {f : α → α} {l : List α} {x : α} (h : x ∈ l.modify i f) :
    x ∈ l ∨ ∃ y ∈ l, x = f y := by
  obtain ⟨j, hj⟩ := List.mem_iff_getElem?.mp h
  rw [List.getElem?_modify] at hj
  obtain ⟨y, hy, hx⟩ := Option.map_eq_some_iff.mp hj
  have hmem := List.mem_of_getElem? hy
  split at hx
  · exact .inr ⟨y, hmem, hx.symm⟩
  · exact .inl (hx ▸ hmem)

theorem modifyStation (h : t.Traced calls Made) {f : Station → Station}
    (hqueue : ∀ s ∈ t.stations, (f s).queue.Traced calls)
    (hmailbox : ∀ s ∈ t.stations, ∀ m ∈ (f s).mailbox, m.Traced calls Made) :
    (t.modifyStation i f).Traced calls Made where
  tickets := h.tickets
  transport := h.transport
  queue := fun s hs => by
    rcases mem_modify hs with hold | ⟨s, hold, rfl⟩
    · exact h.queue s hold
    · exact hqueue s hold
  mailbox := fun s hs => by
    rcases mem_modify hs with hold | ⟨s, hold, rfl⟩
    · exact h.mailbox s hold
    · exact hmailbox s hold
  ready := h.ready
  pending := h.pending
  answered := h.answered

theorem ready_append (h : t.Traced calls Made) {turns : List Turn}
    (hturns : ∀ turn ∈ turns, turn.Traced calls Made) :
    ({ t with ready := t.ready ++ turns } : Timeline).Traced calls Made :=
  { h with ready := fun x hx => (List.mem_append.mp hx).elim (h.ready x) (hturns x) }

theorem wake (h : t.Traced calls Made) : (t.wake (.handle i)).Traced calls Made := by
  rw [Timeline.wake]
  split
  · exact h
  · exact h.ready_append fun x hx => by
      rw [List.mem_singleton.mp hx]
      trivial

theorem post (h : t.Traced calls Made) {m : Message} (hm : m.Traced calls Made) :
    (t.post i m).Traced calls Made := by
  refine wake ?_
  refine h.modifyStation (fun s hs => h.queue s hs) fun s hs x hx => ?_
  rcases List.mem_append.mp hx with hx | hx
  · exact h.mailbox s hs x hx
  · exact List.mem_singleton.mp hx ▸ hm

theorem carryOut (h : t.Traced calls Made) {e : Queue.Effect} (he : e.Traced calls Made) :
    (carryOut i t e).Traced calls Made := by
  cases e with
  | start job probe =>
    exact h.ready_append fun x hx => by
      rw [List.mem_singleton.mp hx]
      exact he
  | discard job => exact h
  | answer job a =>
    rw [Timeline.carryOut, deliver]
    split
    · exact h
    · refine { h with answered := fun n b hb => ?_ }
      rcases List.mem_append.mp hb with hb | hb
      · exact h.answered n b hb
      · cases List.mem_singleton.mp hb
        exact ⟨job.call, he.1, he.2.withElapsed _⟩

theorem foldl_carryOut (h : t.Traced calls Made) {effects : List Queue.Effect}
    (heffects : ∀ e ∈ effects, e.Traced calls Made) :
    (effects.foldl (Timeline.carryOut i) t).Traced calls Made := by
  induction effects generalizing t with
  | nil => exact h
  | cons e rest ih =>
    obtain ⟨he, hrest⟩ := List.forall_mem_cons.mp heffects
    exact ih (h.carryOut he) hrest

/-- A station that handles its messages answers its own callers. -/
theorem handle (h : t.Traced calls Made) : (t.handle i).Traced calls Made := by
  rw [Timeline.handle]
  split
  · exact h
  · rename_i s hs
    have hmem := List.mem_of_getElem? hs
    obtain ⟨hq, hfirst⟩ :=
      (h.queue s hmem).handleMessages s.settings t.now (h.mailbox s hmem)
    obtain ⟨hexpired, hsecond⟩ := @hq.react _ Made _ s.settings t.now .expire
      (fun _ hjob => absurd hjob List.not_mem_nil) (fun _ _ _ h => Queue.Event.noConfusion h)
    refine (h.modifyStation (fun _ _ => hexpired) fun _ _ m hm => ?_).foldl_carryOut fun e he => ?_
    · cases hm
    · exact (List.mem_append.mp he).elim (hfirst e) (hsecond e)

/-- The end of a call is told with a reply that was made to it. -/
theorem post_complete (h : t.Traced calls Made) {e : Exchange} (he : e.job.IsFor calls)
    {reply : Reply} (hreply : Made e.job.call reply) :
    (t.post e.station (.complete e.job reply.answer e.probe)).Traced calls Made :=
  h.post ⟨he, reply, hreply, rfl⟩

/-- **Attempts** take their replies from the transport. -/
theorem attempt (h : t.Traced calls Made) {e : Exchange} (he : e.job.IsFor calls)
    (retries : Nat) : (attempt e retries t).Traced calls Made := by
  have hsent : ∀ {t : Timeline}, t.Traced calls Made → ∀ sent,
      ({ t with transport := (t.transport.take e.job.call).2, sent } : Timeline).Traced calls Made ∧
        Made e.job.call (t.transport.take e.job.call).1.reply := fun {t} h sent =>
    ⟨{ h with transport := fun call reply hr => h.transport call reply (Transport.makes_of_take hr) },
      h.transport _ _ (Transport.makes_take t.transport e.job.call)⟩
  have hpending : ∀ {t : Timeline}, t.Traced calls Made → ∀ (due retries : Nat) (reply : Reply),
      Made e.job.call reply →
      ({ t with pending := t.pending ++ [{ due, exchange := { e with retries }, reply }] } :
        Timeline).Traced calls Made := fun {t} h due retries reply hreply =>
    { h with
      pending := fun p hp => (List.mem_append.mp hp).elim (h.pending p) fun hp => by
        cases List.mem_singleton.mp hp
        exact ⟨he, hreply⟩ }
  induction retries generalizing t with
  | zero =>
    rw [Timeline.attempt]
    obtain ⟨ht, hreply⟩ := hsent h _
    dsimp only
    split
    · exact ht.post_complete he hreply
    · exact hpending ht _ _ _ hreply
  | succ retries ih =>
    rw [Timeline.attempt]
    obtain ⟨ht, hreply⟩ := hsent h _
    dsimp only
    split
    · split
      · exact ih ht
      · exact ht.post_complete he hreply
    · exact hpending ht _ _ _ hreply

theorem perform (h : t.Traced calls Made) {turn : Turn} (hturn : turn.Traced calls Made) :
    (t.perform turn).Traced calls Made := by
  cases turn with
  | handle i => exact h.handle
  | attempt e => exact h.attempt hturn e.retries
  | reply e reply =>
    rw [Timeline.perform]
    split
    · split
      · exact h.attempt hturn.1 _
      · exact h.post_complete hturn.1 hturn.2
    · exact h.post_complete hturn.1 hturn.2

theorem moveTo (h : t.Traced calls Made) (instant : Nat) :
    (t.moveTo instant).Traced calls Made := by
  refine { h with
    ready := fun turn hturn => ?_
    pending := fun p hp => h.pending p (mem_pending_moveTo hp) }
  rcases mem_ready_moveTo hturn with hturn | ⟨p, hp, rfl⟩ | ⟨d, -, rfl⟩
  · exact h.ready turn hturn
  · exact h.pending p hp
  · trivial

/-- **Time keeps every reply with its call.** -/
theorem run (h : t.Traced calls Made) (stop : Timeline → Bool) (horizon : Option Nat)
    (fuel : Nat) : (run stop horizon fuel t).Traced calls Made :=
  run_induction t (P := Timeline.Traced calls Made)
    (fun t turn rest hready h =>
      have hrest : ({ t with ready := rest } : Timeline).Traced calls Made :=
        { h with ready := fun x hx => h.ready x (hready ▸ List.mem_cons_of_mem _ hx) }
      hrest.perform (h.ready turn (hready ▸ List.mem_cons_self)))
    (fun _ instant h => h.moveTo instant) stop horizon fuel h

theorem advance (h : t.Traced calls Made) (horizon : Nat) :
    (t.advance horizon).Traced calls Made :=
  { h.run (fun _ => false) (some horizon) t.work with }

theorem await (h : t.Traced calls Made) (tickets : List Nat) :
    (t.await tickets).Traced calls Made :=
  h.run _ _ _

/-! ## 6. Callers and stations -/

/-- A call is submitted under the next ticket. -/
theorem submit (h : t.Traced calls Made) (call : Call) (retries : Nat) :
    (t.submit i call retries).1.Traced (calls ++ [call]) Made := by
  have hgrown : ({ t with
      nextTicket := t.nextTicket + 1
      callers := t.callers ++ [(t.nextTicket, t.now)] } : Timeline).Traced (calls ++ [call]) Made :=
    { tickets := by rw [List.length_append, List.length_singleton, ← h.tickets]
      transport := h.transport
      queue := fun s hs w hw => (h.queue s hs w hw).append _
      mailbox := fun s hs m hm => (h.mailbox s hs m hm).append _
      ready := fun turn hturn => (h.ready turn hturn).append _
      pending := fun p hp => ⟨(h.pending p hp).1.append _, (h.pending p hp).2⟩
      answered := fun n a ha => by
        obtain ⟨c, hc, horigin⟩ := h.answered n a ha
        refine ⟨c, ?_, horigin⟩
        rw [List.getElem?_append_left (List.getElem?_eq_some_iff.mp hc).1]
        exact hc }
  refine hgrown.post ?_
  rw [Message.Traced, Job.IsFor, h.tickets, List.getElem?_concat_length]

theorem abandon (h : t.Traced calls Made) (ticket : Nat) :
    (t.abandon ticket).Traced calls Made where
  tickets := h.tickets
  transport := h.transport
  queue := fun s hs w hw => by
    obtain ⟨s, hold, rfl⟩ := List.mem_map.mp hs
    have hjob : w.job ∈ (s.queue.abandon ticket).waiting.map WaitingJob.job := List.mem_map_of_mem hw
    rw [Queue.map_waiting_abandon _ (fun _ => rfl)] at hjob
    obtain ⟨w', hw', heq⟩ := List.mem_map.mp hjob
    exact heq ▸ h.queue s hold w' hw'
  mailbox := fun s hs m hm => by
    obtain ⟨s, hold, rfl⟩ := List.mem_map.mp hs
    exact h.mailbox s hold m hm
  ready := h.ready
  pending := h.pending
  answered := h.answered

theorem extend (h : t.Traced calls Made) {extra : List Station} (idle : ∀ s ∈ extra, s.IsIdle) :
    (t.extend extra).Traced calls Made where
  tickets := h.tickets
  transport := h.transport
  queue := fun s hs => by
    rcases List.mem_append.mp hs with hs | hs
    · exact h.queue s hs
    · rw [(idle s hs).1]
      exact nofun
  mailbox := fun s hs => by
    rcases List.mem_append.mp hs with hs | hs
    · exact h.mailbox s hs
    · rw [(idle s hs).2]
      exact nofun
  ready := h.ready
  pending := h.pending
  answered := h.answered

end Timeline.Traced

end LoginGate
