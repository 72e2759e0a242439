/-
# Every call is answered, and the answer is to that call

A session changes its queues by a few operations only, so what each of them keeps holds in every
history (`kept_replay`).  Two things do: no station is overlooked (`Timeline.Prompt`), and every reply
is with the call that it was made to (`Timeline.Traced`).  So when requests that came together are
answered, each of them that leads to a call has an answer on record under its own ticket: the reply to
that call, or one that its queue gave without a call (`exists_answer`).
-/
import LoginGate.Proofs.Dispatch.Routing
import LoginGate.Proofs.Queue.Answered
import LoginGate.Proofs.Queue.Origins

namespace LoginGate

/-! ## 1. What all operations keep -/

/-- Whatever a session does to its queues keeps the property. -/
structure Timeline.Keeps (P : Timeline → Prop) : Prop where
  submit : ∀ {t : Timeline} (i : Nat) (call : Call) (retries : Nat), P t →
    P (t.submit i call retries).1
  advance : ∀ {t : Timeline} (horizon : Nat), P t → P (t.advance horizon)
  await : ∀ {t : Timeline} (tickets : List Nat), P t → P (t.await tickets)
  abandon : ∀ {t : Timeline} (ticket : Nat), P t → P (t.abandon ticket)
  extend : ∀ {t : Timeline} {extra : List Station}, (∀ s ∈ extra, s.IsIdle) → P t →
    P (t.extend extra)

theorem Timeline.keeps_prompt : Keeps Prompt where
  submit := fun i call retries h => h.submit i call retries
  advance := fun horizon h => h.advance horizon
  await := fun tickets h => h.await tickets
  abandon := fun ticket h => h.abandon ticket
  extend := fun idle h => h.extend idle

/-- The calls that were submitted first keep their tickets. -/
theorem Timeline.keeps_traced (first : List Call) (Made : Call → Reply → Prop) :
    Keeps fun t => ∃ more, t.Traced (first ++ more) Made where
  submit := fun _ call retries ⟨more, h⟩ =>
    ⟨more ++ [call], List.append_assoc first more _ ▸ h.submit call retries⟩
  advance := fun horizon ⟨more, h⟩ => ⟨more, h.advance horizon⟩
  await := fun tickets ⟨more, h⟩ => ⟨more, h.await tickets⟩
  abandon := fun ticket ⟨more, h⟩ => ⟨more, h.abandon ticket⟩
  extend := fun idle ⟨more, h⟩ => ⟨more, h.extend idle⟩

namespace Session

section Kept

variable {P : Timeline → Prop} (keeps : Timeline.Keeps P) {s : Session}
include keeps

theorem Batch.kept_begin {b : Batch} (h : P b.session.timeline) (backend : Backend)
    (settings : AuthSettings) (unix : Int) (r : Request) :
    P (b.begin backend settings unix r).session.timeline := by
  cases hplan : (Plan.ofRequest b.session.registry settings unix r).handover? with
  | none => exact (begin_of_no_call hplan).1 ▸ h
  | some handover =>
    cases backend with
    | immediate answer => exact (begin_of_call_immediate hplan answer).1 ▸ h
    | queues => exact (begin_of_call_queues hplan).1 ▸ keeps.submit _ _ _ h

theorem Batch.kept_foldl_begin {b : Batch} (h : P b.session.timeline) (backend : Backend)
    (settings : AuthSettings) (unix : Int) (requests : List Request) :
    P (requests.foldl (Batch.begin backend settings unix) b).session.timeline := by
  induction requests generalizing b with
  | nil => exact h
  | cons r requests ih => exact ih (kept_begin keeps h backend settings unix r)

theorem kept_begun (h : P s.timeline) (backend : Backend) (settings : AuthSettings) (unix : Int)
    (requests : List Request) : P (s.begun backend settings unix requests).session.timeline :=
  Batch.kept_foldl_begin keeps (b := { session := s, finish := s.now }) h backend settings unix
    requests

/-- Once requests that came together were begun, nothing but time answers them. -/
theorem kept_authenticate {backend : Backend} {settings : AuthSettings} {unix : Int}
    {requests : List Request} (h : P (s.begun backend settings unix requests).session.timeline) :
    P (s.authenticate backend settings unix requests).1.timeline :=
  keeps.advance _ (keeps.await _ h)

theorem kept_after (h : P s.timeline) {e : Event}
    (outside : ∀ transport cache, e = .outside transport cache →
      ∀ {t : Timeline}, P t → P { t with transport }) : P (s.after e).timeline := by
  cases e with
  | authenticate backend settings unix requests =>
    exact kept_authenticate keeps (kept_begun keeps h backend settings unix requests)
  | request backend settings unix requests =>
    exact kept_begun keeps h backend settings unix requests
  | rebuild providers =>
    rw [after, rebuild_eq]
    exact keeps.extend (s.isIdle_newStations providers) h
  | advance horizon => exact keeps.advance horizon h
  | await tickets => exact keeps.await tickets h
  | abandon ticket => exact keeps.abandon ticket h
  | record t verdict => exact h
  | outside transport cache => exact outside transport cache rfl h

/-- **What every operation keeps holds in every history.** -/
theorem kept_replay {events : List Event} (h : P s.timeline)
    (outside : ∀ transport cache, .outside transport cache ∈ events →
      ∀ {t : Timeline}, P t → P { t with transport }) : P (s.replay events).timeline := by
  induction events generalizing s with
  | nil => exact h
  | cons e rest ih =>
    have hfirst := kept_after keeps h fun transport cache heq =>
      outside transport cache (heq ▸ List.mem_cons_self)
    exact ih hfirst fun transport cache hmem =>
      outside transport cache (List.mem_cons_of_mem e hmem)

end Kept

/-! ## 2. New sessions -/

section New

variable {s : Session} (new : s.IsNew)
include new

theorem prompt_of_isNew : s.timeline.Prompt where
  stations := fun i x hx => by
    rw [new.stations] at hx
    cases hx
  ready := fun turn hturn => absurd (new.ready ▸ hturn) List.not_mem_nil
  pending := fun p hp => absurd (new.pending ▸ hp) List.not_mem_nil

/-- In a new session no call is under way; tickets that were given out before are for calls that
nobody asks after. -/
theorem traced_of_isNew (unanswered : s.timeline.answered = []) {Made : Call → Reply → Prop}
    (hmade : ∀ call reply, s.timeline.transport.Makes call reply → Made call reply) :
    s.timeline.Traced
      (List.replicate s.timeline.nextTicket { method := .get, url := "" }) Made where
  tickets := List.length_replicate.symm
  transport := hmade
  queue := fun _ hx => absurd (new.stations ▸ hx) List.not_mem_nil
  mailbox := fun _ hx => absurd (new.stations ▸ hx) List.not_mem_nil
  ready := fun _ hturn => absurd (new.ready ▸ hturn) List.not_mem_nil
  pending := fun _ hp => absurd (new.pending ▸ hp) List.not_mem_nil
  answered := fun _ _ ha => absurd (unanswered ▸ ha) List.not_mem_nil

theorem prompt_replay (events : List Event) : (s.replay events).timeline.Prompt :=
  kept_replay Timeline.keeps_prompt (prompt_of_isNew new)
    fun _ _ _ _ h => ⟨h.stations, h.ready, h.pending⟩

end New

/-- The replies that may be made to a call: by the transport that there is, or by one that is still
to come. -/
def MayReply (s : Session) (events : List Event) (call : Call) (reply : Reply) : Prop :=
  s.timeline.transport.Makes call reply ∨
    ∃ transport cache, Event.outside transport cache ∈ events ∧ transport.Makes call reply

theorem traced_replay {s : Session} (new : s.IsNew) (unanswered : s.timeline.answered = [])
    (events : List Event) :
    ∃ calls, (s.replay events).timeline.Traced calls (s.MayReply events) :=
  kept_replay (Timeline.keeps_traced [] (s.MayReply events))
    ⟨_, traced_of_isNew new unanswered fun _ _ h => .inl h⟩
    fun transport cache hmem _ ⟨calls, h⟩ => ⟨calls, { h with
      transport := fun _ _ hmakes => .inr ⟨transport, cache, hmem, hmakes⟩ }⟩

/-! ## 3. Callers of requests that come together -/

namespace Batch

variable {backend : Backend} {settings : AuthSettings} {unix : Int} {b : Batch} {n : Nat}

theorem mem_tickets_foldl_begin (h : n ∈ b.tickets) (requests : List Request) :
    n ∈ (requests.foldl (Batch.begin backend settings unix) b).tickets := by
  obtain ⟨later, -, hlater⟩ := foldl_begin_standings backend settings unix b requests
  rw [tickets, hlater, List.filterMap_append]
  exact List.mem_append_left _ h

/-- A request that leads to a call waits under the next ticket. -/
theorem mem_tickets_begin {r : Request} {queue : Nat} {call : Call}
    (h : (Plan.ofRequest b.session.registry settings unix r).handover? = some (queue, call)) :
    b.session.timeline.nextTicket ∈ (b.begin .queues settings unix r).tickets := by
  rw [begin]
  cases hplan : Plan.ofRequest b.session.registry settings unix r with
  | call p q c query =>
    rw [tickets]
    exact List.mem_filterMap.mpr ⟨_, List.mem_append_right _ (List.mem_singleton_self _), rfl⟩
  | _ =>
    rw [hplan] at h
    cases h

/-- Whoever is served stays so while further requests are begun. -/
theorem served_foldl_begin (hsound : b.session.Sound) (h : b.session.timeline.Served n)
    (requests : List Request) :
    (requests.foldl (Batch.begin .queues settings unix) b).session.timeline.Served n := by
  induction requests generalizing b with
  | nil => exact h
  | cons r requests ih =>
    refine ih (sound_begin hsound .queues settings unix r) ?_
    cases hplan : (Plan.ofRequest b.session.registry settings unix r).handover? with
    | none => exact (begin_of_no_call hplan).1 ▸ h
    | some handover =>
      obtain ⟨p, hcalls⟩ := Plan.handover?_eq_some_iff.mp hplan
      exact (begin_of_call_queues hplan).1 ▸ h.submit (hsound.lt_length hcalls.registered) _ _

end Batch

/-! ## 4. The answer to a call -/

/-- The ticket of a request that leads to a call, when others came before it. -/
def ticketAfter (s : Session) (settings : AuthSettings) (unix : Int) (front : List Request) : Nat :=
  (s.begun .queues settings unix front).session.timeline.nextTicket

section Answer

variable {s : Session} {settings : AuthSettings} {r : Request} {p : Provider} {queue : Nat}
  {call : Call}

/-- Others come before a request, and others after it. -/
theorem begun_append (s : Session) (backend : Backend) (settings : AuthSettings) (unix : Int)
    (front back : List Request) (r : Request) :
    s.begun backend settings unix (front ++ r :: back) =
      back.foldl (Batch.begin backend settings unix)
        ((s.begun backend settings unix front).begin backend settings unix r) :=
  List.foldl_append

/-- When all requests were begun, time goes on until they are answered. -/
theorem timeline_authenticate (s : Session) (backend : Backend) (settings : AuthSettings)
    (unix : Int) (requests : List Request) :
    ∃ horizon, (s.authenticate backend settings unix requests).1.timeline =
      ((s.begun backend settings unix requests).session.timeline.await
        (s.begun backend settings unix requests).tickets).advance horizon :=
  ⟨_, rfl⟩

/-- A request that comes after others is planned as it would be alone. -/
theorem handover_after (hcalls : r.Calls s.registry settings p queue call) (unix : Int)
    (front : List Request) :
    (Plan.ofRequest (s.begun .queues settings unix front).session.registry settings unix r).handover? =
      some (queue, call) := by
  obtain ⟨_, _, hsession⟩ := s.begun_session .queues settings unix front
  rw [hsession]
  exact Plan.handover?_eq_some_iff.mpr ⟨p, hcalls⟩

/-- **Every call is answered.** -/
theorem mem_answered_authenticate (hsound : s.Sound) (hprompt : s.timeline.Prompt)
    (hcalls : r.Calls s.registry settings p queue call) (unix : Int) (front back : List Request) :
    s.ticketAfter settings unix front ∈ Entries.keys
      (s.authenticate .queues settings unix (front ++ r :: back)).1.timeline.answered := by
  have hplan := handover_after hcalls unix front
  have hbefore := hsound.begun .queues settings unix front
  have hserved : (s.begun .queues settings unix (front ++ r :: back)).session.timeline.Served
      (s.ticketAfter settings unix front) := by
    obtain ⟨_, hcalled⟩ := Plan.handover?_eq_some_iff.mp hplan
    rw [begun_append]
    refine Batch.served_foldl_begin (Batch.sound_begin hbefore .queues settings unix r) ?_ back
    rw [(Batch.begin_of_call_queues hplan).1]
    exact Timeline.Served.submit_self (hbefore.lt_length hcalled.registered) call _
  have hticket : s.ticketAfter settings unix front ∈
      (s.begun .queues settings unix (front ++ r :: back)).tickets := by
    rw [begun_append]
    exact Batch.mem_tickets_foldl_begin (Batch.mem_tickets_begin hplan) back
  have hawaited := Timeline.answered_await
    (kept_begun Timeline.keeps_prompt hprompt .queues settings unix (front ++ r :: back))
    (hsound.begun .queues settings unix (front ++ r :: back)).attached hserved hticket
  obtain ⟨horizon, htimeline⟩ := s.timeline_authenticate .queues settings unix (front ++ r :: back)
  rw [htimeline]
  exact ((Timeline.answered_prefix_advance horizon).map Prod.fst).subset hawaited

/-- **An answer is to the call that was submitted under its ticket**, by every account of the
replies that held when the request came. -/
theorem origin_authenticate {unix : Int} {front back : List Request} {given : List Call}
    {Made : Call → Reply → Prop}
    (htraced : (s.begun .queues settings unix front).session.timeline.Traced given Made)
    (hplan : (Plan.ofRequest (s.begun .queues settings unix front).session.registry settings unix
      r).handover? = some (queue, call)) {a : Answer}
    (ha : (s.authenticate .queues settings unix (front ++ r :: back)).1.timeline.answerOf?
      (s.ticketAfter settings unix front) = some a) : a.Origin (Made call) := by
  have hbegun : ∃ later,
      (s.begun .queues settings unix (front ++ r :: back)).session.timeline.Traced
        (given ++ [call] ++ later) Made := by
    rw [begun_append]
    refine Batch.kept_foldl_begin (Timeline.keeps_traced _ Made) ⟨[], ?_⟩ .queues settings unix back
    rw [(Batch.begin_of_call_queues hplan).1, List.append_nil]
    exact htraced.submit call _
  obtain ⟨later, htogether⟩ := kept_authenticate (Timeline.keeps_traced _ Made) hbegun
  obtain ⟨c, hc, horigin⟩ := htogether.answered _ a (Entries.mem_of_get? ha)
  rw [ticketAfter, htraced.tickets, List.append_assoc, List.getElem?_append_right (Nat.le_refl _),
    Nat.sub_self] at hc
  cases hc
  exact horigin

/-- Whatever has happened before, each call has an answer to it on record when the requests that came
together are answered. -/
theorem exists_answer {s₀ : Session} (new : s₀.IsNew) (unanswered : s₀.timeline.answered = [])
    (events : List Event) (hcalls : r.Calls (s₀.replay events).registry settings p queue call)
    (unix : Int) (front back : List Request) :
    ∃ a, ((s₀.replay events).authenticate .queues settings unix
          (front ++ r :: back)).1.timeline.answerOf?
        ((s₀.replay events).ticketAfter settings unix front) = some a ∧
      a.Origin (s₀.MayReply events call) := by
  have hanswered := mem_answered_authenticate (sound_replay new events) (prompt_replay new events)
    hcalls unix front back
  obtain ⟨a, ha⟩ := Option.isSome_iff_exists.mp (Entries.get?_isSome_iff.mpr hanswered)
  obtain ⟨given, htraced⟩ := traced_replay new unanswered events
  obtain ⟨more, hearlier⟩ := kept_begun (Timeline.keeps_traced given (s₀.MayReply events))
    ⟨[], (List.append_nil given).symm ▸ htraced⟩ .queues settings unix front
  exact ⟨a, ha, origin_authenticate hearlier (handover_after hcalls unix front) ha⟩

end Answer

end Session

end LoginGate
