/-
# What time does to the stations

As time passes, stations handle their messages and exchanges take their turns, but no station comes,
goes or moves, and no job is submitted: each station keeps its name, its settings and the number of
jobs that it was ever handed (`cards_run`).

A turn concerns only the station that it belongs to (`Attached`), so a timeline with idle stations
added to it takes the same course as without them (`run_extend`): what is answered and sent is the
same, and so is the state of every station that was there before.
-/
import LoginGate.Proofs.Queue.Conservation
import LoginGate.Queue.Timeline

namespace LoginGate

/-! ## 1. Jobs that were handed over -/

/-- The job that a message submits. -/
def Message.submitted? : Message → Option Job
  | submit job => some job
  | complete .. => none

/-- The jobs that messages submit, in order. -/
def Message.submissions (ms : List Message) : List Job := ms.filterMap Message.submitted?

theorem Queue.totalRequests_complete (settings : Settings) (now : Nat) (job : Job)
    (answer : Answer) (probe : Bool) (q : Queue) :
    (q.complete settings now job answer probe).1.totalRequests = q.totalRequests := by
  have h := complete_completion settings now job answer probe q
  generalize q.complete settings now job answer probe = out at h ⊢
  obtain ⟨q', es⟩ := out
  cases h <;> exact landed_totalRequests _ _

namespace Station

/-- How many jobs the station was ever handed, those in its mailbox included. -/
def handed (s : Station) : Nat := s.queue.totalRequests + (Message.submissions s.mailbox).length

/-- What time does not change about a station. -/
def card (s : Station) : String × Queue.Settings × Nat := (s.name, s.settings, s.handed)

/-- Nothing was ever sent to the station. -/
def IsIdle (s : Station) : Prop := s.queue = {} ∧ s.mailbox = []

end Station

/-- The station that a turn belongs to. -/
def Turn.station : Turn → Nat
  | handle i => i
  | attempt e | reply e _ => e.station

namespace Timeline

variable (t : Timeline)

/-! ## 2. Turns, case by case -/

/-- The two ways to handle a message. -/
inductive Handling (settings : Queue.Settings) (now : Nat) (q : Queue) :
    Message → Queue → List Queue.Effect → Prop
  | submit {job : Job} {q' : Queue} {es : List Queue.Effect}
      (taken : Queue.Submission settings now job q q' es) :
      Handling settings now q (.submit job) q' es
  | complete {job : Job} {answer : Answer} {probe : Bool} {q' : Queue} {es : List Queue.Effect}
      (ended : Queue.Completion settings now job answer probe q q' es) :
      Handling settings now q (.complete job answer probe) q' es

theorem handleMessage_handling (settings : Queue.Settings) (now : Nat) (q : Queue) (m : Message) :
    Handling settings now q m (handleMessage settings now q m).1
      (handleMessage settings now q m).2 := by
  cases m with
  | submit job => exact .submit (Queue.submit_submission settings now job q)
  | complete job answer probe =>
    exact .complete (Queue.complete_completion settings now job answer probe q)

/-- **A message** is put into the mailbox of its station, which has a turn then. -/
theorem post_cases (i : Nat) (m : Message) :
    ∃ turns, (turns = [] ∧ Turn.handle i ∈ t.ready ∨ turns = [.handle i]) ∧ t.post i m =
      { t with
        stations := t.stations.modify i fun s => { s with mailbox := s.mailbox ++ [m] }
        ready := t.ready ++ turns } := by
  rw [post, wake]
  split
  · rename_i hmem
    refine ⟨[], .inl ⟨rfl, List.contains_iff_mem.mp hmem⟩, ?_⟩
    rw [List.append_nil]
    rfl
  · exact ⟨[.handle i], .inr rfl, rfl⟩

/-- **Attempts end in one of two ways**: the last of them has ended, and its station is told, or it
takes its time, with no more retries left than before. -/
theorem attempt_cases (e : Exchange) (retries : Nat) :
    ∃ transport sent,
      (∃ reply : Reply, attempt e retries t =
        ({ t with transport, sent } : Timeline).post e.station
          (.complete e.job reply.answer e.probe)) ∨
      ∃ due left reply, left ≤ retries ∧ attempt e retries t =
        { t with
          transport
          sent
          pending := t.pending ++ [{ due, exchange := { e with retries := left }, reply }] } := by
  induction retries generalizing t with
  | zero =>
    rw [attempt]
    dsimp only
    split
    · exact ⟨_, _, .inl ⟨_, rfl⟩⟩
    · exact ⟨_, _, .inr ⟨_, _, _, Nat.le_refl 0, rfl⟩⟩
  | succ retries ih =>
    rw [attempt]
    dsimp only
    split
    · split
      · obtain ⟨transport, sent, ⟨reply, h⟩ | ⟨due, left, reply, hleft, h⟩⟩ := ih _
        · exact ⟨transport, sent, .inl ⟨reply, h⟩⟩
        · exact ⟨transport, sent, .inr ⟨due, left, reply, Nat.le_succ_of_le hleft, h⟩⟩
      · exact ⟨_, _, .inl ⟨_, rfl⟩⟩
    · exact ⟨_, _, .inr ⟨_, _, _, Nat.le_refl _, rfl⟩⟩

/-- **A turn** handles the messages of a station, or makes an attempt, or tells a station the end of
a call. -/
theorem perform_cases (turn : Turn) :
    (∃ i, turn.station = i ∧ t.perform turn = t.handle i) ∨
      (∃ e retries, turn.station = e.station ∧ t.perform turn = attempt e retries t) ∨
      ∃ (e : Exchange) (reply : Reply), turn.station = e.station ∧
        t.perform turn = t.post e.station (.complete e.job reply.answer e.probe) := by
  cases turn with
  | handle i => exact .inl ⟨i, rfl, rfl⟩
  | attempt e => exact .inr (.inl ⟨e, e.retries, rfl, rfl⟩)
  | reply e reply =>
    rw [perform]
    split
    · split
      · exact .inr (.inl ⟨e, _, rfl, rfl⟩)
      · exact .inr (.inr ⟨e, reply, rfl, rfl⟩)
    · exact .inr (.inr ⟨e, reply, rfl, rfl⟩)

/-- Moving on, with what has ended by the instant and who has waited too long there. -/
theorem moveTo_eq (instant : Nat) : t.moveTo instant =
    { t with
      now := max t.now instant
      pending := t.pending.filter (fun p => !decide (p.due ≤ instant))
      ready := t.ready ++
        (t.pending.filter (·.due ≤ instant)).map (fun p => .reply p.exchange p.reply) ++
        (t.deadlines.filter (·.1 ≤ instant)).map fun d => .handle d.2 } := by
  rw [moveTo, List.partition_eq_filter_filter]
  rfl

variable {t} in
/-- **A turn that is ready after moving on** was ready before, or ends an attempt that was pending, or
wakes a station whose first in line has waited too long. -/
theorem mem_ready_moveTo {instant : Nat} {turn : Turn} (h : turn ∈ (t.moveTo instant).ready) :
    turn ∈ t.ready ∨ (∃ p ∈ t.pending, turn = .reply p.exchange p.reply) ∨
      ∃ d ∈ t.deadlines, turn = .handle d.2 := by
  rw [moveTo_eq] at h
  rcases List.mem_append.mp h with h | h
  · rcases List.mem_append.mp h with h | h
    · exact .inl h
    · obtain ⟨p, hp, rfl⟩ := List.mem_map.mp h
      exact .inr (.inl ⟨p, (List.mem_filter.mp hp).1, rfl⟩)
  · obtain ⟨d, hd, rfl⟩ := List.mem_map.mp h
    exact .inr (.inr ⟨d, (List.mem_filter.mp hd).1, rfl⟩)

variable {t} in
theorem mem_pending_moveTo {instant : Nat} {p : PendingReply} (h : p ∈ (t.moveTo instant).pending) :
    p ∈ t.pending := by
  rw [moveTo_eq] at h
  exact (List.mem_filter.mp h).1

/-! ## 3. Names, settings and jobs handed over -/

/-- What time does not change about the stations. -/
def cards : List (String × Queue.Settings × Nat) := t.stations.map Station.card

section Cards

variable {t} {i : Nat}

/-- A change of one element that a function does not see. -/
theorem map_modify_eq {α β : Type} {f : α → α} {g : α → β} {l : List α}
    (h : ∀ a, l[i]? = some a → g (f a) = g a) : (l.modify i f).map g = l.map g := by
  refine List.ext_getElem? fun j => ?_
  rw [List.getElem?_map, List.getElem?_map, List.getElem?_modify]
  by_cases hij : i = j
  · subst hij
    cases hi : l[i]? with
    | none => rfl
    | some a => simp [h a hi]
  · simp [hij]

theorem stations_wake (turn : Turn) : (t.wake turn).stations = t.stations := by
  rw [wake]
  split <;> rfl

theorem stations_post (m : Message) :
    (t.post i m).stations = t.stations.modify i fun s => { s with mailbox := s.mailbox ++ [m] } :=
  stations_wake _

theorem stations_deliver (job : Job) (answer : Answer) :
    (t.deliver job answer).stations = t.stations := by
  rw [deliver]
  split <;> rfl

theorem stations_carryOut (e : Queue.Effect) : (carryOut i t e).stations = t.stations := by
  cases e with
  | answer job answer => exact stations_deliver job answer
  | _ => rfl

theorem stations_foldl_carryOut (effects : List Queue.Effect) :
    (effects.foldl (carryOut i) t).stations = t.stations := by
  induction effects generalizing t with
  | nil => rfl
  | cons e rest ih => exact ih.trans (stations_carryOut e)

/-- The end of a call submits nothing. -/
theorem cards_complete (job : Job) (answer : Answer) (probe : Bool) :
    (t.post i (.complete job answer probe)).cards = t.cards := by
  rw [cards, stations_post]
  refine map_modify_eq fun s _ => ?_
  simp [Station.card, Station.handed, Message.submissions, Message.submitted?]

theorem totalRequests_handleMessages (settings : Queue.Settings) (now : Nat) (q : Queue)
    (ms : List Message) :
    (handleMessages settings now q ms).1.totalRequests =
      q.totalRequests + (Message.submissions ms).length := by
  induction ms generalizing q with
  | nil => rfl
  | cons m ms ih =>
    refine (ih _).trans ?_
    cases m with
    | submit job =>
      have hsubmit : (q.submit settings now job).1.totalRequests = q.totalRequests + 1 :=
        Queue.totalRequests_react settings now q (.submit job)
      simp only [hsubmit, Message.submissions, List.filterMap_cons,
        Message.submitted?, List.length_cons]
      omega
    | complete job answer probe =>
      exact congrArg (· + _) (Queue.totalRequests_complete settings now job answer probe q)

/-- A station that has handled its messages counts the jobs that they submit. -/
theorem cards_handle : (t.handle i).cards = t.cards := by
  rw [handle]
  cases hi : t.stations[i]? with
  | none => rfl
  | some s =>
    rw [cards, stations_foldl_carryOut]
    refine map_modify_eq fun s' hs' => ?_
    obtain rfl := Option.some.inj (hi.symm.trans hs')
    have hhandled := totalRequests_handleMessages s.settings t.now s.queue s.mailbox
    simp only [Station.card, Station.handed, Queue.expire, hhandled]
    rfl

theorem cards_attempt (e : Exchange) (retries : Nat) : (attempt e retries t).cards = t.cards := by
  obtain ⟨transport, sent, ⟨reply, h⟩ | ⟨_, _, _, -, h⟩⟩ := attempt_cases t e retries
  · rw [h, cards_complete]
    rfl
  · rw [h]
    rfl

theorem cards_perform (turn : Turn) : (t.perform turn).cards = t.cards := by
  rcases perform_cases t turn with ⟨i, -, h⟩ | ⟨e, retries, -, h⟩ | ⟨e, reply, -, h⟩
  · rw [h, cards_handle]
  · rw [h, cards_attempt]
  · rw [h, cards_complete]

end Cards

/-- What holds of a timeline still holds when time has passed, if it is kept by every turn and by
moving on to a later instant. -/
theorem run_induction {P : Timeline → Prop}
    (turn : ∀ t turn rest, t.ready = turn :: rest → P t → P (perform { t with ready := rest } turn))
    (move : ∀ t instant, P t → P (t.moveTo instant)) (stop : Timeline → Bool)
    (horizon : Option Nat) (fuel : Nat) (h : P t) : P (run stop horizon fuel t) := by
  induction fuel generalizing t with
  | zero => exact h
  | succ fuel ih =>
    rw [run]
    split
    · rename_i first rest hready
      exact ih _ (turn t first rest hready h)
    · split
      · exact h
      · split
        · exact h
        · split
          · exact ih _ (move t _ h)
          · exact h

/-- **Time changes no name and no settings, and hands nothing over.** -/
theorem cards_run (stop : Timeline → Bool) (horizon : Option Nat) (fuel : Nat) :
    (run stop horizon fuel t).cards = t.cards :=
  run_induction t (P := fun t' => t'.cards = t.cards)
    (fun _ turn _ _ h => (cards_perform turn).trans h) (fun _ _ h => h) stop horizon fuel rfl

theorem cards_advance (horizon : Nat) : (t.advance horizon).cards = t.cards := cards_run ..

theorem cards_await (tickets : List Nat) : (t.await tickets).cards = t.cards := cards_run ..

/-! ## 4. What is to happen happens at a station -/

/-- Whatever is to happen belongs to a station that there is. -/
structure Attached : Prop where
  ready : ∀ turn ∈ t.ready, turn.station < t.stations.length
  pending : ∀ p ∈ t.pending, p.exchange.station < t.stations.length

section Attached

variable {t} {i : Nat}

theorem Attached.ready_append (h : t.Attached) {turns : List Turn}
    (hturns : ∀ turn ∈ turns, turn.station < t.stations.length) :
    ({ t with ready := t.ready ++ turns } : Timeline).Attached :=
  ⟨fun x hx => (List.mem_append.mp hx).elim (h.ready x) (hturns x), h.pending⟩

theorem Attached.wake (h : t.Attached) {turn : Turn} (hturn : turn.station < t.stations.length) :
    (t.wake turn).Attached := by
  rw [Timeline.wake]
  split
  · exact h
  · exact h.ready_append fun x hx => (List.mem_singleton.mp hx) ▸ hturn

theorem Attached.modifyStation (h : t.Attached) (f : Station → Station) :
    (t.modifyStation i f).Attached := by
  have hlength : (t.modifyStation i f).stations.length = t.stations.length :=
    List.length_modify f t.stations i
  exact ⟨fun x hx => hlength ▸ h.ready x hx, fun p hp => hlength ▸ h.pending p hp⟩

theorem Attached.post (h : t.Attached) (hi : i < t.stations.length) (m : Message) :
    (t.post i m).Attached := by
  refine (h.modifyStation _).wake ?_
  rw [Timeline.modifyStation, List.length_modify]
  exact hi

theorem Attached.carryOut (h : t.Attached) (hi : i < t.stations.length) (e : Queue.Effect) :
    (carryOut i t e).Attached := by
  cases e with
  | start job probe => exact h.ready_append fun x hx => (List.mem_singleton.mp hx) ▸ hi
  | answer job answer =>
    rw [Timeline.carryOut, deliver]
    split
    · exact h
    · exact ⟨h.ready, h.pending⟩
  | discard job => exact h

theorem Attached.foldl_carryOut (h : t.Attached) (hi : i < t.stations.length)
    (effects : List Queue.Effect) : (effects.foldl (Timeline.carryOut i) t).Attached := by
  induction effects generalizing t with
  | nil => exact h
  | cons e rest ih => exact ih (h.carryOut hi e) (by rwa [stations_carryOut])

theorem Attached.handle (h : t.Attached) : (t.handle i).Attached := by
  rw [Timeline.handle]
  split
  · exact h
  · rename_i s hs
    refine (h.modifyStation _).foldl_carryOut ?_ _
    rw [Timeline.modifyStation, List.length_modify]
    exact (List.getElem?_eq_some_iff.mp hs).1

theorem Attached.attempt (h : t.Attached) {e : Exchange} (he : e.station < t.stations.length)
    (retries : Nat) : (attempt e retries t).Attached := by
  obtain ⟨transport, sent, ⟨reply, heq⟩ | ⟨_, _, _, -, heq⟩⟩ := attempt_cases t e retries
  · rw [heq]
    exact Attached.post (t := { t with transport, sent }) ⟨h.ready, h.pending⟩ he _
  · rw [heq]
    refine ⟨h.ready, fun x hx => (List.mem_append.mp hx).elim (h.pending x) fun hnew => ?_⟩
    rw [List.mem_singleton.mp hnew]
    exact he

theorem Attached.perform (h : t.Attached) {turn : Turn}
    (hturn : turn.station < t.stations.length) : (t.perform turn).Attached := by
  rcases perform_cases t turn with ⟨i, -, heq⟩ | ⟨e, retries, he, heq⟩ | ⟨e, reply, he, heq⟩
  · exact heq ▸ h.handle
  · exact heq ▸ h.attempt (he ▸ hturn) retries
  · exact heq ▸ h.post (he ▸ hturn) _

theorem lt_of_mem_deadlines {d : Nat × Nat} (hd : d ∈ t.deadlines) : d.2 < t.stations.length := by
  obtain ⟨⟨s, i⟩, hs, hdeadline⟩ := List.mem_filterMap.mp hd
  obtain ⟨instant, -, rfl⟩ := Option.map_eq_some_iff.mp hdeadline
  simpa using (List.mem_zipIdx hs).2.1

theorem Attached.moveTo (h : t.Attached) (instant : Nat) : (t.moveTo instant).Attached := by
  refine ⟨fun turn hturn => ?_, fun p hp => h.pending p (mem_pending_moveTo hp)⟩
  rcases mem_ready_moveTo hturn with hturn | ⟨p, hp, rfl⟩ | ⟨d, hd, rfl⟩
  · exact h.ready turn hturn
  · exact h.pending p hp
  · exact lt_of_mem_deadlines hd

/-- One turn of a timeline that runs. -/
theorem Attached.turn (h : t.Attached) {turn : Turn} {rest : List Turn}
    (hready : t.ready = turn :: rest) : ({ t with ready := rest } : Timeline).Attached ∧
      turn.station < ({ t with ready := rest } : Timeline).stations.length :=
  ⟨⟨fun x hx => h.ready x (hready ▸ List.mem_cons_of_mem _ hx), h.pending⟩,
    h.ready turn (hready ▸ List.mem_cons_self)⟩

/-- **Time keeps everything at its station.** -/
theorem Attached.run (h : t.Attached) (stop : Timeline → Bool) (horizon : Option Nat)
    (fuel : Nat) : (run stop horizon fuel t).Attached :=
  run_induction t (P := Attached)
    (fun _ _ _ hready h => (h.turn hready).1.perform (h.turn hready).2)
    (fun _ instant h => h.moveTo instant) stop horizon fuel h

end Attached

/-! ## 5. Stations that nothing was sent to -/

/-- The timeline with further stations behind those that there are. -/
def extend (extra : List Station) : Timeline := { t with stations := t.stations ++ extra }

section Extend

variable {t} {i : Nat} {extra : List Station}

@[simp] theorem now_extend : (t.extend extra).now = t.now := rfl

theorem modify_append_of_lt {α : Type} {f : α → α} {l : List α} (h : i < l.length) (m : List α) :
    (l ++ m).modify i f = l.modify i f ++ m := by
  refine List.ext_getElem? fun j => ?_
  rw [List.getElem?_modify, List.getElem?_append, List.getElem?_append, List.length_modify,
    List.getElem?_modify]
  by_cases hj : j < l.length
  · rw [if_pos hj, if_pos hj]
  · have hij : i ≠ j := by omega
    rw [if_neg hj, if_neg hj]
    simp [hij]

theorem modifyStation_extend (hi : i < t.stations.length) (f : Station → Station) :
    (t.extend extra).modifyStation i f = (t.modifyStation i f).extend extra := by
  rw [modifyStation, modifyStation, extend, extend, modify_append_of_lt hi]

theorem wake_extend (turn : Turn) : (t.extend extra).wake turn = (t.wake turn).extend extra := by
  rw [wake, wake, extend]
  dsimp only
  split <;> rfl

theorem post_extend (hi : i < t.stations.length) (m : Message) :
    (t.extend extra).post i m = (t.post i m).extend extra := by
  rw [post, post, modifyStation_extend hi, wake_extend]

theorem submit_extend (hi : i < t.stations.length) (call : Call) (retries : Nat) :
    (t.extend extra).submit i call retries =
      ((t.submit i call retries).1.extend extra, (t.submit i call retries).2) :=
  Prod.ext (post_extend (t := { t with
    nextTicket := t.nextTicket + 1
    callers := t.callers ++ [(t.nextTicket, t.now)] }) hi _) rfl

theorem deliver_extend (job : Job) (answer : Answer) :
    (t.extend extra).deliver job answer = (t.deliver job answer).extend extra := by
  rw [deliver, deliver, extend]
  dsimp only
  split <;> rfl

theorem carryOut_extend (e : Queue.Effect) :
    carryOut i (t.extend extra) e = (carryOut i t e).extend extra := by
  cases e with
  | answer job answer => exact deliver_extend job answer
  | _ => rfl

theorem foldl_carryOut_extend (effects : List Queue.Effect) :
    effects.foldl (carryOut i) (t.extend extra) =
      (effects.foldl (carryOut i) t).extend extra := by
  induction effects generalizing t with
  | nil => rfl
  | cons e rest ih => rw [List.foldl_cons, List.foldl_cons, carryOut_extend, ih]

theorem getElem?_extend (hi : i < t.stations.length) :
    (t.extend extra).stations[i]? = t.stations[i]? := List.getElem?_append_left hi

theorem handle_extend (hi : i < t.stations.length) :
    (t.extend extra).handle i = (t.handle i).extend extra := by
  rw [handle, handle, getElem?_extend hi]
  cases t.stations[i]? with
  | none => rfl
  | some s =>
    dsimp only
    rw [modifyStation_extend hi, foldl_carryOut_extend]
    rfl

/-- The timeline when an exchange sends its call once more. -/
def sends (t : Timeline) (e : Exchange) : Timeline :=
  { t with
    transport := (t.transport.take e.job.call).2
    sent := t.sent ++
      [{ call := e.job.call, timeout := t.requestTimeout e.station, instant := t.now }] }

theorem sends_extend {e : Exchange} (he : e.station < t.stations.length) :
    (t.extend extra).sends e = (t.sends e).extend extra := by
  rw [sends, sends, requestTimeout, getElem?_extend he]
  rfl

theorem attempt_extend {e : Exchange} (retries : Nat) {t : Timeline}
    (he : e.station < t.stations.length) :
    attempt e retries (t.extend extra) = (attempt e retries t).extend extra := by
  have htake : (t.extend extra).transport.take e.job.call = t.transport.take e.job.call := rfl
  have hsends : (t.extend extra).sends e = (t.sends e).extend extra := sends_extend he
  have hpost : ∀ m, ((t.extend extra).sends e).post e.station m =
      ((t.sends e).post e.station m).extend extra := by
    intro m
    rw [hsends, post_extend (t := t.sends e) he]
  by_cases hdelay : (t.transport.take e.job.call).1.delay = 0
  · cases retries with
    | zero =>
      rw [attempt, attempt]
      simp only [htake, if_pos hdelay]
      exact hpost _
    | succ retries =>
      rw [attempt, attempt]
      simp only [htake, if_pos hdelay]
      split
      · exact (congrArg _ hsends).trans (attempt_extend retries (t := t.sends e) he)
      · exact hpost _
  · have hpending : ∀ retries t', t'.transport.take e.job.call = t.transport.take e.job.call →
        attempt e retries t' = { t'.sends e with pending := t'.pending ++
          [{ due := t'.now + (t.transport.take e.job.call).1.delay
             exchange := { e with retries }
             reply := (t.transport.take e.job.call).1.reply }] } := by
      intro retries t' ht'
      rw [attempt.eq_def]
      simp only [ht', if_neg hdelay]
      rw [sends, ht']
    rw [hpending retries _ htake, hpending retries _ rfl, hsends]
    rfl

theorem perform_extend {turn : Turn} (hturn : turn.station < t.stations.length) :
    (t.extend extra).perform turn = (t.perform turn).extend extra := by
  cases turn with
  | handle i => exact handle_extend hturn
  | attempt e => exact attempt_extend e.retries hturn
  | reply e reply =>
    rw [perform, perform]
    split
    · split
      · exact attempt_extend _ hturn
      · exact post_extend hturn _
    · exact post_extend hturn _

/-- Nobody waits at an idle station. -/
theorem deadlines_extend (idle : ∀ s ∈ extra, s.IsIdle) :
    (t.extend extra).deadlines = t.deadlines := by
  rw [deadlines, deadlines, extend, List.zipIdx_append, List.filterMap_append]
  refine List.append_right_eq_self.mpr (List.filterMap_eq_nil_iff.mpr ?_)
  rintro ⟨s, i⟩ hs
  have hmem : s ∈ extra := by
    have hfst := List.mem_map_of_mem (f := Prod.fst) hs
    rwa [List.zipIdx_map_fst] at hfst
  dsimp only
  rw [(idle s hmem).1]
  rfl

theorem moveTo_extend (idle : ∀ s ∈ extra, s.IsIdle) (instant : Nat) :
    (t.extend extra).moveTo instant = (t.moveTo instant).extend extra := by
  rw [moveTo, moveTo, deadlines_extend idle]
  rfl

/-- **Idle stations change nothing about the course of a timeline.** -/
theorem run_extend (h : t.Attached) (idle : ∀ s ∈ extra, s.IsIdle) {stop : Timeline → Bool}
    (hstop : ∀ t : Timeline, stop (t.extend extra) = stop t) (horizon : Option Nat) (fuel : Nat) :
    run stop horizon fuel (t.extend extra) = (run stop horizon fuel t).extend extra := by
  induction fuel generalizing t with
  | zero => rfl
  | succ fuel ih =>
    have hready : (t.extend extra).ready = t.ready := rfl
    have hnext : (t.extend extra).nextInstant? = t.nextInstant? := by
      rw [nextInstant?, deadlines_extend idle]
      rfl
    rw [run, run, hready, hstop, hnext]
    split
    · rename_i turn rest hturns
      obtain ⟨hrest, hturn⟩ := h.turn hturns
      rw [← ih (hrest.perform hturn), ← perform_extend hturn]
      rfl
    · split
      · rfl
      · split
        · rfl
        · split
          · rw [moveTo_extend idle, ih (h.moveTo _)]
          · rfl

theorem work_extend (idle : ∀ s ∈ extra, s.IsIdle) : (t.extend extra).work = t.work := by
  have hnone : extra.flatMap Station.outstanding = [] := by
    rw [List.flatMap_eq_nil_iff]
    intro s hs
    rw [Station.outstanding, (idle s hs).1, (idle s hs).2]
    rfl
  rw [work, work, extend]
  dsimp only
  rw [List.flatMap_append, hnone, List.append_nil]

theorem advance_extend (h : t.Attached) (idle : ∀ s ∈ extra, s.IsIdle) (horizon : Nat) :
    (t.extend extra).advance horizon = (t.advance horizon).extend extra := by
  rw [advance, advance, work_extend idle, run_extend h idle fun _ => rfl]
  rfl

theorem await_extend (h : t.Attached) (idle : ∀ s ∈ extra, s.IsIdle) (tickets : List Nat) :
    (t.extend extra).await tickets = (t.await tickets).extend extra := by
  rw [await, await, work_extend idle, run_extend h idle fun _ => rfl]

end Extend

end Timeline

end LoginGate
