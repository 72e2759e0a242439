/-
# How often a call is made

A call that could not be connected is made again while retries are left; anything else ends the
exchange, and the last attempt alone decides the answer.

* The loop by itself is `exchange`.  It makes one attempt for each connection error in front of all
  other replies, as far as its retries go, and one besides (`exchange_eq`, `min_leadingConnects`).
* In time an exchange waits after each attempt until the end of it is due.  While nothing else is
  under way, what the exchange has done and what is left of the loop always make up the whole loop
  (`Phase`).  Every turn keeps that, and moving on to a later instant does.
* So a call that is submitted while nothing is under way is made just as often as the loop makes it,
  and is answered as the loop answers it (`await_exchange`).
-/
import Mathlib.Data.Set.Card
import LoginGate.Proofs.Queue.Settling

namespace LoginGate

/-! ## 1. The loop -/

namespace Reply

/-- The provider was never reached. -/
def IsConnectError (r : Reply) : Prop := ∃ text, r = failure (.connect text)

/-- **Connection errors, and nothing else, are worth another attempt.** -/
theorem isRetryable_iff {r : Reply} : r.isRetryable = true ↔ r.IsConnectError := by
  constructor
  · intro h
    unfold isRetryable at h
    split at h
    · exact ⟨_, rfl⟩
    · cases h
  · rintro ⟨text, rfl⟩
    rfl

/-- The answers that a reply may lead to; they differ in how long they took. -/
inductive LeadsTo : Reply → Answer → Prop
  | success {status : Nat} {body : List UInt8} {elapsed : Nat} :
      LeadsTo (success status body) { result := .success, status := some status, body, elapsed }
  | timeout {elapsed : Nat} :
      LeadsTo (failure .timeout)
        { result := .requestTimeout, error := some "Request timed out", elapsed }
  | status {code : Nat} {body : String} {elapsed : Nat} :
      LeadsTo (failure (.status code body))
        { result := .error
          status := some code
          body := Text.Utf8.bytes body
          error := some s!"Provider returned HTTP {code}"
          elapsed }
  | connect {text : String} {elapsed : Nat} :
      LeadsTo (failure (.connect text))
        { result := .error, error := some ("Connection failed: " ++ text), elapsed }
  | request {text : String} {elapsed : Nat} :
      LeadsTo (failure (.request text))
        { result := .error, error := some ("Request failed: " ++ text), elapsed }

theorem leadsTo_answer (r : Reply) (elapsed : Nat) : r.LeadsTo { r.answer with elapsed } := by
  cases r with
  | success status body => exact .success
  | failure e =>
    cases e with
    | timeout => exact .timeout
    | connect text => exact .connect
    | status code body => exact .status
    | request text => exact .request

end Reply

/-- How many connection errors there are in front of all other replies. -/
noncomputable def leadingConnects (replies : Nat → Reply) : ℕ∞ :=
  {k | ∀ j ≤ k, (replies j).IsConnectError}.encard

section Loop

variable {replies : Nat → Reply} {retries attempt n : Nat}

theorem exchange_of_retryable (h : (replies attempt).isRetryable = true) :
    exchange replies (retries + 1) attempt = exchange replies retries (attempt + 1) := by
  rw [exchange, if_pos h]

/-- The loop ends where no retries are left, and with every reply but a connection error. -/
theorem exchange_of_last (h : retries = 0 ∨ (replies attempt).isRetryable = false) :
    exchange replies retries attempt = ((replies attempt).answer, attempt + 1) := by
  cases retries with
  | zero => rfl
  | succ retries =>
    rw [exchange, if_neg (Bool.eq_false_iff.mp (h.resolve_left (Nat.succ_ne_zero retries)))]

/-- **The loop**: all attempts but the last could not be connected, and the last could, or there are
no more retries.  The answer is that of the last attempt. -/
theorem exchange_eq (replies : Nat → Reply) (retries attempt : Nat) :
    ∃ n ≤ retries,
      exchange replies retries attempt = ((replies (attempt + n)).answer, attempt + n + 1) ∧
      (∀ k < n, (replies (attempt + k)).IsConnectError) ∧
      (n < retries → ¬ (replies (attempt + n)).IsConnectError) := by
  induction retries generalizing attempt with
  | zero =>
    exact ⟨0, Nat.le_refl 0, rfl, fun k hk => absurd hk (Nat.not_lt_zero k),
      fun h => absurd h (Nat.lt_irrefl 0)⟩
  | succ retries ih =>
    by_cases hretryable : (replies attempt).isRetryable = true
    · obtain ⟨n, hn, heq, hconnects, hlast⟩ := ih (attempt + 1)
      rw [Nat.add_right_comm attempt 1 n] at heq hlast
      refine ⟨n + 1, Nat.succ_le_succ hn, (exchange_of_retryable hretryable).trans heq,
        fun k hk => ?_, fun h => hlast (by omega)⟩
      cases k with
      | zero => exact Reply.isRetryable_iff.mp hretryable
      | succ k =>
        have hk := hconnects k (by omega)
        rwa [Nat.add_right_comm attempt 1 k] at hk
    · exact ⟨0, Nat.zero_le _, exchange_of_last (.inr (Bool.eq_false_iff.mpr hretryable)),
        fun k hk => absurd hk (Nat.not_lt_zero k),
        fun _ h => hretryable (Reply.isRetryable_iff.mpr h)⟩

/-- How often the loop repeats, by what it is about. -/
theorem min_leadingConnects (hn : n ≤ retries) (hconnects : ∀ k < n, (replies k).IsConnectError)
    (hlast : n < retries → ¬ (replies n).IsConnectError) :
    min (retries : ℕ∞) (leadingConnects replies) = n := by
  have hsub : Set.Iio n ⊆ {k | ∀ j ≤ k, (replies j).IsConnectError} :=
    fun k hk j hj => hconnects j (Nat.lt_of_le_of_lt hj hk)
  have hcard : (Set.Iio n).encard = n := by
    rw [← Finset.coe_Iio, Set.encard_coe_eq_coe_finsetCard, Nat.card_Iio]
  have hle : (n : ℕ∞) ≤ leadingConnects replies := hcard ▸ Set.encard_le_encard hsub
  rcases Nat.lt_or_eq_of_le hn with hlt | rfl
  · have hsup : {k | ∀ j ≤ k, (replies j).IsConnectError} ⊆ Set.Iio n := by
      intro k hk
      by_contra hnk
      exact hlast hlt (hk n (Nat.le_of_not_lt hnk))
    have hge : leadingConnects replies ≤ n := hcard ▸ Set.encard_le_encard hsup
    rw [le_antisymm hge hle]
    exact min_eq_right (Nat.cast_le.mpr hn)
  · exact min_eq_left hle

end Loop

/-- The replies that a call gets, one attempt after the other, while no other call is made. -/
def Transport.replies (call : Call) (t : Transport) : Nat → Reply
  | 0 => (t.take call).1.reply
  | k + 1 => replies call (t.take call).2 k

namespace Queue

variable {q : Queue} {job : Job} {probe : Bool}

/-- A job that is started leaves an empty line empty. -/
theorem exists_submit {settings : Settings} {now : Nat} (line : q.waiting = [])
    (starts : (q.submit settings now job).2 = [.start job probe]) :
    ∃ q' : Queue, q.submit settings now job = (q', [.start job probe]) ∧ q'.waiting = [] := by
  have hsubmission := submit_submission settings now job q
  generalize q.submit settings now job = out at hsubmission starts ⊢
  obtain ⟨q', effects⟩ := out
  subst starts
  cases hsubmission <;> exact ⟨_, rfl, line⟩

/-- A completion with an empty line has no effect but its answer. -/
theorem exists_complete (settings : Settings) (now : Nat) (job : Job) (answer : Answer)
    (probe : Bool) (line : q.waiting = []) :
    ∃ q' : Queue, q.complete settings now job answer probe = (q', [.answer job answer]) ∧
      q'.waiting = [] := by
  have hcompletion := complete_completion settings now job answer probe q
  generalize q.complete settings now job answer probe = out at hcompletion ⊢
  obtain ⟨q', effects⟩ := out
  cases hcompletion with
  | flushed offline => exact ⟨_, by rw [line]; rfl, rfl⟩
  | released online hparts busy room =>
    obtain ⟨rfl, rfl⟩ := List.append_eq_nil_iff.mp (hparts.symm.trans line)
    exact ⟨_, rfl, rfl⟩

end Queue

namespace Timeline

/-! ## 2. An exchange by itself -/

/-- Nobody stands in line at any station, and only one station has messages. -/
def Calm (i : Nat) (mail : List Message) (stations : List Station) : Prop :=
  ∀ j s, stations[j]? = some s → s.queue.waiting = [] ∧ s.mailbox = if j = i then mail else []

/-- Nothing is under way, and nobody waits for anything. -/
structure IsQuiet (t : Timeline) : Prop where
  ready : t.ready = []
  pending : t.pending = []
  callers : t.callers = []
  stations : ∀ s ∈ t.stations, s.queue.waiting = [] ∧ s.mailbox = []

/-- So many calls of a job were handed to the transport since an earlier timeline, and its caller
waits for the answer; all other stations are quiet. -/
structure Outstanding (t₀ : Timeline) (i : Nat) (job : Job) (timeout : Nat) (mail : List Message)
    (made : Nat) (t : Timeline) : Prop where
  calls : ∃ calls : List SentCall, t.sent = t₀.sent ++ calls ∧
    calls.map (fun c => (c.call, c.timeout)) = List.replicate made (job.call, timeout)
  replies : ∀ k, t.transport.replies job.call k = t₀.transport.replies job.call (made + k)
  caller : ∃ since, t.callers = [(job.ticket, since)]
  answered : t.answered = t₀.answered
  station : ∃ s, t.stations[i]? = some s ∧ s.settings.requestTimeout = timeout
  calm : Calm i mail t.stations

/-- **How far an exchange has come**, given the answer that the loop comes to and after how many
attempts.  While the exchange goes on, the rest of the loop comes to the same. -/
inductive Phase (t₀ : Timeline) (i : Nat) (job : Job) (probe : Bool) (timeout : Nat)
    (outcome : Answer × Nat) (t : Timeline) : Prop
  /-- The next attempt is ready to be made. -/
  | ready {left made : Nat} (outstanding : Outstanding t₀ i job timeout [] made t)
      (rest : exchange (t₀.transport.replies job.call) left made = outcome)
      (turn : t.ready = [.attempt ⟨i, job, probe, left⟩]) (pending : t.pending = [])
  /-- An attempt takes its time. -/
  | pending {left made due : Nat} (outstanding : Outstanding t₀ i job timeout [] (made + 1) t)
      (rest : exchange (t₀.transport.replies job.call) left made = outcome) (turn : t.ready = [])
      (pending : t.pending =
        [⟨due, ⟨i, job, probe, left⟩, t₀.transport.replies job.call made⟩])
  /-- An attempt has ended. -/
  | ended {left made : Nat} (outstanding : Outstanding t₀ i job timeout [] (made + 1) t)
      (rest : exchange (t₀.transport.replies job.call) left made = outcome)
      (turn : t.ready = [.reply ⟨i, job, probe, left⟩ (t₀.transport.replies job.call made)])
      (pending : t.pending = [])
  /-- The station is told the answer. -/
  | told (outstanding : Outstanding t₀ i job timeout [.complete job outcome.1 probe] outcome.2 t)
      (turn : t.ready = [.handle i]) (pending : t.pending = [])
  /-- The caller has the answer. -/
  | answered (quiet : t.IsQuiet)
      (calls : ∃ calls : List SentCall, t.sent = t₀.sent ++ calls ∧
        calls.map (fun c => (c.call, c.timeout)) = List.replicate outcome.2 (job.call, timeout))
      (answered : ∃ elapsed, t.answered = t₀.answered ++ [(job.ticket, { outcome.1 with elapsed })])

section Calm

variable {i : Nat} {mail mail' : List Message} {l : List Station} {f : Station → Station}

theorem getElem?_modify_self {s : Station} (hs : l[i]? = some s) (f : Station → Station) :
    (l.modify i f)[i]? = some (f s) := by
  rw [List.getElem?_modify_eq, hs]
  rfl

/-- A change of the one station. -/
theorem Calm.modify (h : Calm i mail l)
    (hf : ∀ s, s.queue.waiting = [] → s.mailbox = mail →
      (f s).queue.waiting = [] ∧ (f s).mailbox = mail') : Calm i mail' (l.modify i f) := by
  intro j s hs
  by_cases hij : i = j
  · subst hij
    rw [List.getElem?_modify_eq] at hs
    obtain ⟨s', hs', rfl⟩ := Option.map_eq_some_iff.mp hs
    obtain ⟨hwaiting, hmail⟩ := h i s' hs'
    rw [if_pos rfl] at hmail ⊢
    exact hf s' hwaiting hmail
  · rw [List.getElem?_modify_ne _ _ hij] at hs
    have hs := h j s hs
    rwa [if_neg (Ne.symm hij)] at hs ⊢

theorem calm_nil_iff : Calm i [] l ↔ ∀ s ∈ l, s.queue.waiting = [] ∧ s.mailbox = [] := by
  constructor
  · intro h s hs
    obtain ⟨j, hj⟩ := List.mem_iff_getElem?.mp hs
    simpa using h j s hj
  · intro h j s hs
    simpa using h s (List.mem_of_getElem? hs)

/-- Where nobody stands in line, nobody will have waited too long. -/
theorem Calm.deadlines {t : Timeline} (h : Calm i mail t.stations) : t.deadlines = [] := by
  refine List.eq_nil_iff_forall_not_mem.mpr fun d hd => ?_
  obtain ⟨s, hs, hdeadline⟩ := mem_deadlines.mp hd
  rw [Queue.deadline?, (h _ s hs).1] at hdeadline
  cases hdeadline

/-- Moving on while nobody stands in line. -/
theorem Calm.moveTo {t : Timeline} (h : Calm i mail t.stations) (instant : Nat) : t.moveTo instant =
    { t with
      now := max t.now instant
      pending := t.pending.filter (fun p => !decide (p.due ≤ instant))
      ready := t.ready ++
        (t.pending.filter (·.due ≤ instant)).map (fun p => .reply p.exchange p.reply) } := by
  rw [moveTo_eq, h.deadlines, List.filter_nil, List.map_nil, List.append_nil]

end Calm

section Handle

variable {t : Timeline} {i : Nat} {s : Station} {m : Message} {q : Queue} {job : Job}

/-- The only caller gets its answer. -/
theorem deliver_eq {since : Nat} (hcallers : t.callers = [(job.ticket, since)])
    (answer : Answer) : t.deliver job answer =
      { t with
        callers := []
        answered := t.answered ++ [(job.ticket, { answer with elapsed := t.now - since })] } := by
  have hcaller : Entries.get? job.ticket t.callers = some since := by
    rw [hcallers, Entries.get?, if_pos rfl]
  rw [deliver, hcaller]
  simp [hcallers]

/-- **A station with one message** handles it, and is done when nobody is left in line. -/
theorem handle_eq {effects : List Queue.Effect} (hs : t.stations[i]? = some s)
    (hm : s.mailbox = [m])
    (hq : handleMessage s.settings t.now s.queue m = (q, effects)) (hwaiting : q.waiting = []) :
    t.handle i = effects.foldl (carryOut i)
      (t.modifyStation i fun s => { s with queue := q, mailbox := [] }) := by
  have hidle : q.expire s.settings t.now = (q, []) :=
    Queue.expire_of_young fun w hw => absurd (hwaiting ▸ hw) List.not_mem_nil
  rw [handle, hs]
  simp only [hm, handleMessages, hq, hidle, List.append_nil]

theorem handle_starts {probe : Bool} (hs : t.stations[i]? = some s) (hm : s.mailbox = [m])
    (hq : handleMessage s.settings t.now s.queue m = (q, [.start job probe]))
    (hwaiting : q.waiting = []) :
    t.handle i =
      { t with
        stations := t.stations.modify i fun s => { s with queue := q, mailbox := [] }
        ready := t.ready ++ [.attempt ⟨i, job, probe, job.retries⟩] } :=
  handle_eq hs hm hq hwaiting

theorem handle_answers {answer : Answer} {since : Nat} (hs : t.stations[i]? = some s)
    (hm : s.mailbox = [m])
    (hq : handleMessage s.settings t.now s.queue m = (q, [.answer job answer]))
    (hwaiting : q.waiting = []) (hcallers : t.callers = [(job.ticket, since)]) :
    t.handle i =
      { t with
        stations := t.stations.modify i fun s => { s with queue := q, mailbox := [] }
        callers := []
        answered := t.answered ++ [(job.ticket, { answer with elapsed := t.now - since })] } :=
  (handle_eq hs hm hq hwaiting).trans (deliver_eq (t := t.modifyStation i _) hcallers answer)

end Handle

section Phase

variable {t₀ t : Timeline} {i : Nat} {job : Job} {probe : Bool} {timeout : Nat}
  {outcome : Answer × Nat} {left made : Nat} {mail : List Message}

/-- It does not matter when it is, what is ready and what is pending. -/
theorem Outstanding.later (h : Outstanding t₀ i job timeout mail made t) (now : Nat)
    (ready : List Turn) (pending : List PendingReply) :
    Outstanding t₀ i job timeout mail made { t with now, ready, pending } :=
  ⟨h.calls, h.replies, h.caller, h.answered, h.station, h.calm⟩

/-- One more call. -/
theorem Outstanding.sends (h : Outstanding t₀ i job timeout mail made t) (left : Nat) :
    Outstanding t₀ i job timeout mail (made + 1) (t.sends ⟨i, job, probe, left⟩) where
  calls := by
    obtain ⟨calls, hsent, hcalls⟩ := h.calls
    obtain ⟨s, hs, htimeout⟩ := h.station
    have hsame : t.requestTimeout i = timeout := by
      rw [requestTimeout, hs]
      exact htimeout
    refine ⟨calls ++ [⟨job.call, t.requestTimeout i, t.now⟩], ?_, ?_⟩
    · rw [Timeline.sends, hsent, List.append_assoc]
    · rw [List.map_append, hcalls, hsame, List.replicate_succ']
      rfl
  replies k := by
    have hnext := h.replies (k + 1)
    rwa [← Nat.add_assoc, Nat.add_right_comm] at hnext
  caller := h.caller
  answered := h.answered
  station := h.station
  calm := h.calm

/-- A message makes its station ready. -/
theorem post_eq (hready : t.ready = []) (m : Message) : t.post i m =
    { t with
      stations := t.stations.modify i fun s => { s with mailbox := s.mailbox ++ [m] }
      ready := [.handle i] } := by
  obtain ⟨turns, ⟨-, hmem⟩ | rfl, heq⟩ := post_cases t i m
  · rw [hready] at hmem
    cases hmem
  · rw [heq, hready, List.nil_append]

/-- The station of the job gets a message. -/
theorem Outstanding.post (h : Outstanding t₀ i job timeout [] made t) (hready : t.ready = [])
    (m : Message) : Outstanding t₀ i job timeout [m] made (t.post i m) := by
  obtain ⟨s, hs, htimeout⟩ := h.station
  rw [post_eq hready]
  exact ⟨h.calls, h.replies, h.caller, h.answered,
    ⟨_, getElem?_modify_self hs _, htimeout⟩,
    h.calm.modify fun s hwaiting hmail => ⟨hwaiting, by rw [hmail]; rfl⟩⟩

/-- **The exchange ends** with an attempt that is not repeated. -/
theorem Phase.post (h : Outstanding t₀ i job timeout [] (made + 1) t) (hready : t.ready = [])
    (hpending : t.pending = [])
    (rest : exchange (t₀.transport.replies job.call) left made = outcome)
    (last : left = 0 ∨ (t₀.transport.replies job.call made).isRetryable = false) :
    Phase t₀ i job probe timeout outcome
      (t.post i (.complete job (t₀.transport.replies job.call made).answer probe)) := by
  rw [exchange_of_last last] at rest
  subst rest
  exact .told (h.post hready _) (by rw [post_eq hready]) (by rw [post_eq hready, hpending])

/-- **Attempts** are repeated as the loop repeats them. -/
theorem Phase.attempt (h : Outstanding t₀ i job timeout [] made t) (hready : t.ready = [])
    (hpending : t.pending = [])
    (rest : exchange (t₀.transport.replies job.call) left made = outcome) (old : Nat) :
    Phase t₀ i job probe timeout outcome (Timeline.attempt ⟨i, job, probe, old⟩ left t) := by
  have hsends : Outstanding t₀ i job timeout [] (made + 1) (t.sends ⟨i, job, probe, old⟩) :=
    h.sends old
  have hreply : (t.transport.take job.call).1.reply = t₀.transport.replies job.call made :=
    h.replies 0
  -- With the attempt that is made the loop unfolds once, and what is left of it comes to the same.
  induction left generalizing made t with
  | zero =>
    rw [Timeline.attempt]
    dsimp only
    rw [hreply]
    split
    · exact Phase.post hsends hready hpending rest (.inl rfl)
    · exact .pending (hsends.later _ _ _) rest hready (by rw [hpending]; rfl)
  | succ left ih =>
    rw [Timeline.attempt]
    dsimp only
    rw [hreply]
    split
    · split
      · rename_i hretryable
        rw [exchange_of_retryable hretryable] at rest
        exact ih hsends hready hpending rest (hsends.sends old) (hsends.replies 0)
      · rename_i hretryable
        exact Phase.post hsends hready hpending rest (.inr (Bool.eq_false_iff.mpr hretryable))
    · exact .pending (hsends.later _ _ _) rest hready (by rw [hpending]; rfl)

/-- **A turn** keeps what makes up the whole loop. -/
theorem Phase.perform {turn : Turn} {rest : List Turn}
    (h : Phase t₀ i job probe timeout outcome t) (hready : t.ready = turn :: rest) :
    Phase t₀ i job probe timeout outcome ({ t with ready := rest }.perform turn) := by
  cases h with
  | ready outstanding loop hturn hpending =>
    cases hready.symm.trans hturn
    exact Phase.attempt (outstanding.later _ _ _) rfl hpending loop _
  | pending outstanding loop hturn hpending => cases hready.symm.trans hturn
  | @ended left made outstanding loop hturn hpending =>
    cases hready.symm.trans hturn
    have houtstanding := outstanding.later t.now [] t.pending
    rw [Timeline.perform]
    cases left with
    | zero => exact Phase.post houtstanding rfl hpending loop (.inl rfl)
    | succ left =>
      dsimp only
      split
      · rename_i hretryable
        rw [exchange_of_retryable hretryable] at loop
        exact Phase.attempt houtstanding rfl hpending loop _
      · rename_i hretryable
        exact Phase.post houtstanding rfl hpending loop (.inr (Bool.eq_false_iff.mpr hretryable))
  | told outstanding hturn hpending =>
    cases hready.symm.trans hturn
    obtain ⟨s, hs, -⟩ := outstanding.station
    obtain ⟨since, hcallers⟩ := outstanding.caller
    obtain ⟨hline, hmail⟩ := outstanding.calm i s hs
    obtain ⟨q, heq, hwaiting⟩ := Queue.exists_complete s.settings t.now job outcome.1 probe hline
    rw [if_pos rfl] at hmail
    rw [Timeline.perform,
      handle_answers (t := { t with ready := [] }) hs hmail heq hwaiting hcallers]
    refine .answered ⟨rfl, hpending, rfl, ?_⟩ outstanding.calls
      ⟨t.now - since, by rw [← outstanding.answered]⟩
    exact calm_nil_iff.mp (outstanding.calm.modify fun _ _ _ => ⟨hwaiting, rfl⟩)
  | answered quiet calls answered => cases hready.symm.trans quiet.ready

/-- Moving on keeps it, too. -/
theorem Phase.moveTo (h : Phase t₀ i job probe timeout outcome t) (instant : Nat) :
    Phase t₀ i job probe timeout outcome (t.moveTo instant) := by
  cases h with
  | ready outstanding loop hturn hpending =>
    rw [outstanding.calm.moveTo, hpending, hturn]
    exact .ready (outstanding.later _ _ _) loop rfl rfl
  | @pending left made due outstanding loop hturn hpending =>
    rw [outstanding.calm.moveTo, hpending, hturn]
    by_cases hdue : due ≤ instant
    · exact .ended (outstanding.later _ _ _) loop (by simp [hdue]) (by simp [hdue])
    · exact .pending (outstanding.later _ _ _) loop (by simp [hdue])
        (List.filter_eq_self.mpr (by simpa using hdue))
  | ended outstanding loop hturn hpending =>
    rw [outstanding.calm.moveTo, hpending, hturn]
    exact .ended (outstanding.later _ _ _) loop rfl rfl
  | told outstanding hturn hpending =>
    rw [outstanding.calm.moveTo, hpending, hturn]
    exact .told (outstanding.later _ _ _) rfl rfl
  | answered quiet calls answered =>
    rw [(calm_nil_iff (i := i) |>.mpr quiet.stations).moveTo, quiet.pending, quiet.ready]
    exact .answered ⟨rfl, rfl, quiet.callers, quiet.stations⟩ calls answered

/-- **A run** keeps it. -/
theorem Phase.run (h : Phase t₀ i job probe timeout outcome t) (stop : Timeline → Bool)
    (horizon : Option Nat) (fuel : Nat) :
    Phase t₀ i job probe timeout outcome (t.run stop horizon fuel) :=
  run_induction t (P := Phase t₀ i job probe timeout outcome)
    (fun _ _ _ hready h => h.perform hready) (fun _ instant h => h.moveTo instant) stop horizon
    fuel h

theorem run_cons {turn : Turn} {rest : List Turn} (hready : t.ready = turn :: rest)
    (stop : Timeline → Bool) (horizon : Option Nat) (fuel : Nat) :
    t.run stop horizon (fuel + 1) =
      ({ t with ready := rest }.perform turn).run stop horizon fuel := by
  rw [Timeline.run, hready]

/-- **Where nothing more happens before the caller has its answer, it has its answer.** -/
theorem Phase.answered_of_settled {stop : Timeline → Bool}
    (h : Phase t₀ i job probe timeout outcome t) (settled : t.IsSettled stop none)
    (hstop : ∀ since, t.callers = [(job.ticket, since)] → stop t = false) :
    t.IsQuiet ∧
      (∃ calls : List SentCall, t.sent = t₀.sent ++ calls ∧
        calls.map (fun c => (c.call, c.timeout)) = List.replicate outcome.2 (job.call, timeout)) ∧
      ∃ elapsed, t.answered = t₀.answered ++ [(job.ticket, { outcome.1 with elapsed })] := by
  obtain ⟨hready, hend⟩ := settled
  cases h with
  | ready outstanding loop hturn hpending => cases hready.symm.trans hturn
  | ended outstanding loop hturn hpending => cases hready.symm.trans hturn
  | told outstanding hturn hpending => cases hready.symm.trans hturn
  | answered quiet calls answered => exact ⟨quiet, calls, answered⟩
  | @pending left made due outstanding loop hturn hpending =>
    rcases hend with hend | hend
    · obtain ⟨since, hcallers⟩ := outstanding.caller
      cases hend.symm.trans (hstop since hcallers)
    · have hnext : t.nextInstant? = some due := by
        rw [nextInstant?, hpending, outstanding.calm.deadlines]
        rfl
      cases hend due hnext

end Phase

/-! ## 3. A call that is submitted -/

section Submit

variable {t : Timeline} {i : Nat} {s : Station} {call : Call} {retries : Nat} {probe : Bool}

theorem IsQuiet.prompt (h : t.IsQuiet) : t.Prompt where
  stations := fun i s hs busy => by
    obtain ⟨hwaiting, hmail⟩ := h.stations s (List.mem_of_getElem? hs)
    rcases busy with hbusy | ⟨instant, hdeadline, -⟩
    · exact absurd hmail hbusy
    · rw [Queue.deadline?, hwaiting] at hdeadline
      cases hdeadline
  ready := fun turn hturn => absurd (h.ready ▸ hturn) List.not_mem_nil
  pending := fun p hp => absurd (h.pending ▸ hp) List.not_mem_nil

/-- A job that is started at once is ready to make its first attempt. -/
theorem Phase.handle {job : Job} {timeout : Nat} {t₀ : Timeline}
    (h : Outstanding t₀ i job timeout [.submit job] 0 t) (hready : t.ready = [])
    (hpending : t.pending = []) (hs : t.stations[i]? = some s)
    (starts : (s.queue.submit s.settings t.now job).2 = [.start job probe]) :
    Phase t₀ i job probe timeout (exchange (t₀.transport.replies job.call) job.retries 0)
      (t.handle i) := by
  obtain ⟨hline, hmail⟩ := h.calm i s hs
  rw [if_pos rfl] at hmail
  obtain ⟨q, heq, hwaiting⟩ := Queue.exists_submit hline starts
  obtain ⟨s', hs', htimeout⟩ := h.station
  rw [handle_starts hs hmail heq hwaiting, hready]
  refine .ready ⟨h.calls, h.replies, h.caller, h.answered, ?_, ?_⟩ rfl rfl hpending
  · exact ⟨_, getElem?_modify_self hs' _, htimeout⟩
  · exact h.calm.modify fun _ _ _ => ⟨hwaiting, rfl⟩

/-- A call that is submitted while nothing is under way. -/
theorem submit_eq (quiet : t.IsQuiet) (i : Nat) (call : Call) (retries : Nat) :
    (t.submit i call retries).1 =
      { t with
        nextTicket := t.nextTicket + 1
        callers := [(t.nextTicket, t.now)]
        stations := t.stations.modify i fun s =>
          { s with mailbox := s.mailbox ++ [.submit ⟨t.nextTicket, call, retries⟩] }
        ready := [.handle i] } := by
  have hpost := post_eq (t := { t with
      nextTicket := t.nextTicket + 1
      callers := t.callers ++ [(t.nextTicket, t.now)] }) (i := i) quiet.ready
    (.submit ⟨t.nextTicket, call, retries⟩)
  rw [quiet.callers] at hpost
  rw [submit, quiet.callers]
  exact hpost

theorem phase_submit (quiet : t.IsQuiet) (hs : t.stations[i]? = some s)
    (starts : (s.queue.submit s.settings t.now ⟨t.nextTicket, call, retries⟩).2 =
      [.start ⟨t.nextTicket, call, retries⟩ probe]) :
    Phase t i ⟨t.nextTicket, call, retries⟩ probe s.settings.requestTimeout
      (exchange (t.transport.replies call) retries 0)
      ({ (t.submit i call retries).1 with ready := [] }.perform (.handle i)) := by
  have hstation : (t.stations.modify i fun s =>
      { s with mailbox := s.mailbox ++ [.submit ⟨t.nextTicket, call, retries⟩] })[i]? =
      some { s with mailbox := s.mailbox ++ [.submit ⟨t.nextTicket, call, retries⟩] } :=
    getElem?_modify_self hs _
  rw [submit_eq quiet]
  refine Phase.handle (t := { t with
      nextTicket := t.nextTicket + 1
      callers := [(t.nextTicket, t.now)]
      stations := t.stations.modify i fun s =>
        { s with mailbox := s.mailbox ++ [.submit ⟨t.nextTicket, call, retries⟩] }
      ready := [] }) ?_ rfl quiet.pending hstation starts
  exact ⟨⟨[], (List.append_nil _).symm, rfl⟩, fun k => by rw [Nat.zero_add], ⟨t.now, rfl⟩, rfl,
    ⟨_, hstation, rfl⟩,
    (calm_nil_iff.mpr quiet.stations).modify fun s hline hmail => ⟨hline, by rw [hmail]; rfl⟩⟩

/-- **How often a call is made.**  Submit a call with any number of retries to a station that starts
it at once, while nothing else is under way.  However its attempts end, and however long they take,
the exchange ends, and nothing is under way again.  The call was handed to the transport once, and
once more for each connection error in front of all other replies, as far as the retries went; it was
the same call with the same timeout each time.  All attempts but the last were connection errors, and
the answer says how the last one ended. -/
theorem await_exchange (quiet : t.IsQuiet) (hs : t.stations[i]? = some s)
    (starts : (s.queue.submit s.settings t.now ⟨t.nextTicket, call, retries⟩).2 =
      [.start ⟨t.nextTicket, call, retries⟩ probe]) :
    let replies := t.transport.replies call
    let t' := (t.submit i call retries).1.await [t.nextTicket]
    ∃ (n : Nat) (calls : List SentCall) (answer : Answer),
      n = min (retries : ℕ∞) (leadingConnects replies) ∧
      t'.sent = t.sent ++ calls ∧
      calls.map (fun c => (c.call, c.timeout)) =
        List.replicate (n + 1) (call, s.settings.requestTimeout) ∧
      (∀ k < n, (replies k).IsConnectError) ∧
      t'.answered = t.answered ++ [(t.nextTicket, answer)] ∧ (replies n).LeadsTo answer ∧
      t'.IsQuiet := by
  intro replies t'
  have hprompt : (t.submit i call retries).1.Prompt := quiet.prompt.submit i call retries
  have hready : (t.submit i call retries).1.ready = [.handle i] := by rw [submit_eq quiet]
  -- The run for the answer begins with the turn of the station.
  obtain ⟨fuel, hfuel⟩ := Nat.exists_eq_add_of_lt (effort_lt_work hprompt)
  have hphase : Phase t i ⟨t.nextTicket, call, retries⟩ probe s.settings.requestTimeout
      (exchange replies retries 0) t' := by
    rw [show t' = _ from congrArg (run _ none · _) hfuel, run_cons hready]
    exact (phase_submit quiet hs starts).run _ none _
  have hsettled : t'.IsSettled
      (fun t' => [t.nextTicket].all fun n => (t'.callers.all (·.1 ≠ n))) none :=
    run_settles hprompt _ none (effort_lt_work hprompt)
  obtain ⟨hquiet, ⟨calls, hsent, hcalls⟩, elapsed, hanswered⟩ :=
    hphase.answered_of_settled hsettled fun since hcallers => by simp [hcallers]
  obtain ⟨n, hn, heq, hconnects, hlast⟩ := exchange_eq replies retries 0
  simp only [Nat.zero_add] at heq hconnects hlast
  rw [heq] at hcalls hanswered
  exact ⟨n, calls, _, (min_leadingConnects hn hconnects hlast).symm, hsent, hcalls, hconnects,
    hanswered, Reply.leadsTo_answer _ _, hquiet⟩

end Submit

namespace Example

/-- A station whose provider cannot be reached at first, and is busy then. -/
def unreachable : Timeline where
  stations := [{ name := "Custom", settings := { requestTimeout := 250 } }]
  transport :=
    { byUrl := [("https://id.example/check",
        [⟨0, .failure (.connect "refused")⟩, ⟨3, .failure (.connect "reset")⟩,
          ⟨2, .failure (.status 503 "busy")⟩])] }

def check : Call := { method := .get, url := "https://id.example/check" }

end Example

/-- Three of six possible attempts are made, and the answer tells of the third. -/
theorem await_exchange_unreachable :
    let replies := Example.unreachable.transport.replies Example.check
    let t' := (Example.unreachable.submit 0 Example.check 5).1.await [0]
    t'.sent = [⟨Example.check, 250, 0⟩, ⟨Example.check, 250, 0⟩, ⟨Example.check, 250, 3⟩] ∧
      replies 0 = .failure (.connect "refused") ∧ replies 1 = .failure (.connect "reset") ∧
      replies 2 = .failure (.status 503 "busy") ∧
      ∃ (n : Nat) (calls : List SentCall) (answer : Answer),
        n = min (5 : ℕ∞) (leadingConnects replies) ∧ t'.sent = calls ∧
        calls.map (fun c => (c.call, c.timeout)) = List.replicate (n + 1) (Example.check, 250) ∧
        t'.answered = [(0, answer)] ∧ (replies n).LeadsTo answer := by
  intro replies t'
  have quiet : Example.unreachable.IsQuiet :=
    ⟨rfl, rfl, rfl, fun s hs => by rw [List.mem_singleton.mp hs]; exact ⟨rfl, rfl⟩⟩
  have hs : Example.unreachable.stations[0]? =
      some { name := "Custom", settings := { requestTimeout := 250 } } := rfl
  have starts : (Queue.submit { requestTimeout := 250 } 0 ⟨0, Example.check, 5⟩ {}).2 =
      [.start ⟨0, Example.check, 5⟩ false] := rfl
  obtain ⟨n, calls, answer, hn, hsent, hcalls, -, hanswered, hanswer, -⟩ :=
    await_exchange quiet hs starts
  exact ⟨by decide, by decide, by decide, by decide, n, calls, answer, hn, hsent, hcalls, hanswered,
    hanswer⟩

end Timeline

end LoginGate
