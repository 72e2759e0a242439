/-
# Sessions under traffic

Requests come in and are answered in any order, and in between time passes and providers are
replaced.  `Traffic` is a session with the requests that wait for their answers and those that were
answered.  Each request is handled with what it met when it came in (`Arrival`), and its outcome is
that of its own plan (`orderly_of_leads`), whatever has happened in the meantime.  Requests that come
together are such traffic: all of them come in, then all are answered (`leads_authenticate`).
-/
import Mathlib.Logic.Relation
import LoginGate.Proofs.Dispatch.Batches

namespace LoginGate.Session

/-! ## 1. Traffic -/

/-- A request that has come in, with what it met. -/
structure Arrival where
  request : Request
  settings : AuthSettings
  /-- Unix seconds. -/
  unix : Int
  backend : Backend
  before : Session

/-- What the request needs. -/
def Arrival.plan (a : Arrival) : Plan :=
  Plan.ofRequest a.before.registry a.settings a.unix a.request

/-- The verdict on the request, by a timeline that has the answers to calls. -/
def Arrival.verdict (a : Arrival) (after : Timeline) : Verdict :=
  a.plan.verdict a.backend a.unix a.before after a.request

/-- A request that was answered. -/
structure Settlement where
  arrival : Arrival
  /-- The timeline that has the answers to calls. -/
  after : Timeline
  outcome : Outcome

/-- A session under traffic. -/
structure Traffic where
  session : Session
  /-- The requests that wait, and where they stand. -/
  pending : List (Arrival × Standing) := []
  settled : List Settlement := []
  /-- All requests that have come in, the first one first. -/
  arrived : List Arrival := []

namespace Traffic

/-- A request comes in. -/
def arrive (t : Traffic) (backend : Backend) (settings : AuthSettings) (unix : Int)
    (r : Request) : Traffic :=
  let arrival : Arrival := { request := r, settings, unix, backend, before := t.session }
  let b : Batch := { session := t.session, finish := t.session.now }
  let b := b.begin backend settings unix r
  { t with
    session := b.session
    pending := t.pending ++ b.standings.map fun e => (arrival, e.2)
    arrived := t.arrived ++ [arrival] }

/-- How a waiting request would be answered now. -/
def settlement (t : Traffic) (p : Arrival × Standing) : Settlement :=
  { arrival := p.1, after := t.session.timeline
    outcome := (Batch.verdict t.session.timeline p.2).outcome }

/-- The metrics when a waiting request is answered now. -/
def metricsWith (t : Traffic) (p : Arrival × Standing) : Metrics :=
  (Batch.verdict t.session.timeline p.2).record p.1.request.authType t.session.metrics

/-- A waiting request is answered. -/
def settle (t : Traffic) (front : List (Arrival × Standing)) (p : Arrival × Standing)
    (back : List (Arrival × Standing)) : Traffic :=
  { t with
    session := { t.session with metrics := t.metricsWith p }
    pending := front ++ back
    settled := t.settled ++ [t.settlement p] }

/-- What can happen: a request comes in, one that waits is answered, the providers are replaced, or
anything happens to the queues and the certificates. -/
inductive Step (t : Traffic) : Traffic → Prop
  | arrive (backend : Backend) (settings : AuthSettings) (unix : Int) (r : Request) :
    Step t (t.arrive backend settings unix r)
  | settle {front back : List (Arrival × Standing)} {p : Arrival × Standing}
      (waits : t.pending = front ++ p :: back) : Step t (t.settle front p back)
  | rebuild (providers : List Provider) :
    Step t { t with session := (t.session.rebuild providers).1 }
  | pass (timeline : Timeline) (cache : Certificates.Cache) :
    Step t { t with session := { t.session with timeline, cache } }

/-- Any number of steps. -/
abbrev Leads : Traffic → Traffic → Prop := Relation.ReflTransGen Step

variable {s : Session} {t t' : Traffic}

/-! ## 2. What waits and what was answered -/

/-- Beginning a request by itself comes to the same as beginning it behind others. -/
theorem begin_alone (b : Batch) (backend : Backend) (settings : AuthSettings) (unix : Int)
    (r : Request) :
    let alone : Batch := { session := b.session, finish := b.session.now }
    (b.begin backend settings unix r).session = (alone.begin backend settings unix r).session ∧
      (b.begin backend settings unix r).standings =
        b.standings ++ (alone.begin backend settings unix r).standings := by
  simp only [Batch.begin]
  cases Plan.ofRequest b.session.registry settings unix r with
  | settled v => exact ⟨rfl, rfl⟩
  | checkToken appId token => exact ⟨rfl, rfl⟩
  | call provider queue call query =>
    cases backend with
    | queues => exact ⟨rfl, rfl⟩
    | immediate answer =>
      dsimp only [Batch.beginImmediate]
      cases answer r.authType call <;> exact ⟨rfl, rfl⟩

/-- A request that comes in waits for the verdict on its plan. -/
theorem pending_arrive (t : Traffic) (backend : Backend) (settings : AuthSettings) (unix : Int)
    (r : Request) :
    ∃ standing,
      (t.arrive backend settings unix r).pending =
        t.pending ++ [({ request := r, settings, unix, backend, before := t.session }, standing)] ∧
      ∀ after, Batch.verdict after standing =
        Arrival.verdict { request := r, settings, unix, backend, before := t.session } after := by
  obtain ⟨standing, hstandings, hverdict⟩ := Batch.begin_standings backend settings unix
    { session := t.session, finish := t.session.now } r
  refine ⟨standing, ?_, hverdict⟩
  rw [arrive, hstandings]
  rfl

/-- Where a request stands is where its plan has brought it, and each request that has come in
waits or was answered. -/
structure Orderly (t : Traffic) : Prop where
  standings : ∀ p ∈ t.pending, ∀ after, Batch.verdict after p.2 = p.1.verdict after
  arrivals : (t.pending.map (·.1) ++ t.settled.map (·.arrival)).Perm t.arrived
  outcomes : ∀ e ∈ t.settled, e.outcome = (e.arrival.verdict e.after).outcome

theorem orderly_start (s : Session) : Orderly { session := s } :=
  ⟨fun _ h => (List.not_mem_nil h).elim, .refl _, fun _ h => (List.not_mem_nil h).elim⟩

theorem Orderly.arrive (h : t.Orderly) (backend : Backend) (settings : AuthSettings) (unix : Int)
    (r : Request) : (t.arrive backend settings unix r).Orderly := by
  obtain ⟨standing, hpending, hverdict⟩ := t.pending_arrive backend settings unix r
  refine ⟨fun p hp => ?_, ?_, h.outcomes⟩
  · rw [hpending] at hp
    rcases List.mem_append.mp hp with hold | hnew
    · exact h.standings p hold
    · rw [List.mem_singleton.mp hnew]
      exact hverdict
  · rw [hpending, List.map_append, List.append_assoc]
    refine (List.Perm.append_left _ List.perm_append_comm).trans ?_
    rw [← List.append_assoc]
    exact h.arrivals.append_right _

theorem Orderly.settle (h : t.Orderly) {front back : List (Arrival × Standing)}
    {p : Arrival × Standing} (waits : t.pending = front ++ p :: back) :
    (t.settle front p back).Orderly := by
  have hstandings := h.standings
  have harrivals := h.arrivals
  rw [waits] at hstandings harrivals
  refine ⟨fun q hq => hstandings q ?_, ?_, fun e he => ?_⟩
  · rcases List.mem_append.mp hq with hfront | hback
    · exact List.mem_append_left _ hfront
    · exact List.mem_append_right _ (List.mem_cons_of_mem _ hback)
  · have hmiddle : ((front ++ p :: back).map (·.1) ++ t.settled.map (·.arrival)).Perm
        (p.1 :: ((front ++ back).map (·.1) ++ t.settled.map (·.arrival))) :=
      (List.perm_middle.map _).append_right _
    have hlast := (List.perm_append_singleton p.1
      ((front ++ back).map (·.1) ++ t.settled.map (·.arrival))).trans hmiddle.symm
    have hsettled : (t.settle front p back).settled.map (·.arrival) =
        t.settled.map (·.arrival) ++ [p.1] := List.map_append
    rw [List.append_assoc] at hlast
    rw [hsettled]
    exact hlast.trans harrivals
  · rcases List.mem_append.mp he with hold | hnew
    · exact h.outcomes e hold
    · rw [List.mem_singleton.mp hnew]
      exact congrArg Verdict.outcome (hstandings p (by simp) _)

theorem Orderly.step (h : t.Orderly) (hs : Step t t') : t'.Orderly := by
  cases hs with
  | arrive backend settings unix r => exact h.arrive backend settings unix r
  | settle waits => exact h.settle waits
  | rebuild providers => exact ⟨h.standings, h.arrivals, h.outcomes⟩
  | pass timeline cache => exact ⟨h.standings, h.arrivals, h.outcomes⟩

theorem orderly_of_leads (h : Leads { session := s } t) : t.Orderly := by
  induction h with
  | refl => exact orderly_start s
  | tail _ hs ih => exact ih.step hs

/-! ## 3. Requests that come together -/

section Together

variable (backend : Backend) (settings : AuthSettings) (unix : Int)

/-- Requests that come together stand where they would stand if they came one after the other. -/
theorem leads_arrived (requests : List Request) {t : Traffic} {b : Batch}
    (hsession : t.session = b.session) :
    ∃ t' later, Leads t t' ∧
      t'.session = (requests.foldl (Batch.begin backend settings unix) b).session ∧
      t'.pending = t.pending ++ later ∧ t'.settled = t.settled ∧
      later.map (·.1.request) = requests ∧
      (requests.foldl (Batch.begin backend settings unix) b).standings =
        b.standings ++ later.map fun p => (p.1.request.authType, p.2) := by
  induction requests generalizing t b with
  | nil =>
    exact ⟨t, [], .refl, hsession, (List.append_nil _).symm, rfl, rfl, (List.append_nil _).symm⟩
  | cons r requests ih =>
    obtain ⟨halone, hstandings⟩ := begin_alone b backend settings unix r
    obtain ⟨standing, hone, -⟩ := Batch.begin_standings backend settings unix b r
    rw [hone, List.append_cancel_left_eq, ← hsession] at hstandings
    rw [← hsession] at halone
    have hnext : (t.arrive backend settings unix r).session =
        (b.begin backend settings unix r).session := by
      rw [halone, arrive]
    let p : Arrival × Standing :=
      ({ request := r, settings, unix, backend, before := t.session }, standing)
    have hpending : (t.arrive backend settings unix r).pending = t.pending ++ [p] := by
      rw [arrive, ← hstandings]
      rfl
    obtain ⟨t', later, hleads, hlast, hwait, hsettled, hrequests, hall⟩ := ih hnext
    refine ⟨t', p :: later, .head (.arrive backend settings unix r) hleads, hlast, ?_, hsettled, ?_,
      ?_⟩
    · rw [hwait, hpending, List.append_assoc]
      rfl
    · rw [List.map_cons, hrequests]
    · rw [List.foldl_cons, hall, hone, List.append_assoc]
      rfl

/-- All that wait can be answered at once. -/
theorem leads_settled (t : Traffic) :
    ∃ t', Leads t t' ∧ t'.pending = [] ∧ t'.settled = t.settled ++ t.pending.map t.settlement ∧
      t'.session = { t.session with
        metrics := t.pending.foldl
          (fun m p => (Batch.verdict t.session.timeline p.2).record p.1.request.authType m)
          t.session.metrics } := by
  generalize hpending : t.pending = pending
  induction pending generalizing t with
  | nil => exact ⟨t, .refl, hpending, (List.append_nil _).symm, rfl⟩
  | cons p back ih =>
    obtain ⟨t', hleads, hnone, hsettled, hsession⟩ := ih (t.settle [] p back) rfl
    refine ⟨t', .head (.settle hpending) hleads, hnone, ?_, hsession⟩
    rw [hsettled, settle, List.append_assoc]
    rfl

/-- **Requests that come together are traffic**: they come in one after the other, then all of them
are answered. -/
theorem leads_authenticate (s : Session) (requests : List Request) :
    ∃ t, Leads { session := s } t ∧
      t.session = (s.authenticate backend settings unix requests).1 ∧ t.pending = [] ∧
      t.settled.map (·.arrival.request) = requests ∧
      t.settled.map (·.outcome) = (s.authenticate backend settings unix requests).2.outcomes := by
  obtain ⟨t, later, hleads, hsession, hpending, hsettled, hrequests, hstandings⟩ :=
    leads_arrived backend settings unix requests (t := { session := s })
      (b := { session := s, finish := s.now }) rfl
  rw [List.nil_append] at hpending hstandings
  -- What time and the queues do to the session before all are answered.
  let after := (s.authenticate backend settings unix requests).1
  let met : Traffic :=
    { t with session := { t.session with timeline := after.timeline, cache := after.cache } }
  have hpass : Step t met := .pass after.timeline after.cache
  obtain ⟨t', hleads', hnone, hsettled', hsession'⟩ := leads_settled met
  have hall : t'.settled = later.map met.settlement := by
    rw [hsettled', show met.settled = [] from hsettled, show met.pending = later from hpending]
    rfl
  refine ⟨t', (hleads.tail hpass).trans hleads', ?_, hnone, ?_, ?_⟩
  · have hmetrics : (s.authenticate backend settings unix requests).1.metrics = _ :=
      metrics_authenticate requests
    rw [begun, hstandings, List.foldl_map, ← hsession] at hmetrics
    rw [hsession', session_authenticate, begun, ← hsession, hmetrics, ← hpending]
  · rw [hall, List.map_map]
    exact hrequests
  · rw [hall, outcomes_eq, begun, hstandings, List.map_map, List.map_map]
    rfl

end Together

end Traffic

end LoginGate.Session
