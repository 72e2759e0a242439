/-
# Every request is counted once

A request that lets an anonymous client in is not counted.  For any other one exactly one counter of
its type grows, and which one it is can be told from outside: from the outcome, and from the answer
of the call that was made for it, if one was made and has come back (`counterOf`).  The time that
such a call took is sampled, whatever it has answered.

So under any traffic the counters of a type add up to the requests of that type that were answered,
less the anonymous ones (`requests_accounted`).
-/
import Mathlib.Data.List.Basic
import LoginGate.Proofs.Dispatch.FailClosed
import LoginGate.Proofs.Dispatch.Traffic
import LoginGate.Proofs.Metrics.Calls

namespace LoginGate

/-! ## 1. Metrics -/

namespace Metrics

variable (m : Metrics) (t u : AuthType) (c : Counter)

/-- All that was counted for a type. -/
def tally : Nat := (Counter.all.map (m.count t)).foldl (· + ·) 0

/-- A counter that grows is one of those of its type. -/
theorem tally_increment : (m.increment t c).tally u = m.tally u + if t = u then 1 else 0 := by
  simp only [tally, Counter.all, List.map_cons, List.map_nil, List.foldl_cons, List.foldl_nil,
    count_increment]
  by_cases h : t = u
  · cases c <;> simp [h] <;> omega
  · simp [h]

theorem tally_recordLatency (nanoseconds : Nat) :
    (m.recordLatency t nanoseconds).tally u = m.tally u := rfl

end Metrics

/-! ## 2. What is counted -/

/-- **What is counted** for a request that is not anonymous: it depends on the outcome and on the
answer of the call that was made for it, if there was one and it has come back. -/
def counterOf : Option Answer → Outcome → Counter
  | none, .accepted _ => .resultsAccepted
  | none, .failed .authTokenInvalid _ => .resultsDenied
  | none, .failed .authTokenExpired _ => .resultsDenied
  | none, _ => .errors
  | some answer, outcome =>
    match answer.result, outcome with
    | .success, .accepted _ => .resultsAccepted
    | .success, .incomplete _ => .resultsData
    | .success, .failed .. => .resultsDenied
    | .success, .parameterInvalid _ => .resultsDenied
    | .queueFull, _ => .queueFullErrors
    | .queueTimeout, _ => .queueTimeouts
    | .requestTimeout, _ => .httpTimeouts
    | .error, _ => .httpErrors
    | .offline, _ => .httpErrors

/-- The samples that an answer leaves; they are in nanoseconds. -/
def samplesOf (answer : Option Answer) : List Nat :=
  (answer.map fun a => 1000000 * a.elapsed).toList

namespace Verdict

/-- A verdict counts what is to be counted for an answer. -/
structure Accounts (v : Verdict) (answer : Option Answer) : Prop where
  counter : v.counter = some (counterOf answer v.outcome)
  latency : v.latency = answer.map (·.elapsed)

theorem accounts_localFailure {kind : FailureKind} (hinvalid : kind ≠ .authTokenInvalid)
    (hexpired : kind ≠ .authTokenExpired) (message : String) :
    (localFailure kind message).Accounts none := by
  refine ⟨?_, rfl⟩
  cases kind with
  | authTokenInvalid => exact absurd rfl hinvalid
  | authTokenExpired => exact absurd rfl hexpired
  | _ => rfl

theorem accounts_ofSealedToken (result : Except TokenRejection TokenClaims) :
    (ofSealedToken result).Accounts none := by
  cases result with
  | ok claims => exact ⟨rfl, rfl⟩
  | error e => cases e <;> exact ⟨rfl, rfl⟩

theorem accounts_ofIdentity (result : Except Nintendo.Rejection Nintendo.Identity) :
    (ofIdentity result).Accounts none := by
  cases result with
  | ok identity => exact ⟨rfl, rfl⟩
  | error e => cases e <;> exact ⟨rfl, rfl⟩

/-- The answer alone decides what is counted for a call without success, and the outcome decides for
one with success. -/
theorem accounts_ofAnswer (provider : Provider) (userId : String) (a : Answer) :
    (ofAnswer provider userId a).Accounts (some a) := by
  obtain ⟨result, status, body, error, elapsed⟩ := a
  cases result with
  | success =>
    refine ⟨?_, rfl⟩
    simp only [ofAnswer, Answer.isSuccess, beq_self_eq_true, if_true]
    generalize Outcome.ofBody body provider.forwardAsJson userId = outcome
    cases outcome <;> rfl
  | _ => exact ⟨rfl, rfl⟩

theorem accounts_breakdown : breakdown.Accounts none := ⟨rfl, rfl⟩

section Record

variable (v : Verdict) (m : Metrics) (t u : AuthType)

theorem count_record (c : Counter) :
    (v.record t m).count u c = m.count u c + if t = u ∧ v.counter = some c then 1 else 0 := by
  obtain ⟨outcome, counter, latency⟩ := v
  cases latency <;> cases counter <;>
    simp [record, Metrics.count_increment, Metrics.count_recordLatency]

theorem tally_record :
    (v.record t m).tally u = m.tally u + if t = u ∧ v.counter.isSome then 1 else 0 := by
  obtain ⟨outcome, counter, latency⟩ := v
  cases latency <;> cases counter <;>
    simp [record, Metrics.tally_increment, Metrics.tally_recordLatency]

theorem samples_record :
    (v.record t m).samples u =
      m.samples u ++ if t = u then (v.latency.map (1000000 * ·)).toList else [] := by
  obtain ⟨outcome, counter, latency⟩ := v
  cases latency <;> cases counter <;>
    simp [record, Metrics.samples_increment, Metrics.samples_recordLatency]

end Record

end Verdict

/-! ## 3. Plans -/

namespace Plan

/-- The answer of the call of a plan, if it makes one and it comes back. -/
def answer? (backend : Backend) (before : Session) (after : Timeline) (r : Request) :
    Plan → Option Answer
  | call _ queue outgoing _ => backend.answer? before after r.authType queue outgoing
  | _ => none

section Accounts

variable {backend : Backend} {unix : Int} {before : Session} {after : Timeline} {r : Request}

theorem accounts_console (appId : String) :
    ((console appId r).verdict backend unix before after r).Accounts
      ((console appId r).answer? backend before after r) := by
  rw [console]
  split
  · exact Verdict.accounts_ofIdentity _
  · exact Verdict.accounts_localFailure (by decide) (by decide) _

theorem accounts_sealedToken (ring : KeyRing) (settings : AuthSettings) (now : Int) :
    ((sealedToken ring settings now r).verdict backend unix before after r).Accounts
      ((sealedToken ring settings now r).answer? backend before after r) := by
  rw [sealedToken]
  split
  · exact ⟨rfl, rfl⟩
  · exact Verdict.accounts_ofSealedToken _

theorem accounts_http (provider : Provider) (queue : Nat) :
    ((http provider queue r).verdict backend unix before after r).Accounts
      ((http provider queue r).answer? backend before after r) := by
  rw [http]
  split
  · exact Verdict.accounts_localFailure (by decide) (by decide) _
  · split
    · exact Verdict.accounts_localFailure (by decide) (by decide) _
    · rw [verdict, answer?]
      split
      · rename_i a hanswer
        rw [hanswer]
        exact Verdict.accounts_ofAnswer provider r.userId a
      · rename_i hnone
        rw [hnone]
        exact Verdict.accounts_breakdown

end Accounts

end Plan

/-! ## 4. Requests -/

namespace Session

namespace Arrival

/-- **A request lets an anonymous client in**: where this is allowed, it is for the type of custom
providers and there is none, or its provider is there and it brings nothing to check. -/
def isAnonymous (a : Arrival) : Bool :=
  a.settings.allowAnonymous &&
    match a.before.registry.get? a.request.authType with
    | none => a.request.authType = .custom
    | some _ => !a.request.hasParams && !a.request.hasData

/-- The answer of the call that is made for a request, if one is made and it comes back. -/
def answer? (a : Arrival) (after : Timeline) : Option Answer :=
  a.plan.answer? a.backend a.before after a.request

variable {a : Arrival}

/-- An anonymous client is let in as who it says it is, and no call is made. -/
theorem plan_of_anonymous (h : a.isAnonymous = true) :
    a.plan = .settled (.anonymous a.request.userId) := by
  obtain ⟨hallow, hcase⟩ := Bool.and_eq_true_iff.mp h
  rw [plan, Plan.ofRequest]
  cases hget : a.before.registry.get? a.request.authType with
  | none =>
    rw [hget] at hcase
    dsimp only
    rw [hallow, Bool.and_true, if_pos hcase]
  | some p =>
    rw [hget] at hcase
    dsimp only at hcase ⊢
    rw [hcase, hallow, Bool.and_true, if_pos rfl]

/-- **Any other request counts** what is to be counted for it. -/
theorem accounts (h : a.isAnonymous = false) (after : Timeline) :
    (a.verdict after).Accounts (a.answer? after) := by
  rw [verdict, answer?, plan]
  rw [isAnonymous] at h
  cases hget : a.before.registry.get? a.request.authType with
  | none =>
    rw [hget] at h
    have hplan : Plan.ofRequest a.before.registry a.settings a.unix a.request =
        .settled (.localFailure .notSupported "Authentication type not supported") := by
      rw [Plan.ofRequest, hget]
      dsimp only
      rw [Bool.and_comm, h]
      rfl
    rw [hplan]
    exact Verdict.accounts_localFailure (by decide) (by decide) _
  | some p =>
    rw [hget] at h
    have hchecked : a.request.hasParams = true ∨ a.request.hasData = true ∨
        a.settings.allowAnonymous = false := by
      cases hparams : a.request.hasParams <;> cases hdata : a.request.hasData <;>
        simp_all
    rw [Plan.ofRequest_registered hget hchecked, Plan.checked]
    split
    · exact Plan.accounts_console _
    · exact Plan.accounts_sealedToken _ _ _
    · exact Plan.accounts_http _ _

end Arrival

namespace Settlement

/-- What is to be counted for a request. -/
def counter? (e : Settlement) : Option Counter :=
  if e.arrival.isAnonymous then none else some (counterOf (e.arrival.answer? e.after) e.outcome)

/-- The samples that are to be taken of a request. -/
def samples (e : Settlement) : List Nat := samplesOf (e.arrival.answer? e.after)

end Settlement

/-! ## 5. Traffic -/

namespace Traffic

variable {s : Session} {t t' : Traffic}

/-- What a waiting request counts and samples when it is answered. -/
theorem verdict_settlement (h : t.Orderly) {p : Arrival × Standing} (hp : p ∈ t.pending) :
    let v := Batch.verdict t.session.timeline p.2
    v.counter = (t.settlement p).counter? ∧
      (v.latency.map (1000000 * ·)).toList = (t.settlement p).samples := by
  intro v
  have hv : v = p.1.verdict t.session.timeline := h.standings p hp _
  cases hanonymous : p.1.isAnonymous with
  | true =>
    have hplan := Arrival.plan_of_anonymous hanonymous
    have hverdict : v = .anonymous p.1.request.userId := by
      rw [hv, Arrival.verdict, hplan]
      rfl
    have hanswer : p.1.answer? t.session.timeline = none := by
      rw [Arrival.answer?, hplan]
      rfl
    rw [hverdict, Settlement.counter?, Settlement.samples, settlement, if_pos hanonymous, hanswer]
    exact ⟨rfl, rfl⟩
  | false =>
    have haccounts := Arrival.accounts hanonymous t.session.timeline
    rw [← hv] at haccounts
    rw [Settlement.counter?, Settlement.samples, settlement, if_neg (by simp [hanonymous]),
      haccounts.counter, haccounts.latency, samplesOf, Option.map_map]
    exact ⟨rfl, rfl⟩

/-- **One answer** counts for its type what is to be counted, and nothing else. -/
theorem metrics_settle (h : t.Orderly) {p : Arrival × Standing} (hp : p ∈ t.pending) :
    (∀ type c, (t.metricsWith p).count type c = t.session.metrics.count type c +
        if p.1.request.authType = type ∧ (t.settlement p).counter? = some c then 1 else 0) ∧
      (∀ type, (t.metricsWith p).samples type = t.session.metrics.samples type ++
        if p.1.request.authType = type then (t.settlement p).samples else []) ∧
      ∀ type, (t.metricsWith p).tally type = t.session.metrics.tally type +
        if p.1.request.authType = type ∧ (t.settlement p).counter?.isSome then 1 else 0 := by
  obtain ⟨hcounter, hsamples⟩ := verdict_settlement h hp
  rw [← hcounter, ← hsamples]
  exact ⟨fun type c => Verdict.count_record .., fun type => Verdict.samples_record ..,
    fun type => Verdict.tally_record ..⟩

theorem metrics_rebuild (s : Session) (providers : List Provider) :
    (s.rebuild providers).1.metrics = s.metrics := by
  rw [rebuild]
  dsimp only
  split <;> rfl

theorem metrics_arrive (t : Traffic) (backend : Backend) (settings : AuthSettings) (unix : Int)
    (r : Request) : (t.arrive backend settings unix r).session.metrics = t.session.metrics := by
  obtain ⟨_, _, hsession⟩ := Batch.begin_session backend settings unix
    { session := t.session, finish := t.session.now } r
  rw [arrive, hsession]

/-- The metrics are those of the session at first and what the answered requests have added. -/
structure Accounted (s : Session) (t : Traffic) : Prop where
  counts : ∀ type c, t.session.metrics.count type c = s.metrics.count type c +
    t.settled.countP fun e => e.arrival.request.authType = type ∧ e.counter? = some c
  samples : ∀ type, t.session.metrics.samples type = s.metrics.samples type ++
    (t.settled.filter (·.arrival.request.authType = type)).flatMap (·.samples)
  tally : ∀ type, t.session.metrics.tally type +
      t.settled.countP (fun e => e.arrival.request.authType = type ∧ e.arrival.isAnonymous) =
    s.metrics.tally type + t.settled.countP (·.arrival.request.authType = type)

theorem accounted_start (s : Session) : Accounted s { session := s } :=
  ⟨fun _ _ => rfl, fun _ => (List.append_nil _).symm, fun _ => rfl⟩

theorem Accounted.settle (h : t.Accounted s) (horderly : t.Orderly)
    {front back : List (Arrival × Standing)} {p : Arrival × Standing}
    (waits : t.pending = front ++ p :: back) : Accounted s (t.settle front p back) := by
  have hp : p ∈ t.pending := by
    rw [waits]
    exact List.mem_append_right _ List.mem_cons_self
  obtain ⟨hcounts, hsamples, htally⟩ := metrics_settle horderly hp
  refine ⟨fun type c => ?_, fun type => ?_, fun type => ?_⟩
  · simp only [Traffic.settle, hcounts, h.counts, List.countP_append, List.countP_singleton,
      decide_eq_true_eq, Nat.add_assoc]
    rfl
  · simp only [Traffic.settle, hsamples, h.samples, List.filter_append, List.flatMap_append,
      List.filter_singleton, List.append_assoc]
    by_cases htype : p.1.request.authType = type <;> simp [settlement, htype]
  · have hcounter : (t.settlement p).counter?.isSome = !p.1.isAnonymous := by
      rw [Settlement.counter?, settlement]
      cases p.1.isAnonymous <;> rfl
    have hprior := h.tally type
    simp only [Traffic.settle, htally, List.countP_append, List.countP_singleton, hcounter]
    by_cases htype : p.1.request.authType = type <;> cases hanonymous : p.1.isAnonymous <;>
      simp [settlement, htype, hanonymous] at hprior ⊢ <;> omega

theorem Accounted.of_metrics_eq (h : t.Accounted s)
    (hmetrics : t'.session.metrics = t.session.metrics) (hsettled : t'.settled = t.settled) :
    t'.Accounted s :=
  ⟨by rw [hmetrics, hsettled]; exact h.counts, by rw [hmetrics, hsettled]; exact h.samples,
    by rw [hmetrics, hsettled]; exact h.tally⟩

theorem Accounted.step (h : t.Accounted s) (horderly : t.Orderly) (hs : Step t t') :
    t'.Accounted s := by
  cases hs with
  | arrive backend settings unix r =>
    exact h.of_metrics_eq (t.metrics_arrive backend settings unix r) rfl
  | settle waits => exact h.settle horderly waits
  | rebuild providers => exact h.of_metrics_eq (metrics_rebuild t.session providers) rfl
  | pass timeline cache => exact h.of_metrics_eq rfl rfl

theorem accounted_of_leads (h : Leads { session := s } t) : t.Accounted s := by
  induction h with
  | refl => exact accounted_start s
  | tail hleads hs ih => exact ih.step (orderly_of_leads hleads) hs

/-- **Every request is counted once**, under any traffic.  Each answer makes one counter of its type
grow by one, that of `counterOf`, or none if the client is anonymous, and it leaves a sample if a
call has come back.  So each counter and the samples are those of the answered requests, and the
counters of a type add up to its answered requests less the anonymous ones; those that are not
answered yet still wait. -/
theorem requests_accounted (h : Leads { session := s } t) :
    (∀ front p back, t.pending = front ++ p :: back →
      let e := t.settlement p
      let metrics := (t.settle front p back).session.metrics
      (∀ type c, metrics.count type c = t.session.metrics.count type c +
        if p.1.request.authType = type ∧ e.counter? = some c then 1 else 0) ∧
      (∀ type, metrics.samples type = t.session.metrics.samples type ++
        if p.1.request.authType = type then e.samples else []) ∧
      (p.1.isAnonymous = true → e.outcome = .accept p.1.request.userId)) ∧
    (∀ type c, t.session.metrics.count type c = s.metrics.count type c +
      t.settled.countP fun e => e.arrival.request.authType = type ∧ e.counter? = some c) ∧
    (∀ type, t.session.metrics.samples type = s.metrics.samples type ++
      (t.settled.filter (·.arrival.request.authType = type)).flatMap (·.samples)) ∧
    (t.pending.map (·.1) ++ t.settled.map (·.arrival)).Perm t.arrived ∧
    ∀ type, t.session.metrics.tally type +
        t.settled.countP (fun e => e.arrival.request.authType = type ∧ e.arrival.isAnonymous) =
      s.metrics.tally type + t.settled.countP (·.arrival.request.authType = type) := by
  have horderly := orderly_of_leads h
  have haccounted := accounted_of_leads h
  refine ⟨fun front p back waits => ?_, haccounted.counts, haccounted.samples, horderly.arrivals,
    haccounted.tally⟩
  have hp : p ∈ t.pending := by
    rw [waits]
    exact List.mem_append_right _ List.mem_cons_self
  obtain ⟨hcounts, hsamples, -⟩ := metrics_settle horderly hp
  refine ⟨hcounts, hsamples, fun hanonymous => ?_⟩
  rw [settlement, horderly.standings p hp, Arrival.verdict, Arrival.plan_of_anonymous hanonymous]
  rfl

end Traffic

namespace Example

/-- The service breaks down over records, and answers to nothing but posts. -/
def moody : Backend :=
  .immediate fun _ call =>
    if call.contentType.isSome then .brokeDown none
    else if call.body.isSome then .answered (.success 200 [])
    else .answered (.failure .offline "Provider offline")

/-- Clients of the service, one of them with nothing to check and one with a record, and one of a
type that is not registered. -/
def clients : List Request :=
  [ada, eve, { userId := "guest", authType := .custom },
    { userId := "mallory", authType := .custom, data := some (.map []) },
    { userId := "walker", authType := .steam, params := some "ticket" }]

end Example

/-- Of four clients of the service three are counted, so one was anonymous; two calls have come
back. -/
theorem requests_accounted_mixed :
    ∃ t, Traffic.Leads { session := Example.session } t ∧
      t.settled.map (·.arrival.request) = Example.clients ∧ t.pending = [] ∧
      t.session.metrics.snapshot = [(.custom, .errors, 1), (.custom, .httpErrors, 1),
        (.custom, .resultsAccepted, 1), (.steam, .errors, 1)] ∧
      (t.session.metrics.samples .custom).length = 2 ∧ t.session.metrics.tally .custom = 3 ∧
      t.settled.countP (·.arrival.request.authType = .custom) = 4 ∧
      t.settled.countP (fun e => e.arrival.request.authType = .custom ∧ e.arrival.isAnonymous) =
        1 := by
  let settings : AuthSettings := { applicationId := "app", allowAnonymous := true }
  obtain ⟨t, hleads, hsession, hpending, hrequests, -⟩ :=
    Traffic.leads_authenticate Example.moody settings 0 Example.session Example.clients
  obtain ⟨-, -, -, -, htally⟩ := Traffic.requests_accounted hleads
  have hcount : t.settled.countP (·.arrival.request.authType = .custom) = 4 := by
    have hmap := List.countP_map (p := fun r : Request => decide (r.authType = .custom))
      (f := fun e : Settlement => e.arrival.request) (l := t.settled)
    rw [hrequests] at hmap
    exact hmap.symm
  have hmetrics : t.session.metrics =
      { counters := [((.custom, .resultsAccepted), 1), ((.custom, .httpErrors), 1),
          ((.custom, .errors), 1), ((.steam, .errors), 1)]
        latencies := [(.custom, [0, 0])] } := by
    rw [hsession]
    rfl
  have hthree : t.session.metrics.tally .custom = 3 := by
    rw [hmetrics]
    rfl
  have hsum := htally .custom
  rw [hthree, hcount] at hsum
  refine ⟨t, hleads, hrequests, hpending, ?_, ?_, hthree, hcount, ?_⟩
  · rw [hmetrics]
    rfl
  · rw [hmetrics]
    rfl
  · have hnone : Example.session.metrics.tally .custom = 0 := rfl
    omega

end Session

end LoginGate
