/-
# Which queue is called, and when

A request that comes in hands over one call to one queue, or none to anyone.  It does so exactly
under the conditions of a call (`Request.Calls`); the queue is the one that was made for the
request's type, and what it is sent is the merged call with the session's retries (`HandsOver`).
Time hands nothing over by itself, so when requests that came together are answered, each queue was
handed one call for each of them that calls it, and no more (`given_authenticate`).
-/
import LoginGate.Proofs.Dispatch.Histories

namespace LoginGate

/-! ## 1. Calls of plans -/

namespace Plan

/-- The queue and the call of a plan that is a call. -/
def handover? : Plan → Option (Nat × Call)
  | call _ queue outgoing _ => some (queue, outgoing)
  | _ => none

variable {registry : Registry} {settings : AuthSettings} {unix : Int} {r : Request}

theorem handover?_eq_some_iff {queue : Nat} {outgoing : Call} :
    (ofRequest registry settings unix r).handover? = some (queue, outgoing) ↔
      ∃ p, r.Calls registry settings p queue outgoing := by
  have hcalls : ∀ p, r.Calls registry settings p queue outgoing ↔
      ∃ query, ofRequest registry settings unix r = .call p queue outgoing query :=
    fun p => ofRequest_eq_call_iff.symm
  simp only [hcalls]
  cases ofRequest registry settings unix r with
  | call p q c query =>
    constructor
    · intro h
      cases h
      exact ⟨p, query, rfl⟩
    · rintro ⟨_, _, h⟩
      cases h
      rfl
  | _ => exact iff_of_false (by rintro ⟨⟩) (by rintro ⟨_, _, ⟨⟩⟩)

/-- Only Nintendo tokens are checked against published keys. -/
theorem type_of_checkToken (hregistry : registry.Fitting) {appId token : String}
    (h : ofRequest registry settings unix r = checkToken appId token) :
    r.authType = .nintendo := by
  obtain ⟨_, hsettled⟩ | ⟨e, hget, -, ⟨_, _, hkind, -⟩ | ⟨_, _, _, -, hcall⟩⟩ :=
    ofRequest_cases registry settings unix r
  · cases hsettled.symm.trans h
  · have hfits := (hregistry.get? hget).2
    rw [hkind] at hfits
    exact hfits
  · cases hcall.symm.trans h

end Plan

/-! ## 2. One request -/

namespace Timeline

variable {t : Timeline} {i : Nat}

/-- Submitting a call puts it into the mailbox of one station, with the caller's ticket. -/
theorem stations_submit {station : Station} (h : t.stations[i]? = some station) (call : Call)
    (retries : Nat) : (t.submit i call retries).1.stations = t.stations.set i
      { station with
        mailbox := station.mailbox ++ [.submit { ticket := t.nextTicket, call, retries }] } := by
  rw [submit]
  dsimp only
  rw [stations_post]
  refine List.ext_getElem? fun j => ?_
  rw [List.getElem?_modify, List.getElem?_set]
  by_cases hij : i = j
  · subst hij
    rw [if_pos rfl, if_pos (List.getElem?_eq_some_iff.mp h).1, h]
    simp
  · rw [if_neg hij]
    simp [hij]

/-- How many calls a station was ever handed. -/
def handedTo (t : Timeline) (j : Nat) : Option Nat := t.stations[j]?.map Station.handed

theorem handedTo_submit (call : Call) (retries j : Nat) :
    (t.submit i call retries).1.handedTo j =
      (t.handedTo j).map (· + if i = j then 1 else 0) := by
  rw [submit, handedTo, handedTo]
  dsimp only
  rw [stations_post, List.getElem?_modify, Option.map_eq_map, Option.map_map, Option.map_map]
  refine congrArg (Option.map · _) (funext fun station => ?_)
  by_cases hij : i = j
  · simp [hij, Station.handed, Message.submissions, Message.submitted?, Nat.add_assoc]
  · simp [hij]

theorem handedTo_eq_of_cards_eq {t' : Timeline} (h : t'.cards = t.cards) (j : Nat) :
    t'.handedTo j = t.handedTo j := by
  have hj := congrArg (fun cards => cards[j]?.map (·.2.2)) h
  simp only [cards, List.getElem?_map, Option.map_map] at hj
  exact hj

end Timeline

namespace Session

/-- **One call is handed over**: to the queue that was made for the request's type, with the
session's retries, or to whoever answers at once. -/
def HandsOver (backend : Backend) (s : Session) (r : Request) (queue : Nat) (call : Call)
    (b : Batch) : Prop :=
  match backend with
  | .queues => b.calls = [] ∧ ∃ station, s.timeline.stations[queue]? = some station ∧
      station.name = r.authType.name ∧
      b.session.timeline.stations = s.timeline.stations.set queue
        { station with mailbox := station.mailbox ++
            [.submit { ticket := s.timeline.nextTicket, call, retries := s.retries }] }
  | .immediate _ => b.calls = [(r.authType, call)] ∧ b.session.timeline = s.timeline

namespace Batch

variable {backend : Backend} {settings : AuthSettings} {unix : Int} {b : Batch} {r : Request}

/-- A request whose plan is no call submits nothing. -/
theorem begin_of_no_call
    (h : (Plan.ofRequest b.session.registry settings unix r).handover? = none) :
    (b.begin backend settings unix r).session.timeline = b.session.timeline ∧
      (b.begin backend settings unix r).calls = b.calls := by
  rw [begin]
  cases hplan : Plan.ofRequest b.session.registry settings unix r with
  | settled verdict => exact ⟨rfl, rfl⟩
  | checkToken appId token => exact ⟨rfl, rfl⟩
  | call p queue call query =>
    rw [hplan] at h
    cases h

section Call

variable {queue : Nat} {call : Call}
  (h : (Plan.ofRequest b.session.registry settings unix r).handover? = some (queue, call))
include h

/-- A request whose plan is a call submits it to its queue. -/
theorem begin_of_call_queues :
    (b.begin .queues settings unix r).session.timeline =
        (b.session.timeline.submit queue call b.session.retries).1 ∧
      (b.begin .queues settings unix r).calls = b.calls := by
  rw [begin]
  cases hplan : Plan.ofRequest b.session.registry settings unix r with
  | call p q c query =>
    rw [hplan] at h
    cases h
    exact ⟨rfl, rfl⟩
  | _ =>
    rw [hplan] at h
    cases h

/-- Whoever answers at once is given the call instead. -/
theorem begin_of_call_immediate (answer : AuthType → Call → CallEnd) :
    (b.begin (.immediate answer) settings unix r).session.timeline = b.session.timeline ∧
      (b.begin (.immediate answer) settings unix r).calls = b.calls ++ [(r.authType, call)] := by
  rw [begin]
  cases hplan : Plan.ofRequest b.session.registry settings unix r with
  | call p q c query =>
    rw [hplan] at h
    cases h
    dsimp only [beginImmediate]
    cases answer r.authType call <;> exact ⟨rfl, rfl⟩
  | _ =>
    rw [hplan] at h
    cases h

end Call

/-- Only requests of the Nintendo type concern the published keys. -/
theorem cache_begin (hregistry : b.session.registry.Fitting) (h : r.authType ≠ .nintendo) :
    (b.begin backend settings unix r).session.cache = b.session.cache := by
  rw [begin]
  cases hplan : Plan.ofRequest b.session.registry settings unix r with
  | settled verdict => rfl
  | checkToken appId token => exact absurd (Plan.type_of_checkToken hregistry hplan) h
  | call p queue call query =>
    cases backend with
    | queues => rfl
    | immediate answer =>
      dsimp only [beginImmediate]
      cases answer r.authType call <;> rfl

end Batch

section One

variable {settings : AuthSettings} {unix : Int} {s : Session} {r : Request}

/-- A request that leads to a call hands it over once. -/
theorem handsOver_of_calls (hs : s.Sound) (backend : Backend) {p : Provider} {queue : Nat}
    {call : Call} (h : r.Calls s.registry settings p queue call) :
    HandsOver backend s r queue call (s.begun backend settings unix [r]) := by
  have hplan : (Plan.ofRequest s.registry settings unix r).handover? = some (queue, call) :=
    Plan.handover?_eq_some_iff.mpr ⟨p, h⟩
  cases backend with
  | immediate answer =>
    obtain ⟨htimeline, hcalls⟩ :=
      Batch.begin_of_call_immediate (b := { session := s, finish := s.now }) hplan answer
    exact ⟨hcalls, htimeline⟩
  | queues =>
    obtain ⟨htimeline, hcalls⟩ :=
      Batch.begin_of_call_queues (b := { session := s, finish := s.now }) hplan
    have hname := hs.queues _ _ queue h.registered rfl
    rw [Timeline.getElem?_names] at hname
    obtain ⟨station, hstation, hname⟩ := Option.map_eq_some_iff.mp hname
    refine ⟨hcalls, station, hstation, hname, ?_⟩
    rw [← Timeline.stations_submit hstation]
    exact congrArg Timeline.stations htimeline

end One

/-! ## 3. Requests that come together -/

/-- The calls that requests lead to, each with the type of its request and the number of its queue. -/
def handovers (registry : Registry) (settings : AuthSettings) (unix : Int)
    (requests : List Request) : List (AuthType × Nat × Call) :=
  requests.filterMap fun r =>
    (Plan.ofRequest registry settings unix r).handover?.map fun h => (r.authType, h)

section Together

variable {backend : Backend} {settings : AuthSettings} {unix : Int}

namespace Batch

theorem registry_begin (b : Batch) (r : Request) :
    (b.begin backend settings unix r).session.registry = b.session.registry := by
  obtain ⟨_, _, hsession⟩ := begin_session backend settings unix b r
  rw [hsession]

/-- Each queue is handed one call for each request that calls it. -/
theorem handedTo_foldl_begin (requests : List Request) {b : Batch} (j : Nat) :
    (requests.foldl (Batch.begin .queues settings unix) b).session.timeline.handedTo j =
      (b.session.timeline.handedTo j).map
        (· + (handovers b.session.registry settings unix requests).countP (·.2.1 = j)) := by
  induction requests generalizing b with
  | nil => exact Option.map_id'.symm
  | cons r requests ih =>
    rw [List.foldl_cons, ih, registry_begin, handovers, handovers, List.filterMap_cons]
    cases hplan : (Plan.ofRequest b.session.registry settings unix r).handover? with
    | none =>
      rw [(begin_of_no_call hplan).1]
      rfl
    | some handover =>
      rw [(begin_of_call_queues hplan).1, Timeline.handedTo_submit, Option.map_map]
      refine congrArg (Option.map · _) (funext fun handed => ?_)
      simp only [Function.comp_apply, Option.map_some, List.countP_cons, decide_eq_true_eq]
      omega

/-- Nobody answers at once where there are queues. -/
theorem calls_foldl_begin_queues (requests : List Request) {b : Batch} :
    (requests.foldl (Batch.begin .queues settings unix) b).calls = b.calls := by
  induction requests generalizing b with
  | nil => rfl
  | cons r requests ih =>
    rw [List.foldl_cons, ih]
    cases hplan : (Plan.ofRequest b.session.registry settings unix r).handover? with
    | none => exact (begin_of_no_call hplan).2
    | some handover => exact (begin_of_call_queues hplan).2

/-- Whoever answers at once is given one call for each request that leads to one. -/
theorem calls_foldl_begin_immediate (answer : AuthType → Call → CallEnd)
    (requests : List Request) {b : Batch} :
    (requests.foldl (Batch.begin (.immediate answer) settings unix) b).session.timeline =
        b.session.timeline ∧
      (requests.foldl (Batch.begin (.immediate answer) settings unix) b).calls =
        b.calls ++ (handovers b.session.registry settings unix requests).map
          fun h => (h.1, h.2.2) := by
  induction requests generalizing b with
  | nil => exact ⟨rfl, (List.append_nil _).symm⟩
  | cons r requests ih =>
    obtain ⟨htimeline, hcalls⟩ := ih (b := b.begin (.immediate answer) settings unix r)
    rw [List.foldl_cons, htimeline, hcalls, registry_begin, handovers, handovers,
      List.filterMap_cons]
    cases hplan : (Plan.ofRequest b.session.registry settings unix r).handover? with
    | none =>
      obtain ⟨hsame, hnone⟩ := begin_of_no_call hplan
      exact ⟨hsame, by rw [hnone]; rfl⟩
    | some handover =>
      obtain ⟨hsame, hone⟩ := begin_of_call_immediate hplan answer
      exact ⟨hsame, by rw [hone, List.append_assoc]; rfl⟩

theorem cache_foldl_begin (requests : List Request) {b : Batch}
    (hregistry : b.session.registry.Fitting) (h : ∀ r ∈ requests, r.authType ≠ .nintendo) :
    (requests.foldl (Batch.begin backend settings unix) b).session.cache = b.session.cache := by
  induction requests generalizing b with
  | nil => rfl
  | cons r requests ih =>
    have hnext : (b.begin backend settings unix r).session.registry.Fitting := by
      rwa [registry_begin]
    rw [List.foldl_cons, ih hnext fun x hx => h x (List.mem_cons_of_mem r hx),
      cache_begin hregistry (h r List.mem_cons_self)]

end Batch

/-- **What is called** until requests are answered that came together: each queue once for each
handover to it, or whoever answers at once. -/
def Given (backend : Backend) (s s' : Session) (report : Report)
    (handovers : List (AuthType × Nat × Call)) : Prop :=
  match backend with
  | .queues => report.calls = [] ∧ ∀ j, s'.timeline.handedTo j =
      (s.timeline.handedTo j).map (· + handovers.countP (·.2.1 = j))
  | .immediate _ => report.calls = handovers.map (fun h => (h.1, h.2.2)) ∧
      ∀ j, s'.timeline.handedTo j = s.timeline.handedTo j

variable {s : Session}

/-- Time hands nothing over, so what the requests hand over is all. -/
theorem handedTo_authenticate (requests : List Request) (j : Nat) :
    (s.authenticate backend settings unix requests).1.timeline.handedTo j =
      (s.begun backend settings unix requests).session.timeline.handedTo j :=
  Timeline.handedTo_eq_of_cards_eq
    ((Timeline.cards_advance _ _).trans (Timeline.cards_await _ _)) j

theorem given_authenticate (requests : List Request) :
    Given backend s (s.authenticate backend settings unix requests).1
      (s.authenticate backend settings unix requests).2
      (handovers s.registry settings unix requests) := by
  cases backend with
  | queues =>
    refine ⟨Batch.calls_foldl_begin_queues requests, fun j => ?_⟩
    rw [handedTo_authenticate]
    exact Batch.handedTo_foldl_begin requests j
  | immediate answer =>
    obtain ⟨htimeline, hcalls⟩ := Batch.calls_foldl_begin_immediate answer requests
      (b := { session := s, finish := s.now })
    refine ⟨hcalls, fun j => ?_⟩
    rw [handedTo_authenticate]
    exact congrArg (Timeline.handedTo · j) htimeline

/-- The published keys only get older while no request is of the Nintendo type. -/
theorem cache_authenticate (hs : s.Sound) {requests : List Request}
    (h : ∀ r ∈ requests, r.authType ≠ .nintendo) :
    ∃ instant, ((s.authenticate backend settings unix requests).1.cache,
      (s.authenticate backend settings unix requests).2.fetched) = s.cache.advance instant := by
  have hcache : (s.begun backend settings unix requests).session.cache = s.cache :=
    Batch.cache_foldl_begin requests hs.built.fitting h
  rw [← hcache]
  exact ⟨_, rfl⟩

end Together

/-! ## 4. Routing in every history -/

/-- **Routing is exclusive, and a call happens exactly when it should.**  Whatever has happened to a
session before, a request that comes in hands one call over to the queue that was made for its type
if it meets the conditions of a call, and none to any queue otherwise; published keys are asked for
only if its type is Nintendo.  By the time requests that came together are answered, each queue was
handed one call for each of them that calls it, and nothing else. -/
theorem routing_exclusive {s₀ : Session} (new : s₀.IsNew) (events : List Event)
    (backend : Backend) (settings : AuthSettings) (unix : Int) :
    let s := s₀.replay events
    (∀ r : Request,
      let b := s.begun backend settings unix [r]
      (∀ p queue call, r.Calls s.registry settings p queue call →
        HandsOver backend s r queue call b) ∧
      ((∀ p queue call, ¬ r.Calls s.registry settings p queue call) →
        b.calls = [] ∧ b.session.timeline = s.timeline) ∧
      (r.authType ≠ .nintendo → b.session.cache = s.cache)) ∧
    ∃ handover? : Request → Option (Nat × Call),
      (∀ r queue call, handover? r = some (queue, call) ↔
        ∃ p, r.Calls s.registry settings p queue call) ∧
      ∀ requests : List Request,
        let (s', report) := s.authenticate backend settings unix requests
        Given backend s s' report
            (requests.filterMap fun r => (handover? r).map fun h => (r.authType, h)) ∧
          ((∀ r ∈ requests, r.authType ≠ .nintendo) →
            ∃ instant, (s'.cache, report.fetched) = s.cache.advance instant) := by
  intro s
  have hs : s.Sound := sound_replay new events
  refine ⟨fun r => ⟨fun p queue call h => handsOver_of_calls hs backend h, fun h => ?_,
      fun h => ?_⟩,
    fun r => (Plan.ofRequest s.registry settings unix r).handover?,
    fun r queue call => Plan.handover?_eq_some_iff,
    fun requests => ⟨given_authenticate requests, fun h => cache_authenticate hs h⟩⟩
  · have hnone : (Plan.ofRequest s.registry settings unix r).handover? = none := by
      rw [Option.eq_none_iff_forall_ne_some]
      rintro ⟨queue, call⟩ hsome
      obtain ⟨p, hcalls⟩ := Plan.handover?_eq_some_iff.mp hsome
      exact h p queue call hcalls
    exact (Batch.begin_of_no_call (b := { session := s, finish := s.now }) hnone).symm
  · exact Batch.cache_begin (b := { session := s, finish := s.now }) hs.built.fitting h

namespace Example

/-- A new session. -/
def fresh : Session := { cache := { interval := .ofNat 60000 } }

/-- A platform's service, which has a rule. -/
def platform : Provider :=
  { authType := .steam
    baseUri := "https://id.example/platform"
    dashboard := { entries := [("appid", "1"), ("apiKeySecret", "k")] } }

/-- A console's service and the platform's. -/
def services : List Provider :=
  [{ authType := .playStation, baseUri := "https://id.example/console" }, platform]

/-- A client with the ticket that the platform's rule wants, or with an empty one. -/
def player (ticket : String) : Request :=
  { userId := "ada", authType := .steam, params := some ("ticket=" ++ ticket) }

/-- The call for a client with a ticket. -/
def checkTicket : Call :=
  { method := .get, url := "https://id.example/platform?appid=1&apiKeySecret=k&ticket=t" }

end Example

/-- A client with a ticket leads to one call of its platform's queue, which is the second one, and a
client with an empty ticket to none. -/
theorem routing_exclusive_ticket :
    let s := Example.fresh.replay [.rebuild Example.services]
    let settings : AuthSettings := { applicationId := "app", allowAnonymous := true }
    Example.fresh.IsNew ∧ s.timeline.names = ["PlayStation", "Steam"] ∧
      HandsOver .queues s (Example.player "t") 1 Example.checkTicket
        (s.begun .queues settings 0 [Example.player "t"]) ∧
      (s.begun .queues settings 0 [Example.player ""]).session.timeline = s.timeline := by
  intro s settings
  have new : Example.fresh.IsNew := ⟨rfl, rfl, rfl, rfl⟩
  obtain ⟨hone, -⟩ := routing_exclusive new [.rebuild Example.services] .queues settings 0
  have hrule := Plan.missingParameter?_eq_none_iff.mp
    (show Plan.missingParameter? Example.platform (Example.player "t") = none by cbv)
  have hcalls : (Example.player "t").Calls s.registry settings Example.platform 1
      Example.checkTicket :=
    { registered := rfl
      checked := fun h => absurd (h.1 _ rfl) (by decide)
      client := fun rule h => (hrule rule h).1
      dashboard := fun rule h => (hrule rule h).2
      forwards := trivial
      merged := ⟨_, rfl, by cbv⟩ }
  refine ⟨new, rfl, (hone (Example.player "t")).1 _ 1 Example.checkTicket hcalls,
    ((hone (Example.player "")).2.1 fun p queue call h => ?_).2⟩
  have hempty : (QueryParams.parse "ticket=").get? "ticket" = some "" := by cbv
  obtain ⟨query, value, hquery, hvalue, hne⟩ | ⟨members, value, hdata, -⟩ :=
    h.client ⟨.steam, ["ticket"], ["appid", "apiKeySecret"]⟩ rfl "ticket" List.mem_cons_self
  · cases hquery
    exact hne (Option.some.inj (hempty.symm.trans hvalue)).symm
  · cases hdata

end Session

end LoginGate
