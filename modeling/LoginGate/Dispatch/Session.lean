/-
# Sessions

A dispatcher in time: its registry, its metrics, the certificate cache and the queues of its
providers.  A rebuild replaces the registry as a whole or leaves it alone.  Requests that come
together are all begun at one instant, in their order, and the session moves on to the instant at
which the last of them is answered.
-/
import LoginGate.Dispatch.Plan
import LoginGate.Queue.Timeline

namespace LoginGate

/-! ## 1. Sessions -/

/-- What is logged. -/
inductive LogEvent where
  | registryBuilt (providers reused : Nat)
  | callingProvider (query : String) (hasBody : Bool)
  | brokenDown (text : String)
  deriving DecidableEq, Repr

/-- A dispatcher in time. -/
structure Session where
  registry : Registry := {}
  metrics : Metrics := {}
  nintendo : Nintendo.Settings := {}
  cache : Certificates.Cache
  queueSettings : Queue.Settings := {}
  timeline : Timeline := {}
  /-- How many times a call is tried again after it could not be connected. -/
  retries : Nat := 1

/-- How a call ends that no running queue handles. -/
inductive CallEnd where
  | answered (answer : Answer)
  /-- The handling broke down, with a text if there is one. -/
  | brokeDown (text : Option String)
  deriving DecidableEq, Repr

/-- Who answers calls: the running queues, or anyone who answers at once. -/
inductive Backend where
  | queues
  | immediate (answer : AuthType → Call → CallEnd)

namespace Session

/-- The session's instant. -/
def now (s : Session) : Nat := s.timeline.now

/-! ## 2. Rebuilding -/

/-- Replaces the registry.  On an error the registry stays.  Yields the types for which queues were
made, and what is logged. -/
def rebuild (s : Session) (providers : List Provider) :
    Session × Option RegistryError × List AuthType × List LogEvent :=
  let (draft, error) := s.registry.build s.timeline.stations.length providers
  let timeline := draft.created.foldl
    (fun t created => (t.addStation created.name s.queueSettings).1) s.timeline
  let s := { s with timeline }
  match error with
  | some e => (s, some e, draft.created, [])
  | none =>
    ({ s with registry := draft.registry }, none, draft.created,
      [.registryBuilt draft.registry.size draft.reused])

/-- The queues of the registered HTTP providers. -/
def queues (s : Session) : List (AuthType × Queue) :=
  s.registry.providers.filterMap fun r =>
    match r.kind with
    | .http i => s.timeline.stations[i]?.map fun station => (r.provider.authType, station.queue)
    | _ => none

/-! ## 3. Beginning requests -/

/-- Where a request stands after it was begun. -/
inductive Standing where
  | settled (verdict : Verdict)
  /-- It waits for the answer to its call. -/
  | waiting (ticket : Nat) (provider : Provider) (userId : String)

/-- Requests that were begun together. -/
structure Batch where
  session : Session
  standings : List (AuthType × Standing) := []
  /-- The last instant at which one of them is known to be settled. -/
  finish : Nat
  /-- Calls that were answered at once. -/
  calls : List (AuthType × Call) := []
  log : List LogEvent := []

namespace Batch

/-- Adds where a request stands. -/
def put (b : Batch) (t : AuthType) (standing : Standing) : Batch :=
  { b with standings := b.standings ++ [(t, standing)] }

/-- Begins a request whose call is answered at once. -/
def beginImmediate (b : Batch) (t : AuthType) (userId : String) (provider : Provider) (call : Call)
    (callEnd : CallEnd) : Batch :=
  let b := { b with calls := b.calls ++ [(t, call)] }
  match callEnd with
  | .answered a => b.put t (.settled (.ofAnswer provider userId a))
  | .brokeDown text =>
    { b with log := b.log ++ [LogEvent.brokenDown (text.getD "unknown panic")] }.put t
      (.settled .breakdown)

/-- Begins a request at the session's instant and at a Unix time. -/
def begin (backend : Backend) (settings : AuthSettings) (unix : Int) (b : Batch) (r : Request) :
    Batch :=
  let s := b.session
  match Plan.ofRequest s.registry settings unix r with
  | .settled verdict => b.put r.authType (.settled verdict)
  | .checkToken appId token =>
    let (cache, instant, result) := Nintendo.verify s.nintendo appId s.cache s.now token unix
    { b with session := { s with cache }, finish := max b.finish instant }.put r.authType
      (.settled (.ofIdentity result))
  | .call provider queue call query =>
    let b := { b with log := b.log ++ [LogEvent.callingProvider query call.body.isSome] }
    match backend with
    | .immediate answer =>
      b.beginImmediate r.authType r.userId provider call (answer r.authType call)
    | .queues =>
      let (timeline, ticket) := s.timeline.submit queue call s.retries
      { b with session := { s with timeline } }.put r.authType (.waiting ticket provider r.userId)

/-- The tickets of the calls that are waited for. -/
def tickets (b : Batch) : List Nat :=
  b.standings.filterMap fun
    | (_, .waiting ticket ..) => some ticket
    | _ => none

/-- The verdict on a request, given the answers to all calls. -/
def verdict (t : Timeline) : Standing → Verdict
  | .settled verdict => verdict
  | .waiting ticket provider userId =>
    match t.answerOf? ticket with
    | some a => .ofAnswer provider userId a
    | none => .breakdown

end Batch

/-! ## 4. Running -/

/-- Moves a session on to an instant, with the URLs from which keys were fetched on the way. -/
def advance (s : Session) (horizon : Nat) : Session × List String :=
  let (cache, fetched) := s.cache.advance horizon
  ({ s with timeline := s.timeline.advance horizon, cache }, fetched)

/-- What requests that came together led to. -/
structure Report where
  outcomes : List Outcome
  calls : List (AuthType × Call)
  fetched : List String
  log : List LogEvent

/-- Authenticates requests that come together. -/
def authenticate (s : Session) (backend : Backend) (settings : AuthSettings) (unix : Int)
    (requests : List Request) : Session × Report :=
  let b := requests.foldl (Batch.begin backend settings unix) { session := s, finish := s.now }
  let timeline := b.session.timeline.await b.tickets
  let (s, fetched) := { b.session with timeline }.advance (max b.finish timeline.now)
  let verdicts := b.standings.map fun (t, standing) => (t, Batch.verdict s.timeline standing)
  let metrics := verdicts.foldl (fun m (t, v) => v.record t m) s.metrics
  ({ s with metrics },
    { outcomes := verdicts.map (·.2.outcome), calls := b.calls, fetched, log := b.log })

end Session

end LoginGate
