/-
# The certificate cache

Keys of any number of servers, each refreshed on its own from the first reference to it on.  Whoever
asks for keys gets those of the latest successful fetch, or waits for the first one until a
deadline.
-/
import LoginGate.Certificates.KeyServer

namespace LoginGate.Certificates

/-- A server and the refresh of its keys, once it was referred to. -/
structure Endpoint where
  script : Script := []
  refresh : Option Refresh := none
  deriving DecidableEq, Repr

/-- The cache of the keys of all servers, by their URLs. -/
structure Cache where
  interval : Interval
  endpoints : List (String × Endpoint) := []

namespace Cache

/-! ## 1. Endpoints -/

/-- The endpoint of a URL. -/
def endpoint (c : Cache) (url : String) : Endpoint := (Entries.get? url c.endpoints).getD {}

/-- Changes the endpoint of a URL. -/
def modify (c : Cache) (url : String) (f : Endpoint → Endpoint) : Cache :=
  { c with endpoints := Entries.insert url (f (c.endpoint url)) c.endpoints }

/-- Sets what a server answers from now on. -/
def setScript (c : Cache) (url : String) (script : Script) : Cache :=
  c.modify url fun e => { e with script }

/-- The URLs that were referred to. -/
def tracked (c : Cache) : List String :=
  (c.endpoints.filter (·.2.refresh.isSome)).map (·.1)

/-- How many URLs were referred to. -/
def size (c : Cache) : Nat := c.tracked.length

/-- The keys of a URL, if a fetch has succeeded. -/
def keys? (c : Cache) (url : String) : Option Keys := (c.endpoint url).refresh.bind (·.keys)

/-- Starts the refresh of a URL that was not referred to yet. -/
def refer (c : Cache) (now : Nat) (url : String) : Cache :=
  c.modify url fun e => { e with refresh := some (e.refresh.getD (Refresh.start now)) }

/-! ## 2. Asking for keys -/

/-- What someone who asks an endpoint at an instant gets, and when: the keys, or nothing when the
waiting time has passed. -/
def answerOf (interval : Interval) (e : Endpoint) (now timeout : Nat) : Nat × Option Keys :=
  let refresh := e.refresh.getD (Refresh.start now)
  match refresh.keys with
  | some keys => (now, some keys)
  | none =>
    if timeout = 0 then (now, none)
    else
      match refresh.await interval (now + timeout) e.script with
      | some (t, keys) => (t, some keys)
      | none => (now + timeout, none)

/-- Asks for the keys of a URL at an instant. -/
def keysFor (c : Cache) (now : Nat) (url : String) (timeout : Nat) : Cache × Nat × Option Keys :=
  (c.refer now url, answerOf c.interval (c.endpoint url) now timeout)

/-! ## 3. Passing of time -/

/-- An endpoint at an instant, with the instants at which fetches started. -/
def advanceEndpoint (interval : Interval) (horizon : Nat) (e : Endpoint) : Endpoint × List Nat :=
  match e.refresh with
  | none => (e, [])
  | some r =>
    let (r, script, starts) := r.advance interval horizon e.script
    ({ script, refresh := some r }, starts)

/-- The cache at an instant, with the URLs that were fetched on the way, in order of time. -/
def advance (c : Cache) (horizon : Nat) : Cache × List String :=
  let moved := c.endpoints.map fun (url, e) => (url, advanceEndpoint c.interval horizon e)
  let fetches := moved.flatMap fun (url, _, starts) => starts.map fun t => (t, url)
  ({ c with endpoints := moved.map fun (url, e, _) => (url, e) },
    (fetches.mergeSort fun a b => a.1 ≤ b.1).map (·.2))

end Cache

end LoginGate.Certificates
