/-
# Provider queues

Each provider has a queue that limits how many of its calls are in flight.  A submitted job is
started at once while there is room, waits in line otherwise, and is turned away when the line is
full.  A run of failures takes the queue offline: everything in line is turned away, and after a
while a single job is let through as a probe, whose success brings the queue online again.

The state changes in three ways (`submit`, `complete`, `expire`), each of which yields the jobs that
are started, answered or discarded, in order.  Instants and durations are milliseconds.
-/
import LoginGate.Call

namespace LoginGate

/-! ## 1. State -/

/-- Limits and timings of a queue. -/
structure Queue.Settings where
  maxConcurrent : Nat := 50
  maxQueued : Nat := 5000
  requestTimeout : Nat := 30000
  /-- How long a job may wait in line. -/
  queueTimeout : Nat := 60000
  /-- How many failures in a row take the queue offline; zero for never. -/
  offlineThreshold : Nat := 10
  /-- How long the queue stays offline before a probe. -/
  offlineRetry : Nat := 30000
  deriving DecidableEq, Repr

/-- A submitted call.  The ticket tells jobs apart. -/
structure Job where
  ticket : Nat
  call : Call
  /-- How many times the call is tried again after it could not be connected. -/
  retries : Nat
  deriving DecidableEq, Repr

/-- A job in line. -/
structure WaitingJob where
  job : Job
  since : Nat
  /-- Whether its caller has gone away. -/
  abandoned : Bool := false
  deriving DecidableEq, Repr

/-- The state of a queue. -/
structure Queue where
  /-- The line, the job that waits longest first. -/
  waiting : List WaitingJob := []
  inFlight : Nat := 0
  /-- When the queue is offline, the instant from which on a probe may start. -/
  offlineUntil : Option Nat := none
  /-- Whether a probe is in flight. -/
  probing : Bool := false
  consecutiveErrors : Nat := 0
  totalRequests : Nat := 0
  totalErrors : Nat := 0
  totalTimeouts : Nat := 0
  deriving DecidableEq, Repr

namespace Queue

/-- What happens to a job. -/
inductive Effect where
  | start (job : Job) (probe : Bool)
  | answer (job : Job) (answer : Answer)
  /-- The job leaves the line, and its caller has gone away before. -/
  | discard (job : Job)
  deriving DecidableEq, Repr

/-- Whether the queue is offline. -/
def isOffline (q : Queue) : Bool := q.offlineUntil.isSome

/-! ## 2. Answers without a call -/

/-- The answer while the provider is offline. -/
def offlineAnswer : Answer := Answer.failure .offline "Provider is offline"

/-- The answer when the line is full. -/
def fullAnswer : Answer := Answer.failure .queueFull "Request queue is full"

/-- The answer to a job that waited too long. -/
def timeoutAnswer : Answer := Answer.failure .queueTimeout "Request timed out waiting in queue"

/-- Answers a job that leaves the line, if its caller is still there. -/
def dismiss (w : WaitingJob) (answer : Answer) : Effect :=
  if w.abandoned then .discard w.job else .answer w.job answer

/-! ## 3. Submission -/

/-- Takes a new job at an instant. -/
def submit (settings : Settings) (now : Nat) (job : Job) (q : Queue) : Queue × List Effect :=
  let q := { q with totalRequests := q.totalRequests + 1 }
  match q.offlineUntil with
  | some until_ =>
    if now < until_ || q.probing then (q, [.answer job offlineAnswer])
    else ({ q with inFlight := q.inFlight + 1, probing := true }, [.start job true])
  | none =>
    if q.inFlight < settings.maxConcurrent then
      ({ q with inFlight := q.inFlight + 1 }, [.start job false])
    else if q.waiting.length < settings.maxQueued then
      ({ q with waiting := q.waiting ++ [{ job, since := now }] }, [])
    else (q, [.answer job fullAnswer])

/-! ## 4. Completion -/

/-- Notes that a call failed. -/
def noteFailure (settings : Settings) (now : Nat) (probe : Bool) (q : Queue) : Queue :=
  let q := { q with consecutiveErrors := q.consecutiveErrors + 1 }
  if probe || (!q.isOffline && 0 < settings.offlineThreshold &&
      settings.offlineThreshold ≤ q.consecutiveErrors) then
    { q with offlineUntil := some (now + settings.offlineRetry) }
  else q

/-- Notes how a call ended. -/
def note (settings : Settings) (now : Nat) (result : QueueResult) (probe : Bool) (q : Queue) :
    Queue :=
  match result with
  | .success => { q with consecutiveErrors := 0, offlineUntil := none }
  | .error => noteFailure settings now probe { q with totalErrors := q.totalErrors + 1 }
  | .requestTimeout =>
    noteFailure settings now probe { q with totalTimeouts := q.totalTimeouts + 1 }
  | _ => q

/-- Starts jobs of a line while there is room, given how many calls are in flight; jobs whose caller
has gone away and jobs that waited too long are passed over.  Yields the calls in flight, the rest
of the line and the effects. -/
def release (settings : Settings) (now : Nat) (inFlight : Nat) :
    List WaitingJob → Nat × List WaitingJob × List Effect
  | [] => (inFlight, [], [])
  | w :: ws =>
    if inFlight < settings.maxConcurrent then
      if w.abandoned then
        let (n, rest, effects) := release settings now inFlight ws
        (n, rest, .discard w.job :: effects)
      else if w.since + settings.queueTimeout ≤ now then
        let (n, rest, effects) := release settings now inFlight ws
        (n, rest, .answer w.job timeoutAnswer :: effects)
      else
        let (n, rest, effects) := release settings now (inFlight + 1) ws
        (n, rest, .start w.job false :: effects)
    else (inFlight, w :: ws, [])

/-- Empties the line while the queue is offline, and starts jobs from it otherwise. -/
def drain (settings : Settings) (now : Nat) (q : Queue) : Queue × List Effect :=
  if q.isOffline then
    ({ q with waiting := [] }, q.waiting.map fun w => dismiss w offlineAnswer)
  else
    let (inFlight, waiting, effects) := release settings now q.inFlight q.waiting
    ({ q with inFlight, waiting }, effects)

/-- Takes the end of a call at an instant. -/
def complete (settings : Settings) (now : Nat) (job : Job) (answer : Answer) (probe : Bool)
    (q : Queue) : Queue × List Effect :=
  let q := { q with inFlight := q.inFlight - 1, probing := q.probing && !probe }
  let (q, effects) := (q.note settings now answer.result probe).drain settings now
  (q, .answer job answer :: effects)

/-! ## 5. Waiting too long -/

/-- The instant at which the first job in line will have waited too long. -/
def deadline? (settings : Settings) (q : Queue) : Option Nat :=
  q.waiting.head?.map fun w => w.since + settings.queueTimeout

/-- Whether a job has waited too long at an instant. -/
def isOverdue (settings : Settings) (now : Nat) (w : WaitingJob) : Bool :=
  w.since + settings.queueTimeout ≤ now

/-- Answers the jobs at the front of the line that have waited too long. -/
def expire (settings : Settings) (now : Nat) (q : Queue) : Queue × List Effect :=
  ({ q with waiting := q.waiting.dropWhile (isOverdue settings now) },
    (q.waiting.takeWhile (isOverdue settings now)).map fun w => dismiss w timeoutAnswer)

/-- Notes that the caller of a job has gone away. -/
def abandon (ticket : Nat) (q : Queue) : Queue :=
  { q with
    waiting := q.waiting.map fun w =>
      if w.job.ticket = ticket then { w with abandoned := true } else w }

end Queue

end LoginGate
