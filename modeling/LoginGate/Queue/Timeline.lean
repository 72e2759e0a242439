/-
# Queues in time

Any number of queues over a scripted transport, in a time that moves only when nothing more can
happen at an instant.  What can happen at an instant happens first come, first served: a queue that
was sent messages handles all of them in one turn, and the exchanges that it starts take their turns
behind whatever else is ready.
-/
import LoginGate.Entries
import LoginGate.Queue.Basic
import LoginGate.Queue.Exchange

namespace LoginGate

/-! ## 1. The transport -/

/-- A scripted attempt: how long it takes and how it ends. -/
structure Attempt where
  delay : Nat := 0
  reply : Reply := .success 200 []
  deriving DecidableEq, Repr

/-- Scripted attempts for single URLs and, for all other calls, in common.  Where the script ends,
attempts succeed at once. -/
structure Transport where
  byUrl : List (String × List Attempt) := []
  common : List Attempt := []
  deriving DecidableEq, Repr

/-- The next attempt of a call. -/
def Transport.take (t : Transport) (call : Call) : Attempt × Transport :=
  match Entries.get? call.url t.byUrl with
  | some (a :: rest) => (a, { t with byUrl := Entries.insert call.url rest t.byUrl })
  | _ =>
    match t.common with
    | a :: rest => (a, { t with common := rest })
    | [] => ({}, t)

/-! ## 2. The timeline -/

/-- What a queue is sent. -/
inductive Message where
  | submit (job : Job)
  | complete (job : Job) (answer : Answer) (probe : Bool)
  deriving DecidableEq, Repr

/-- A queue with its settings and the messages that it has not handled yet. -/
structure Station where
  name : String
  settings : Queue.Settings
  queue : Queue := {}
  mailbox : List Message := []
  deriving DecidableEq, Repr

/-- A job that a station has started. -/
structure Exchange where
  station : Nat
  job : Job
  probe : Bool
  /-- The retries that are left. -/
  retries : Nat
  deriving DecidableEq, Repr

/-- What is ready to happen at an instant. -/
inductive Turn where
  /-- A station handles its messages. -/
  | handle (station : Nat)
  /-- An exchange makes its next attempt. -/
  | attempt (exchange : Exchange)
  /-- An attempt of an exchange has ended. -/
  | reply (exchange : Exchange) (reply : Reply)
  deriving DecidableEq, Repr

/-- An attempt that will end at an instant. -/
structure PendingReply where
  due : Nat
  exchange : Exchange
  reply : Reply
  deriving DecidableEq, Repr

/-- A call that was handed to the transport. -/
structure SentCall where
  call : Call
  timeout : Nat
  instant : Nat
  deriving DecidableEq, Repr

/-- Queues in time. -/
structure Timeline where
  now : Nat := 0
  stations : List Station := []
  transport : Transport := {}
  ready : List Turn := []
  pending : List PendingReply := []
  /-- The tickets of callers that wait for an answer, with the instants of submission. -/
  callers : List (Nat × Nat) := []
  nextTicket : Nat := 0
  /-- Calls that were sent, the first one first. -/
  sent : List SentCall := []
  /-- Answers that callers got, the first one first. -/
  answered : List (Nat × Answer) := []
  deriving DecidableEq, Repr

namespace Timeline

/-! ## 3. Turns -/

/-- Changes one station. -/
def modifyStation (t : Timeline) (i : Nat) (f : Station → Station) : Timeline :=
  { t with stations := t.stations.modify i f }

/-- Makes a turn ready unless it is already. -/
def wake (t : Timeline) (turn : Turn) : Timeline :=
  if t.ready.contains turn then t else { t with ready := t.ready ++ [turn] }

/-- Sends a message to a station. -/
def post (t : Timeline) (i : Nat) (m : Message) : Timeline :=
  (t.modifyStation i fun s => { s with mailbox := s.mailbox ++ [m] }).wake (.handle i)

/-- Hands an answer to a caller that is still there. -/
def deliver (t : Timeline) (job : Job) (answer : Answer) : Timeline :=
  match Entries.get? job.ticket t.callers with
  | none => t
  | some since =>
    { t with
      callers := t.callers.filter (·.1 ≠ job.ticket)
      answered := t.answered ++ [(job.ticket, { answer with elapsed := t.now - since })] }

/-- Carries out what a station decided. -/
def carryOut (i : Nat) (t : Timeline) : Queue.Effect → Timeline
  | .start job probe =>
    { t with ready := t.ready ++ [.attempt { station := i, job, probe, retries := job.retries }] }
  | .answer job answer => t.deliver job answer
  | .discard _ => t

/-- A queue after a message. -/
def handleMessage (settings : Queue.Settings) (now : Nat) (q : Queue) :
    Message → Queue × List Queue.Effect
  | .submit job => q.submit settings now job
  | .complete job answer probe => q.complete settings now job answer probe

/-- A queue after messages. -/
def handleMessages (settings : Queue.Settings) (now : Nat) (q : Queue) :
    List Message → Queue × List Queue.Effect
  | [] => (q, [])
  | m :: ms =>
    let (q, first) := handleMessage settings now q m
    let (q, rest) := handleMessages settings now q ms
    (q, first ++ rest)

/-- A station handles its messages and then answers what has waited too long. -/
def handle (t : Timeline) (i : Nat) : Timeline :=
  match t.stations[i]? with
  | none => t
  | some s =>
    let (q, first) := handleMessages s.settings t.now s.queue s.mailbox
    let (q, second) := q.expire s.settings t.now
    let t := t.modifyStation i fun s => { s with queue := q, mailbox := [] }
    (first ++ second).foldl (carryOut i) t

/-- The timeout that a station sets for its calls. -/
def requestTimeout (t : Timeline) (i : Nat) : Nat :=
  (t.stations[i]?.map (·.settings.requestTimeout)).getD 0

/-- An exchange makes an attempt with retries left, and further ones for as long as they end at
once. -/
def attempt (e : Exchange) : Nat → Timeline → Timeline
  | retries, t =>
    let (a, transport) := t.transport.take e.job.call
    let timeout := t.requestTimeout e.station
    let call : SentCall := { call := e.job.call, timeout, instant := t.now }
    let t := { t with transport, sent := t.sent ++ [call] }
    if a.delay = 0 then
      match retries with
      | r + 1 =>
        if a.reply.isRetryable then attempt e r t
        else t.post e.station (.complete e.job a.reply.answer e.probe)
      | 0 => t.post e.station (.complete e.job a.reply.answer e.probe)
    else
      { t with
        pending := t.pending ++
          [{ due := t.now + a.delay, exchange := { e with retries }, reply := a.reply }] }

/-- One turn. -/
def perform (t : Timeline) : Turn → Timeline
  | .handle i => t.handle i
  | .attempt e => attempt e e.retries t
  | .reply e reply =>
    match e.retries with
    | r + 1 =>
      if reply.isRetryable then attempt e r t
      else t.post e.station (.complete e.job reply.answer e.probe)
    | 0 => t.post e.station (.complete e.job reply.answer e.probe)

/-! ## 4. Runs -/

/-- The instants at which jobs in line will have waited too long, by station. -/
def deadlines (t : Timeline) : List (Nat × Nat) :=
  t.stations.zipIdx.filterMap fun (s, i) => (s.queue.deadline? s.settings).map fun d => (d, i)

/-- The next instant at which something happens by itself. -/
def nextInstant? (t : Timeline) : Option Nat :=
  (t.pending.map (·.due) ++ t.deadlines.map (·.1)).min?

/-- The timeline at a later instant, with all turns that are due there. -/
def moveTo (t : Timeline) (instant : Nat) : Timeline :=
  let (due, later) := t.pending.partition (·.due ≤ instant)
  let overdue := t.deadlines.filter (·.1 ≤ instant)
  { t with
    now := max t.now instant
    pending := later
    ready := t.ready ++ due.map (fun p => .reply p.exchange p.reply) ++
      overdue.map (fun (_, i) => .handle i) }

/-- Runs until nothing more happens up to a horizon, or until the condition holds when nothing more
can happen at an instant; the first argument bounds the number of turns and instants. -/
def run (stop : Timeline → Bool) (horizon : Option Nat) : Nat → Timeline → Timeline
  | 0, t => t
  | fuel + 1, t =>
    match t.ready with
    | turn :: rest => run stop horizon fuel (perform { t with ready := rest } turn)
    | [] =>
      if stop t then t
      else
        match t.nextInstant? with
        | none => t
        | some instant =>
          if horizon.all (instant ≤ ·) then run stop horizon fuel (t.moveTo instant) else t

/-- The jobs of a station that may still take turns. -/
def Station.outstanding (s : Station) : List Job :=
  s.queue.waiting.map (·.job) ++ s.mailbox.map fun
    | .submit job => job
    | .complete job .. => job

/-- A bound on the turns and instants that are still to come: no job takes more than four besides
one for each attempt and its end. -/
def work (t : Timeline) : Nat :=
  let exchanges := t.pending.map (·.exchange.job) ++ t.ready.filterMap fun
    | .handle _ => none
    | .attempt e => some e.job
    | .reply e _ => some e.job
  let jobs := t.stations.flatMap Station.outstanding ++ exchanges
  2 * t.ready.length + jobs.foldl (fun n j => n + 2 * j.retries + 8) 2

/-- Everything up to an instant. -/
def advance (t : Timeline) (horizon : Nat) : Timeline :=
  let t := run (fun _ => false) (some horizon) t.work t
  { t with now := max t.now horizon }

/-- Everything until the callers of all tickets have their answers. -/
def await (t : Timeline) (tickets : List Nat) : Timeline :=
  run (fun t => tickets.all fun n => (t.callers.all (·.1 ≠ n))) none t.work t

/-! ## 5. Callers -/

/-- Adds a station and yields its number. -/
def addStation (t : Timeline) (name : String) (settings : Queue.Settings) : Timeline × Nat :=
  ({ t with stations := t.stations ++ [{ name, settings }] }, t.stations.length)

/-- Submits a call to a station and yields the caller's ticket. -/
def submit (t : Timeline) (i : Nat) (call : Call) (retries : Nat) : Timeline × Nat :=
  let ticket := t.nextTicket
  let t := { t with nextTicket := ticket + 1, callers := t.callers ++ [(ticket, t.now)] }
  (t.post i (.submit { ticket, call, retries }), ticket)

/-- A caller goes away. -/
def abandon (t : Timeline) (ticket : Nat) : Timeline :=
  { t with
    callers := t.callers.filter (·.1 ≠ ticket)
    stations := t.stations.map fun s => { s with queue := s.queue.abandon ticket } }

/-- The answer that a caller got. -/
def answerOf? (t : Timeline) (ticket : Nat) : Option Answer := Entries.get? ticket t.answered

/-- The timeline with nothing on record of what was sent and answered. -/
def clearRecord (t : Timeline) : Timeline := { t with sent := [], answered := [] }

end Timeline

end LoginGate
