/-
# Key servers and their refresh

A key server answers each fetch after a while, with a key set or with a failure.  Once a server is
referred to, its keys are refreshed for good: the first fetch starts at once, and further ones at
ticks that are an interval apart.  A tick that comes while a fetch is going on waits for its end;
when it comes more than a tolerance late, the ticks behind it move back too.  A failed fetch keeps
the keys.

`Refresh.advance` runs the refresh up to an instant, and `Refresh.await` finds the first instant at
which there are keys.  A fetch may begin and end at the very instant at which the one before it has
ended, so keys are looked at when all is over that happens at an instant.  Instants are
milliseconds.
-/
import LoginGate.WebToken.Key

namespace LoginGate.Certificates

/-! ## 1. Servers -/

/-- Verifying keys by their ids. -/
abbrev Keys := List (String × WebKey.Verifier)

/-- What a server answers to one fetch. -/
structure Fetch where
  /-- How long the answer takes. -/
  delay : Nat := 0
  /-- The keys, unless the fetch fails. -/
  keys : Option Keys := none
  deriving DecidableEq, Repr

/-- The fetch that ends with a text after a while; no text, or one that is no key set, is a
failure. -/
def Fetch.ofBody (delay : Nat) (body : Option String) : Fetch :=
  { delay, keys := (body.bind WebKey.parseSet?).map WebKey.publicKeys }

/-- The answers of a server to successive fetches; the last one repeats, and a server without
answers fails at once. -/
abbrev Script := List Fetch

/-- The next answer of a script, and the script behind it. -/
def nextFetch : Script → Fetch × Script
  | [] => ({}, [])
  | [f] => (f, [f])
  | f :: rest => (f, rest)

/-- A positive time between two ticks. -/
abbrev Interval := { n : Nat // 0 < n }

/-- An interval of so many milliseconds, and of one at least. -/
def Interval.ofNat (n : Nat) : Interval :=
  ⟨max 1 n, Nat.lt_of_lt_of_le Nat.one_pos (Nat.le_max_left 1 n)⟩

/-! ## 2. Refresh -/

/-- What a refresh is doing. -/
inductive Phase where
  /-- It waits for its tick, since an instant. -/
  | waiting (since : Nat)
  /-- A fetch is going on; its end and its keys are settled. -/
  | fetching (finish : Nat) (keys : Option Keys)
  deriving DecidableEq, Repr

/-- The refresh of one server's keys. -/
structure Refresh where
  /-- The keys of the latest successful fetch. -/
  keys : Option Keys := none
  /-- The instant of the next tick. -/
  due : Nat
  phase : Phase
  deriving DecidableEq, Repr

namespace Refresh

/-- The refresh of a server that is first referred to at an instant. -/
def start (now : Nat) : Refresh := { due := now, phase := .waiting now }

/-- How late a tick may come without moving those behind it. -/
def tolerance : Nat := 5

/-- The instant of the next event: the start or the end of a fetch. -/
def next (r : Refresh) : Nat :=
  match r.phase with
  | .waiting since => max r.due since
  | .fetching finish _ => finish

/-- The tick behind one that came at an instant. -/
def followingTick (interval : Interval) (due now : Nat) : Nat :=
  if due + tolerance < now then now + interval else due + interval

/-- The next event, and the instant of the fetch if it starts one. -/
def step (interval : Interval) (script : Script) (r : Refresh) : Refresh × Script × Option Nat :=
  match r.phase with
  | .waiting _ =>
    let now := r.next
    let (fetch, rest) := nextFetch script
    ({ r with
        due := followingTick interval r.due now
        phase := .fetching (now + fetch.delay) fetch.keys },
      rest, some now)
  | .fetching finish keys =>
    ({ r with keys := keys.or r.keys, phase := .waiting finish }, script, none)

/-! ## 3. Runs -/

/-- A bound on the number of events up to an instant. -/
def budget (horizon : Nat) (r : Refresh) : Nat :=
  2 * (horizon + 1 - r.due) + match r.phase with
    | .waiting _ => 0
    | .fetching .. => 1

theorem lt_followingTick (interval : Interval) {due now : Nat} (h : due ≤ now) :
    due < followingTick interval due now := by
  have := interval.property
  unfold followingTick
  split <;> omega

theorem budget_step {interval : Interval} {script : Script} {r : Refresh} {horizon : Nat}
    (h : r.next ≤ horizon) : budget horizon (r.step interval script).1 < budget horizon r := by
  obtain ⟨keys, due, phase⟩ := r
  cases phase with
  | waiting since =>
    simp only [next] at h
    have := lt_followingTick interval (Nat.le_max_left due since)
    simp only [step, next, budget]
    omega
  | fetching finish result =>
    simp [step, budget]

/-- All events up to an instant, with the instants at which fetches start. -/
def advance (interval : Interval) (horizon : Nat) (script : Script) (r : Refresh) :
    Refresh × Script × List Nat :=
  if _ : r.next ≤ horizon then
    let s := r.step interval script
    let (r', script', starts) := advance interval horizon s.2.1 s.1
    (r', script', s.2.2.toList ++ starts)
  else (r, script, [])
termination_by budget horizon r
decreasing_by exact budget_step ‹r.next ≤ horizon›

/-- The first instant up to a deadline at which an event brings keys, with the keys that there are
when all events of that instant are over. -/
def await (interval : Interval) (deadline : Nat) (script : Script) (r : Refresh) :
    Option (Nat × Keys) :=
  if _ : r.next ≤ deadline then
    let s := r.step interval script
    match s.1.keys with
    | some keys => some (r.next, (advance interval r.next s.2.1 s.1).1.keys.getD keys)
    | none => await interval deadline s.2.1 s.1
  else none
termination_by budget deadline r
decreasing_by exact budget_step ‹r.next ≤ deadline›

end Refresh

end LoginGate.Certificates
