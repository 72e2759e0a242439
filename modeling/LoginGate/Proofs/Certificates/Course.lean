/-
# The course of a refresh

When the keys of a server are fetched is settled by three things: the instant of the first
reference, the interval, and how long each fetch takes.  `Course` has the ticks, the starts and the
ends of all fetches to come, one after the other.  A fetch starts at its tick, or when the one
before it has ended; two starts are never closer to one another than the interval less the
tolerance (`interval_le_start_succ`).

A refresh follows its course: each event leads to the next place on it (`Refresh.IsAt.step`), so an
advance passes exactly the starts and the ends up to its horizon (`Refresh.IsAt.advance`).
-/
import Mathlib.Data.Nat.Init
import Mathlib.Order.Monotone.Basic
import LoginGate.Certificates.KeyServer

namespace LoginGate.Certificates

/-! ## 1. Answers of a server -/

/-- The answer of a script to the fetch with a number, counted from zero. -/
def Script.fetch (script : Script) (k : Nat) : Fetch :=
  script[min k (script.length - 1)]?.getD {}

theorem nextFetch_fst (script : Script) : (nextFetch script).1 = script.fetch 0 := by
  match script with
  | [] => rfl
  | [_] => rfl
  | _ :: _ :: _ => rfl

theorem fetch_nextFetch_snd (script : Script) (k : Nat) :
    Script.fetch (nextFetch script).2 k = script.fetch (k + 1) := by
  match script with
  | [] => rfl
  | [f] => simp [nextFetch, Script.fetch]
  | f :: g :: rest =>
    have hmin : min (k + 1) (rest.length + 1) = min k rest.length + 1 := by omega
    simp [nextFetch, Script.fetch, hmin]

/-- The keys of the latest successful one among so many fetches. -/
def Script.keysAfter (script : Script) : Nat → Option Keys
  | 0 => none
  | k + 1 => (script.fetch k).keys.or (script.keysAfter k)

theorem Script.keysAfter_eq_some_iff {script : Script} {n : Nat} {keys : Keys} :
    script.keysAfter n = some keys ↔
      ∃ k < n, (script.fetch k).keys = some keys ∧
        ∀ j, k < j → j < n → (script.fetch j).keys = none := by
  induction n with
  | zero => simp [keysAfter]
  | succ n ih =>
    rw [keysAfter, Option.or_eq_some_iff, ih]
    constructor
    · rintro (hlast | ⟨hlast, k, hk, hkeys, hfailed⟩)
      · exact ⟨n, Nat.lt_succ_self n, hlast, fun j hj hj' => by omega⟩
      · refine ⟨k, Nat.lt_succ_of_lt hk, hkeys, fun j hj hj' => ?_⟩
        rcases Nat.lt_succ_iff_lt_or_eq.mp hj' with hlt | rfl
        · exact hfailed j hj hlt
        · exact hlast
    · rintro ⟨k, hk, hkeys, hfailed⟩
      rcases Nat.lt_succ_iff_lt_or_eq.mp hk with hlt | rfl
      · exact Or.inr ⟨hfailed n hlt (Nat.lt_succ_self n), k, hlt, hkeys,
          fun j hj hj' => hfailed j hj (Nat.lt_succ_of_lt hj')⟩
      · exact Or.inl hkeys

theorem Script.keysAfter_eq_none_iff {script : Script} {n : Nat} :
    script.keysAfter n = none ↔ ∀ k < n, (script.fetch k).keys = none := by
  induction n with
  | zero => simp [keysAfter]
  | succ n ih => rw [keysAfter, Option.or_eq_none_iff, ih, Nat.forall_lt_succ_right, and_comm]

/-- Keys that are there stay there, or newer ones take their place. -/
theorem Script.isSome_keysAfter {script : Script} {m n : Nat} (h : m ≤ n)
    (hm : (script.keysAfter m).isSome = true) : (script.keysAfter n).isSome = true := by
  induction n, h using Nat.le_induction with
  | base => exact hm
  | succ n _ ih => rw [keysAfter, Option.isSome_or, ih, Bool.or_true]

/-! ## 2. Courses -/

/-- What the course of a refresh depends on. -/
structure Course where
  interval : Interval
  /-- The instant of the first reference. -/
  first : Nat
  script : Script

namespace Course

variable (c : Course)

/-- The instant of a tick and the instant of the fetch that it starts. -/
def tickAndStart : Nat → Nat × Nat
  | 0 => (c.first, c.first)
  | k + 1 =>
    let (tick, start) := tickAndStart k
    let next := Refresh.followingTick c.interval tick start
    (next, max next (start + (c.script.fetch k).delay))

/-- The instant of a tick. -/
def tick (k : Nat) : Nat := (c.tickAndStart k).1

/-- The instant at which a fetch starts. -/
def start (k : Nat) : Nat := (c.tickAndStart k).2

/-- The instant at which a fetch has ended. -/
def finish (k : Nat) : Nat := c.start k + (c.script.fetch k).delay

@[simp] theorem tick_zero : c.tick 0 = c.first := rfl

@[simp] theorem start_zero : c.start 0 = c.first := rfl

theorem tick_succ (k : Nat) :
    c.tick (k + 1) = Refresh.followingTick c.interval (c.tick k) (c.start k) := rfl

theorem start_succ (k : Nat) : c.start (k + 1) = max (c.tick (k + 1)) (c.finish k) := rfl

theorem tick_le_start (k : Nat) : c.tick k ≤ c.start k := by
  cases k with
  | zero => exact Nat.le_refl _
  | succ k => exact Nat.le_max_left _ _

theorem start_le_finish (k : Nat) : c.start k ≤ c.finish k := Nat.le_add_right _ _

/-- **No fetch starts before the one before it has ended.** -/
theorem finish_le_start_succ (k : Nat) : c.finish k ≤ c.start (k + 1) := Nat.le_max_right _ _

/-- **Two fetches start an interval apart**, less the tolerance for late ticks. -/
theorem interval_le_start_succ (k : Nat) :
    c.start k + c.interval ≤ c.start (k + 1) + Refresh.tolerance := by
  have htick : c.start k + c.interval ≤ c.tick (k + 1) + Refresh.tolerance := by
    rw [tick_succ, Refresh.followingTick]
    split <;> omega
  exact htick.trans (Nat.add_le_add_right (c.tick_le_start (k + 1)) _)

theorem start_mono : Monotone c.start :=
  monotone_nat_of_le_succ fun k => (c.start_le_finish k).trans (c.finish_le_start_succ k)

theorem finish_mono : Monotone c.finish :=
  monotone_nat_of_le_succ fun k => (c.finish_le_start_succ k).trans (c.start_le_finish (k + 1))

/-- The instants at which the first so many fetches start. -/
def startsOf (n : Nat) : List Nat := (List.range n).map c.start

theorem startsOf_succ (n : Nat) : c.startsOf (n + 1) = c.startsOf n ++ [c.start n] := by
  simp [startsOf, List.range_succ]

/-- The first fetch is the only one that starts at the instant of the first reference. -/
theorem first_lt_start_succ (k : Nat) : c.first < c.start (k + 1) := by
  have htick : c.first < c.tick 1 := by
    rw [tick_succ]
    exact Refresh.lt_followingTick c.interval (Nat.le_refl _)
  exact (htick.trans_le (c.tick_le_start 1)).trans_le (c.start_mono (Nat.le_add_left 1 k))

/-- **Nothing but the first reference, the interval and the durations matters** to the starts. -/
theorem start_congr {c c' : Course} (hinterval : c.interval = c'.interval)
    (hfirst : c.first = c'.first)
    (hdelay : ∀ k, (c.script.fetch k).delay = (c'.script.fetch k).delay) : c.start = c'.start := by
  have h (k : Nat) : c.tickAndStart k = c'.tickAndStart k := by
    induction k with
    | zero => rw [tickAndStart, tickAndStart, hfirst]
    | succ k ih => rw [tickAndStart, tickAndStart, ih, hinterval, hdelay]
  funext k
  rw [start, start, h]

end Course

/-! ## 3. Places on a course -/

namespace Refresh

/-- Nothing happens before the next event. -/
theorem advance_of_lt_next (interval : Interval) {horizon : Nat} (script : Script) {r : Refresh}
    (h : horizon < r.next) : r.advance interval horizon script = (r, script, []) := by
  rw [Refresh.advance, dif_neg (Nat.not_le_of_lt h)]

/-- An advance leaves nothing that is due. -/
theorem lt_next_advance (interval : Interval) (horizon : Nat) (script : Script) (r : Refresh) :
    horizon < (r.advance interval horizon script).1.next := by
  fun_induction Refresh.advance interval horizon script r with
  | case1 script r hnext s r' script' starts hrun ih =>
    rw [hrun] at ih
    exact ih
  | case2 script r hnext => exact Nat.lt_of_not_le hnext

/-- **A refresh is at a place of its course**: so many fetches have started, and either all of them
have ended or all but the last one.  What the server will answer is what is left of its script. -/
inductive IsAt (c : Course) : Nat → Nat → Refresh → Script → Prop
  | waiting {n since : Nat} {rest : Script} (next : max (c.tick n) since = c.start n)
      (rest_eq : ∀ j, rest.fetch j = c.script.fetch (n + j)) :
    IsAt c n n
      { keys := c.script.keysAfter n, due := c.tick n, phase := .waiting since } rest
  | fetching {n : Nat} {rest : Script} (rest_eq : ∀ j, rest.fetch j = c.script.fetch (n + 1 + j)) :
    IsAt c (n + 1) n
      { keys := c.script.keysAfter n, due := c.tick (n + 1)
        phase := .fetching (c.finish n) (c.script.fetch n).keys } rest

theorem isAt_start (c : Course) : IsAt c 0 0 (start c.first) c.script :=
  .waiting (Nat.max_self _) fun j => by rw [Nat.zero_add]

namespace IsAt

variable {c : Course} {started ended : Nat} {r : Refresh} {rest : Script}

theorem keys_eq (h : IsAt c started ended r rest) : r.keys = c.script.keysAfter ended := by
  cases h <;> rfl

/-- What has not started yet starts at the next event or later. -/
theorem next_le_start (h : IsAt c started ended r rest) {k : Nat} (hk : started ≤ k) :
    r.next ≤ c.start k := by
  cases h with
  | waiting hnext => exact hnext.le.trans (c.start_mono hk)
  | fetching => exact (c.finish_le_start_succ ended).trans (c.start_mono hk)

/-- What has not ended yet ends at the next event or later. -/
theorem next_le_finish (h : IsAt c started ended r rest) {k : Nat} (hk : ended ≤ k) :
    r.next ≤ c.finish k := by
  cases h with
  | waiting hnext => exact hnext.le.trans ((c.start_mono hk).trans (c.start_le_finish k))
  | fetching => exact c.finish_mono hk

/-- **One event** starts the next fetch or ends the one that is going on. -/
theorem step (h : IsAt c started ended r rest) :
    let s := r.step c.interval rest
    (started = ended ∧ r.next = c.start started ∧ s.2.2 = some (c.start started) ∧
        s.1.keys = r.keys ∧ IsAt c (started + 1) ended s.1 s.2.1) ∨
      (r.next = c.finish ended ∧ s.2.2 = none ∧ IsAt c started (ended + 1) s.1 s.2.1) := by
  cases h with
  | waiting hnext hrest =>
    refine Or.inl ⟨rfl, hnext, ?_, rfl, ?_⟩
    · simp [Refresh.step, next, hnext]
    · have hfetch : (nextFetch rest).1 = c.script.fetch started := by
        rw [nextFetch_fst, hrest, Nat.add_zero]
      simp only [Refresh.step, next, hnext, hfetch]
      refine .fetching fun j => ?_
      rw [fetch_nextFetch_snd, hrest, Nat.add_assoc, Nat.add_comm 1 j]
  | fetching hrest => exact Or.inr ⟨rfl, rfl, .waiting (c.start_succ ended).symm hrest⟩

/-- **An advance passes what is up to its horizon**, and nothing else. -/
theorem advance (h : IsAt c started ended r rest) (horizon : Nat) :
    let a := r.advance c.interval horizon rest
    ∃ started' ended', IsAt c started' ended' a.1 a.2.1 ∧ ended ≤ ended' ∧
      c.startsOf started ++ a.2.2 = c.startsOf started' ∧
      (∀ k < started', started ≤ k → c.start k ≤ horizon) ∧
      ∀ k < ended', ended ≤ k → c.finish k ≤ horizon := by
  fun_induction Refresh.advance c.interval horizon rest r generalizing started ended with
  | case1 rest r hnext s r' rest' starts hrun =>
    rename_i ih
    rw [hrun] at ih
    rcases h.step with ⟨rfl, hstart, hlogged, -, hplace⟩ | ⟨hfinish, hlogged, hplace⟩
    · obtain ⟨started', ended', hend, hle, hstarts, hpassed, hpassed'⟩ := ih hplace
      refine ⟨started', ended', hend, hle, ?_, fun k hk hk' => ?_, hpassed'⟩
      · rw [← hstarts, c.startsOf_succ, List.append_assoc, hlogged]
        rfl
      · rcases Nat.eq_or_lt_of_le hk' with rfl | hk'
        · exact hstart ▸ hnext
        · exact hpassed k hk hk'
    · obtain ⟨started', ended', hend, hle, hstarts, hpassed, hpassed'⟩ := ih hplace
      refine ⟨started', ended', hend, Nat.le_of_succ_le hle, ?_, hpassed, fun k hk hk' => ?_⟩
      · rw [← hstarts, hlogged]
        rfl
      · rcases Nat.eq_or_lt_of_le hk' with rfl | hk'
        · exact hfinish ▸ hnext
        · exact hpassed' k hk hk'
  | case2 rest r hnext =>
    exact ⟨started, ended, h, Nat.le_refl _, List.append_nil _, fun k hk hk' => by omega,
      fun k hk hk' => by omega⟩

end IsAt

end Refresh

end LoginGate.Certificates
