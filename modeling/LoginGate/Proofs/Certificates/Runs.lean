/-
# Runs of a certificate cache

A cache is asked for the keys of any URLs at any instants, and in between time passes.  `Run` is a
cache with all that has happened to it: the inquiries, with their answers, and the fetches, with the
instants at which they started.  An inquiry may come before or after whatever else happens at its
instant, but behind everything that is due before it (`Cache.IdleBefore`).

The servers' answers are fixed beforehand, and they are any answers: how long each fetch takes, and
whether it brings keys.  `Cache.Fresh` is a cache that knows the servers and was never asked.

Each URL is on its course at every moment of every run (`Run.OnCourse`, `onCourse_of_leads`): from
the first inquiry on, exactly those fetches have started, and those have ended, that are due.
-/
import Mathlib.Data.List.Sort
import Mathlib.Logic.Relation
import LoginGate.Certificates.Cache
import LoginGate.Proofs.Certificates.Course
import LoginGate.Proofs.Entries

namespace LoginGate.Certificates

/-! ## 1. Endpoints -/

namespace Cache

variable (c : Cache) (url : String)

theorem endpoint_modify (other : String) (f : Endpoint → Endpoint) :
    (c.modify url f).endpoint other =
      if url = other then f (c.endpoint url) else c.endpoint other := by
  rw [endpoint, modify, Entries.get?_insert]
  split <;> rfl

/-- A reference starts a refresh, unless there is one. -/
theorem endpoint_refer (now : Nat) (other : String) :
    (c.refer now url).endpoint other =
      if url = other then
        { c.endpoint url with
          refresh := some ((c.endpoint url).refresh.getD (Refresh.start now)) }
      else c.endpoint other :=
  c.endpoint_modify url other _

/-- Each endpoint passes time on its own. -/
theorem endpoint_advance (horizon : Nat) :
    (c.advance horizon).1.endpoint url =
      (advanceEndpoint c.interval horizon (c.endpoint url)).1 := by
  have hmoved : (c.advance horizon).1.endpoints =
      c.endpoints.map fun e => (e.1, (advanceEndpoint c.interval horizon e.2).1) := by
    simp [advance]
  rw [endpoint, hmoved,
    Entries.get?_mapValues fun e => (advanceEndpoint c.interval horizon e).1, endpoint]
  cases Entries.get? url c.endpoints <;> rfl

/-! ## 2. URLs that were referred to -/

theorem mem_tracked_iff : url ∈ c.tracked ↔ ∃ e, (url, e) ∈ c.endpoints ∧ e.refresh.isSome := by
  simp [tracked]

theorem mem_tracked_refer (now : Nat) (asked : String) :
    url ∈ (c.refer now asked).tracked ↔ url = asked ∨ url ∈ c.tracked := by
  rw [mem_tracked_iff, mem_tracked_iff, refer, modify]
  constructor
  · rintro ⟨e, he, hsome⟩
    rcases Entries.mem_of_mem_insert he with heq | hold
    · exact Or.inl (congrArg Prod.fst heq)
    · exact Or.inr ⟨e, hold, hsome⟩
  · intro h
    by_cases hurl : url = asked
    · subst hurl
      exact ⟨_, Entries.mem_insert_self _ _ _, rfl⟩
    · obtain ⟨e, he, hsome⟩ := h.resolve_left hurl
      exact ⟨e, Entries.mem_insert_of_ne he hurl, hsome⟩

/-- What a server answers does not refer to it. -/
theorem mem_tracked_of_setScript {other : String} {script : Script}
    (h : url ∈ (c.setScript other script).tracked) : url ∈ c.tracked := by
  obtain ⟨e, he, hsome⟩ := (mem_tracked_iff _ url).mp h
  rcases Entries.mem_of_mem_insert he with heq | hold
  · obtain ⟨rfl, rfl⟩ := Prod.mk.inj heq
    rw [endpoint] at hsome
    cases hget : Entries.get? url c.endpoints with
    | none =>
      rw [hget] at hsome
      cases hsome
    | some e =>
      rw [hget] at hsome
      exact (c.mem_tracked_iff url).mpr ⟨e, Entries.mem_of_get? hget, hsome⟩
  · exact (c.mem_tracked_iff url).mpr ⟨e, hold, hsome⟩

/-- Passing time refers to no server. -/
theorem tracked_advance (horizon : Nat) : (c.advance horizon).1.tracked = c.tracked := by
  have hsame (e : Endpoint) :
      (advanceEndpoint c.interval horizon e).1.refresh.isSome = e.refresh.isSome := by
    obtain ⟨script, refresh⟩ := e
    cases refresh <;> rfl
  simp [tracked, advance, List.filter_map, Function.comp_def, hsame]

/-! ## 3. Fetches -/

/-- The fetches that start when time passes, with their instants, in order of time. -/
def fetchesUntil (horizon : Nat) : List (Nat × String) :=
  (c.endpoints.flatMap fun e => (advanceEndpoint c.interval horizon e.2).2.map fun t =>
    (t, e.1)).mergeSort fun a b => a.1 ≤ b.1

theorem advance_snd (horizon : Nat) :
    (c.advance horizon).2 = (c.fetchesUntil horizon).map (·.2) := by
  simp [advance, fetchesUntil, List.flatMap_map]

/-- The fetches of one URL, when those of several URLs are listed one URL after the other. -/
theorem instants_flatMap {entries : List (String × Endpoint)} (hnd : (Entries.keys entries).Nodup)
    {f : Endpoint → List Nat} (hf : f {} = []) :
    ((entries.flatMap fun e => (f e.2).map fun t => (t, e.1)).filter (·.2 = url)).map (·.1) =
      f ((Entries.get? url entries).getD {}) := by
  induction entries with
  | nil => exact hf.symm
  | cons e rest ih =>
    obtain ⟨k, v⟩ := e
    rw [Entries.keys_cons, List.nodup_cons] at hnd
    rw [List.flatMap_cons, List.filter_append, List.map_append, ih hnd.2, Entries.get?]
    by_cases hk : k = url
    · have hrest : Entries.get? url rest = none :=
        Option.not_isSome_iff_eq_none.mp fun h => hnd.1 (hk ▸ Entries.get?_isSome_iff.mp h)
      simp [hk, hrest, hf, List.filter_map, Function.comp_def]
    · simp [hk, List.filter_map, Function.comp_def]

/-- **The fetches of one URL** among all fetches are those of its own refresh. -/
theorem instants_fetchesUntil (distinct : (Entries.keys c.endpoints).Nodup) {horizon : Nat}
    (hsorted : (advanceEndpoint c.interval horizon (c.endpoint url)).2.Pairwise (· ≤ ·)) :
    ((c.fetchesUntil horizon).filter (·.2 = url)).map (·.1) =
      (advanceEndpoint c.interval horizon (c.endpoint url)).2 := by
  have hperm : ((c.fetchesUntil horizon).filter (·.2 = url)).map (·.1) |>.Perm
      (advanceEndpoint c.interval horizon (c.endpoint url)).2 := by
    rw [endpoint, ← instants_flatMap url distinct (f := fun e =>
      (advanceEndpoint c.interval horizon e).2) rfl]
    exact ((List.mergeSort_perm _ _).filter _).map _
  have htimes : (c.fetchesUntil horizon).Pairwise fun a b => a.1 ≤ b.1 := by
    refine (List.pairwise_mergeSort ?_ ?_ _).imp of_decide_eq_true
    · intro a b d hab hbd
      exact decide_eq_true ((of_decide_eq_true hab).trans (of_decide_eq_true hbd))
    · intro a b
      simpa using Nat.le_total a.1 b.1
  exact hperm.eq_of_pairwise' (List.pairwise_map.mpr (htimes.filter _)) hsorted

/-- A fetch is one of a URL that was referred to. -/
theorem mem_tracked_of_mem_fetchesUntil {horizon instant : Nat}
    (h : (instant, url) ∈ c.fetchesUntil horizon) : url ∈ c.tracked := by
  rw [fetchesUntil, List.mem_mergeSort, List.mem_flatMap] at h
  obtain ⟨e, hmem, ht⟩ := h
  obtain ⟨t, ht, heq⟩ := List.mem_map.mp ht
  refine List.mem_map.mpr ⟨e, List.mem_filter.mpr ⟨hmem, ?_⟩, congrArg Prod.snd heq⟩
  cases hrefresh : e.2.refresh with
  | none =>
    rw [advanceEndpoint, hrefresh] at ht
    cases ht
  | some r => rfl

end Cache

/-! ## 4. Runs -/

/-- Someone asked for the keys of a URL and was answered. -/
structure Inquiry where
  instant : Nat
  url : String
  timeout : Nat
  answered : Nat
  keys : Option Keys
  deriving DecidableEq, Repr

/-- A cache and all that has happened to it, the first thing first. -/
structure Run where
  cache : Cache
  now : Nat := 0
  inquiries : List Inquiry := []
  /-- The fetches with the instants at which they started. -/
  fetches : List (Nat × String) := []

/-- Nothing is left to happen before an instant. -/
def Cache.IdleBefore (c : Cache) (instant : Nat) : Prop :=
  ∀ e ∈ c.endpoints, ∀ r ∈ e.2.refresh, instant ≤ r.next

instance (c : Cache) (instant : Nat) : Decidable (c.IdleBefore instant) :=
  inferInstanceAs (Decidable (∀ e ∈ c.endpoints, ∀ r ∈ e.2.refresh, instant ≤ r.next))

theorem Cache.IdleBefore.le_next {c : Cache} {instant : Nat} (h : c.IdleBefore instant)
    {url : String} {r : Refresh} (hr : (c.endpoint url).refresh = some r) : instant ≤ r.next := by
  rw [endpoint] at hr
  cases hget : Entries.get? url c.endpoints with
  | none =>
    rw [hget] at hr
    cases hr
  | some e =>
    rw [hget] at hr
    exact h _ (Entries.mem_of_get? hget) r hr

theorem Cache.IdleBefore.mono {c : Cache} {instant earlier : Nat} (h : c.IdleBefore instant)
    (hle : earlier ≤ instant) : c.IdleBefore earlier :=
  fun e he r hr => hle.trans (h e he r hr)

theorem Cache.idleBefore_advance (c : Cache) (horizon : Nat) :
    (c.advance horizon).1.IdleBefore (horizon + 1) := by
  intro e he r hr
  simp only [advance, List.map_map, List.mem_map] at he
  obtain ⟨⟨url, endpoint⟩, -, rfl⟩ := he
  cases hrefresh : endpoint.refresh with
  | none => simp [advanceEndpoint, hrefresh] at hr
  | some refresh =>
    simp only [Function.comp_apply, advanceEndpoint, hrefresh, Option.mem_some_iff] at hr
    exact hr ▸ Refresh.lt_next_advance c.interval horizon endpoint.script refresh

namespace Run

/-- The run after someone has asked for keys. -/
def ask (r : Run) (instant : Nat) (url : String) (timeout : Nat) : Run :=
  let (cache, answered, keys) := r.cache.keysFor instant url timeout
  { r with
    cache
    now := instant
    inquiries := r.inquiries ++ [{ instant, url, timeout, answered, keys }] }

/-- The run after everything up to an instant has happened. -/
def advance (r : Run) (instant : Nat) : Run :=
  { r with
    cache := (r.cache.advance instant).1
    now := instant
    fetches := r.fetches ++ r.cache.fetchesUntil instant }

/-- Someone asks for keys, or time passes. -/
inductive Step (r : Run) : Run → Prop
  | ask {instant : Nat} (later : r.now ≤ instant) (idle : r.cache.IdleBefore instant)
      (url : String) (timeout : Nat) : Step r (r.ask instant url timeout)
  | advance {instant : Nat} (later : r.now ≤ instant) : Step r (r.advance instant)

/-- Inquiries and passing time lead from one run to another. -/
abbrev Leads : Run → Run → Prop := Relation.ReflTransGen Step

/-- The instant of the first inquiry about a URL. -/
def firstAsked? (r : Run) (url : String) : Option Nat :=
  (r.inquiries.find? (·.url = url)).map (·.instant)

/-- The instants at which the fetches of a URL have started. -/
def startsOf (r : Run) (url : String) : List Nat :=
  (r.fetches.filter (·.2 = url)).map (·.1)

theorem length_startsOf (r : Run) (url : String) :
    (r.startsOf url).length = (r.fetches.map (·.2)).count url := by
  rw [startsOf, List.length_map, ← List.countP_eq_length_filter, List.count_eq_countP,
    List.countP_map]
  exact List.countP_congr fun e _ => by simp

theorem firstAsked?_ask (r : Run) (instant : Nat) (asked : String) (timeout : Nat) (url : String) :
    (r.ask instant asked timeout).firstAsked? url =
      (r.firstAsked? url).or (if asked = url then some instant else none) := by
  rw [firstAsked?, ask, List.find?_append, Option.map_or, firstAsked?]
  by_cases h : asked = url <;> simp [h]

end Run

/-! ## 5. Courses in runs -/

/-- A cache that was never asked for keys; the answers of the servers are settled. -/
structure Cache.Fresh (c : Cache) : Prop where
  distinct : (Entries.keys c.endpoints).Nodup
  untracked : ∀ e ∈ c.endpoints, e.2.refresh = none

theorem Cache.Fresh.refresh_eq {c : Cache} (fresh : c.Fresh) (url : String) :
    (c.endpoint url).refresh = none := by
  rw [endpoint]
  cases hget : Entries.get? url c.endpoints with
  | none => rfl
  | some e => exact fresh.untracked _ (Entries.mem_of_get? hget)

/-- Nothing is due in a cache that was never asked. -/
theorem Cache.Fresh.idleBefore {c : Cache} (fresh : c.Fresh) (instant : Nat) :
    c.IdleBefore instant := by
  intro e he r hr
  rw [fresh.untracked e he] at hr
  cases hr

/-- The course of a URL that is first asked about at an instant. -/
def Cache.course (c : Cache) (url : String) (first : Nat) : Course :=
  { interval := c.interval, first, script := (c.endpoint url).script }

/-- **A URL is on its course** in a run from a cache: nobody has asked about it, and nothing has
happened to it; or its refresh is at a place of the course from the first inquiry on, with nothing
left that is due. -/
inductive Run.OnCourse (c : Cache) (r : Run) (url : String) : Prop
  | unasked (unasked : r.firstAsked? url = none) (endpoint : r.cache.endpoint url = c.endpoint url)
      (starts : r.startsOf url = [])
  | asked {first started ended : Nat} {refresh : Refresh} {rest : Script}
      (asked : r.firstAsked? url = some first)
      (endpoint : r.cache.endpoint url = { script := rest, refresh := some refresh })
      (place : refresh.IsAt (c.course url first) started ended rest)
      (due : r.now ≤ refresh.next)
      (started_le : ∀ k < started, (c.course url first).start k ≤ r.now)
      (ended_le : ∀ k < ended, (c.course url first).finish k ≤ r.now)
      (starts : r.startsOf url = (c.course url first).startsOf started)

/-- A run from a cache keeps the interval and the URLs apart, and each URL on its course. -/
structure Run.Orderly (c : Cache) (r : Run) : Prop where
  interval : r.cache.interval = c.interval
  distinct : (Entries.keys r.cache.endpoints).Nodup
  onCourse : ∀ url, r.OnCourse c url

namespace Run

variable {c : Cache} {r r' : Run}

theorem orderly_start (fresh : c.Fresh) : Orderly c { cache := c } :=
  ⟨rfl, fresh.distinct, fun _ => .unasked rfl rfl rfl⟩

/-- Asking starts the course of the URL, if nobody has asked before, and changes nothing else. -/
theorem OnCourse.ask (fresh : c.Fresh) {url : String} (h : r.OnCourse c url) {instant : Nat}
    (later : r.now ≤ instant) (idle : r.cache.IdleBefore instant) (asked : String)
    (timeout : Nat) : (r.ask instant asked timeout).OnCourse c url := by
  have hfirst := r.firstAsked?_ask instant asked timeout url
  have hendpoint : (r.ask instant asked timeout).cache.endpoint url = _ :=
    r.cache.endpoint_refer asked instant url
  cases h with
  | unasked hunasked hsame hstarts =>
    rw [hunasked, Option.none_or] at hfirst
    by_cases hurl : asked = url
    · subst hurl
      rw [if_pos rfl] at hfirst hendpoint
      rw [hsame, fresh.refresh_eq] at hendpoint
      exact .asked hfirst hendpoint (Refresh.isAt_start (c.course asked instant))
        (Nat.max_self instant).ge (fun k hk => by omega) (fun k hk => by omega) hstarts
    · rw [if_neg hurl] at hfirst hendpoint
      exact .unasked hfirst (hendpoint.trans hsame) hstarts
  | asked hasked hsame hplace hdue hstarted hended hstarts =>
    rw [hasked, Option.some_or] at hfirst
    refine .asked hfirst ?_ hplace (idle.le_next (congrArg Endpoint.refresh hsame))
      (fun k hk => (hstarted k hk).trans later) (fun k hk => (hended k hk).trans later) hstarts
    rw [hendpoint]
    split
    · rename_i hurl
      rw [hurl, hsame]
      rfl
    · exact hsame

/-- Passing time moves each URL on along its course. -/
theorem OnCourse.advance (hr : r.Orderly c) (fresh : c.Fresh) {url : String}
    (h : r.OnCourse c url) {instant : Nat} (later : r.now ≤ instant) :
    (r.advance instant).OnCourse c url := by
  have hendpoint : (r.advance instant).cache.endpoint url = _ :=
    r.cache.endpoint_advance url instant
  have hstartsOf : (r.advance instant).startsOf url = r.startsOf url ++
      ((r.cache.fetchesUntil instant).filter (·.2 = url)).map (·.1) := by
    rw [startsOf, startsOf, Run.advance, List.filter_append, List.map_append]
  cases h with
  | unasked hunasked hsame hstarts =>
    have hidle : Cache.advanceEndpoint r.cache.interval instant (r.cache.endpoint url) =
        (c.endpoint url, []) := by
      rw [hsame, Cache.advanceEndpoint, fresh.refresh_eq]
    refine .unasked hunasked (hendpoint.trans (congrArg Prod.fst hidle)) ?_
    rw [hstartsOf, hstarts, r.cache.instants_fetchesUntil url hr.distinct (by simp [hidle]), hidle,
      List.append_nil]
  | @asked first started ended refresh rest hasked hsame hplace hdue hstarted hended hstarts =>
    obtain ⟨started', ended', hplace', hle, hnew, hpassed, hpassed'⟩ := hplace.advance instant
    have hmoved : Cache.advanceEndpoint r.cache.interval instant (r.cache.endpoint url) =
        ({ script := (refresh.advance c.interval instant rest).2.1
           refresh := some (refresh.advance c.interval instant rest).1 },
          (refresh.advance c.interval instant rest).2.2) := by
      rw [hsame, hr.interval, Cache.advanceEndpoint]
    have hnext : instant < (refresh.advance c.interval instant rest).1.next :=
      Refresh.lt_next_advance c.interval instant rest refresh
    refine .asked hasked (hendpoint.trans (congrArg Prod.fst hmoved)) hplace' hnext.le ?_ ?_ ?_
    · intro k hk
      by_cases hold : k < started
      · exact (hstarted k hold).trans later
      · exact hpassed k hk (Nat.le_of_not_lt hold)
    · intro k hk
      by_cases hold : k < ended
      · exact (hended k hold).trans later
      · exact hpassed' k hk (Nat.le_of_not_lt hold)
    · have hsorted : ((c.course url first).startsOf started').Pairwise (· ≤ ·) :=
        List.pairwise_map.mpr (List.pairwise_le_range.imp fun h => (c.course url first).start_mono h)
      rw [hstartsOf, hstarts, r.cache.instants_fetchesUntil url hr.distinct, hmoved]
      · exact hnew
      · rw [hmoved]
        rw [← hnew] at hsorted
        exact (List.pairwise_append.mp hsorted).2.1

theorem Orderly.step (fresh : c.Fresh) (h : r.Orderly c) (hs : Step r r') : r'.Orderly c := by
  cases hs with
  | ask later idle url timeout =>
    exact ⟨h.interval, Entries.insert_nodup h.distinct,
      fun other => (h.onCourse other).ask fresh later idle url timeout⟩
  | @advance instant later =>
    refine ⟨h.interval, ?_, fun other => (h.onCourse other).advance h fresh later⟩
    have hkeys : Entries.keys (r.advance instant).cache.endpoints =
        Entries.keys r.cache.endpoints := by
      simp [Run.advance, Cache.advance, Entries.keys, Function.comp_def]
    rw [hkeys]
    exact h.distinct

theorem orderly_of_leads (fresh : c.Fresh) (h : Leads { cache := c } r) : r.Orderly c := by
  induction h with
  | refl => exact orderly_start fresh
  | tail _ hs ih => exact ih.step fresh hs

/-- **Every URL is on its course** at every moment of every run. -/
theorem onCourse_of_leads (fresh : c.Fresh) (h : Leads { cache := c } r) (url : String) :
    r.OnCourse c url :=
  (orderly_of_leads fresh h).onCourse url

end Run

end LoginGate.Certificates
