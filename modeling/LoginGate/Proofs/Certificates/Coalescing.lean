/-
# One fetch for all who ask

However many ask for the keys of a URL, it is fetched on one schedule (`fetches_coalesced`): first
when the first of them asks, then again and again, each time when the fetch before has ended, and an
interval after it has started.  Two runs have the same schedule for a URL if they agree on the
instant of the first inquiry, the interval and the durations of the fetches; who else asks, when, and
how long they wait has no part in it, and neither have the results.
-/
import LoginGate.Proofs.Certificates.Runs

namespace LoginGate.Certificates

/-! ## 1. Starts on a course -/

namespace Course

variable (c : Course)

theorem getElem?_startsOf (n k : Nat) :
    (c.startsOf n)[k]? = if k < n then some (c.start k) else none := by
  rw [startsOf, List.getElem?_map]
  by_cases h : k < n
  · rw [List.getElem?_range h, if_pos h]
    rfl
  · rw [List.getElem?_eq_none (by simpa using h), if_neg h]
    rfl

theorem eq_start_of_getElem? {n k instant : Nat} (h : (c.startsOf n)[k]? = some instant) :
    instant = c.start k := by
  rw [getElem?_startsOf] at h
  exact (Option.some.inj (Option.ite_none_right_eq_some.mp h).2).symm

/-- Fetches that start at an instant or later make no difference before it. -/
theorem filter_startsOf_of_le {m n instant : Nat} (hle : m ≤ n) (h : instant ≤ c.start m) :
    (c.startsOf n).filter (· < instant) = (c.startsOf m).filter (· < instant) := by
  induction n, hle using Nat.le_induction with
  | base => rfl
  | succ n hle ih =>
    have hlate : ¬ c.start n < instant := Nat.not_lt_of_le (h.trans (c.start_mono hle))
    rw [startsOf_succ, List.filter_append, ih, List.filter_singleton, decide_eq_false hlate]
    exact List.append_nil _

theorem filter_startsOf {m n instant : Nat} (hm : instant ≤ c.start m) (hn : instant ≤ c.start n) :
    (c.startsOf m).filter (· < instant) = (c.startsOf n).filter (· < instant) := by
  rcases Nat.le_total m n with hle | hle
  · exact (c.filter_startsOf_of_le hle hm).symm
  · exact c.filter_startsOf_of_le hle hn

/-- How many fetches have started before an instant can be seen from the last one of them and the
next. -/
theorem eq_of_bounds {n m instant : Nat} (hnext : instant ≤ c.start n)
    (hpassed : ∀ k < n, c.start k ≤ instant) (h : ∀ k < m, c.start k < instant)
    (h' : instant < c.start m) : n = m := by
  refine Nat.le_antisymm (Nat.le_of_not_lt fun hlt => ?_) (Nat.le_of_not_lt fun hlt => ?_)
  · exact absurd (hpassed m hlt) (Nat.not_le_of_lt h')
  · exact absurd hnext (Nat.not_le_of_lt (h n hlt))

end Course

/-! ## 2. Starts in a run -/

namespace Run

variable {c c' : Cache} {r r' : Run} {url url' : String} {first : Nat}

/-- **The fetches of a URL in a run** are the first ones of its course: all that have started before
now, and none that starts later. -/
theorem startsOf_of_leads (fresh : c.Fresh) (h : Leads { cache := c } r)
    (asked : r.firstAsked? url = some first) :
    ∃ n, r.startsOf url = (c.course url first).startsOf n ∧ r.now ≤ (c.course url first).start n ∧
      ∀ k < n, (c.course url first).start k ≤ r.now := by
  cases onCourse_of_leads fresh h url with
  | unasked hunasked =>
    rw [hunasked] at asked
    cases asked
  | @asked first' started ended refresh rest hasked hsame hplace hdue hstarted hended hstarts =>
    rw [hasked] at asked
    cases asked
    exact ⟨started, hstarts, hdue.trans (hplace.next_le_start (Nat.le_refl _)), hstarted⟩

theorem startsOf_eq_nil (fresh : c.Fresh) (h : Leads { cache := c } r)
    (unasked : r.firstAsked? url = none) : r.startsOf url = [] := by
  cases onCourse_of_leads fresh h url with
  | unasked _ _ hstarts => exact hstarts
  | asked hasked =>
    rw [hasked] at unasked
    cases unasked

/-- Two runs that agree on what a course depends on have the same fetches before any instant that
both have reached. -/
theorem filter_startsOf_eq (fresh : c.Fresh) (h : Leads { cache := c } r) (fresh' : c'.Fresh)
    (h' : Leads { cache := c' } r') (asked : r.firstAsked? url = some first)
    (asked' : r'.firstAsked? url' = some first) (interval : c'.interval = c.interval)
    (delays : ∀ k, ((c'.endpoint url').script.fetch k).delay =
      ((c.endpoint url).script.fetch k).delay) {instant : Nat} (reached : instant ≤ r.now)
    (reached' : instant ≤ r'.now) :
    (r'.startsOf url').filter (· < instant) = (r.startsOf url).filter (· < instant) := by
  obtain ⟨n, hstarts, hnow, -⟩ := startsOf_of_leads fresh h asked
  obtain ⟨n', hstarts', hnow', -⟩ := startsOf_of_leads fresh' h' asked'
  have hstart : (c'.course url' first).start = (c.course url first).start :=
    Course.start_congr interval rfl delays
  have hsame : (c'.course url' first).startsOf = (c.course url first).startsOf := by
    funext m
    rw [Course.startsOf, Course.startsOf, hstart]
  rw [hstart] at hnow'
  rw [hstarts, hstarts', hsame]
  exact (c.course url first).filter_startsOf (reached'.trans hnow') (reached.trans hnow)

/-- **Inquiries share the fetches of a URL.**  It is fetched first when it is first asked about; no
fetch starts before the one before has ended, or less than an interval after its start, up to the
tolerance for late ticks; and all starts depend on the instant of the first inquiry, the interval
and the durations alone. -/
theorem fetches_coalesced (fresh : c.Fresh) (h : Leads { cache := c } r) (url : String) :
    (r.firstAsked? url = none → r.startsOf url = []) ∧
    ∀ first, r.firstAsked? url = some first →
      ((∀ start, (r.startsOf url)[0]? = some start → start = first) ∧
        (first < r.now → (r.startsOf url)[0]? = some first)) ∧
      (∀ k start next, (r.startsOf url)[k]? = some start → (r.startsOf url)[k + 1]? = some next →
        start + ((c.endpoint url).script.fetch k).delay ≤ next ∧
          start + c.interval ≤ next + Refresh.tolerance) ∧
      ∀ (c' : Cache) (r' : Run) (url' : String), c'.Fresh → Leads { cache := c' } r' →
        r'.firstAsked? url' = some first → c'.interval = c.interval →
        (∀ k, ((c'.endpoint url').script.fetch k).delay =
          ((c.endpoint url).script.fetch k).delay) →
        ∀ instant, instant ≤ r.now → instant ≤ r'.now →
          (r'.startsOf url').filter (· < instant) = (r.startsOf url).filter (· < instant) := by
  refine ⟨startsOf_eq_nil fresh h, fun first asked => ?_⟩
  obtain ⟨n, hstarts, hnow, -⟩ := startsOf_of_leads fresh h asked
  refine ⟨⟨fun start hstart => ?_, fun hfirst => ?_⟩, fun k start next hstart hnext => ?_, ?_⟩
  · rw [hstarts] at hstart
    exact Course.eq_start_of_getElem? _ hstart
  · have hpos : 0 < n := by
      rcases Nat.eq_zero_or_pos n with rfl | hpos
      · exact absurd hnow (Nat.not_le_of_lt hfirst)
      · exact hpos
    rw [hstarts, Course.getElem?_startsOf, if_pos hpos, Course.start_zero]
    rfl
  · rw [hstarts] at hstart hnext
    rw [Course.eq_start_of_getElem? _ hstart, Course.eq_start_of_getElem? _ hnext]
    exact ⟨Course.finish_le_start_succ _ k, Course.interval_le_start_succ _ k⟩
  · intro c' r' url' fresh' h' asked' interval delays instant reached reached'
    exact filter_startsOf_eq fresh h fresh' h' asked asked' interval delays reached reached'

/-- A server whose first fetch is slow, and one that always fails. -/
def slowStart : Cache :=
  { interval := .ofNat 100
    endpoints := [("https://keys", { script := [{ delay := 250 }, { delay := 7 }] }),
      ("https://other", {})] }

/-- The slow server alone, with keys as the result of its fetches. -/
def slowSuccess : Cache :=
  { interval := .ofNat 100
    endpoints := [("https://keys",
      { script := [{ delay := 250, keys := some [] }, { delay := 7, keys := some [] }] })] }

/-- Many ask, and some of them do not wait for the end of the first fetch. -/
def crowd : Run :=
  let r : Run := { cache := slowStart }
  ((((r.ask 0 "https://keys" 1000).ask 0 "https://keys" 0).ask 0 "https://other" 5).advance 40
    |>.ask 40 "https://keys" 10).advance 400

/-- One asks, and nobody after that. -/
def loner : Run :=
  let r : Run := { cache := slowSuccess }
  (r.ask 0 "https://keys" 300).advance 400

theorem leads_crowd : Leads { cache := slowStart } crowd := by
  have idle (c : Cache) : c.IdleBefore 0 := fun e he r hr => Nat.zero_le _
  refine .head (.ask (by decide) (idle _) "https://keys" 1000) ?_
  refine .head (.ask (by decide) (idle _) "https://keys" 0) ?_
  refine .head (.ask (by decide) (idle _) "https://other" 5) ?_
  refine .head (.advance (by decide : 0 ≤ 40)) ?_
  refine .head (.ask (Nat.le_refl 40) ?_ "https://keys" 10) ?_
  · exact (Cache.idleBefore_advance _ 40).mono (by decide)
  · exact .single (.advance (by decide))

theorem leads_loner : Leads { cache := slowSuccess } loner := by
  refine .head (.ask (by decide) (fun e he r hr => Nat.zero_le _) "https://keys" 300) ?_
  exact .single (.advance (by decide))

theorem startsOf_crowd : crowd.startsOf "https://keys" = [0, 250, 350] := by
  have fresh : slowStart.Fresh := ⟨by decide, by decide⟩
  have asked : crowd.firstAsked? "https://keys" = some 0 := rfl
  obtain ⟨n, hstarts, hnext, hpassed⟩ := startsOf_of_leads fresh leads_crowd asked
  have hn : n = 3 := Course.eq_of_bounds _ hnext hpassed (by decide) (by decide)
  rw [hstarts, hn]
  decide

/-- The second fetch waits for the end of the first one, which takes longer than an interval; and
the crowd makes no difference to the fetches. -/
theorem fetches_coalesced_crowd :
    (slowStart.Fresh ∧ Leads { cache := slowStart } crowd ∧
      crowd.firstAsked? "https://keys" = some 0) ∧
    (slowSuccess.Fresh ∧ Leads { cache := slowSuccess } loner ∧
      loner.firstAsked? "https://keys" = some 0) ∧
    crowd.startsOf "https://keys" = [0, 250, 350] ∧ 0 + 250 ≤ 250 ∧ 0 + 100 ≤ 250 + 5 ∧
    (loner.startsOf "https://keys").filter (· < 400) = [0, 250, 350] := by
  have fresh : slowStart.Fresh := ⟨by decide, by decide⟩
  have fresh' : slowSuccess.Fresh := ⟨by decide, by decide⟩
  obtain ⟨-, spaced, same⟩ := (fetches_coalesced fresh leads_crowd "https://keys").2 0 rfl
  have hspaced := spaced 0 0 250 (by rw [startsOf_crowd]; rfl) (by rw [startsOf_crowd]; rfl)
  have hdelays (k : Nat) : ((slowSuccess.endpoint "https://keys").script.fetch k).delay =
      ((slowStart.endpoint "https://keys").script.fetch k).delay := by
    have hlast : min k 1 = 0 ∨ min k 1 = 1 := by omega
    rcases hlast with hk | hk <;>
      simp [Script.fetch, slowSuccess, slowStart, Cache.endpoint, Entries.get?, hk]
  have hsame := same slowSuccess loner "https://keys" fresh' leads_loner rfl rfl hdelays 400
    (Nat.le_refl _) (Nat.le_refl _)
  rw [startsOf_crowd] at hsame
  exact ⟨⟨fresh, leads_crowd, rfl⟩, ⟨fresh', leads_loner, rfl⟩, startsOf_crowd, hspaced.1, hspaced.2,
    hsame⟩

end Run

end LoginGate.Certificates
