/-
# Only known servers are asked for keys

The URL of a key comes from a token that nobody has vouched for yet, and once a URL is referred to it
is fetched for good.  So the check of the URL has to hold as an invariant of the cache: in every run
of a verifier, whatever tokens it is given and whatever the servers answer, all URLs that are
referred to, and all that are fetched, lie below the base URL of an environment
(`only_known_servers`).
-/
import LoginGate.Proofs.Certificates.Coalescing
import LoginGate.Proofs.Nintendo.Acceptance

namespace LoginGate.Nintendo

variable {settings : Settings} {appId token : String} {cache : Certificates.Cache} {t : SignedToken}

/-! ## 1. One token -/

/-- A token with a fault in its header leaves the cache alone. -/
theorem cache_of_fault {e : Rejection} (h : HeaderFault settings token e) (appId : String)
    (cache : Certificates.Cache) (instant : Nat) (now : Int) :
    (verify settings appId cache instant token now).1 = cache := by
  rw [verify, parse_of_fault h]

/-- A token that refers to a key at a known server refers to its URL. -/
theorem cache_of_publishes (hrefers : Refers token t) (hplace : settings.Publishes t.keyUrl)
    (appId : String) (cache : Certificates.Cache) (instant : Nat) (now : Int) :
    (verify settings appId cache instant token now).1 = cache.refer instant t.keyUrl := by
  rw [verify, parse_of_publishes hrefers hplace]
  rfl

/-! ## 2. Runs of a verifier -/

/-- The cache of a verifier and the URLs that were fetched, the first one first. -/
structure Service where
  cache : Certificates.Cache
  fetched : List String := []

namespace Service

/-- A token is verified. -/
def verify (s : Service) (settings : Settings) (appId : String) (instant : Nat) (token : String)
    (now : Int) : Service :=
  { s with cache := (Nintendo.verify settings appId s.cache instant token now).1 }

/-- A server answers otherwise from now on. -/
def setScript (s : Service) (url : String) (script : Certificates.Script) : Service :=
  { s with cache := s.cache.setScript url script }

/-- Time passes. -/
def advance (s : Service) (horizon : Nat) : Service :=
  let (cache, urls) := s.cache.advance horizon
  { cache, fetched := s.fetched ++ urls }

/-- A token is verified, a server changes its answers, or time passes. -/
inductive Step (settings : Settings) (appId : String) (s : Service) : Service → Prop
  | verify (instant : Nat) (token : String) (now : Int) :
    Step settings appId s (s.verify settings appId instant token now)
  | setScript (url : String) (script : Certificates.Script) :
    Step settings appId s (s.setScript url script)
  | advance (horizon : Nat) : Step settings appId s (s.advance horizon)

/-- Verified tokens, changed answers and passing time lead from one state to another. -/
abbrev Leads (settings : Settings) (appId : String) : Service → Service → Prop :=
  Relation.ReflTransGen (Step settings appId)

/-- All URLs that were referred to, and all that were fetched, are those of known servers. -/
structure Confined (settings : Settings) (s : Service) : Prop where
  tracked : ∀ url ∈ s.cache.tracked, settings.Publishes url
  fetched : ∀ url ∈ s.fetched, settings.Publishes url

variable {s s' : Service}

theorem confined_start (settings : Settings) (interval : Certificates.Interval) :
    Confined settings { cache := { interval } } :=
  ⟨fun _ h => (List.not_mem_nil h).elim, fun _ h => (List.not_mem_nil h).elim⟩

theorem Confined.verify (h : s.Confined settings) (appId : String) (instant : Nat) (token : String)
    (now : Int) : (s.verify settings appId instant token now).Confined settings := by
  refine ⟨?_, h.fetched⟩
  rw [Service.verify]
  rcases header_cases settings token with ⟨t, hrefers, hplace⟩ | ⟨e, hfault⟩
  · rw [cache_of_publishes hrefers hplace]
    intro url hurl
    rcases (s.cache.mem_tracked_refer url instant t.keyUrl).mp hurl with rfl | hold
    · exact hplace
    · exact h.tracked url hold
  · rw [cache_of_fault hfault]
    exact h.tracked

theorem Confined.setScript (h : s.Confined settings) (url : String)
    (script : Certificates.Script) : (s.setScript url script).Confined settings :=
  ⟨fun other hother => h.tracked other (s.cache.mem_tracked_of_setScript other hother), h.fetched⟩

theorem Confined.advance (h : s.Confined settings) (horizon : Nat) :
    (s.advance horizon).Confined settings := by
  refine ⟨fun url hurl => ?_, fun url hurl => ?_⟩
  · rw [Service.advance, s.cache.tracked_advance] at hurl
    exact h.tracked url hurl
  · rw [Service.advance, List.mem_append] at hurl
    rcases hurl with hold | hnew
    · exact h.fetched url hold
    · rw [s.cache.advance_snd] at hnew
      obtain ⟨⟨instant, url⟩, hfetch, rfl⟩ := List.mem_map.mp hnew
      exact h.tracked url (s.cache.mem_tracked_of_mem_fetchesUntil url hfetch)

theorem Confined.step (h : s.Confined settings) (hs : Step settings appId s s') :
    s'.Confined settings := by
  cases hs with
  | verify instant token now => exact h.verify appId instant token now
  | setScript url script => exact h.setScript url script
  | advance horizon => exact h.advance horizon

theorem confined_of_leads {interval : Certificates.Interval}
    (h : Leads settings appId { cache := { interval } } s) : s.Confined settings := by
  induction h with
  | refl => exact confined_start settings interval
  | tail _ hs ih => exact ih.step hs

/-- **Only known servers are asked for keys**, in every run of a verifier with a new cache: what is
fetched, and what will be fetched later on, lies below the base URL of an environment.  A token that
refers to no key, or to one elsewhere, changes nothing; any other one refers to the URL of its key
and to no other. -/
theorem only_known_servers {interval : Certificates.Interval}
    (h : Leads settings appId { cache := { interval } } s) :
    (∀ url ∈ s.fetched, settings.Publishes url) ∧
    (∀ url ∈ s.cache.tracked, settings.Publishes url) ∧
    (∀ token e, HeaderFault settings token e → ∀ instant now,
      (Nintendo.verify settings appId s.cache instant token now).1 = s.cache) ∧
    ∀ token t, Refers token t → settings.Publishes t.keyUrl → ∀ instant now url,
      url ∈ (Nintendo.verify settings appId s.cache instant token now).1.tracked ↔
        url = t.keyUrl ∨ url ∈ s.cache.tracked := by
  have confined := confined_of_leads h
  refine ⟨confined.fetched, confined.tracked, ?_, ?_⟩
  · intro token e hfault instant now
    exact cache_of_fault hfault appId s.cache instant now
  · intro token t hrefers hplace instant now url
    rw [cache_of_publishes hrefers hplace]
    exact s.cache.mem_tracked_refer url instant t.keyUrl

/-- A verifier with a new cache that is given a token, when the server of its key answers at once;
then time passes until the keys were fetched once more. -/
def patrol : Service :=
  let s : Service := { cache := { interval := .ofNat 300000 } }
  ((s.setScript Example.keyUrl [{ keys := some Example.ticket.keys }]).verify Example.hosts "00f" 7
    Example.ticket.text 1000).advance 400000

theorem leads_patrol :
    Leads Example.hosts "00f" { cache := { interval := .ofNat 300000 } } patrol := by
  refine .head (.setScript Example.keyUrl [{ keys := some Example.ticket.keys }]) ?_
  refine .head (.verify 7 Example.ticket.text 1000) ?_
  exact .single (.advance 400000)

/-- What the patrol fetches is what a run of its cache fetches. -/
theorem fetched_patrol :
    let r : Certificates.Run := { cache := Example.ticket.serving }
    patrol.fetched = ((r.ask 7 Example.keyUrl 5000).advance 400000).fetches.map (·.2) := by
  have hrefers : Refers Example.ticket.text Example.ticket := refers_issue _ _ _
  simp only [patrol, Service.verify, Service.advance,
    cache_of_publishes hrefers Example.publishes_keyUrl, Certificates.Cache.advance_snd]
  rfl

theorem count_fetched_patrol : patrol.fetched.count Example.keyUrl = 2 := by
  let r : Certificates.Run := { cache := Example.ticket.serving }
  let later := (r.ask 7 Example.keyUrl 5000).advance 400000
  have fresh : Example.ticket.serving.Fresh := ⟨by decide, by decide⟩
  have hleads : Certificates.Run.Leads r later := by
    refine .head (.ask (Nat.zero_le 7) (fresh.idleBefore 7) Example.keyUrl 5000) ?_
    exact .single (.advance (by decide))
  have asked : later.firstAsked? Example.keyUrl = some 7 := rfl
  obtain ⟨n, hstarts, hnext, hpassed⟩ := Certificates.Run.startsOf_of_leads fresh hleads asked
  have hn : n = 2 := Certificates.Course.eq_of_bounds _ hnext hpassed (by decide) (by decide)
  have hlength := later.length_startsOf Example.keyUrl
  rw [hstarts, hn] at hlength
  rw [fetched_patrol]
  exact hlength.symm

/-- A URL that begins with a base URL and lies elsewhere. -/
def lookalike : SignedToken := passport "https://e.example.org/keys" "https://e.example" "77" "00f"

/-- The first token has its keys fetched, twice by now, and a token with a key at another host has
nothing fetched. -/
theorem only_known_servers_patrol :
    Leads Example.hosts "00f" { cache := { interval := .ofNat 300000 } } patrol ∧
    patrol.fetched.count Example.keyUrl = 2 ∧ (∀ url ∈ patrol.fetched, Example.hosts.Publishes url) ∧
    HeaderFault Example.hosts lookalike.text .invalidKeyReference ∧
    (Nintendo.verify Example.hosts "00f" patrol.cache 400000 lookalike.text 1000).1 =
      patrol.cache := by
  obtain ⟨fetched, -, unchanged, -⟩ := only_known_servers leads_patrol
  have hfault : HeaderFault Example.hosts lookalike.text .invalidKeyReference :=
    .place (refers_issue _ _ _) (by decide : ¬ Example.hosts.Publishes "https://e.example.org/keys")
  exact ⟨leads_patrol, count_fetched_patrol, fetched, hfault,
    unchanged lookalike.text _ hfault 400000 1000⟩

end Service

end LoginGate.Nintendo
