/-
# Rebuilding replaces what has changed and disturbs nothing

A rebuild that fails leaves the registry alone.  One that succeeds registers exactly the given
configurations; where a configuration is equal to the one before, the provider stays with its queue
or verifier, and elsewhere a new one is made, with one new queue if it is an HTTP provider
(`Replaced`).  Either way the queues that there are stay as they are, and they go on as they would
have gone on without it, and so do the requests that wait for them (`rebuild_atomic`).  The latter is
a simulation: a session whose timeline has idle stations more than that of another one (`Shadows`)
keeps this through time and through further rebuilds, which the other session need not follow.
-/
import LoginGate.Proofs.Dispatch.Histories

namespace LoginGate.Session

/-! ## 1. What a rebuild replaces -/

/-- **What a successful rebuild leads to**: one provider for each configuration, the one that was
there before if its configuration is equal, and else a new one; and one new queue for each new HTTP
provider. -/
structure Replaced (s s' : Session) (providers : List Provider) (created : List AuthType) :
    Prop where
  types : Entries.keys s'.registry.entries = providers.map (·.authType)
  distinct : (providers.map (·.authType)).Nodup
  configured : ∀ p ∈ providers, ∃ r, s'.registry.get? p.authType = some r ∧
    r.provider.same p = true
  kept_iff : ∀ p ∈ providers, s'.registry.get? p.authType = s.registry.get? p.authType ↔
    s.registry.keeps p = true
  queue_eq_iff : ∀ p ∈ providers, p.authType.isHttp = true →
    ((s'.registry.get? p.authType).bind (·.kind.queue?) =
        (s.registry.get? p.authType).bind (·.kind.queue?) ↔ s.registry.keeps p = true)
  /-- A new queue has a number that no queue had before. -/
  made : ∀ p ∈ providers, s.registry.keeps p = false → ∃ kind queue,
    s'.registry.get? p.authType = some ⟨p, kind⟩ ∧ p.makeKind queue = .ok kind ∧
      (p.authType.isHttp = true → kind = .http queue ∧ s.timeline.stations.length ≤ queue ∧
        s'.timeline.stations[queue]? =
          some { name := p.authType.name, settings := s.queueSettings })
  created : created = (providers.filter fun p => !s.registry.keeps p && p.authType.isHttp).map
    (·.authType)

section Replaced

variable {s : Session} {providers : List Provider}

theorem getElem?_newStations (i : Nat) :
    (s.timeline.extend (s.newStations providers)).stations[s.timeline.stations.length + i]? =
      ((s.draft providers).1.created[i]?).map fun t =>
        { name := t.name, settings := s.queueSettings } := by
  rw [Timeline.extend, List.getElem?_append_right (Nat.le_add_right _ _), Nat.add_sub_cancel_left,
    newStations, List.getElem?_map]

theorem registry_rebuild_of_error {e : RegistryError} (h : (s.rebuild providers).2.1 = some e) :
    (s.rebuild providers).1.registry = s.registry := by
  rw [rebuild_eq] at h ⊢
  dsimp only at h ⊢
  rw [h]
  rfl

theorem replaced_of_rebuild (hs : s.Sound) (h : (s.rebuild providers).2.1 = none) :
    Replaced s (s.rebuild providers).1 providers (s.rebuild providers).2.2.1 := by
  rw [rebuild_eq] at h ⊢
  dsimp only at h ⊢
  have hdrafted := s.drafted_of_draft providers h
  rw [if_pos (by rw [h]; rfl)]
  have hnew : ∀ p ∈ providers, s.registry.keeps p = false → ∃ kind queue,
      (s.draft providers).1.registry.get? p.authType = some ⟨p, kind⟩ ∧
        p.makeKind queue = .ok kind ∧
        (p.authType.isHttp = true → kind = .http queue ∧ s.timeline.stations.length ≤ queue ∧
          (s.timeline.extend (s.newStations providers)).stations[queue]? =
            some { name := p.authType.name, settings := s.queueSettings }) := by
    intro p hp hchanged
    obtain ⟨i, kind, hget, hkind, hcreated⟩ := hdrafted.made p hp hchanged
    refine ⟨kind, _, hget, hkind, fun hhttp => ⟨?_, Nat.le_add_right _ _, ?_⟩⟩
    · have hqueue := Provider.queue?_of_makeKind hkind
      rw [if_pos hhttp] at hqueue
      exact ProviderKind.queue?_eq_some_iff.mp hqueue
    · rw [getElem?_newStations, hcreated hhttp]
      rfl
  refine
    { types := hdrafted.keys
      distinct := hdrafted.distinct
      configured := fun p hp => ?_
      kept_iff := fun p hp => ⟨fun hsame => ?_, hdrafted.kept p hp⟩
      queue_eq_iff := fun p hp hhttp =>
        ⟨fun hsame => ?_, fun hkeeps => by rw [← hdrafted.kept p hp hkeeps]⟩
      made := hnew
      created := hdrafted.created }
  · cases hkeeps : s.registry.keeps p with
    | true =>
      obtain ⟨kept, hget, hsame⟩ := Registry.keeps_iff.mp hkeeps
      exact ⟨kept, (hdrafted.kept p hp hkeeps).trans hget, hsame⟩
    | false =>
      obtain ⟨kind, -, hget, -⟩ := hnew p hp hkeeps
      exact ⟨_, hget, p.same_refl⟩
  · -- A new provider has the configuration that the old one was found to differ from.
    by_contra hkeeps
    obtain ⟨kind, -, hget, -⟩ := hnew p hp (Bool.eq_false_iff.mpr hkeeps)
    exact hkeeps (Registry.keeps_iff.mpr ⟨_, hsame.symm.trans hget, p.same_refl⟩)
  · -- A new queue has another number than the old one, which was in use.
    by_contra hkeeps
    obtain ⟨kind, queue, hget, -, hqueue⟩ := hnew p hp (Bool.eq_false_iff.mpr hkeeps)
    obtain ⟨rfl, hle, -⟩ := hqueue hhttp
    rw [hget] at hsame
    obtain ⟨⟨old, kind⟩, hold, hused⟩ := Option.bind_eq_some_iff.mp hsame.symm
    obtain rfl := ProviderKind.queue?_eq_some_iff.mp hused
    exact absurd (hs.lt_length hold) (Nat.not_lt.mpr hle)

end Replaced

/-! ## 2. What a rebuild leaves alone -/

/-- The session with another registry, and with further stations behind those that there are. -/
def shadow (s : Session) (registry : Registry) (extra : List Station) : Session :=
  { s with registry, timeline := s.timeline.extend extra }

/-- The second session is the first one with another registry and with idle stations behind. -/
def Shadows (s s' : Session) : Prop :=
  ∃ registry extra, (∀ x ∈ extra, Station.IsIdle x) ∧ s' = s.shadow registry extra

def Event.isRebuild : Event → Bool
  | .rebuild _ => true
  | _ => false

/-- The requests that an event brings, if any, have the same plans under both registries. -/
def Event.PlannedAlike (registry registry' : Registry) : Event → Prop
  | .authenticate _ settings unix requests | .request _ settings unix requests =>
    ∀ r ∈ requests, Plan.ofRequest registry settings unix r =
      Plan.ofRequest registry' settings unix r
  | _ => True

/-- All requests of a history have the plans that they would have under the registry.

This is asked of the requests for every queue, not only for the one that a waiting caller is with.
All queues send through one transport, whose common replies go to attempts in the order in which
they are made, and a batch that is answered moves the instant for all of them.  So a request of any
type that is called with one registry and settled with the other can take the reply, or let the time
pass, on which the caller's answer depends. -/
def PlannedAlike (registry : Registry) : Session → List Event → Prop
  | _, [] => True
  | s, e :: later => e.PlannedAlike registry s.registry ∧ PlannedAlike registry (s.after e) later

section Shadow

variable {registry : Registry} {extra : List Station} {backend : Backend}
  {settings : AuthSettings} {unix : Int}

/-- A batch whose session is shadowed. -/
def Batch.shadow (b : Batch) (registry : Registry) (extra : List Station) : Batch :=
  { b with session := b.session.shadow registry extra }

theorem Batch.begin_shadow {b : Batch} (hb : b.session.Sound) {r : Request}
    (hplan : Plan.ofRequest b.session.registry settings unix r =
      Plan.ofRequest registry settings unix r) :
    (b.shadow registry extra).begin backend settings unix r =
      (b.begin backend settings unix r).shadow registry extra := by
  have hplan' : Plan.ofRequest (b.shadow registry extra).session.registry settings unix r =
      Plan.ofRequest b.session.registry settings unix r := hplan.symm
  rw [begin, begin, hplan']
  cases hcase : Plan.ofRequest b.session.registry settings unix r with
  | settled verdict => rfl
  | checkToken appId token => rfl
  | call p queue call query =>
    cases backend with
    | immediate answer =>
      dsimp only [beginImmediate]
      cases answer r.authType call <;> rfl
    | queues =>
      have hcalls := Plan.ofRequest_eq_call_iff.mp ⟨query, hcase⟩
      dsimp only [Batch.shadow, Session.shadow, put]
      rw [Timeline.submit_extend (hb.lt_length hcalls.registered)]

theorem Batch.foldl_begin_shadow {b : Batch} (hb : b.session.Sound) {requests : List Request}
    (hplans : ∀ r ∈ requests, Plan.ofRequest b.session.registry settings unix r =
      Plan.ofRequest registry settings unix r) :
    requests.foldl (Batch.begin backend settings unix) (b.shadow registry extra) =
      (requests.foldl (Batch.begin backend settings unix) b).shadow registry extra := by
  induction requests generalizing b with
  | nil => rfl
  | cons r requests ih =>
    rw [List.foldl_cons, List.foldl_cons, begin_shadow hb (hplans r List.mem_cons_self)]
    refine ih (sound_begin hb backend settings unix r) fun x hx => ?_
    obtain ⟨_, _, hsession⟩ := begin_session backend settings unix b r
    rw [hsession]
    exact hplans x (List.mem_cons_of_mem r hx)

theorem begun_shadow {s : Session} (hs : s.Sound) {requests : List Request}
    (hplans : ∀ r ∈ requests, Plan.ofRequest s.registry settings unix r =
      Plan.ofRequest registry settings unix r) :
    (s.shadow registry extra).begun backend settings unix requests =
      (s.begun backend settings unix requests).shadow registry extra :=
  Batch.foldl_begin_shadow (b := { session := s, finish := s.now }) hs hplans

/-- What requests come to once all of them were begun. -/
def Batch.conclude (b : Batch) : Session × Report :=
  let timeline := b.session.timeline.await b.tickets
  let (s, fetched) := { b.session with timeline }.advance (max b.finish timeline.now)
  let verdicts := b.standings.map fun (t, standing) => (t, Batch.verdict s.timeline standing)
  let metrics := verdicts.foldl (fun m (t, v) => v.record t m) s.metrics
  ({ s with metrics },
    { outcomes := verdicts.map (·.2.outcome), calls := b.calls, fetched, log := b.log })

/-- Stations that nothing was sent to answer nobody. -/
theorem Batch.verdict_extend (t : Timeline) (standing : Standing) :
    verdict (t.extend extra) standing = verdict t standing := rfl

theorem Batch.conclude_shadow {b : Batch} (hb : b.session.Sound)
    (idle : ∀ x ∈ extra, Station.IsIdle x) :
    (b.shadow registry extra).conclude =
      (b.conclude.1.shadow registry extra, b.conclude.2) := by
  have hawait : (b.session.timeline.extend extra).await b.tickets =
      (b.session.timeline.await b.tickets).extend extra :=
    Timeline.await_extend hb.attached idle b.tickets
  have hadvance : ∀ horizon, ((b.session.timeline.await b.tickets).extend extra).advance horizon =
      ((b.session.timeline.await b.tickets).advance horizon).extend extra :=
    fun horizon => Timeline.advance_extend (hb.attached.await b.tickets) idle horizon
  have htickets : (b.shadow registry extra).tickets = b.tickets := rfl
  rw [conclude, conclude, htickets]
  dsimp only [shadow, Session.shadow, Session.advance]
  rw [hawait, hadvance]
  simp only [Timeline.now_extend, verdict_extend]

/-- **Requests that have the same plans are answered the same**, and lead to the same but for idle
stations. -/
theorem authenticate_shadow {s : Session} (hs : s.Sound) (idle : ∀ x ∈ extra, Station.IsIdle x)
    {requests : List Request}
    (hplans : ∀ r ∈ requests, Plan.ofRequest s.registry settings unix r =
      Plan.ofRequest registry settings unix r) :
    (s.shadow registry extra).authenticate backend settings unix requests =
      ((s.authenticate backend settings unix requests).1.shadow registry extra,
        (s.authenticate backend settings unix requests).2) := by
  have hbegun : (s.shadow registry extra).begun backend settings unix requests =
      (s.begun backend settings unix requests).shadow registry extra := begun_shadow hs hplans
  calc
    (s.shadow registry extra).authenticate backend settings unix requests
        = ((s.shadow registry extra).begun backend settings unix requests).conclude := rfl
    _ = ((s.begun backend settings unix requests).shadow registry extra).conclude := by rw [hbegun]
    _ = _ := Batch.conclude_shadow (hs.begun backend settings unix requests) idle

end Shadow

/-! ## 3. Histories with and without rebuilds -/

/-- Any other event than a rebuild leaves the registry and what is configured alone. -/
theorem exists_after {s : Session} {e : Event} (h : e.isRebuild = false) :
    ∃ metrics cache timeline, s.after e = { s with metrics, cache, timeline } := by
  cases e with
  | rebuild providers => cases h
  | authenticate backend settings unix requests =>
    obtain ⟨_, _, hsession⟩ := s.begun_session backend settings unix requests
    rw [after, session_authenticate, hsession]
    exact ⟨_, _, _, rfl⟩
  | request backend settings unix requests =>
    obtain ⟨cache, timeline, hsession⟩ := s.begun_session backend settings unix requests
    exact ⟨s.metrics, cache, timeline, hsession⟩
  | _ => exact ⟨_, _, _, rfl⟩

theorem registry_after {s : Session} {e : Event} (h : e.isRebuild = false) :
    (s.after e).registry = s.registry := by
  obtain ⟨_, _, _, hafter⟩ := exists_after (s := s) h
  rw [hafter]

namespace Shadows

variable {s s' : Session}

theorem refl (s : Session) : s.Shadows s :=
  ⟨s.registry, [], fun _ hx => absurd hx List.not_mem_nil,
    by rw [shadow, Timeline.extend, List.append_nil]⟩

/-- Rebuilding the second session only replaces its registry and adds idle stations. -/
theorem rebuild (h : s.Shadows s') (providers : List Provider) :
    s.Shadows (s'.rebuild providers).1 := by
  obtain ⟨registry, extra, idle, rfl⟩ := h
  refine ⟨((s.shadow registry extra).rebuild providers).1.registry,
    extra ++ (s.shadow registry extra).newStations providers, fun x hx => ?_, ?_⟩
  · exact (List.mem_append.mp hx).elim (idle x) (isIdle_newStations _ providers x)
  · rw [rebuild_eq]
    dsimp only [shadow, Timeline.extend]
    rw [List.append_assoc]

/-- Any other event leads to the same in both sessions. -/
theorem after (h : s.Shadows s') (hs : s.Sound) {e : Event} (hrebuild : e.isRebuild = false)
    (alike : e.PlannedAlike s.registry s'.registry) : (s.after e).Shadows (s'.after e) := by
  obtain ⟨registry, extra, idle, rfl⟩ := h
  cases e with
  | rebuild => cases hrebuild
  | authenticate backend settings unix requests =>
    have hplans : ∀ r ∈ requests, Plan.ofRequest s.registry settings unix r =
        Plan.ofRequest registry settings unix r := alike
    exact ⟨registry, extra, idle, congrArg Prod.fst (authenticate_shadow hs idle hplans)⟩
  | request backend settings unix requests =>
    have hplans : ∀ r ∈ requests, Plan.ofRequest s.registry settings unix r =
        Plan.ofRequest registry settings unix r := alike
    exact ⟨registry, extra, idle, congrArg Batch.session (begun_shadow hs hplans)⟩
  | advance horizon =>
    refine ⟨registry, extra, idle, ?_⟩
    dsimp only [Session.after, Session.advance, shadow]
    rw [Timeline.advance_extend hs.attached idle horizon]
  | await tickets =>
    refine ⟨registry, extra, idle, ?_⟩
    dsimp only [Session.after, shadow]
    rw [Timeline.await_extend hs.attached idle tickets]
  | abandon ticket =>
    refine ⟨registry, extra.map fun x => { x with queue := x.queue.abandon ticket }, ?_, ?_⟩
    · intro x hx
      obtain ⟨y, hy, rfl⟩ := List.mem_map.mp hx
      obtain ⟨hqueue, hmailbox⟩ := idle y hy
      exact ⟨by rw [hqueue]; rfl, hmailbox⟩
    · dsimp only [Session.after, shadow, Timeline.abandon, Timeline.extend]
      rw [List.map_append]
  | record t verdict => exact ⟨registry, extra, idle, rfl⟩
  | outside transport cache => exact ⟨registry, extra, idle, rfl⟩

/-- **Rebuilds can be left out of a history** whose requests are planned as without them: it leads
to the same, but for the registry and for idle stations. -/
theorem replay (h : s.Shadows s') (hs : s.Sound) {later : List Event}
    (alike : PlannedAlike s.registry s' later) :
    (s.replay (later.filter (!·.isRebuild))).Shadows (s'.replay later) := by
  induction later generalizing s s' with
  | nil => exact h
  | cons e later ih =>
    obtain ⟨hfirst, hlater⟩ := alike
    cases hrebuild : e.isRebuild with
    | true =>
      obtain ⟨providers, rfl⟩ : ∃ providers, e = .rebuild providers := by
        cases e with
        | rebuild providers => exact ⟨providers, rfl⟩
        | _ => cases hrebuild
      exact ih (h.rebuild providers) hs hlater
    | false =>
      rw [List.filter_cons_of_pos (by rw [hrebuild]; rfl)]
      exact ih (h.after hs hrebuild hfirst) (hs.after e) ((registry_after hrebuild).symm ▸ hlater)

end Shadows

/-! ## 4. Rebuilds in every history -/

/-- **Rebuilding is atomic, keeps what is unchanged and disturbs nothing**, whatever has happened
before and whatever happens later.  On an error the registry stays as it was; on success it is
replaced as a whole.  No queue that there was changes, and it goes on as it would have gone on
without this rebuild and all later ones, provided that the requests that come then, for this queue
or another, are planned as they would be without them; so whoever waits gets the same verdict.  No
two types ever share a queue. -/
theorem rebuild_atomic {s₀ : Session} (new : s₀.IsNew) (events : List Event)
    (providers : List Provider) :
    let s := s₀.replay events
    let s' := (s.rebuild providers).1
    let created := (s.rebuild providers).2.2.1
    (∀ e, (s.rebuild providers).2.1 = some e → s'.registry = s.registry) ∧
      ((s.rebuild providers).2.1 = none → Replaced s s' providers created) ∧
      s' = s.shadow s'.registry
        (created.map fun t => { name := t.name, settings := s.queueSettings }) ∧
      (∀ later, PlannedAlike s.registry s' later →
        let undisturbed := s.replay (later.filter (!·.isRebuild))
        undisturbed.timeline.stations <+: (s'.replay later).timeline.stations ∧
          ∀ standing, Batch.verdict (s'.replay later).timeline standing =
            Batch.verdict undisturbed.timeline standing) ∧
      ∀ t u r r' queue, s.registry.get? t = some r → s.registry.get? u = some r' →
        r.kind.queue? = some queue → r'.kind.queue? = some queue → t = u := by
  intro s s' created
  have hsound : s.Sound := sound_replay new events
  refine ⟨fun e h => registry_rebuild_of_error h, replaced_of_rebuild hsound, ?_,
    fun later alike => ?_,
    fun t u r r' queue hr hr' hqueue hqueue' => hsound.queue_unique hr hr' hqueue hqueue'⟩
  · rw [show s' = _ from congrArg Prod.fst (s.rebuild_eq providers),
      show created = _ from congrArg (·.2.2.1) (s.rebuild_eq providers)]
    rfl
  · obtain ⟨registry, extra, -, heq⟩ := ((Shadows.refl s).rebuild providers).replay hsound alike
    rw [heq]
    exact ⟨List.prefix_append _ _, Batch.verdict_extend _⟩

namespace Example

/-- A new session over a slow transport. -/
def slow : Session :=
  { cache := { interval := .ofNat 60000 }
    timeline := { transport := { common := [{ delay := 50 }] } } }

/-- A studio's login service. -/
def studio : Provider := { authType := .custom, baseUri := "https://id.example/login" }

/-- A console's login service at an address. -/
def console (baseUri : String) : Provider := { authType := .playStation, baseUri }

/-- Two services are registered, and a client waits for the first one. -/
def waiting : List Event :=
  [.rebuild [studio, console "https://a.example"],
    .request .queues { applicationId := "app" } 0
      [{ userId := "ada", authType := .custom, params := some "t=1" }]]

end Example

/-- The client's service stays, the other one gets a new queue, and the client is accepted in due
time. -/
theorem rebuild_atomic_waiting :
    let s := Example.slow.replay Example.waiting
    let rebuilt := s.rebuild [Example.console "https://b.example", Example.studio]
    Example.slow.IsNew ∧
      rebuilt.2.1 = none ∧ rebuilt.2.2.1 = [.playStation] ∧
      rebuilt.1.registry.get? .custom = s.registry.get? .custom ∧
      s.registry.get? .playStation = some ⟨Example.console "https://a.example", .http 1⟩ ∧
      rebuilt.1.registry.get? .playStation =
        some ⟨Example.console "https://b.example", .http 2⟩ ∧
      (s.timeline.stations.map (·.queue.inFlight), s.timeline.stations.map (·.mailbox.length)) =
        ([0, 0], [1, 0]) ∧
      (Batch.verdict (rebuilt.1.replay [.advance 50, .rebuild []]).timeline
        (.waiting 0 Example.studio "ada")).outcome = .accept "ada" := by
  have new : Example.slow.IsNew := ⟨rfl, rfl, rfl, rfl⟩
  obtain ⟨-, hreplaced, -, hcourse, -⟩ := rebuild_atomic new Example.waiting
    [Example.console "https://b.example", Example.studio]
  have hok : ((Example.slow.replay Example.waiting).rebuild
      [Example.console "https://b.example", Example.studio]).2.1 = none := rfl
  have hkept := ((hreplaced hok).kept_iff Example.studio (by simp)).mpr rfl
  obtain ⟨-, hverdict⟩ := hcourse [.advance 50, .rebuild []] ⟨trivial, trivial, trivial⟩
  refine ⟨new, hok, rfl, hkept, rfl, rfl, rfl, ?_⟩
  rw [hverdict]
  rfl

end LoginGate.Session
