/-
# Sessions and their histories

Whatever happens to a session is one of a few events (`Session.Event`), and a session that is in use
is a new one after a history of them (`Session.replay`).  Through all of it the registry is one that
was built, whatever is to happen belongs to a queue that there is, and the queue of each registered
provider is one that was made for its type (`Session.Sound`, `sound_replay`).  So no two types share
a queue (`Sound.queue_unique`).
-/
import LoginGate.Proofs.Dispatch.Batches
import LoginGate.Proofs.Dispatch.Calls
import LoginGate.Proofs.Dispatch.Registries
import LoginGate.Proofs.Queue.Stations

namespace LoginGate

/-! ## 1. Names of stations -/

namespace Timeline

variable {t t' : Timeline} {i : Nat}

/-- The names of the stations. -/
def names (t : Timeline) : List String := t.stations.map (·.name)

theorem length_names (t : Timeline) : t.names.length = t.stations.length := List.length_map _

theorem getElem?_names (t : Timeline) (i : Nat) : t.names[i]? = t.stations[i]?.map (·.name) :=
  List.getElem?_map

theorem names_eq_of_cards_eq (h : t'.cards = t.cards) : t'.names = t.names := by
  have hnames := congrArg (List.map (·.1)) h
  rwa [cards, cards, List.map_map, List.map_map] at hnames

theorem names_post (m : Message) : (t.post i m).names = t.names := by
  rw [names, stations_post]
  exact map_modify_eq fun _ _ => rfl

theorem names_submit (call : Call) (retries : Nat) :
    (t.submit i call retries).1.names = t.names := names_post _

theorem names_abandon (ticket : Nat) : (t.abandon ticket).names = t.names := by
  rw [names, abandon, List.map_map]
  rfl

theorem names_extend (extra : List Station) :
    (t.extend extra).names = t.names ++ extra.map (·.name) := List.map_append

theorem Attached.submit (h : t.Attached) (hi : i < t.stations.length) (call : Call)
    (retries : Nat) : (t.submit i call retries).1.Attached :=
  Attached.post (t := { t with
    nextTicket := t.nextTicket + 1
    callers := t.callers ++ [(t.nextTicket, t.now)] }) ⟨h.ready, h.pending⟩ hi _

theorem Attached.abandon (h : t.Attached) (ticket : Nat) : (t.abandon ticket).Attached := by
  have hlength : (t.abandon ticket).stations.length = t.stations.length := List.length_map _
  exact ⟨fun x hx => hlength ▸ h.ready x hx, fun p hp => hlength ▸ h.pending p hp⟩

theorem Attached.extend (h : t.Attached) (extra : List Station) : (t.extend extra).Attached := by
  have hle : t.stations.length ≤ (t.extend extra).stations.length := by
    rw [Timeline.extend, List.length_append]
    exact Nat.le_add_right _ _
  exact ⟨fun x hx => (h.ready x hx).trans_le hle, fun p hp => (h.pending p hp).trans_le hle⟩

theorem Attached.advance (h : t.Attached) (horizon : Nat) : (t.advance horizon).Attached :=
  have hrun := h.run (fun _ => false) (some horizon) t.work
  ⟨hrun.ready, hrun.pending⟩

theorem Attached.await (h : t.Attached) (tickets : List Nat) : (t.await tickets).Attached :=
  h.run _ _ _

end Timeline

namespace Session

/-! ## 2. Events -/

/-- What can happen to a session. -/
inductive Event where
  /-- Requests come together and are answered. -/
  | authenticate (backend : Backend) (settings : AuthSettings) (unix : Int)
    (requests : List Request)
  /-- Requests come in; those that need a call have yet to be answered. -/
  | request (backend : Backend) (settings : AuthSettings) (unix : Int) (requests : List Request)
  | rebuild (providers : List Provider)
  /-- Time passes up to an instant. -/
  | advance (horizon : Nat)
  /-- Time passes until the callers have their answers. -/
  | await (tickets : List Nat)
  /-- A caller goes away. -/
  | abandon (ticket : Nat)
  /-- A verdict is counted. -/
  | record (t : AuthType) (verdict : Verdict)
  /-- How attempts will end and which keys are served changes. -/
  | outside (transport : Transport) (cache : Certificates.Cache)

/-- A session after an event. -/
def after (s : Session) : Event → Session
  | .authenticate backend settings unix requests =>
    (s.authenticate backend settings unix requests).1
  | .request backend settings unix requests => (s.begun backend settings unix requests).session
  | .rebuild providers => (s.rebuild providers).1
  | .advance horizon => (s.advance horizon).1
  | .await tickets => { s with timeline := s.timeline.await tickets }
  | .abandon ticket => { s with timeline := s.timeline.abandon ticket }
  | .record t verdict => { s with metrics := verdict.record t s.metrics }
  | .outside transport cache => { s with timeline := { s.timeline with transport }, cache }

/-- A session after a history of events. -/
def replay (s : Session) (events : List Event) : Session := events.foldl after s

/-- A session in which nothing has happened yet. -/
structure IsNew (s : Session) : Prop where
  registry : s.registry = {}
  stations : s.timeline.stations = []
  ready : s.timeline.ready = []
  pending : s.timeline.pending = []

/-! ## 3. What holds in every session -/

/-- The registry was built, whatever is to happen belongs to a queue that there is, and the queue of
each registered provider was made for its type. -/
structure Sound (s : Session) : Prop where
  built : s.registry.Built
  attached : s.timeline.Attached
  queues : ∀ t r queue, s.registry.get? t = some r → r.kind.queue? = some queue →
    s.timeline.names[queue]? = some t.name

namespace Sound

variable {s s' : Session}

theorem of_isNew (h : s.IsNew) : s.Sound where
  built := h.registry ▸ .empty
  attached := ⟨fun x hx => absurd (h.ready ▸ hx) List.not_mem_nil,
    fun p hp => absurd (h.pending ▸ hp) List.not_mem_nil⟩
  queues := fun t r queue hr => by
    rw [h.registry] at hr
    cases hr

/-- Sessions are sound for as long as the registry and the names of the stations stay. -/
theorem of_eq (h : s.Sound) (hregistry : s'.registry = s.registry)
    (hnames : s'.timeline.names = s.timeline.names) (hattached : s'.timeline.Attached) :
    s'.Sound where
  built := hregistry ▸ h.built
  attached := hattached
  queues := fun t r queue hr hqueue => by
    rw [hnames]
    exact h.queues t r queue (hregistry ▸ hr) hqueue

theorem lt_length (h : s.Sound) {t : AuthType} {p : Provider} {queue : Nat}
    (hr : s.registry.get? t = some ⟨p, .http queue⟩) : queue < s.timeline.stations.length := by
  have hname := h.queues t _ queue hr rfl
  rw [← Timeline.length_names]
  exact (List.getElem?_eq_some_iff.mp hname).1

/-- **No two types share a queue.** -/
theorem queue_unique (h : s.Sound) {t u : AuthType} {r r' : RegisteredProvider} {queue : Nat}
    (hr : s.registry.get? t = some r) (hr' : s.registry.get? u = some r')
    (hqueue : r.kind.queue? = some queue) (hqueue' : r'.kind.queue? = some queue) : t = u := by
  have ht := h.queues t r queue hr hqueue
  have hu := h.queues u r' queue hr' hqueue'
  exact AuthType.name_injective (Option.some.inj (ht.symm.trans hu))

end Sound

/-! ## 4. Rebuilding -/

section Rebuild

variable (s : Session) (providers : List Provider)

/-- What building a registry for configurations comes to. -/
def draft : RegistryDraft × Option RegistryError :=
  s.registry.build s.timeline.stations.length providers

theorem drafted_of_draft (h : (s.draft providers).2 = none) :
    RegistryDraft.Drafted s.registry s.timeline.stations.length providers
      (s.draft providers).1 :=
  s.registry.drafted_of_build s.timeline.stations.length providers h

/-- The stations of the queues that are made when the registry is rebuilt. -/
def newStations : List Station :=
  (s.draft providers).1.created.map fun t => { name := t.name, settings := s.queueSettings }

theorem foldl_addStation (settings : Queue.Settings) (created : List AuthType) (t : Timeline) :
    created.foldl (fun t c => (t.addStation c.name settings).1) t =
      t.extend (created.map fun c => { name := c.name, settings }) := by
  induction created generalizing t with
  | nil => rw [List.foldl_nil, List.map_nil, Timeline.extend, List.append_nil]
  | cons c rest ih =>
    rw [List.foldl_cons, ih, Timeline.extend, Timeline.extend, Timeline.addStation,
      List.append_assoc]
    rfl

/-- **Rebuilding** adds stations for the queues that are made, and replaces the registry if nothing
is wrong. -/
theorem rebuild_eq : s.rebuild providers =
    ({ s with
        timeline := s.timeline.extend (s.newStations providers)
        registry := if (s.draft providers).2.isNone then (s.draft providers).1.registry
          else s.registry },
      (s.draft providers).2, (s.draft providers).1.created,
      if (s.draft providers).2.isNone then
        [.registryBuilt (s.draft providers).1.registry.size (s.draft providers).1.reused]
      else []) := by
  rw [rebuild, newStations, ← foldl_addStation]
  unfold draft
  cases s.registry.build s.timeline.stations.length providers with
  | mk d error => cases error <;> rfl

theorem isIdle_newStations : ∀ x ∈ s.newStations providers, x.IsIdle := by
  intro x hx
  obtain ⟨t, -, rfl⟩ := List.mem_map.mp hx
  exact ⟨rfl, rfl⟩

theorem names_newStations : (s.newStations providers).map (·.name) =
    (s.draft providers).1.created.map (·.name) := by
  rw [newStations, List.map_map]
  rfl

end Rebuild

/-! ## 5. Soundness of histories -/

section Soundness

variable {s : Session}

/-- The queue of a provider that was made is one of the new ones. -/
theorem getElem?_names_rebuild (providers : List Provider) (i : Nat) :
    (s.timeline.extend (s.newStations providers)).names[s.timeline.stations.length + i]? =
      ((s.draft providers).1.created[i]?).map (·.name) := by
  rw [Timeline.names_extend, names_newStations, ← Timeline.length_names,
    List.getElem?_append_right (Nat.le_add_right _ _), Nat.add_sub_cancel_left, List.getElem?_map]

theorem Sound.rebuild (h : s.Sound) (providers : List Provider) :
    (s.rebuild providers).1.Sound where
  built := built_rebuild h.built providers
  attached := by
    rw [rebuild_eq]
    exact h.attached.extend _
  queues := by
    intro t r queue hr hqueue
    have hold : ∀ r, s.registry.get? t = some r → r.kind.queue? = some queue →
        (s.timeline.extend (s.newStations providers)).names[queue]? = some t.name := by
      intro r hr hqueue
      have hname := h.queues t r queue hr hqueue
      rw [Timeline.names_extend,
        List.getElem?_append_left (List.getElem?_eq_some_iff.mp hname).1, hname]
    rw [rebuild_eq] at hr ⊢
    dsimp only at hr ⊢
    split at hr
    · rename_i hok
      have hdrafted := s.drafted_of_draft providers (Option.isNone_iff_eq_none.mp hok)
      obtain ⟨p, -, rfl, hr | ⟨-, i, hkind, hcreated⟩⟩ := hdrafted.of_get? hr
      · exact hold r hr hqueue
      · have hused := Provider.queue?_of_makeKind hkind
        cases hhttp : p.authType.isHttp with
        | true =>
          rw [hhttp, if_pos rfl, hqueue] at hused
          rw [Option.some.inj hused, getElem?_names_rebuild]
          exact congrArg (Option.map _) (hcreated hhttp)
        | false =>
          rw [hhttp, if_neg Bool.false_ne_true, hqueue] at hused
          cases hused
    · exact hold r hr hqueue

theorem Batch.sound_begin {b : Batch} (h : b.session.Sound) (backend : Backend)
    (settings : AuthSettings) (unix : Int) (r : Request) :
    (b.begin backend settings unix r).session.Sound := by
  rw [begin]
  cases hplan : Plan.ofRequest b.session.registry settings unix r with
  | settled verdict => exact h
  | checkToken appId token => exact h.of_eq rfl rfl h.attached
  | call p queue call query =>
    cases backend with
    | immediate answer =>
      dsimp only [beginImmediate]
      cases answer r.authType call <;> exact h
    | queues =>
      have hcalls := Plan.ofRequest_eq_call_iff.mp ⟨query, hplan⟩
      exact h.of_eq rfl (Timeline.names_submit call _)
        (h.attached.submit (h.lt_length hcalls.registered) call _)

theorem Batch.sound_foldl_begin (backend : Backend) (settings : AuthSettings) (unix : Int)
    (requests : List Request) {b : Batch} (h : b.session.Sound) :
    (requests.foldl (Batch.begin backend settings unix) b).session.Sound := by
  induction requests generalizing b with
  | nil => exact h
  | cons r requests ih => exact ih (sound_begin h backend settings unix r)

theorem Sound.begun (h : s.Sound) (backend : Backend) (settings : AuthSettings) (unix : Int)
    (requests : List Request) : (s.begun backend settings unix requests).session.Sound :=
  Batch.sound_foldl_begin backend settings unix requests h

theorem Sound.advance (h : s.Sound) (horizon : Nat) : (s.advance horizon).1.Sound :=
  h.of_eq rfl (Timeline.names_eq_of_cards_eq (Timeline.cards_advance _ horizon))
    (h.attached.advance horizon)

theorem Sound.await (h : s.Sound) (tickets : List Nat) :
    ({ s with timeline := s.timeline.await tickets } : Session).Sound :=
  h.of_eq rfl (Timeline.names_eq_of_cards_eq (Timeline.cards_await _ tickets))
    (h.attached.await tickets)

/-- **Every event keeps a session sound.** -/
theorem Sound.after (h : s.Sound) (e : Event) : (s.after e).Sound := by
  cases e with
  | authenticate backend settings unix requests =>
    have hall := ((h.begun backend settings unix requests).await
      (s.begun backend settings unix requests).tickets).advance
      (max (s.begun backend settings unix requests).finish
        ((s.begun backend settings unix requests).session.timeline.await
          (s.begun backend settings unix requests).tickets).now)
    exact hall.of_eq rfl rfl hall.attached
  | request backend settings unix requests => exact h.begun backend settings unix requests
  | rebuild providers => exact h.rebuild providers
  | advance horizon => exact h.advance horizon
  | await tickets => exact h.await tickets
  | abandon ticket => exact h.of_eq rfl (Timeline.names_abandon ticket) (h.attached.abandon ticket)
  | record t verdict => exact h.of_eq rfl rfl h.attached
  | outside transport cache => exact h.of_eq rfl rfl ⟨h.attached.ready, h.attached.pending⟩

theorem Sound.replay (h : s.Sound) (events : List Event) : (s.replay events).Sound := by
  induction events generalizing s with
  | nil => exact h
  | cons e rest ih => exact ih (h.after e)

/-- **Every session in use is sound.** -/
theorem sound_replay (new : s.IsNew) (events : List Event) : (s.replay events).Sound :=
  (Sound.of_isNew new).replay events

end Soundness

end Session

end LoginGate
