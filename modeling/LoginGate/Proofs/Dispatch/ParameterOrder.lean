/-
# Providers that are kept keep the order of their parameters

A provider stays registered when its configuration is equal to the new one, and equal configurations
may list their dashboard parameters in different orders.  Everything about a call but this order is
the same then: the same requests lead to calls (`Calls.exists_of_same`), and with the same method,
body and client parameters (`toCall_eq_of_same`).  So a rebuilt session makes the call that a fresh
one would make with the newest configurations exactly if the provider that it kept, if any, lists
its parameters in the order of the newest configuration (`calls_as_fresh_iff`).
-/
import LoginGate.Proofs.Dispatch.Rebuilds
import LoginGate.Proofs.Dispatch.Routing

namespace LoginGate

/-! ## 1. Merging with equal configurations -/

namespace MergedRequest

open Text

variable {p q : Provider} {client : Option String} {data : Option Payload} {m m' : MergedRequest}

theorem overrideMembers_congr {d d' : QueryParams} (h : ∀ k, d.get? k = d'.get? k)
    (members : Json.Members) : overrideMembers d members = overrideMembers d' members := by
  simp only [overrideMembers, h]

/-- Equal configurations make the same body. -/
theorem bodyOf_congr (h : p.same q = true) (data : Option Payload) :
    bodyOf p data = bodyOf q data := by
  obtain ⟨-, -, hparams, hjson, -⟩ := Provider.same_iff.mp h
  cases data with
  | none => rfl
  | some payload =>
    cases payload with
    | map members => rw [bodyOf, bodyOf, overrideMembers_congr hparams]
    | text s => rw [bodyOf, bodyOf, hjson]
    | bytes bs => rw [bodyOf, bodyOf, hjson]
    | other v => rfl

/-- They keep the same names of the client. -/
theorem forwardedNames_congr (h : p.same q = true) :
    forwardedNames p client data = forwardedNames q client data := by
  obtain ⟨-, -, hparams, -, -⟩ := Provider.same_iff.mp h
  rw [forwardedNames, forwardedNames]
  refine List.filter_congr fun k _ => ?_
  have hkeys := (QueryParams.keys_perm hparams).mem_iff (a := k)
  simp only [hkeys]

/-- The written pairs of entries tell the entries. -/
theorem map_writtenPair_injective {d d' : List (String × String)}
    (h : d.map FormEncoded.writtenPair = d'.map FormEncoded.writtenPair) : d = d' := by
  rw [← map_pairOf_writtenPair d, h, map_pairOf_writtenPair]

/-- **The merged query strings of equal configurations** are the same exactly if the parameters are
in the same order. -/
theorem queryString_eq_iff (h : p.same q = true) (hp : ofParts p client data = .ok m)
    (hq : ofParts q client data = .ok m') :
    m.queryString = m'.queryString ↔ p.dashboard.entries = q.dashboard.entries := by
  rw [← String.toList_inj, toList_queryString hp, toList_queryString hq]
  constructor
  · intro hjoin
    have hsegments := joinWith_inj (fun s hs => mem_mergedSegments hs)
      (fun s hs => mem_mergedSegments hs) hjoin
    rw [mergedSegments, mergedSegments, forwardedNames_congr h,
      List.append_cancel_right_eq] at hsegments
    exact map_writtenPair_injective hsegments
  · intro hentries
    rw [mergedSegments, mergedSegments, forwardedNames_congr h, hentries]

/-- A query string stands behind the URL and a separator, which depends on the URL alone. -/
theorem exists_toList_appendQuery (baseUri : String) : ∃ separator : List Char, ∀ query,
    (appendQuery baseUri query).toList =
      baseUri.toList ++ if query = "" then [] else separator ++ query.toList := by
  refine ⟨if !baseUri.toList.contains '?' then ['?']
    else if baseUri.toList.getLast? = some '?' || baseUri.toList.getLast? = some '&' then []
    else ['&'], fun query => ?_⟩
  rw [appendQuery]
  by_cases hquery : query = ""
  · rw [if_pos (String.isEmpty_iff.mpr hquery), if_pos hquery, List.append_nil]
  · rw [if_neg (mt String.isEmpty_iff.mp hquery), if_neg hquery]
    dsimp only
    split
    · exact String.toList_ofList
    · split <;> exact String.toList_ofList

/-- Different query strings make different URLs. -/
theorem appendQuery_inj {baseUri query query' : String} :
    appendQuery baseUri query = appendQuery baseUri query' ↔ query = query' := by
  refine ⟨fun h => ?_, congrArg _⟩
  obtain ⟨separator, hurl⟩ := exists_toList_appendQuery baseUri
  have hrest := congrArg String.toList h
  rw [hurl, hurl, List.append_cancel_left_eq] at hrest
  -- Nothing but an empty query string leaves the URL as it is.
  by_cases hquery : query = "" <;> by_cases hquery' : query' = ""
  · rw [hquery, hquery']
  · rw [if_pos hquery, if_neg hquery'] at hrest
    have hempty := (List.append_eq_nil_iff.mp hrest.symm).2
    exact absurd (String.toList_eq_nil_iff.mp hempty) hquery'
  · rw [if_neg hquery, if_pos hquery'] at hrest
    have hempty := (List.append_eq_nil_iff.mp hrest).2
    exact absurd (String.toList_eq_nil_iff.mp hempty) hquery
  · rw [if_neg hquery, if_neg hquery', List.append_cancel_left_eq] at hrest
    exact String.toList_inj.mp hrest

/-- Equal configurations make calls that differ in the query string at most. -/
theorem toCall_eq_of_same (h : p.same q = true) (hp : ofParts p client data = .ok m)
    (hq : ofParts q client data = .ok m') :
    m.toCall p.baseUri =
      { m'.toCall q.baseUri with url := appendQuery q.baseUri m.queryString } := by
  rw [ofParts, bodyOf_congr h data] at hp
  rw [ofParts] at hq
  cases hbody : bodyOf q data with
  | error e =>
    rw [hbody] at hq
    cases hq
  | ok parts =>
    obtain ⟨body, contentType, carried⟩ := parts
    rw [hbody] at hp hq
    cases hp
    cases hq
    rw [toCall, toCall, (Provider.same_iff.mp h).2.1]
    cases body <;> rfl

/-- **Equal configurations make the same call** exactly if the parameters are in the same order. -/
theorem toCall_eq_iff (h : p.same q = true) (hp : ofParts p client data = .ok m)
    (hq : ofParts q client data = .ok m') :
    m.toCall p.baseUri = m'.toCall q.baseUri ↔ p.dashboard.keys = q.dashboard.keys := by
  obtain ⟨-, -, hparams, -, -⟩ := Provider.same_iff.mp h
  have hcalls : m.toCall p.baseUri = m'.toCall q.baseUri ↔
      m.queryString = m'.queryString := by
    rw [toCall_eq_of_same h hp hq]
    refine ⟨fun hcall => ?_, fun hquery => ?_⟩
    · have hurl := congrArg Call.url hcall
      rw [toCall_url, appendQuery_inj] at hurl
      exact hurl
    · rw [hquery, ← toCall_url]
  rw [hcalls, queryString_eq_iff h hp hq, QueryParams.entries_eq_iff hparams]

end MergedRequest

/-! ## 2. Calls of equal configurations -/

namespace Request

variable {r : Request} {registry registry' : Registry} {settings : AuthSettings}
  {p q : Provider} {queue queue' : Nat} {call call' : Call}

/-- **A request that calls one of two equal configurations calls the other one as well.** -/
theorem Calls.exists_of_same (h : r.Calls registry settings p queue call)
    (hget : registry'.get? r.authType = some ⟨q, .http queue'⟩) (hsame : p.same q = true) :
    ∃ call', r.Calls registry' settings q queue' call' := by
  obtain ⟨-, -, hparams, hjson, -⟩ := Provider.same_iff.mp hsame
  have hforwards : q.Forwards r.data := by
    have hp := h.forwards
    cases hdata : r.data with
    | none => trivial
    | some payload =>
      rw [hdata] at hp
      cases payload with
      | map members => trivial
      | text s => exact hjson.symm.trans hp
      | bytes bs => exact hjson.symm.trans hp
      | other v => exact hp
  obtain ⟨m, hm⟩ := MergedRequest.exists_ofParts_iff.mpr hforwards
  exact ⟨m.toCall q.baseUri,
    { registered := hget
      checked := h.checked
      client := h.client
      dashboard := fun rule hrule name hname => by
        obtain ⟨v, hv, hne⟩ := h.dashboard rule hrule name hname
        exact ⟨v, (hparams name).symm.trans hv, hne⟩
      forwards := hforwards
      merged := ⟨m, hm, rfl⟩ }⟩

/-- The calls differ in the URL at most. -/
theorem Calls.eq_of_same (h : r.Calls registry settings p queue call)
    (h' : r.Calls registry' settings q queue' call') (hsame : p.same q = true) :
    call = { call' with url := call.url } := by
  obtain ⟨m, hm, rfl⟩ := h.merged
  obtain ⟨m', hm', rfl⟩ := h'.merged
  have hcall := MergedRequest.toCall_eq_of_same hsame hm hm'
  rw [hcall]

/-- The calls are the same exactly if the parameters are in the same order. -/
theorem Calls.eq_iff_of_same (h : r.Calls registry settings p queue call)
    (h' : r.Calls registry' settings q queue' call') (hsame : p.same q = true) :
    call = call' ↔ p.dashboard.keys = q.dashboard.keys := by
  obtain ⟨m, hm, rfl⟩ := h.merged
  obtain ⟨m', hm', rfl⟩ := h'.merged
  exact MergedRequest.toCall_eq_iff hsame hm hm'

end Request

/-! ## 3. Rebuilt and fresh sessions -/

namespace Session

theorem retries_after (s : Session) (e : Event) : (s.after e).retries = s.retries := by
  cases hrebuild : e.isRebuild with
  | true =>
    cases e with
    | rebuild providers => rw [after, rebuild_eq]
    | _ => cases hrebuild
  | false =>
    obtain ⟨_, _, _, hafter⟩ := exists_after (s := s) hrebuild
    rw [hafter]

theorem retries_replay (s : Session) (events : List Event) :
    (s.replay events).retries = s.retries := by
  induction events generalizing s with
  | nil => rfl
  | cons e later ih => exact (ih (s.after e)).trans (s.retries_after e)

variable {s s₀ : Session} {configs : List Provider}

/-- What can be registered later could have been registered at once. -/
theorem rebuild_of_rebuild (hs : s.Sound) (h : (s.rebuild configs).2.1 = none) :
    (s₀.rebuild configs).2.1 = none := by
  rw [rebuild_eq] at h ⊢
  obtain ⟨hdistinct, hvalid⟩ := (Registry.snd_build_eq_none_iff _ _ _).mp h
  refine (Registry.snd_build_eq_none_iff _ _ _).mpr ⟨hdistinct, fun p hp => .inr ?_⟩
  rcases hvalid p hp with hkeeps | hvalid
  · -- What is kept was valid when it was made, and so is what is equal to it.
    obtain ⟨kept, hget, hsame⟩ := Registry.keeps_iff.mp hkeeps
    rw [Provider.isValid, ← Provider.makeKind_congr hsame]
    exact hs.built.valid hget
  · exact hvalid

namespace Replaced

variable {s' : Session} {created : List AuthType} {p q : Provider} {queue : Nat} {t : AuthType}

/-- The types of the registered HTTP providers were configured. -/
theorem exists_config (h : Replaced s s' configs created) (hs' : s'.Sound)
    (hget : s'.registry.get? t = some ⟨p, .http queue⟩) :
    ∃ q ∈ configs, q.authType = t ∧ q.authType.isHttp = true ∧ p.same q = true := by
  have hmem : t ∈ configs.map (·.authType) := by
    rw [← h.types]
    exact Entries.get?_isSome_iff.mp (Option.isSome_iff_exists.mpr ⟨_, hget⟩)
  obtain ⟨q, hq, rfl⟩ := List.mem_map.mp hmem
  obtain ⟨r, hr, hsame⟩ := h.configured q hq
  obtain rfl := Option.some.inj (hget.symm.trans hr)
  exact ⟨q, hq, rfl, AuthType.isHttp_iff.mpr (hs'.built.fitting.get? hget).2, hsame⟩

/-- Each HTTP provider that was configured is registered behind some queue. -/
theorem exists_http (h : Replaced s s' configs created) (hs' : s'.Sound) (hq : q ∈ configs)
    (hhttp : q.authType.isHttp = true) :
    ∃ p queue, s'.registry.get? q.authType = some ⟨p, .http queue⟩ ∧ p.same q = true := by
  obtain ⟨⟨p, kind⟩, hget, hsame⟩ := h.configured q hq
  obtain ⟨hjwt, hplayerIo, hnintendo⟩ := AuthType.isHttp_iff.mp hhttp
  have hfits := (hs'.built.fitting.get? hget).2
  cases kind with
  | http queue => exact ⟨p, queue, hget, hsame⟩
  | symmetricToken ring => exact (hfits.elim hjwt hplayerIo).elim
  | console appId => exact absurd hfits hnintendo

/-- A fresh session registers the configurations themselves. -/
theorem exists_http_of_isNew (h : Replaced s s' configs created) (new : s.IsNew)
    (hq : q ∈ configs) (hhttp : q.authType.isHttp = true) :
    ∃ queue, s'.registry.get? q.authType = some ⟨q, .http queue⟩ := by
  have hchanged : s.registry.keeps q = false := by
    rw [new.registry]
    rfl
  obtain ⟨kind, queue, hget, -, hqueue⟩ := h.made q hq hchanged
  exact ⟨queue, (hqueue hhttp).1 ▸ hget⟩

/-- The parameters of a registered provider are in the configured order unless the provider was kept
and had them in another one. -/
theorem keys_eq_iff (h : Replaced s s' configs created) (hq : q ∈ configs) {kind : ProviderKind}
    (hget : s'.registry.get? q.authType = some ⟨p, kind⟩) :
    p.dashboard.keys = q.dashboard.keys ↔ ∀ kept, s.registry.get? q.authType = some kept →
      kept.provider.same q = true → kept.provider.dashboard.keys = q.dashboard.keys := by
  cases hkeeps : s.registry.keeps q with
  | true =>
    have hold := ((h.kept_iff q hq).mpr hkeeps).symm.trans hget
    obtain ⟨kept, hkept, hsame⟩ := Registry.keeps_iff.mp hkeeps
    obtain rfl := Option.some.inj (hold.symm.trans hkept)
    refine ⟨fun hkeys kept hkept _ => ?_, fun hkeys => hkeys _ hold hsame⟩
    obtain rfl := Option.some.inj (hold.symm.trans hkept)
    exact hkeys
  | false =>
    obtain ⟨_, _, hmade, -⟩ := h.made q hq hkeeps
    cases hget.symm.trans hmade
    refine iff_of_true rfl fun kept hkept hsame => ?_
    rw [Registry.keeps_iff.mpr ⟨kept, hkept, hsame⟩] at hkeeps
    cases hkeeps

end Replaced

/-- **Kept providers are seen in the order of what is sent alone.**  After any history that ends in
a successful rebuild, a session leads the same requests to calls, with the same retries, as a fresh
one that was built for the newest configurations at once.  The calls have the same method and body;
they are the same exactly if the provider that was registered before, where its configuration is
equal to the newest one, lists its dashboard parameters in the same order. -/
theorem calls_as_fresh_iff {s₀ : Session} (new : s₀.IsNew) (events : List Event)
    (configs : List Provider) (ok : ((s₀.replay events).rebuild configs).2.1 = none) :
    let s := s₀.replay events
    let s' := (s.rebuild configs).1
    let fresh := (s₀.rebuild configs).1
    (s₀.rebuild configs).2.1 = none ∧ s'.retries = fresh.retries ∧
      ∀ settings unix r,
        ((∃ p queue call, r.Calls s'.registry settings p queue call) ↔
          ∃ q queue call, r.Calls fresh.registry settings q queue call) ∧
        ∀ p queue call q queue' call', r.Calls s'.registry settings p queue call →
          r.Calls fresh.registry settings q queue' call' →
          HandsOver .queues s' r queue call (s'.begun .queues settings unix [r]) ∧
            HandsOver .queues fresh r queue' call' (fresh.begun .queues settings unix [r]) ∧
            q ∈ configs ∧ call = { call' with url := call.url } ∧
            (call = call' ↔ ∀ kept, s.registry.get? r.authType = some kept →
              kept.provider.same q = true → kept.provider.dashboard.keys = q.dashboard.keys) := by
  intro s s' fresh
  have hs : s.Sound := sound_replay new events
  have hs₀ : s₀.Sound := .of_isNew new
  have hs' : s'.Sound := hs.rebuild configs
  have hfresh : fresh.Sound := hs₀.rebuild configs
  have okFresh : (s₀.rebuild configs).2.1 = none := rebuild_of_rebuild hs ok
  have hreplaced := replaced_of_rebuild hs ok
  have hmade := replaced_of_rebuild hs₀ okFresh
  refine ⟨okFresh, ?_, fun settings unix r => ⟨⟨?_, ?_⟩, ?_⟩⟩
  · exact ((s.retries_after (.rebuild configs)).trans (s₀.retries_replay events)).trans
      (s₀.retries_after (.rebuild configs)).symm
  · rintro ⟨p, queue, call, h⟩
    obtain ⟨q, hq, htype, hhttp, hsame⟩ := hreplaced.exists_config hs' h.registered
    obtain ⟨queue', hget⟩ := hmade.exists_http_of_isNew new hq hhttp
    exact ⟨q, queue', h.exists_of_same (htype ▸ hget) hsame⟩
  · rintro ⟨q, queue, call, h⟩
    obtain ⟨q', hq', htype, hhttp, -⟩ := hmade.exists_config hfresh h.registered
    obtain ⟨queue', hown⟩ := hmade.exists_http_of_isNew new hq' hhttp
    cases h.registered.symm.trans (htype ▸ hown)
    obtain ⟨p, queue, hget, hsame⟩ := hreplaced.exists_http hs' hq' hhttp
    exact ⟨p, queue, h.exists_of_same (htype ▸ hget) (Provider.same_symm hsame)⟩
  · intro p queue call q queue' call' h h'
    obtain ⟨q', hq', htype, hhttp, hsame⟩ := hreplaced.exists_config hs' h.registered
    obtain ⟨queue', hown⟩ := hmade.exists_http_of_isNew new hq' hhttp
    cases h'.registered.symm.trans (htype ▸ hown)
    refine ⟨handsOver_of_calls hs' .queues h, handsOver_of_calls hfresh .queues h', hq',
      h.eq_of_same h' hsame, ?_⟩
    rw [h.eq_iff_of_same h' hsame, hreplaced.keys_eq_iff hq' (htype ▸ h.registered), htype]

namespace Example

/-- A studio's login service with its dashboard parameters in an order. -/
def listing (parameters : List (String × String)) : Provider :=
  { authType := .custom, baseUri := "https://id.example/login"
    dashboard := QueryParams.ofPairs parameters }

/-- The service is registered once, and then with its parameters in another order. -/
def listed : List Event := [.rebuild [listing [("a", "1"), ("b", "2")]]]

/-- The newest configuration. -/
def relisting : List Provider := [listing [("b", "2"), ("a", "1")]]

/-- A client of the service. -/
def client : Request := { userId := "ada", authType := .custom, params := some "t=1" }

/-- A call of the service with a query. -/
def login (query : String) : Call :=
  { method := .get, url := "https://id.example/login?" ++ query }

end Example

/-- The newest configuration has `b` first; the kept provider sends `a` first. -/
theorem calls_as_fresh_iff_relisted :
    let s := Example.fresh.replay Example.listed
    let settings : AuthSettings := { applicationId := "app" }
    Example.fresh.IsNew ∧ (s.rebuild Example.relisting).2.1 = none ∧
      (∃ p, Example.client.Calls (s.rebuild Example.relisting).1.registry settings p 0
        (Example.login "a=1&b=2&t=1")) ∧
      (∃ q, Example.client.Calls (Example.fresh.rebuild Example.relisting).1.registry settings q 0
        (Example.login "b=2&a=1&t=1")) ∧
      ∀ p queue call q queue' call',
        Example.client.Calls (s.rebuild Example.relisting).1.registry settings p queue call →
        Example.client.Calls (Example.fresh.rebuild Example.relisting).1.registry settings
          q queue' call' → call ≠ call' := by
  intro s settings
  have new : Example.fresh.IsNew := ⟨rfl, rfl, rfl, rfl⟩
  have ok : (s.rebuild Example.relisting).2.1 = none := rfl
  obtain ⟨-, -, hcalls⟩ := calls_as_fresh_iff new Example.listed Example.relisting ok
  have hclient : ∀ parameters registry call,
      registry.get? .custom = some ⟨Example.listing parameters, .http 0⟩ →
      (∃ m, MergedRequest.ofParts (Example.listing parameters) (some "t=1") none = .ok m ∧
        m.toCall "https://id.example/login" = call) →
      Example.client.Calls registry settings (Example.listing parameters) 0 call :=
    fun parameters registry call hget hmerged =>
      { registered := hget
        checked := fun h => absurd (h.1 _ rfl) (by decide)
        client := fun rule h => by cases h
        dashboard := fun rule h => by cases h
        forwards := trivial
        merged := hmerged }
  refine ⟨new, ok, ⟨_, hclient _ _ _ rfl ⟨_, rfl, by cbv⟩⟩, ⟨_, hclient _ _ _ rfl ⟨_, rfl, by cbv⟩⟩,
    fun p queue call q queue' call' h h' heq => ?_⟩
  obtain ⟨-, -, -, -, hiff⟩ :=
    (hcalls settings 0 Example.client).2 p queue call q queue' call' h h'
  have hkeys := hiff.mp heq ⟨Example.listing [("a", "1"), ("b", "2")], .http 0⟩ rfl
  cases h'.registered
  exact absurd (hkeys (by decide)) (by decide)

end Session

end LoginGate
