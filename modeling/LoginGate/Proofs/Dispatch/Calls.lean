/-
# When a provider is called

A request leads to a call under conditions that can be told apart (`Request.Calls`): an HTTP provider
is registered for its type, there is something to check, no parameter of the type's rule is missing,
and the post data can be forwarded.  The plan for the request is a call then and only then, with the
merged call for that provider's queue (`Plan.ofRequest_eq_call_iff`).
-/
import LoginGate.Proofs.Dispatch.Plans
import LoginGate.Proofs.RequiredParameters

namespace LoginGate

/-! ## 1. Post data -/

/-- The provider is sent the post data: a map, or text and bytes where no structured results are
expected. -/
def Provider.Forwards (p : Provider) : Option Payload → Prop
  | none => True
  | some (.map _) => True
  | some (.text _) => p.forwardAsJson = false
  | some (.bytes _) => p.forwardAsJson = false
  | some (.other _) => False

/-- **Merging succeeds** exactly for post data that is forwarded. -/
theorem MergedRequest.exists_ofParts_iff {p : Provider} {client : Option String}
    {data : Option Payload} : (∃ m, ofParts p client data = .ok m) ↔ p.Forwards data := by
  have hbody : (∃ m, ofParts p client data = .ok m) ↔ ∃ parts, bodyOf p data = .ok parts := by
    rw [ofParts]
    cases bodyOf p data with
    | error e => exact iff_of_false (by rintro ⟨_, ⟨⟩⟩) (by rintro ⟨_, ⟨⟩⟩)
    | ok parts => exact iff_of_true ⟨_, rfl⟩ ⟨_, rfl⟩
  rw [hbody]
  cases data with
  | none => exact iff_of_true ⟨_, rfl⟩ trivial
  | some payload =>
    cases payload with
    | map members => exact iff_of_true ⟨_, rfl⟩ trivial
    | text s =>
      rw [bodyOf, Provider.Forwards]
      cases p.forwardAsJson <;> simp
    | bytes bs =>
      rw [bodyOf, Provider.Forwards]
      cases p.forwardAsJson <;> simp
    | other v => exact iff_of_false (by rintro ⟨_, ⟨⟩⟩) id

/-! ## 2. Requests that lead to a call -/

/-- The request brings nothing to check, and anonymous clients are let through: it has neither post
data nor anything but blanks in its query string. -/
def Request.IsBypassed (r : Request) (settings : AuthSettings) : Prop :=
  (∀ query, r.params = some query → Text.allBlank query = true) ∧ r.data = none ∧
    settings.allowAnonymous = true

theorem Request.isBypassed_iff {r : Request} {settings : AuthSettings} :
    r.IsBypassed settings ↔
      (!r.hasParams && !r.hasData && settings.allowAnonymous) = true := by
  have hparams : r.hasParams = false ↔
      ∀ query, r.params = some query → Text.allBlank query = true := by
    rw [hasParams]
    cases r.params <;> simp
  have hdata : r.hasData = false ↔ r.data = none := by simp [hasData]
  simp only [Bool.and_eq_true, Bool.not_eq_true', hparams, hdata, and_assoc, IsBypassed]

/-- **When a request leads to a call** of a provider, behind which queue the provider is, and what
the call is. -/
structure Request.Calls (r : Request) (registry : Registry) (settings : AuthSettings)
    (p : Provider) (queue : Nat) (call : Call) : Prop where
  registered : registry.get? r.authType = some ⟨p, .http queue⟩
  checked : ¬ r.IsBypassed settings
  client : ∀ rule, ProviderRule.of? r.authType = some rule →
    ∀ name ∈ rule.client, Request.Sends r.params r.data name
  dashboard : ∀ rule, ProviderRule.of? r.authType = some rule →
    ∀ name ∈ rule.dashboard, p.Sets name
  forwards : p.Forwards r.data
  merged : ∃ m, MergedRequest.ofParts p r.params r.data = .ok m ∧ m.toCall p.baseUri = call

namespace Plan

variable {registry : Registry} {settings : AuthSettings} {unix : Int} {r : Request}
  {p : Provider} {queue : Nat} {call : Call}

/-- Nothing is missing if the type has no rule, or its rule misses nothing. -/
theorem missingParameter?_eq_none_iff : missingParameter? p r = none ↔
    ∀ rule, ProviderRule.of? r.authType = some rule →
      (∀ name ∈ rule.client, Request.Sends r.params r.data name) ∧
        ∀ name ∈ rule.dashboard, p.Sets name := by
  simp only [missingParameter?, Option.bind_eq_none_iff, ProviderRule.missing?_eq_none_iff]

/-- The plan of an HTTP provider is a call if nothing is missing and merging succeeds. -/
theorem http_eq_call_iff : (∃ query, http p queue r = .call p queue call query) ↔
    missingParameter? p r = none ∧
      ∃ m, MergedRequest.ofParts p r.params r.data = .ok m ∧ m.toCall p.baseUri = call := by
  rw [http]
  cases missingParameter? p r with
  | some missing => exact iff_of_false (by rintro ⟨_, ⟨⟩⟩) (by rintro ⟨⟨⟩, _⟩)
  | none =>
    cases MergedRequest.ofParts p r.params r.data with
    | error e => exact iff_of_false (by rintro ⟨_, ⟨⟩⟩) (by rintro ⟨_, _, ⟨⟩, _⟩)
    | ok m =>
      constructor
      · rintro ⟨query, hcall⟩
        injection hcall with _ _ hcall _
        exact ⟨rfl, m, rfl, hcall⟩
      · rintro ⟨-, _, hm, rfl⟩
        cases hm
        exact ⟨_, rfl⟩

/-- A bypassed request of a registered type is accepted as it is. -/
theorem ofRequest_of_bypassed {e : RegisteredProvider} (hget : registry.get? r.authType = some e)
    (h : r.IsBypassed settings) :
    ofRequest registry settings unix r = settled (.anonymous r.userId) := by
  rw [ofRequest, hget]
  exact if_pos (Request.isBypassed_iff.mp h)

/-- Any other request of a registered type is checked. -/
theorem ofRequest_of_not_bypassed {e : RegisteredProvider}
    (hget : registry.get? r.authType = some e) (h : ¬ r.IsBypassed settings) :
    ofRequest registry settings unix r = checked settings unix r e := by
  refine ofRequest_registered hget ?_
  rw [Request.isBypassed_iff] at h
  cases hparams : r.hasParams <;> cases hdata : r.hasData <;>
    cases hanonymous : settings.allowAnonymous <;> simp_all

/-- A plan to check something is one of the provider that is registered for the type: consoles check
tokens, HTTP providers are called, and each of them behind its own queue. -/
theorem ofRequest_cases (registry : Registry) (settings : AuthSettings) (unix : Int) (r : Request) :
    (∃ verdict, ofRequest registry settings unix r = settled verdict) ∨
      ∃ e, registry.get? r.authType = some e ∧ ¬ r.IsBypassed settings ∧
        ((∃ appId token, e.kind = .console appId ∧
            ofRequest registry settings unix r = checkToken appId token) ∨
          ∃ queue call query, e.kind = .http queue ∧
            ofRequest registry settings unix r = .call e.provider queue call query) := by
  cases hget : registry.get? r.authType with
  | none =>
    rw [ofRequest, hget]
    dsimp only
    split
    · exact .inl ⟨_, rfl⟩
    · exact .inl ⟨_, rfl⟩
  | some e =>
    by_cases hbypassed : r.IsBypassed settings
    · exact .inl ⟨_, ofRequest_of_bypassed hget hbypassed⟩
    · rw [ofRequest_of_not_bypassed hget hbypassed]
      obtain ⟨p, kind⟩ := e
      cases kind with
      | console appId =>
        obtain ⟨token, -, hplan⟩ | ⟨kind, message, hplan⟩ := console_cases appId r
        · exact .inr ⟨_, rfl, hbypassed, .inl ⟨appId, token, rfl, hplan⟩⟩
        · exact .inl ⟨_, hplan⟩
      | symmetricToken ring =>
        obtain ⟨token, -, hplan⟩ | ⟨verdict, -, hplan⟩ := sealedToken_cases ring settings unix r
        · exact .inl ⟨_, hplan⟩
        · exact .inl ⟨_, hplan⟩
      | http queue =>
        obtain ⟨m, query, -, hplan⟩ | ⟨kind, message, hplan⟩ := http_cases p queue r
        · exact .inr ⟨_, rfl, hbypassed, .inr ⟨queue, _, query, rfl, hplan⟩⟩
        · exact .inl ⟨_, hplan⟩

/-- **The plan for a request is a call under the conditions of a call**, and then it is that call. -/
theorem ofRequest_eq_call_iff :
    (∃ query, ofRequest registry settings unix r = .call p queue call query) ↔
      r.Calls registry settings p queue call := by
  constructor
  · rintro ⟨query, h⟩
    obtain ⟨_, hsettled⟩ | ⟨⟨provider, kind⟩, hget, hbypassed, ⟨_, _, -, hcheck⟩ |
        ⟨used, _, _, hkind, hcall⟩⟩ := ofRequest_cases registry settings unix r
    · cases hsettled.symm.trans h
    · cases hcheck.symm.trans h
    · cases hcall.symm.trans h
      cases hkind
      have hhttp : http provider queue r = .call provider queue call query :=
        (ofRequest_of_not_bypassed hget hbypassed).symm.trans h
      obtain ⟨hmissing, hmerged⟩ := http_eq_call_iff.mp ⟨query, hhttp⟩
      have hrule := missingParameter?_eq_none_iff.mp hmissing
      exact
        { registered := hget
          checked := hbypassed
          client := fun rule hr => (hrule rule hr).1
          dashboard := fun rule hr => (hrule rule hr).2
          forwards := MergedRequest.exists_ofParts_iff.mp (hmerged.imp fun _ hm => hm.1)
          merged := hmerged }
  · intro h
    rw [ofRequest_of_not_bypassed h.registered h.checked]
    exact http_eq_call_iff.mpr ⟨missingParameter?_eq_none_iff.mpr fun rule hr =>
      ⟨h.client rule hr, h.dashboard rule hr⟩, h.merged⟩

end Plan

end LoginGate
