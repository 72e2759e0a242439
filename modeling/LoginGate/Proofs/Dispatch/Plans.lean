/-
# Plans and verdicts, case by case

What the plan for a request can be, and which verdicts accept a client.  A plan depends on whether
anonymous clients are let through only where there is nobody or nothing to check
(`ofRequest_registered`); otherwise the registered provider decides (`Plan.checked`), and its plan is
to check the token or the payload that the request brings, to make the merged call, or to give up.
-/
import LoginGate.Dispatch.Plan

namespace LoginGate

/-! ## 1. Verdicts that accept -/

namespace Verdict

variable {player : Player}

theorem of_sealedToken_accepted {result : Except TokenRejection TokenClaims}
    (h : (ofSealedToken result).outcome = .accepted player) :
    ∃ claims, result = .ok claims ∧
      player = { userId := claims.userId, nickname := claims.nickname
                 authCookie := claims.cookieValue, expireAt := some claims.expires } := by
  cases result with
  | ok claims =>
    cases h
    exact ⟨claims, rfl, rfl⟩
  | error e => cases e <;> cases h

theorem of_identity_accepted {result : Except Nintendo.Rejection Nintendo.Identity}
    (h : (ofIdentity result).outcome = .accepted player) :
    ∃ identity, result = .ok identity ∧ player = { userId := identity.userId } := by
  cases result with
  | ok identity =>
    cases h
    exact ⟨identity, rfl, rfl⟩
  | error e => cases e <;> cases h

/-- An answer accepts a client by its body, or by not coming from the provider at all. -/
theorem of_answer_accepted {provider : Provider} {userId : String} {a : Answer}
    (h : (ofAnswer provider userId a).outcome = .accepted player) :
    (a.result = .success ∧
        Outcome.ofBody a.body provider.forwardAsJson userId = .accepted player) ∨
      (a.result ≠ .success ∧ provider.rejectIfUnavailable = false ∧ player = { userId }) := by
  rw [ofAnswer] at h
  split at h
  · rename_i hs
    exact Or.inl ⟨by simpa [Answer.isSuccess] using hs, h⟩
  · rename_i hs
    refine Or.inr ⟨by simpa [Answer.isSuccess] using hs, ?_⟩
    dsimp only at h
    split at h
    · cases h
    · rename_i hlenient
      cases h
      exact ⟨by simpa using hlenient, rfl⟩

end Verdict

/-! ## 2. Tokens -/

theorem Payload.of_asText {data : Option Payload} {s : String}
    (h : data.bind Payload.asText = some s) : data = some (.text s) := by
  obtain ⟨payload, rfl, hs⟩ := Option.bind_eq_some_iff.mp h
  cases payload <;> cases hs
  rfl

/-- The token that a request brings for a console: that of its parameter, or else its text payload,
and no blank one. -/
def Request.BringsToken (r : Request) (token : String) : Prop :=
  Text.allBlank token = false ∧
    ((∃ query, r.params = some query ∧ (QueryParams.parse query).get? "token" = some token) ∨
      ((∀ query t, r.params = some query → (QueryParams.parse query).get? "token" = some t →
          Text.allBlank t = true) ∧
        r.data = some (.text token)))

theorem Request.bringsToken_of_consoleToken {r : Request} {token : String}
    (h : Plan.consoleToken? r = some token) : r.BringsToken token := by
  rw [Plan.consoleToken?] at h
  rcases Option.or_eq_some_iff.mp h with h | ⟨hparams, h⟩
  · obtain ⟨hget, hblank⟩ := Option.filter_eq_some_iff.mp h
    obtain ⟨query, hquery, hget⟩ := Option.bind_eq_some_iff.mp hget
    exact ⟨by simpa using hblank, Or.inl ⟨query, hquery, hget⟩⟩
  · obtain ⟨hdata, hblank⟩ := Option.filter_eq_some_iff.mp h
    refine ⟨by simpa using hblank, Or.inr ⟨fun query t hquery hget => ?_, Payload.of_asText hdata⟩⟩
    have hnone := Option.filter_eq_none_iff.mp hparams t
      (Option.bind_eq_some_iff.mpr ⟨query, hquery, hget⟩)
    simpa using hnone

/-! ## 3. Plans -/

namespace Plan

/-- The plan of a provider that checks a request. -/
def checked (settings : AuthSettings) (now : Int) (r : Request) (p : RegisteredProvider) : Plan :=
  match p.kind with
  | .console appId => console appId r
  | .symmetricToken ring => sealedToken ring settings now r
  | .http queue => http p.provider queue r

section OfRequest

variable {registry : Registry} {settings : AuthSettings} {now : Int} {r : Request}

/-- A registered provider checks every request that brings something to check, and every request at
all when anonymous clients are not let through. -/
theorem ofRequest_registered {p : RegisteredProvider} (hget : registry.get? r.authType = some p)
    (h : r.hasParams = true ∨ r.hasData = true ∨ settings.allowAnonymous = false) :
    ofRequest registry settings now r = checked settings now r p := by
  have hbypass : (!r.hasParams && !r.hasData && settings.allowAnonymous) = false := by
    rcases h with h | h | h <;> simp [h]
  obtain ⟨provider, kind⟩ := p
  rw [ofRequest, hget]
  dsimp only
  rw [hbypass]
  cases kind <;> rfl

theorem ofRequest_unregistered (hget : registry.get? r.authType = none)
    (h : settings.allowAnonymous = false) :
    ofRequest registry settings now r =
      settled (.localFailure .notSupported "Authentication type not supported") := by
  rw [ofRequest, hget]
  simp [h]

end OfRequest

/-- For a console there is a token to check or nothing. -/
theorem console_cases (appId : String) (r : Request) :
    (∃ token, r.BringsToken token ∧ console appId r = checkToken appId token) ∨
      ∃ kind message, console appId r = settled (.localFailure kind message) := by
  rw [console]
  split
  · rename_i token h
    exact Or.inl ⟨token, Request.bringsToken_of_consoleToken h, rfl⟩
  · exact Or.inr ⟨_, _, rfl⟩

/-- Sealed tokens are text. -/
theorem sealedToken_cases (ring : KeyRing) (settings : AuthSettings) (now : Int) (r : Request) :
    (∃ token, r.data = some (.text token) ∧
        sealedToken ring settings now r = settled (.ofSealedToken
          (ring.verify token
            (if r.authType = .playerIo then some settings.applicationId else none) now))) ∨
      ∃ verdict, verdict.outcome.isAccepted = false ∧
        sealedToken ring settings now r = settled verdict := by
  rw [sealedToken]
  split
  · exact Or.inr ⟨_, rfl, rfl⟩
  · rename_i token h
    exact Or.inl ⟨token, Payload.of_asText h, rfl⟩

/-- An HTTP provider is called with what is merged, or not at all. -/
theorem http_cases (provider : Provider) (queue : Nat) (r : Request) :
    (∃ merged query, MergedRequest.ofParts provider r.params r.data = .ok merged ∧
        http provider queue r = call provider queue (merged.toCall provider.baseUri) query) ∨
      ∃ kind message, http provider queue r = settled (.localFailure kind message) := by
  rw [http]
  split
  · exact Or.inr ⟨_, _, rfl⟩
  · split
    · exact Or.inr ⟨_, _, rfl⟩
    · rename_i merged h
      exact Or.inl ⟨merged, _, h, rfl⟩

end Plan

end LoginGate
