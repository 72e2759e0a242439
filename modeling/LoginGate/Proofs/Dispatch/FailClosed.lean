/-
# Nobody is let in without grounds

Where anonymous clients are not let through, a client is accepted for one of four reasons
(`Grounds`): its sealed token is valid under the keys of the registered ring, its Nintendo token is,
the registered HTTP provider answered with a body that accepts it, or that provider could not be
asked and is configured to let clients in then.  There is no fifth one, whatever was registered,
whatever the client sends and however calls end (`fails_closed`).  And whether anonymous clients are
let through changes nothing at all for clients of a registered type that bring something.

What a provider has answered counts for the client whose call it was, and for no other one: the
call went to the queue of the client's type, and the answer is to that call (`Backend.Answers`).
-/
import LoginGate.Proofs.Dispatch.Answers
import LoginGate.Proofs.Dispatch.Kinds

namespace LoginGate

/-! ## 1. Answers to calls -/

/-- **The answer to the call of a request** that was begun in one session, when calls have the
answers that are on record in a timeline.  Sessions are sound in every history
(`Session.sound_replay`), and there is an account of the replies that were made
(`Session.traced_replay`). -/
structure Backend.Answers (backend : Backend) (settings : AuthSettings) (unix : Int)
    (before : Session) (after : Timeline) (r : Request) (queue : Nat) (call : Call) (a : Answer) :
    Prop where
  found : backend.answer? before after r.authType queue call = some a
  /-- The call went to the queue that was made for the request's type, under the ticket whose answer
  this is, or to whoever answers at once. -/
  handed : before.Sound →
    Session.HandsOver backend before r queue call (before.begun backend settings unix [r])
  /-- A running queue answers with a reply that was made to this very call, or without any. -/
  origin : backend = .queues → ∀ given Made, before.timeline.Traced given Made →
    a.Origin (Made call)

/-- Requests that come together have the answers to their own calls. -/
theorem Session.answers_authenticate {s : Session} {backend : Backend} {settings : AuthSettings}
    {unix : Int} {front back : List Request} {r : Request} {queue : Nat} {call : Call} {a : Answer}
    (hplan : (Plan.ofRequest (s.begun backend settings unix front).session.registry settings unix
      r).handover? = some (queue, call))
    (h : backend.answer? (s.begun backend settings unix front).session
      (s.authenticate backend settings unix (front ++ r :: back)).1.timeline r.authType queue call =
        some a) :
    backend.Answers settings unix (s.begun backend settings unix front).session
      (s.authenticate backend settings unix (front ++ r :: back)).1.timeline r queue call a where
  found := h
  handed := by
    intro hsound
    obtain ⟨_, hcalls⟩ := Plan.handover?_eq_some_iff.mp hplan
    exact handsOver_of_calls hsound backend hcalls
  origin := by
    rintro rfl given Made htraced
    exact origin_authenticate htraced hplan h

/-! ## 2. Grounds -/

/-- Why a player is accepted for a request that was begun in one session, when calls have the
answers that are on record in a timeline. -/
inductive Grounds (backend : Backend) (settings : AuthSettings) (unix : Int) (before : Session)
    (after : Timeline) (r : Request) : Player → Prop
  /-- The text payload is a valid token, and of the application if the type is PlayerIO. -/
  | sealedToken {provider : Provider} {ring : KeyRing} {token : String} {claims : TokenClaims}
      (registered : before.registry.get? r.authType = some ⟨provider, .symmetricToken ring⟩)
      (type : r.authType = .jwt ∨ r.authType = .playerIo)
      (text : r.data = some (.text token))
      (valid : ring.verify token
        (if r.authType = .playerIo then some settings.applicationId else none) unix = .ok claims) :
      Grounds backend settings unix before after r
        { userId := claims.userId, nickname := claims.nickname
          authCookie := claims.cookieValue, expireAt := some claims.expires }
  | console {provider : Provider} {appId token : String} {identity : Nintendo.Identity}
      (registered : before.registry.get? r.authType = some ⟨provider, .console appId⟩)
      (type : r.authType = .nintendo)
      (brought : r.BringsToken token)
      (valid : (Nintendo.verify before.nintendo appId before.cache before.now token unix).2.2 =
        .ok identity) :
      Grounds backend settings unix before after r { userId := identity.userId }
  | provider {provider : Provider} {queue : Nat} {merged : MergedRequest} {answer : Answer}
      {player : Player}
      (registered : before.registry.get? r.authType = some ⟨provider, .http queue⟩)
      (called : MergedRequest.ofParts provider r.params r.data = .ok merged)
      (answered : backend.Answers settings unix before after r queue
        (merged.toCall provider.baseUri) answer)
      (success : answer.result = .success)
      (accepts : Outcome.ofBody answer.body provider.forwardAsJson r.userId = .accepted player) :
      Grounds backend settings unix before after r player
  /-- The provider was called without success and lets clients in then, each as who it says it is. -/
  | unavailable {provider : Provider} {queue : Nat} {merged : MergedRequest} {answer : Answer}
      (registered : before.registry.get? r.authType = some ⟨provider, .http queue⟩)
      (called : MergedRequest.ofParts provider r.params r.data = .ok merged)
      (answered : backend.Answers settings unix before after r queue
        (merged.toCall provider.baseUri) answer)
      (failure : answer.result ≠ .success)
      (lenient : provider.rejectIfUnavailable = false) :
      Grounds backend settings unix before after r { userId := r.userId }

section Verdict

variable {backend : Backend} {settings : AuthSettings} {unix : Int} {before : Session}
  {after : Timeline} {r : Request} {player : Player}

theorem Grounds.of_sealedToken {provider : Provider} {ring : KeyRing}
    (registered : before.registry.get? r.authType = some ⟨provider, .symmetricToken ring⟩)
    (type : r.authType = .jwt ∨ r.authType = .playerIo)
    (h : ((Plan.sealedToken ring settings unix r).verdict backend unix before after r).outcome =
      .accepted player) :
    Grounds backend settings unix before after r player := by
  obtain ⟨token, text, hplan⟩ | ⟨verdict, hdenied, hplan⟩ :=
    Plan.sealedToken_cases ring settings unix r
  · rw [hplan] at h
    obtain ⟨claims, valid, rfl⟩ := Verdict.of_sealedToken_accepted h
    exact .sealedToken registered type text valid
  · rw [hplan] at h
    rw [show verdict.outcome = .accepted player from h] at hdenied
    cases hdenied

theorem Grounds.of_console {provider : Provider} {appId : String}
    (registered : before.registry.get? r.authType = some ⟨provider, .console appId⟩)
    (type : r.authType = .nintendo)
    (h : ((Plan.console appId r).verdict backend unix before after r).outcome =
      .accepted player) :
    Grounds backend settings unix before after r player := by
  obtain ⟨token, brought, hplan⟩ | ⟨kind, message, hplan⟩ := Plan.console_cases appId r
  · rw [hplan] at h
    obtain ⟨identity, valid, rfl⟩ := Verdict.of_identity_accepted h
    exact .console registered type brought valid
  · rw [hplan] at h
    cases h

theorem Grounds.of_http {provider : Provider} {queue : Nat}
    (registered : before.registry.get? r.authType = some ⟨provider, .http queue⟩)
    (answers : ∀ {i call a}, (Plan.http provider queue r).handover? = some (i, call) →
      backend.answer? before after r.authType i call = some a →
        backend.Answers settings unix before after r i call a)
    (h : ((Plan.http provider queue r).verdict backend unix before after r).outcome =
      .accepted player) :
    Grounds backend settings unix before after r player := by
  obtain ⟨merged, query, called, hplan⟩ | ⟨kind, message, hplan⟩ := Plan.http_cases provider queue r
  · rw [hplan, Plan.verdict] at h
    cases found : backend.answer? before after r.authType queue
        (merged.toCall provider.baseUri) with
    | none =>
      -- The handling broke down, and that denies.
      rw [found] at h
      cases h
    | some answer =>
      rw [found] at h
      have answered := answers (by rw [hplan]; rfl) found
      obtain ⟨success, accepts⟩ | ⟨failure, lenient, rfl⟩ := Verdict.of_answer_accepted h
      · exact .provider registered called answered success accepts
      · exact .unavailable registered called answered failure lenient
  · rw [hplan] at h
    cases h

/-- **No plan accepts without grounds** where anonymous clients are not let through. -/
theorem Grounds.of_plan (hregistry : before.registry.Fitting)
    (hclosed : settings.allowAnonymous = false)
    (answers : ∀ {i call a},
      (Plan.ofRequest before.registry settings unix r).handover? = some (i, call) →
        backend.answer? before after r.authType i call = some a →
          backend.Answers settings unix before after r i call a)
    (h : ((Plan.ofRequest before.registry settings unix r).verdict backend unix before after
      r).outcome = .accepted player) :
    Grounds backend settings unix before after r player := by
  cases hget : before.registry.get? r.authType with
  | none =>
    rw [Plan.ofRequest_unregistered hget hclosed] at h
    cases h
  | some p =>
    have hfits := (hregistry.get? hget).2
    rw [Plan.ofRequest_registered hget (.inr (.inr hclosed))] at h answers
    obtain ⟨provider, kind⟩ := p
    cases kind with
    | symmetricToken ring => exact .of_sealedToken hget hfits h
    | console appId => exact .of_console hget hfits h
    | http queue => exact .of_http hget answers h

end Verdict

/-! ## 3. Whole batches -/

/-- Anonymous access changes no plan for a registered type where there is something to check. -/
theorem Plan.ofRequest_anonymous {registry : Registry} {settings : AuthSettings} {unix : Int}
    {r : Request} (hregistered : (registry.get? r.authType).isSome)
    (hbrings : r.hasParams = true ∨ r.hasData = true) (a b : Bool) :
    ofRequest registry { settings with allowAnonymous := a } unix r =
      ofRequest registry { settings with allowAnonymous := b } unix r := by
  obtain ⟨p, hget⟩ := Option.isSome_iff_exists.mp hregistered
  rw [ofRequest_registered hget (hbrings.imp_right .inl),
    ofRequest_registered hget (hbrings.imp_right .inl)]
  rfl

namespace Session

/-- **A session fails closed.**  With a registry that was built, and where anonymous clients are not
let through, each client that is accepted among others is accepted on grounds.  And if all types are
registered and all clients bring a query string or post data, the session and the report are the
same with anonymous clients let through as without. -/
theorem fails_closed {s : Session} (built : s.registry.Built) (backend : Backend)
    (settings : AuthSettings) (unix : Int) :
    (settings.allowAnonymous = false →
      ∀ (front back : List Request) (r : Request) (player : Player),
        (s.authenticate backend settings unix (front ++ r :: back)).2.outcomes[front.length]? =
            some (.accepted player) →
          Grounds backend settings unix (s.begun backend settings unix front).session
            (s.authenticate backend settings unix (front ++ r :: back)).1.timeline r player) ∧
      ∀ requests : List Request,
        (∀ r ∈ requests, (s.registry.get? r.authType).isSome ∧
            (r.hasParams = true ∨ r.hasData = true)) →
          s.authenticate backend { settings with allowAnonymous := true } unix requests =
            s.authenticate backend { settings with allowAnonymous := false } unix requests := by
  refine ⟨fun hclosed front back r player h => ?_, fun requests hrequests => ?_⟩
  · obtain ⟨_, _, hsession⟩ := s.begun_session backend settings unix front
    have hregistry : (s.begun backend settings unix front).session.registry = s.registry := by
      rw [hsession]
    rw [outcomes_authenticate, ← hregistry] at h
    exact .of_plan (hregistry ▸ built.fitting) hclosed answers_authenticate (Option.some.inj h)
  · refine authenticate_congr fun r hr => ?_
    obtain ⟨hregistered, hbrings⟩ := hrequests r hr
    exact Plan.ofRequest_anonymous hregistered hbrings true false

namespace Example

/-- A login service that lets clients in when it cannot be asked. -/
def lenient : Provider :=
  { authType := .custom, baseUri := "https://id.example/login", rejectIfUnavailable := false }

/-- A session with this service only. -/
def session : Session :=
  (rebuild { cache := { interval := ⟨60000, by decide⟩ } } [lenient]).1

/-- The service answers to nothing but posts. -/
def backend : Backend :=
  .immediate fun _ call => .answered
    (if call.body.isSome then .success 200 [] else .failure .offline "Provider offline")

/-- An application that lets no anonymous clients in. -/
def settings : AuthSettings := { applicationId := "app" }

/-- A client with a body for the service. -/
def ada : Request := { userId := "ada", authType := .custom, data := some (.text "ticket") }

/-- A client with parameters for the service. -/
def eve : Request := { userId := "eve", authType := .custom, params := some "ticket" }

/-- The service is registered, and replies to the first call with success and to the second one with
an error. -/
def oneReply : List Event :=
  [.rebuild [lenient],
    .outside { common := [{ reply := .success 200 [] }, { reply := .failure (.status 500 "no") }] }
      fresh.cache]

/-- Both clients are accepted when they come together, each on grounds, and they are just as well if
anonymous clients are let through. -/
def LetsBothIn (backend : Backend) (s : Session) : Prop :=
  let batch := s.authenticate backend settings 0 [ada, eve]
  batch.2.outcomes = [.accepted { userId := "ada" }, .accepted { userId := "eve" }] ∧
    Grounds backend settings 0 (s.begun backend settings 0 []).session batch.1.timeline
      ada { userId := "ada" } ∧
    Grounds backend settings 0 (s.begun backend settings 0 [ada]).session batch.1.timeline
      eve { userId := "eve" } ∧
    s.authenticate backend { settings with allowAnonymous := true } 0 [ada, eve] =
      s.authenticate backend { settings with allowAnonymous := false } 0 [ada, eve]

end Example

open Example in
/-- One client is accepted by the answer to its call, and one because its call had no success: where
calls are answered at once, and where a queue has them in a sound session with an account of all
replies. -/
theorem fails_closed_lenient :
    session.registry.Built ∧ LetsBothIn backend session ∧
      let s := fresh.replay oneReply
      s.registry.Built ∧ LetsBothIn .queues s ∧
        ∀ requests, let before := (s.begun .queues settings 0 requests).session
          before.Sound ∧ ∃ given, before.timeline.Traced given (fresh.MayReply oneReply) := by
  have brings : ∀ r ∈ [ada, eve],
      r.authType = .custom ∧ (r.hasParams = true ∨ r.hasData = true) := by
    intro r hr
    rcases List.mem_cons.mp hr with rfl | hr
    · exact ⟨rfl, .inr rfl⟩
    · rw [List.mem_singleton.mp hr]
      exact ⟨rfl, .inl rfl⟩
  have built : session.registry.Built := built_rebuild .empty _
  obtain ⟨hgrounds, hsame⟩ := fails_closed built backend settings 0
  have atOnce : LetsBothIn backend session := by
    refine ⟨rfl, hgrounds rfl [] [eve] ada _ rfl, hgrounds rfl [ada] [] eve _ rfl,
      hsame _ fun r hr => ⟨?_, (brings r hr).2⟩⟩
    rw [(brings r hr).1]
    rfl
  have new : fresh.IsNew := ⟨rfl, rfl, rfl, rfl⟩
  have sound : (fresh.replay oneReply).Sound := sound_replay new oneReply
  obtain ⟨hgrounds, hsame⟩ := fails_closed sound.built .queues settings 0
  have queued : LetsBothIn .queues (fresh.replay oneReply) := by
    refine ⟨rfl, hgrounds rfl [] [eve] ada _ rfl, hgrounds rfl [ada] [] eve _ rfl,
      hsame _ fun r hr => ⟨?_, (brings r hr).2⟩⟩
    rw [(brings r hr).1]
    rfl
  obtain ⟨given, traced⟩ := traced_replay new rfl oneReply
  refine ⟨built, atOnce, sound.built, queued, fun requests => ?_⟩
  exact ⟨sound.begun .queues settings 0 requests,
    kept_begun (Timeline.keeps_traced [] (fresh.MayReply oneReply)) ⟨given, traced⟩ .queues settings
      0 requests⟩

end Session

end LoginGate
