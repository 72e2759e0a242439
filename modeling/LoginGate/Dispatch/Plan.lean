/-
# What a request needs

A request is settled at once, or it needs the keys of a Nintendo token, or it needs one call to a
provider.  `Plan.ofRequest` decides which from the registry alone, and a `Verdict` says how the
request ended and what is counted for it.
-/
import LoginGate.Merge
import LoginGate.Metrics
import LoginGate.Nintendo.Identity
import LoginGate.Registry
import LoginGate.Rules
import LoginGate.Token.Seal
import LoginGate.ProviderResult

namespace LoginGate

/-! ## 1. Verdicts -/

/-- The settings of an application that hold for every request. -/
structure AuthSettings where
  applicationId : String
  /-- Clients without credentials are let through on their own user id. -/
  allowAnonymous : Bool := false
  deriving DecidableEq, Repr

/-- How a request ended. -/
structure Verdict where
  outcome : Outcome
  /-- What is counted for it; an anonymous acceptance is not counted. -/
  counter : Option Counter := none
  /-- How long its provider call took, in milliseconds. -/
  latency : Option Nat := none
  deriving Repr, BEq

namespace Verdict

/-- Lets a client through without credentials. -/
def anonymous (userId : String) : Verdict := { outcome := .accept userId }

/-- A failure that never reached a provider. -/
def localFailure (kind : FailureKind) (message : String) : Verdict :=
  { outcome := .failed kind message, counter := some .errors }

/-- A denial. -/
def denial (kind : FailureKind) (message : String) : Verdict :=
  { outcome := .failed kind message, counter := some .resultsDenied }

/-- The verdict on a sealed token. -/
def ofSealedToken : Except TokenRejection TokenClaims → Verdict
  | .ok claims =>
    { outcome := .accepted
        { userId := claims.userId, nickname := claims.nickname
          authCookie := claims.cookieValue, expireAt := some claims.expires }
      counter := some .resultsAccepted }
  | .error .expired => denial .authTokenExpired TokenRejection.expired.message
  | .error e => denial .authTokenInvalid e.message

/-- The verdict on a Nintendo token. -/
def ofIdentity : Except Nintendo.Rejection Nintendo.Identity → Verdict
  | .ok identity => { outcome := .accept identity.userId, counter := some .resultsAccepted }
  | .error .retrievalTimeout =>
    localFailure .certificateTimeout Nintendo.Rejection.retrievalTimeout.message
  | .error e => denial .authTokenInvalid e.message

/-- What is counted for an answer that is no success. -/
def transportCounter : QueueResult → Counter
  | .queueFull => .queueFullErrors
  | .queueTimeout => .queueTimeouts
  | .requestTimeout => .httpTimeouts
  | _ => .httpErrors

/-- What is counted for the outcome of a provider's body. -/
def outcomeCounter : Outcome → Counter
  | .accepted _ => .resultsAccepted
  | .incomplete _ => .resultsData
  | .failed .. | .parameterInvalid _ => .resultsDenied

/-- The verdict on what a provider's queue answered. -/
def ofAnswer (provider : Provider) (userId : String) (a : Answer) : Verdict :=
  if a.isSuccess then
    let outcome := Outcome.ofBody a.body provider.forwardAsJson userId
    { outcome, counter := some (outcomeCounter outcome), latency := some a.elapsed }
  else
    { outcome :=
        if provider.rejectIfUnavailable then .failed (.transport a.result) a.reason
        else .accept userId
      counter := some (transportCounter a.result)
      latency := some a.elapsed }

/-- The verdict when the handling of a request broke down. -/
def breakdown : Verdict := localFailure .internalServerError "Internal server error"

/-- Counts a verdict for a type. -/
def record (t : AuthType) (m : Metrics) (v : Verdict) : Metrics :=
  let m := match v.latency with
    | some elapsed => m.recordLatency t (1000000 * elapsed)
    | none => m
  match v.counter with
  | some c => m.increment t c
  | none => m

end Verdict

/-! ## 2. Plans -/

/-- What a request needs. -/
inductive Plan where
  | settled (verdict : Verdict)
  /-- A Nintendo token is to be checked for an application. -/
  | checkToken (appId token : String)
  /-- A call is to be handed to a queue. -/
  | call (provider : Provider) (queue : Nat) (call : Call) (query : String)

namespace Plan

/-- The parameter that holds a Nintendo token. -/
def tokenParam : String := "token"

/-- The token of a request: its parameter, or else its text payload. -/
def consoleToken? (r : Request) : Option String :=
  let fromParams := (r.params.bind fun q => (QueryParams.parse q).get? tokenParam).filter
    (!Text.allBlank ·)
  fromParams.or ((r.data.bind Payload.asText).filter (!Text.allBlank ·))

/-- The plan for a Nintendo token. -/
def console (appId : String) (r : Request) : Plan :=
  match consoleToken? r with
  | some token => checkToken appId token
  | none => settled (.localFailure .missingParameter (MissingParameter.message ⟨tokenParam⟩))

/-- The plan for a sealed token at a Unix time: it is checked on the spot. -/
def sealedToken (ring : KeyRing) (settings : AuthSettings) (now : Int) (r : Request) : Plan :=
  match r.data.bind Payload.asText with
  | none =>
    settled
      { outcome := .parameterInvalid "Token must be sent as text", counter := some .errors }
  | some token =>
    let expected := if r.authType = .playerIo then some settings.applicationId else none
    settled (.ofSealedToken (ring.verify token expected now))

/-- The first required parameter that a request lacks. -/
def missingParameter? (provider : Provider) (r : Request) : Option MissingParameter :=
  (ProviderRule.of? r.authType).bind fun rule =>
    rule.missing? provider ((r.params.map QueryParams.parse).getD QueryParams.empty)
      (r.data.bind Payload.asMap)

/-- A query string for logs, with the values of dashboard parameters hidden. -/
def redact (dashboard : QueryParams) (query : String) : String :=
  Text.joinStrings "&" ((QueryParams.parse query).entries.map fun (k, v) =>
    if dashboard.contains k then s!"{k}=***" else s!"{k}={v}")

/-- The plan for an HTTP provider. -/
def http (provider : Provider) (queue : Nat) (r : Request) : Plan :=
  match missingParameter? provider r with
  | some m => settled (.localFailure .missingParameter m.message)
  | none =>
    match MergedRequest.ofParts provider r.params r.data with
    | .error e => settled (.localFailure .unsupportedPostData e.message)
    | .ok merged =>
      call provider queue (merged.toCall provider.baseUri)
        (redact provider.dashboard merged.queryString)

/-- What a request needs under the settings of its application at a Unix time. -/
def ofRequest (registry : Registry) (settings : AuthSettings) (now : Int) (r : Request) : Plan :=
  match registry.get? r.authType with
  | none =>
    if r.authType = .custom && settings.allowAnonymous then settled (.anonymous r.userId)
    else settled (.localFailure .notSupported "Authentication type not supported")
  | some { provider, kind } =>
    if !r.hasParams && !r.hasData && settings.allowAnonymous then settled (.anonymous r.userId)
    else
      match kind with
      | .console appId => console appId r
      | .symmetricToken ring => sealedToken ring settings now r
      | .http queue => http provider queue r

end Plan

end LoginGate
