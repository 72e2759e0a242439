/-
# Outcomes

How an authentication attempt ends: with an accepted player, with data that goes back to the client,
with a failure of a kind, or with a complaint about the parameters.
-/
import LoginGate.Json.Value

namespace LoginGate

/-- How a provider's request queue answered. -/
inductive QueueResult where
  | success
  | error
  | requestTimeout
  | queueFull
  | queueTimeout
  | offline
  deriving DecidableEq, Repr, Inhabited

namespace QueueResult

/-- All results. -/
def all : List QueueResult := [success, error, requestTimeout, queueFull, queueTimeout, offline]

/-- The name of a result. -/
def name : QueueResult → String
  | success => "Success"
  | error => "Error"
  | requestTimeout => "RequestTimeout"
  | queueFull => "QueueFull"
  | queueTimeout => "QueueTimeout"
  | offline => "Offline"

/-- The result of a name. -/
def ofName? (name : String) : Option QueueResult := all.find? (·.name = name)

theorem ofName?_name (r : QueueResult) : ofName? r.name = some r := by cases r <;> decide

end QueueResult

/-- Why an attempt was denied. -/
inductive FailureKind where
  /-- The provider answered and rejected the credentials. -/
  | customAuthenticationFailed
  /-- No provider is registered for the type. -/
  | notSupported
  | unsupportedPostData
  | missingParameter
  /-- The provider could not be reached. -/
  | transport (result : QueueResult)
  | authTokenInvalid
  | authTokenExpired
  | certificateTimeout
  | internalServerError
  deriving DecidableEq, Repr, Inhabited

/-- An identity that a provider accepted. -/
structure Player where
  userId : String
  nickname : Option String := none
  /-- What the provider wants carried in the session token. -/
  authCookie : Option Json.Value := none
  /-- Unix seconds. -/
  expireAt : Option Int := none
  deriving Repr, BEq

/-- How an attempt ends. -/
inductive Outcome where
  | accepted (player : Player)
  /-- Authentication is not complete; the data goes back to the client. -/
  | incomplete (data : Json.Value)
  | failed (kind : FailureKind) (message : String)
  | parameterInvalid (message : String)
  deriving Repr, BEq

namespace Outcome

/-- Accepts a user id with nothing else known. -/
def accept (userId : String) : Outcome := accepted { userId }

/-- Whether the client was accepted. -/
def isAccepted : Outcome → Bool
  | accepted _ => true
  | _ => false

/-- Whether the client was denied. -/
def isFailure : Outcome → Bool
  | failed .. | parameterInvalid _ => true
  | _ => false

/-- Why the client was denied, when there is a kind. -/
def failureKind : Outcome → Option FailureKind
  | failed kind _ => some kind
  | _ => none

/-- The accepted player. -/
def player : Outcome → Option Player
  | accepted p => some p
  | _ => none

end Outcome

end LoginGate
