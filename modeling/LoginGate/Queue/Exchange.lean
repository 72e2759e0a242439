/-
# Exchanges with a provider

One job may take several attempts: an attempt that could not be connected is repeated while retries
are left, and the last attempt alone decides the answer (`Reply.answer`, `exchange`).
-/
import LoginGate.Call

namespace LoginGate

/-- Why an attempt failed. -/
inductive TransportError where
  | timeout
  /-- The provider was never reached. -/
  | connect (text : String)
  | status (code : Nat) (body : String)
  | request (text : String)
  deriving DecidableEq, Repr

/-- The wording of the error. -/
def TransportError.message : TransportError → String
  | timeout => "Request timed out"
  | connect text => "Connection failed: " ++ text
  | status code _ => s!"Provider returned HTTP {code}"
  | request text => "Request failed: " ++ text

/-- How an attempt ends: with a status and a body, or with an error. -/
inductive Reply where
  | success (status : Nat) (body : List UInt8)
  | failure (error : TransportError)
  deriving DecidableEq, Repr

namespace Reply

/-- The answer that a reply makes. -/
def answer : Reply → Answer
  | success status body => Answer.success status body
  | failure .timeout => Answer.failure .requestTimeout TransportError.timeout.message
  | failure (.status code body) =>
    { Answer.failure .error (TransportError.status code body).message with
      status := some code, body := Text.Utf8.bytes body }
  | failure e => Answer.failure .error e.message

/-- Whether another attempt is worth while: the provider was never reached. -/
def isRetryable : Reply → Bool
  | failure (.connect _) => true
  | _ => false

end Reply

/-- Attempts from a number on, with retries left.  Yields the answer and how many attempts there
were in all. -/
def exchange (replies : Nat → Reply) : Nat → Nat → Answer × Nat
  | 0, attempt => ((replies attempt).answer, attempt + 1)
  | retries + 1, attempt =>
    if (replies attempt).isRetryable then exchange replies retries (attempt + 1)
    else ((replies attempt).answer, attempt + 1)

end LoginGate
