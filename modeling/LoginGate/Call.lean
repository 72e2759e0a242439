/-
# Calls to providers

A fully merged HTTP call and what a request queue answers to one.
-/
import LoginGate.Outcome
import LoginGate.Text.Split
import LoginGate.Text.Utf8

namespace LoginGate

/-! ## 1. Calls -/

/-- The method of a call. -/
inductive Method where
  | get
  | post
  deriving DecidableEq, Repr

/-- The method in the wire's words. -/
def Method.name : Method → String
  | .get => "GET"
  | .post => "POST"

/-- A call to a provider's endpoint. -/
structure Call where
  method : Method
  url : String
  body : Option (List UInt8) := none
  contentType : Option String := none
  deriving DecidableEq, Repr

/-- The text behind the first question mark of the URL. -/
def Call.query (c : Call) : Option String :=
  (Text.cutFirst '?' c.url.toList).map fun (_, q) => String.ofList q

/-! ## 2. Answers -/

/-- What a queue answers for one submitted call. -/
structure Answer where
  result : QueueResult
  /-- The HTTP status, when the provider answered at all. -/
  status : Option Nat := none
  body : List UInt8 := []
  error : Option String := none
  /-- Milliseconds between submission and answer, waiting included. -/
  elapsed : Nat := 0
  deriving DecidableEq, Repr

namespace Answer

/-- The provider's successful answer. -/
def success (status : Nat) (body : List UInt8) : Answer :=
  { result := .success, status := some status, body }

/-- An answer for a call that did not succeed. -/
def failure (result : QueueResult) (error : String) : Answer :=
  { result, error := some error }

/-- Whether the call succeeded. -/
def isSuccess (a : Answer) : Bool := a.result == .success

/-- The body as text, ill-formed parts replaced. -/
def bodyText (a : Answer) : String := String.ofList (Text.Utf8.decodeLossy a.body)

/-- The result, and the error behind it if there is one. -/
def reason (a : Answer) : String :=
  match a.error with
  | some e => s!"{a.result.name}: {e}"
  | none => a.result.name

end Answer

end LoginGate
