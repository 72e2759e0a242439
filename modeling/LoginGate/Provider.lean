/-
# Providers

The configuration of one enabled identity provider.  Dashboard parameters are those that the
operator set; they win over anything a client sends.
-/
import LoginGate.AuthType
import LoginGate.Query.Params

namespace LoginGate

/-- The configuration of one identity provider. -/
structure Provider where
  authType : AuthType
  baseUri : String
  dashboard : QueryParams := QueryParams.empty
  /-- Structured results are expected, and raw post data is not forwarded. -/
  forwardAsJson : Bool := false
  /-- Clients are denied when the provider cannot be reached. -/
  rejectIfUnavailable : Bool := true
  deriving DecidableEq

namespace Provider

/-- The value of a dashboard parameter. -/
def param? (p : Provider) (key : String) : Option String := p.dashboard.get? key

/-- Equality of configurations; the order of dashboard parameters does not count. -/
def same (p q : Provider) : Bool :=
  p.authType == q.authType && p.baseUri == q.baseUri && p.dashboard.sameMap q.dashboard &&
    p.forwardAsJson == q.forwardAsJson && p.rejectIfUnavailable == q.rejectIfUnavailable

end Provider

end LoginGate
