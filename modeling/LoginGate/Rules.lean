/-
# Required parameters

Some platforms need parameters before a call makes sense.  A rule names those that the client has to
send, in its query string or in a map payload, and those that the dashboard has to set; client
parameters are checked first, in the order of the rule.
-/
import LoginGate.Provider
import LoginGate.Request

namespace LoginGate

/-- The parameters that a platform needs. -/
structure ProviderRule where
  authType : AuthType
  /-- Sent by the client. -/
  client : List String
  /-- Set on the dashboard. -/
  dashboard : List String
  deriving DecidableEq, Repr

/-- A required parameter is missing or empty. -/
structure MissingParameter where
  name : String
  deriving DecidableEq, Repr

/-- The wording of the error. -/
def MissingParameter.message (m : MissingParameter) : String := s!"Parameter '{m.name}' is missing"

namespace ProviderRule

/-- The rules. -/
def all : List ProviderRule :=
  [⟨.facebook, ["token"], ["appid", "secret"]⟩,
    ⟨.steam, ["ticket"], ["appid", "apiKeySecret"]⟩,
    ⟨.oculus, ["userid", "nonce"], ["appid", "appsecret"]⟩,
    ⟨.viveport, ["usertoken"], ["appid", "appsecret"]⟩]

/-- The rule of a type. -/
def of? (t : AuthType) : Option ProviderRule := all.find? (·.authType = t)

/-- Whether a value counts as given: it is neither null nor the empty string. -/
def isGiven : Json.Value → Bool
  | .null => false
  | .string s => s ≠ ""
  | _ => true

/-- Whether a client sent a parameter. -/
def clientHas (query : QueryParams) (payload : Option Json.Members) (name : String) : Bool :=
  (query.get? name).any (· ≠ "") ||
    ((payload.bind (Entries.get? name)).any isGiven)

/-- Whether the dashboard sets a parameter. -/
def dashboardHas (provider : Provider) (name : String) : Bool :=
  (provider.param? name).any (· ≠ "")

/-- The first parameter of the rule that is missing. -/
def missing? (rule : ProviderRule) (provider : Provider) (query : QueryParams)
    (payload : Option Json.Members) : Option MissingParameter :=
  ((rule.client.find? (!clientHas query payload ·)).or
    (rule.dashboard.find? (!dashboardHas provider ·))).map fun name => ⟨name⟩

end ProviderRule

end LoginGate
