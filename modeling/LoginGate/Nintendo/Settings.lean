/-
# Nintendo environments

Each environment has a key and a base URL.  Keys may be fetched from the base URL and from below it,
and a token's issuer has to be the base URL; slashes at the end of a base URL or an issuer do not
count.  Environments are searched in the order of their keys.
-/
import LoginGate.Text.Blank

namespace LoginGate.Nintendo

/-- What the verification of Nintendo tokens depends on. -/
structure Settings where
  /-- Environment keys with their base URLs, in the order of the keys. -/
  environments : List (String × String) := []
  /-- Milliseconds between two fetches of keys. -/
  refreshInterval : Nat := 300000
  /-- Milliseconds to wait for the first keys. -/
  retrievalTimeout : Nat := 5000
  /-- Seconds by which clocks may differ. -/
  clockSkew : Nat := 10
  deriving DecidableEq, Repr

/-- Environments in the order of their keys. -/
def sortEnvironments (environments : List (String × String)) : List (String × String) :=
  environments.mergeSort fun a b => a.1 ≤ b.1

namespace Settings

/-- A base URL without slashes at its end. -/
def bareUrl (url : String) : String := Text.trimEndChar '/' url

/-- Whether a URL is a base URL or lies below it. -/
def isBelow (base url : List Char) : Bool :=
  base.isPrefixOf url && ((url.drop base.length).head?.all (· == '/'))

/-- The first environment whose base URL a key URL belongs to. -/
def environmentOfKeyUrl? (s : Settings) (url : String) : Option String :=
  (s.environments.find? fun (_, base) => isBelow (bareUrl base).toList url.toList).map (·.1)

/-- The first environment whose base URL is the issuer. -/
def environmentOfIssuer? (s : Settings) (issuer : String) : Option String :=
  (s.environments.find? fun (_, base) => bareUrl base = bareUrl issuer).map (·.1)

end Settings

end LoginGate.Nintendo
