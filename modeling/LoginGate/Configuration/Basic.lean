/-
# Configurations

What an operator sets: the application, the limits of the queues, the providers, the environments of
Nintendo tokens, and what is logged.  Every part has defaults, a provider's type apart.  What the
parts of the system need is derived from a configuration by the functions of the last section.
-/
import LoginGate.Dispatch.Plan
import LoginGate.Queue.Basic
import LoginGate.Text.LowerCase

namespace LoginGate

namespace Configuration

/-! ## 1. Parts -/

/-- One enabled identity provider as it is written. -/
structure ProviderEntry where
  /-- The name or the code of an authentication type. -/
  authType : String
  baseUri : String := ""
  /-- Dashboard parameters as a query string. -/
  staticParams : String := ""
  forwardAsJson : Bool := false
  rejectIfUnavailable : Bool := true
  deriving DecidableEq, Repr

/-- The verification of Nintendo tokens. -/
structure NintendoPart where
  /-- Environment keys with their base URLs, in the order of the keys. -/
  environments : List (String × String) := []
  refreshSeconds : Nat := 300
  retrievalTimeout : Nat := 5000
  clockSkew : Nat := 10
  deriving DecidableEq, Repr

/-- What is logged, and how. -/
structure LoggingPart where
  /-- A level, or filter directives. -/
  level : String := "info"
  format : String := "pretty"
  deriving DecidableEq, Repr

end Configuration

/-- A configuration. -/
structure Configuration where
  application : AuthSettings := { applicationId := "" }
  queue : Queue.Settings := {}
  /-- How many times a call is tried again after it could not be connected. -/
  retries : Nat := 1
  providers : List Configuration.ProviderEntry := []
  nintendo : Configuration.NintendoPart := {}
  logging : Configuration.LoggingPart := {}
  deriving DecidableEq, Repr

namespace Configuration

/-! ## 2. Errors -/

/-- Why a configuration is refused. -/
inductive Fault where
  | noConcurrency
  | noRequestTimeout
  | noRefreshInterval
  | unknownType (e : AuthType.UnknownType)
  /-- An HTTP provider has no base URI. -/
  | noBaseUri (authType : AuthType)
  | unknownLevel (level : String)
  | unknownFormat (format : String)
  deriving DecidableEq, Repr

/-- The levels that can be named. -/
def levels : List String := ["trace", "debug", "info", "warn", "error"]

/-- The formats of log lines. -/
def formats : List String := ["pretty", "json", "compact"]

/-- A list of words in quotes. -/
def quotedList (words : List String) : String :=
  "[" ++ Text.joinStrings ", " (words.map fun w => "\"" ++ w ++ "\"") ++ "]"

/-- The wording of a fault. -/
def Fault.message (f : Fault) : String :=
  "Invalid configuration: " ++
    match f with
    | noConcurrency => "queue.max_concurrent_requests must be greater than 0"
    | noRequestTimeout => "queue.request_timeout_ms must be greater than 0"
    | noRefreshInterval => "nintendo.refresh_interval_secs must be greater than 0"
    | unknownType e => e.message
    | noBaseUri t => s!"Provider {t.name} requires a base_uri"
    | unknownLevel level =>
      s!"Invalid log level '{level}'. Must be one of: {quotedList levels}"
    | unknownFormat format =>
      s!"Invalid log format '{format}'. Must be one of: {quotedList formats}"

/-! ## 3. Providers -/

/-- Whether providers of a type are reached over HTTP. -/
def isHttp : AuthType → Bool
  | .jwt | .playerIo | .nintendo => false
  | _ => true

/-- The provider that an entry describes. -/
def ProviderEntry.provider (e : ProviderEntry) : Except Fault Provider :=
  match AuthType.parse e.authType with
  | .error u => .error (.unknownType u)
  | .ok authType =>
    if isHttp authType && Text.allBlank e.baseUri then .error (.noBaseUri authType)
    else
      .ok
        { authType, baseUri := Text.trim e.baseUri
          dashboard := QueryParams.parse e.staticParams
          forwardAsJson := e.forwardAsJson
          rejectIfUnavailable := e.rejectIfUnavailable }

/-- The providers in the order of their entries, or the fault of the first entry that has one. -/
def providerList (c : Configuration) : Except Fault (List Provider) :=
  c.providers.mapM ProviderEntry.provider

/-! ## 4. Validation -/

/-- Whether a level is a list of filter directives. -/
def isDirective (level : String) : Bool := level.toList.any fun c => c == '=' || c == ','

/-- Accepts a condition, or refuses with a fault. -/
def demand (holds : Bool) (fault : Fault) : Except Fault Unit :=
  if holds then .ok () else .error fault

/-- Checks a configuration; the first fault in a fixed order counts. -/
def validate (c : Configuration) : Except Fault Unit := do
  demand (c.queue.maxConcurrent ≠ 0) .noConcurrency
  demand (c.queue.requestTimeout ≠ 0) .noRequestTimeout
  demand (c.nintendo.refreshSeconds ≠ 0) .noRefreshInterval
  let _ ← c.providerList
  demand (isDirective c.logging.level || Text.lowerCase c.logging.level ∈ levels)
    (.unknownLevel c.logging.level)
  demand (Text.lowerCase c.logging.format ∈ formats) (.unknownFormat c.logging.format)

/-! ## 5. What the parts of the system need -/

/-- The settings for Nintendo tokens, with the interval in milliseconds. -/
def nintendoSettings (c : Configuration) : Nintendo.Settings :=
  { environments := c.nintendo.environments
    refreshInterval := 1000 * c.nintendo.refreshSeconds
    retrievalTimeout := c.nintendo.retrievalTimeout
    clockSkew := c.nintendo.clockSkew }

/-- The parts of the system whose level can be set. -/
def loggedParts : List String := ["xauth_dispatch", "xauth_queue", "xauth_console", "xauth_token"]

/-- The filter of log lines: the directives, or the level for each part and for everything else. -/
def logFilter (c : Configuration) : String :=
  let level := c.logging.level
  if isDirective level then level
  else Text.joinStrings "," (loggedParts.map (fun part => s!"{part}={level}") ++ [level])

end Configuration

end LoginGate
