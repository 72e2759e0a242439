/-
# Loading configurations

A configuration is read from a setting tree: the settings of a TOML text, if there is one, with
those of environment variables laid over them.  Loading fails when the text is no TOML, when a
setting cannot be read as what its place asks for, or when the configuration has a fault.
-/
import LoginGate.Configuration.Basic
import LoginGate.Settings.Convert
import LoginGate.Settings.Environment
import LoginGate.Text.Utf8
import LoginGate.Toml.Document
import LoginGate.Word

namespace LoginGate.Configuration

open Setting (fields? required orDefault toText? toBool? toNat? toList? toEntries?)

/-! ## 1. Parts -/

/-- Reads the part about the application. -/
def application? (s : Setting) : Option AuthSettings := do
  match ← fields? ["application_id", "allow_anonymous"] s with
  | [applicationId, allowAnonymous] =>
    let applicationId ← orDefault "" toText? applicationId
    let allowAnonymous ← orDefault false toBool? allowAnonymous
    some { applicationId, allowAnonymous }
  | _ => none

/-- The fields of the part about queues. -/
def queueFields : List String :=
  ["max_concurrent_requests", "max_queued_requests", "request_timeout_ms", "queue_timeout_ms",
    "retry_count", "offline_error_threshold", "offline_retry_interval_ms"]

/-- Reads the part about queues: their settings, and how many times a call is tried again. -/
def queue? (s : Setting) : Option (Queue.Settings × Nat) := do
  match ← fields? queueFields s with
  | [maxConcurrent, maxQueued, requestTimeout, queueTimeout, retries, offlineThreshold,
      offlineRetry] =>
    let d : Queue.Settings := {}
    let word (default : Nat) := orDefault default (toNat? Word.maxNat64)
    let count (default : Nat) := orDefault default (toNat? Word.maxNat32)
    let maxConcurrent ← word d.maxConcurrent maxConcurrent
    let maxQueued ← word d.maxQueued maxQueued
    let requestTimeout ← word d.requestTimeout requestTimeout
    let queueTimeout ← word d.queueTimeout queueTimeout
    let retries ← count 1 retries
    let offlineThreshold ← count d.offlineThreshold offlineThreshold
    let offlineRetry ← word d.offlineRetry offlineRetry
    some ({ maxConcurrent, maxQueued, requestTimeout, queueTimeout, offlineThreshold,
            offlineRetry }, retries)
  | _ => none

/-- The fields of a provider's entry. -/
def providerFields : List String :=
  ["auth_type", "base_uri", "static_params", "forward_as_json", "reject_if_unavailable"]

/-- Reads a provider's entry. -/
def provider? (s : Setting) : Option ProviderEntry := do
  match ← fields? providerFields s with
  | [authType, baseUri, staticParams, forwardAsJson, rejectIfUnavailable] =>
    let authType ← required toText? authType
    let baseUri ← orDefault "" toText? baseUri
    let staticParams ← orDefault "" toText? staticParams
    let forwardAsJson ← orDefault false toBool? forwardAsJson
    let rejectIfUnavailable ← orDefault true toBool? rejectIfUnavailable
    some { authType, baseUri, staticParams, forwardAsJson, rejectIfUnavailable }
  | _ => none

/-- The fields of the part about Nintendo tokens. -/
def nintendoFields : List String :=
  ["environments", "refresh_interval_secs", "retrieval_timeout_ms", "clock_skew_secs"]

/-- Reads the part about Nintendo tokens. -/
def nintendo? (s : Setting) : Option NintendoPart := do
  match ← fields? nintendoFields s with
  | [environments, refreshSeconds, retrievalTimeout, clockSkew] =>
    let d : NintendoPart := {}
    let word (default : Nat) := orDefault default (toNat? Word.maxNat64)
    let environments ← orDefault [] (toEntries? toText?) environments
    let refreshSeconds ← word d.refreshSeconds refreshSeconds
    let retrievalTimeout ← word d.retrievalTimeout retrievalTimeout
    let clockSkew ← word d.clockSkew clockSkew
    some { environments := Nintendo.sortEnvironments environments, refreshSeconds,
           retrievalTimeout, clockSkew }
  | _ => none

/-- Reads the part about logging. -/
def logging? (s : Setting) : Option LoggingPart := do
  match ← fields? ["level", "format"] s with
  | [level, format] =>
    let d : LoggingPart := {}
    let level ← orDefault d.level toText? level
    let format ← orDefault d.format toText? format
    some { level, format }
  | _ => none

/-! ## 2. Configurations -/

/-- Reads a configuration. -/
def ofSetting? (s : Setting) : Option Configuration := do
  match ← fields? ["application", "queue", "providers", "nintendo", "logging"] s with
  | [application, queue, providers, nintendo, logging] =>
    let d : Configuration := {}
    let application ← orDefault d.application application? application
    let (queue, retries) ← orDefault (d.queue, d.retries) queue? queue
    let providers ← orDefault [] (toList? provider?) providers
    let nintendo ← orDefault d.nintendo nintendo? nintendo
    let logging ← orDefault d.logging logging? logging
    some { application, queue, retries, providers, nintendo, logging }
  | _ => none

/-- Why a configuration cannot be loaded. -/
inductive LoadError where
  /-- The text is no TOML. -/
  | syntaxError
  /-- A setting does not have the form that its place asks for. -/
  | unreadable
  | invalid (fault : Fault)
  deriving DecidableEq, Repr

/-- The configuration of a setting tree, once it is checked. -/
def ofTree (s : Setting) : Except LoadError Configuration :=
  match ofSetting? s with
  | none => .error .unreadable
  | some c =>
    match c.validate with
    | .ok () => .ok c
    | .error fault => .error (.invalid fault)

/-- The text of a file: its bytes without the mark that may open them, ill-formed ones replaced. -/
def fileText (bytes : List UInt8) : String :=
  String.ofList (Text.Utf8.decodeLossy (match bytes with
    | 0xEF :: 0xBB :: 0xBF :: rest => rest
    | bytes => bytes))

/-- Loads a configuration from a TOML text, if there is one, and from variables.  An environment has
no order; the list of variables is one walk through it, whichever it may be.  So the layer is laid
over the tree in any of the orders in which its map may be walked. -/
def load (toml : Option String) (environment : List (String × String)) :
    Except LoadError Configuration :=
  match toml with
  | none => ofTree ((Setting.table []).overlay (.ofVariables environment))
  | some text =>
    match Toml.parse? text with
    | none => .error .syntaxError
    | some t =>
      ofTree (((Setting.table []).overlay (.ofToml t)).overlay (.ofVariables environment))

end LoginGate.Configuration
