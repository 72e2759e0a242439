/-
# Records of configurations

The JSON form of a configuration.  Every part may be left out, or may end early where it is an array
of its fields; a provider's type has to be there.
-/
import LoginGate.Configuration.Loading
import LoginGate.Json.Decode

namespace LoginGate.Configuration

open Json

/-! ## 1. Writing -/

/-- The record of the part about the application. -/
def applicationToJson (a : AuthSettings) : Value :=
  .object
    [("application_id", .string a.applicationId), ("allow_anonymous", .bool a.allowAnonymous)]

/-- The record of the part about queues. -/
def queueToJson (q : Queue.Settings) (retries : Nat) : Value :=
  .object
    [("max_concurrent_requests", Value.int q.maxConcurrent),
      ("max_queued_requests", Value.int q.maxQueued),
      ("request_timeout_ms", Value.int q.requestTimeout),
      ("queue_timeout_ms", Value.int q.queueTimeout),
      ("retry_count", Value.int retries),
      ("offline_error_threshold", Value.int q.offlineThreshold),
      ("offline_retry_interval_ms", Value.int q.offlineRetry)]

/-- The record of a provider's entry. -/
def ProviderEntry.toJson (e : ProviderEntry) : Value :=
  .object
    [("auth_type", .string e.authType), ("base_uri", .string e.baseUri),
      ("static_params", .string e.staticParams), ("forward_as_json", .bool e.forwardAsJson),
      ("reject_if_unavailable", .bool e.rejectIfUnavailable)]

/-- The record of the part about Nintendo tokens. -/
def NintendoPart.toJson (n : NintendoPart) : Value :=
  .object
    [("environments", .object (n.environments.map fun (k, url) => (k, .string url))),
      ("refresh_interval_secs", Value.int n.refreshSeconds),
      ("retrieval_timeout_ms", Value.int n.retrievalTimeout),
      ("clock_skew_secs", Value.int n.clockSkew)]

/-- The record of the part about logging. -/
def LoggingPart.toJson (l : LoggingPart) : Value :=
  .object [("level", .string l.level), ("format", .string l.format)]

/-- The record of a configuration. -/
def toJson (c : Configuration) : Value :=
  .object
    [("application", applicationToJson c.application), ("queue", queueToJson c.queue c.retries),
      ("providers", .array (c.providers.map ProviderEntry.toJson)),
      ("nintendo", c.nintendo.toJson), ("logging", c.logging.toJson)]

/-! ## 2. Reading -/

/-- Fields that may be left out. -/
def leaveable (names : List String) : List Decoder.Field := names.map (⟨·, true⟩)

/-- Reads the record of the part about the application. -/
def applicationDecoder : Decoder AuthSettings := fun d t => do
  match ← Decoder.record (leaveable ["application_id", "allow_anonymous"]) d t with
  | (d, [applicationId, allowAnonymous]) =>
    let applicationId ← Decoder.defaulted "" Decoder.text d applicationId
    let allowAnonymous ← Decoder.defaulted false Decoder.bool d allowAnonymous
    some { applicationId, allowAnonymous }
  | _ => none

/-- Reads the record of the part about queues. -/
def queueDecoder : Decoder (Queue.Settings × Nat) := fun d t => do
  match ← Decoder.record (leaveable queueFields) d t with
  | (d, [maxConcurrent, maxQueued, requestTimeout, queueTimeout, retries, offlineThreshold,
      offlineRetry]) =>
    let q : Queue.Settings := {}
    let word (default : Nat) := Decoder.defaulted default Decoder.nat64 d
    let count (default : Nat) := Decoder.defaulted default Decoder.nat32 d
    let maxConcurrent ← word q.maxConcurrent maxConcurrent
    let maxQueued ← word q.maxQueued maxQueued
    let requestTimeout ← word q.requestTimeout requestTimeout
    let queueTimeout ← word q.queueTimeout queueTimeout
    let retries ← count 1 retries
    let offlineThreshold ← count q.offlineThreshold offlineThreshold
    let offlineRetry ← word q.offlineRetry offlineRetry
    some ({ maxConcurrent, maxQueued, requestTimeout, queueTimeout, offlineThreshold,
            offlineRetry }, retries)
  | _ => none

/-- Reads the record of a provider's entry. -/
def ProviderEntry.decoder : Decoder ProviderEntry := fun d t => do
  let fields := providerFields.map fun name => ⟨name, name ≠ "auth_type"⟩
  match ← Decoder.record fields d t with
  | (d, [authType, baseUri, staticParams, forwardAsJson, rejectIfUnavailable]) =>
    let authType ← Decoder.required Decoder.text d authType
    let baseUri ← Decoder.defaulted "" Decoder.text d baseUri
    let staticParams ← Decoder.defaulted "" Decoder.text d staticParams
    let forwardAsJson ← Decoder.defaulted false Decoder.bool d forwardAsJson
    let rejectIfUnavailable ← Decoder.defaulted true Decoder.bool d rejectIfUnavailable
    some { authType, baseUri, staticParams, forwardAsJson, rejectIfUnavailable }
  | _ => none

/-- Reads the environments; of two under one key the later one counts. -/
def environmentsDecoder : Decoder (List (String × String)) := fun d t =>
  (Decoder.members Decoder.text d t).map fun es => Nintendo.sortEnvironments (Entries.ofPairs es)

/-- Reads the record of the part about Nintendo tokens. -/
def NintendoPart.decoder : Decoder NintendoPart := fun d t => do
  match ← Decoder.record (leaveable nintendoFields) d t with
  | (d, [environments, refreshSeconds, retrievalTimeout, clockSkew]) =>
    let n : NintendoPart := {}
    let word (default : Nat) := Decoder.defaulted default Decoder.nat64 d
    let environments ← Decoder.defaulted [] environmentsDecoder d environments
    let refreshSeconds ← word n.refreshSeconds refreshSeconds
    let retrievalTimeout ← word n.retrievalTimeout retrievalTimeout
    let clockSkew ← word n.clockSkew clockSkew
    some { environments, refreshSeconds, retrievalTimeout, clockSkew }
  | _ => none

/-- Reads the record of the part about logging. -/
def LoggingPart.decoder : Decoder LoggingPart := fun d t => do
  match ← Decoder.record (leaveable ["level", "format"]) d t with
  | (d, [level, format]) =>
    let l : LoggingPart := {}
    let level ← Decoder.defaulted l.level Decoder.text d level
    let format ← Decoder.defaulted l.format Decoder.text d format
    some { level, format }
  | _ => none

/-- Reads the record of a configuration. -/
def decoder : Decoder Configuration := fun d t => do
  let names := ["application", "queue", "providers", "nintendo", "logging"]
  match ← Decoder.record (leaveable names) d t with
  | (d, [application, queue, providers, nintendo, logging]) =>
    let c : Configuration := {}
    let application ← Decoder.defaulted c.application applicationDecoder d application
    let (queue, retries) ← Decoder.defaulted (c.queue, c.retries) queueDecoder d queue
    let providers ← Decoder.defaulted [] (Decoder.list ProviderEntry.decoder) d providers
    let nintendo ← Decoder.defaulted c.nintendo NintendoPart.decoder d nintendo
    let logging ← Decoder.defaulted c.logging LoggingPart.decoder d logging
    some { application, queue, retries, providers, nintendo, logging }
  | _ => none

end LoginGate.Configuration
