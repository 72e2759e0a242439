/-
# Runs of the program

A run reads its arguments and its configuration, registers the configured providers, authenticates
one request, and prints the outcome and the metrics.  It depends on nothing but the words of the
command line, the files that can be read, the environment variables and the Unix time, and it opens
no connection: a provider or key server that it would have to reach counts as unreachable.
-/
import LoginGate.CommandLine.Help
import LoginGate.Configuration.Loading
import LoginGate.Dispatch.Session
import LoginGate.Exposition
import LoginGate.Records.Outcome

namespace LoginGate.CommandLine

/-! ## 1. Ends -/

/-- How a run ends. -/
structure End where
  code : Nat
  output : String := ""
  /-- What is told on the error stream. -/
  complaint : Option String := none
  deriving DecidableEq, Repr

/-- A run that fails before it has an outcome. -/
def End.fatal (message : String) : End :=
  { code := 1, complaint := some s!"Error: {message}" }

/-- The end of a run that does not start. -/
def Stop.finish : Stop → End
  | help true => { code := 0, output := longHelp }
  | help false => { code := 0, output := shortHelp }
  | version => { code := 0, output := s!"{programName} {programVersion}\n" }
  | stop => { code := 2, complaint := some s!"error: {stop.message}" }

/-! ## 2. The configuration -/

/-- The variable that names a configuration file. -/
def fileVariable : String := "XAUTH_CONFIG_FILE"

/-- The configuration file when none is named. -/
def defaultFile : String := "xauth.toml"

/-- The files that may hold the configuration, the first one first. -/
def Arguments.fileNames (a : Arguments) (environment : List (String × String)) : List String :=
  match a.config with
  | some name => [name, name ++ ".toml"]
  | none => [(Entries.get? fileVariable environment).getD defaultFile]

/-- Files by their names. -/
abbrev Files := List (String × List UInt8)

/-- Loads the configuration.  A file that the arguments name has to be there. -/
def Arguments.configuration (a : Arguments) (files : Files) (environment : List (String × String)) :
    Except Configuration.LoadError Configuration :=
  match (a.fileNames environment).findSome? (Entries.get? · files), a.config with
  | none, some _ => .error .unreadable
  | file, _ => Configuration.load (file.map Configuration.fileText) environment

/-! ## 3. The request -/

/-- The answer to a call when nothing can be reached. -/
def unreachable : Answer := (Reply.failure (.connect "no network")).answer

/-- The dispatcher of a configuration, before its providers are registered. -/
def startSession (c : Configuration) : Session :=
  let nintendo := c.nintendoSettings
  { nintendo, cache := { interval := .ofNat nintendo.refreshInterval }
    queueSettings := c.queue, retries := c.retries }

/-- The settings of the application, with what the arguments override. -/
def Arguments.settings (a : Arguments) (c : Configuration) : AuthSettings :=
  { applicationId := a.appId.getD c.application.applicationId
    allowAnonymous := c.application.allowAnonymous || a.anonymous }

/-- The text of the metrics in a format. -/
def MetricsFormat.report (f : MetricsFormat) (m : Metrics) : String :=
  match f with
  | text => m.report
  | prometheus => Exposition.render programName m

/-- What is printed for an outcome and the metrics. -/
def Arguments.output (a : Arguments) (o : Outcome) (m : Metrics) : String :=
  let report := a.metrics.report m
  o.toJson.renderIndented ++ "\n" ++ (if report = "" then "" else report ++ "\n")

/-- Authenticates the request under a configuration, with the providers registered. -/
def Arguments.authenticate (a : Arguments) (c : Configuration) (s : Session) (unix : Int) : End :=
  let (s, report) := s.authenticate (.immediate fun _ _ => .answered unreachable) (a.settings c)
    unix [a.request]
  match report.outcomes with
  | o :: _ => { code := if o.isFailure then 1 else 0, output := a.output o s.metrics }
  | [] => { code := 1 }

/-! ## 4. Runs -/

/-- Runs the program for arguments. -/
def Arguments.run (a : Arguments) (files : Files) (environment : List (String × String))
    (unix : Int) : End :=
  match a.configuration files environment with
  | .error _ => End.fatal "Failed to load configuration"
  | .ok c =>
    match c.providerList with
    | .error fault => End.fatal fault.message
    | .ok providers =>
      match (startSession c).rebuild providers with
      | (_, some e, _) => End.fatal e.message
      | (s, none, _) => a.authenticate c s unix

/-- Runs the program for the words of a command line. -/
def run (words : List String) (files : Files) (environment : List (String × String))
    (unix : Int) : End :=
  match Arguments.parse words with
  | .error stop => stop.finish
  | .ok a => a.run files environment unix

/-- The files that a run may read. -/
def fileNames (words : List String) (environment : List (String × String)) : List String :=
  match Arguments.parse words with
  | .error _ => []
  | .ok a => a.fileNames environment

end LoginGate.CommandLine
