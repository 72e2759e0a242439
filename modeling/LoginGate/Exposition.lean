/-
# Metrics in the Prometheus text format

A report is a list of families in the order of their names; a family has a help text, a type and
samples, and a sample has labels and a value.  Counters become one sample for each type and counter
that was ever incremented, and latencies one histogram for each type, in seconds.
-/
import LoginGate.Binary64.Decimal
import LoginGate.Metrics
import LoginGate.Text.Split

namespace LoginGate.Exposition

/-! ## 1. Families and samples -/

/-- A value under a name and labels. -/
structure Sample where
  name : String
  labels : List (String × String)
  value : Binary64
  deriving DecidableEq, Repr

/-- Samples that belong together. -/
structure Family where
  name : String
  help : String
  kind : String
  samples : List Sample
  deriving DecidableEq, Repr

/-! ## 2. Text -/

/-- The written form of one character of a label. -/
def escapeChar (c : Char) : List Char :=
  if c = '\\' then ['\\', '\\']
  else if c = '\n' then ['\\', 'n']
  else if c = '"' then ['\\', '"']
  else [c]

/-- A label with its value between quotes. -/
def labelText (name value : String) : String :=
  name ++ "=\"" ++ String.ofList (value.toList.flatMap escapeChar) ++ "\""

/-- The line of a sample. -/
def Sample.text (s : Sample) : String :=
  s.name ++ "\x7b" ++ Text.joinStrings "," (s.labels.map fun (n, v) => labelText n v) ++ "\x7d " ++
    s.value.plain ++ "\n"

/-- The lines of a family. -/
def Family.text (f : Family) : String :=
  s!"# HELP {f.name} {f.help}\n# TYPE {f.name} {f.kind}\n" ++
    String.join (f.samples.map Sample.text)

/-! ## 3. Instruments -/

/-- What the program registers to be measured. -/
structure Instrument where
  name : String
  help : String
  kind : String
  unit : Option String := none
  deriving DecidableEq, Repr

/-- The ending for a unit of measurement. -/
def Instrument.unitSuffix (i : Instrument) : String :=
  if i.unit = some "s" then "_seconds" else ""

/-- The ending for the kind: counters get theirs even if their own name has it already. -/
def Instrument.kindSuffix (i : Instrument) : String :=
  if i.kind = "counter" then "_total" else ""

/-- The name under which an instrument is exported. -/
def Instrument.exportedName (i : Instrument) : String := i.name ++ i.unitSuffix ++ i.kindSuffix

/-- The instrument of the counters. -/
def Instrument.events : Instrument :=
  { name := "xauth_auth_events_total", help := "Authentication events by type and outcome"
    kind := "counter" }

/-- The instrument of the latencies. -/
def Instrument.latencies : Instrument :=
  { name := "xauth_provider_latency", help := "Round trip of provider calls, queueing included"
    kind := "histogram", unit := some "s" }

/-- The name of the counters, which ends in `_total` twice. -/
def eventsName : String := Instrument.events.exportedName

/-- The name of the latencies. -/
def latencyName : String := Instrument.latencies.exportedName

/-! ## 4. The families of a report -/

/-- What reports about the program that makes them. -/
def targetFamily : Family :=
  { name := "target_info", help := "Target metadata", kind := "gauge"
    samples :=
      [{ name := "target_info"
         labels :=
           [("service_name", "unknown_service"), ("telemetry_sdk_language", "rust"),
             ("telemetry_sdk_name", "opentelemetry"), ("telemetry_sdk_version", "0.28.0")]
         value := Binary64.ofNat 1 }] }

/-- All types in the order of their names. -/
def typesByName : List AuthType := AuthType.all.mergeSort fun t u => t.name ≤ u.name

/-- The label that names the service. -/
def scopeLabel (service : String) : String × String := ("otel_scope_name", service)

/-- The sample of a counter. -/
def eventSample (service : String) (t : AuthType) (c : Counter) (n : Nat) : Sample :=
  { name := eventsName
    labels := [("auth_type", t.name), ("event", c.name), scopeLabel service]
    value := Binary64.ofNat n }

/-- The counters. -/
def eventsFamily (service : String) (m : Metrics) : Family :=
  { name := eventsName, help := Instrument.events.help, kind := Instrument.events.kind
    samples := typesByName.flatMap fun t =>
      (m.snapshot.filter (·.1 = t)).map fun (t, c, n) => eventSample service t c n }

/-- The upper bounds of the buckets of a histogram. -/
def bounds : List Binary64 :=
  [0, 5, 10, 25, 50, 75, 100, 250, 500, 750, 1000, 2500, 5000, 7500, 10000].map Binary64.ofNat

/-- A duration in seconds: whole seconds and the rest are taken to binary64 apart. -/
def seconds (nanoseconds : Nat) : Binary64 :=
  (Binary64.ofNat (nanoseconds / 1000000000)).add
    ((Binary64.ofNat (nanoseconds % 1000000000)).div (Binary64.ofNat 1000000000))

/-- The samples of the histogram of a type. -/
def histogram (service : String) (t : AuthType) (values : List Binary64) : List Sample :=
  let labels := [("auth_type", t.name), scopeLabel service]
  let bucket (bound : String) (n : Nat) : Sample :=
    { name := latencyName ++ "_bucket", labels := labels ++ [("le", bound)]
      value := Binary64.ofNat n }
  bounds.map (fun b => bucket b.plain (values.filter (·.le b)).length) ++
    [bucket "+Inf" values.length,
      { name := latencyName ++ "_sum", labels
        value := values.foldl Binary64.add (Binary64.zero false) },
      { name := latencyName ++ "_count", labels, value := Binary64.ofNat values.length }]

/-- The latencies. -/
def latencyFamily (service : String) (m : Metrics) : Family :=
  { name := latencyName, help := Instrument.latencies.help, kind := Instrument.latencies.kind
    samples := typesByName.flatMap fun t =>
      if (m.samples t).isEmpty then []
      else histogram service t ((m.samples t).map seconds) }

/-- The families of a report; those without samples are left out. -/
def families (service : String) (m : Metrics) : List Family :=
  targetFamily ::
    [eventsFamily service m, latencyFamily service m].filter fun f => !f.samples.isEmpty

/-- The report of a service's metrics. -/
def render (service : String) (m : Metrics) : String :=
  String.join ((families service m).map Family.text)

/-! ## 5. The route -/

/-- What the metrics route answers. -/
structure Page where
  status : Nat
  contentType : Option String
  body : String
  deriving DecidableEq, Repr

/-- The path of a request target, without query and fragment. -/
def pathOf (target : String) : List Char :=
  target.toList.takeWhile fun c => c != '?' && c != '#'

/-- The page of a request target. -/
def page (service : String) (m : Metrics) (target : String) : Page :=
  if pathOf target = "/metrics".toList then
    { status := 200, contentType := some "text/plain; version=0.0.4", body := render service m }
  else { status := 404, contentType := none, body := "" }

end LoginGate.Exposition
