/-
# The options of the command line

Every option has a long name, and most have a short one.  An option takes one value, or it is a
switch and takes none.
-/

namespace LoginGate.CommandLine

/-! ## 1. Options -/

/-- An option of the command line. -/
inductive Opt where
  | config
  | authType
  | userId
  | params
  | data
  | appId
  | anonymous
  | metrics
  | help
  | version
  deriving DecidableEq, Repr

namespace Opt

/-- All options in the order in which they are listed. -/
def all : List Opt :=
  [config, authType, userId, params, data, appId, anonymous, metrics, help, version]

/-- The name behind two hyphens. -/
def long : Opt → String
  | config => "config"
  | authType => "auth-type"
  | userId => "user-id"
  | params => "params"
  | data => "data"
  | appId => "app-id"
  | anonymous => "anonymous"
  | metrics => "metrics"
  | help => "help"
  | version => "version"

/-- The letter behind one hyphen. -/
def short? : Opt → Option Char
  | config => some 'c'
  | authType => some 'a'
  | userId => some 'u'
  | params => some 'p'
  | data => some 'd'
  | help => some 'h'
  | version => some 'V'
  | appId | anonymous | metrics => none

/-- What the value is called; a switch takes none. -/
def valueName? : Opt → Option String
  | config => some "FILE"
  | authType => some "TYPE"
  | userId => some "ID"
  | params => some "QUERY"
  | data => some "DATA"
  | appId => some "ID"
  | metrics => some "METRICS"
  | anonymous | help | version => none

/-- Whether an option takes a value. -/
def takesValue (o : Opt) : Bool := o.valueName?.isSome

/-- The option of a long name. -/
def ofLong? (name : String) : Option Opt := all.find? (·.long = name)

/-- The option of a letter. -/
def ofShort? (c : Char) : Option Opt := all.find? (·.short? = some c)

theorem mem_all (o : Opt) : o ∈ all := by cases o <;> decide

theorem ofLong?_long (o : Opt) : ofLong? o.long = some o := by cases o <;> decide

end Opt

/-! ## 2. Metrics formats -/

/-- How metrics are printed. -/
inductive MetricsFormat where
  /-- One line for each counter. -/
  | text
  | prometheus
  deriving DecidableEq, Repr

namespace MetricsFormat

/-- Both formats. -/
def all : List MetricsFormat := [text, prometheus]

/-- The word that chooses a format. -/
def word : MetricsFormat → String
  | text => "text"
  | prometheus => "prometheus"

/-- What a format looks like. -/
def about : MetricsFormat → String
  | text => "One line per counter"
  | prometheus => "Prometheus exposition format"

/-- The format that a word chooses. -/
def ofWord? (word : String) : Option MetricsFormat := all.find? (·.word = word)

end MetricsFormat

/-- The user id when none is given. -/
def defaultUserId : String := "probe-user"

end LoginGate.CommandLine
