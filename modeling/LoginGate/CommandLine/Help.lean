/-
# Help texts

The long help gives every option a paragraph, and the short one a line.  Both are laid out from the
same description of the options.
-/
import LoginGate.CommandLine.Arguments

namespace LoginGate.CommandLine

/-! ## 1. What is said about each option -/

/-- The name and the version of the program. -/
def programName : String := "xauth-probe"

/-- The version of the program. -/
def programVersion : String := "0.1.0"

/-- What an option does, as the long or the short help says it. -/
def Opt.about (long : Bool) : Opt → String
  | .config => "TOML configuration file (defaults to $XAUTH_CONFIG_FILE or xauth.toml)"
  | .authType => "Authentication type, by name or wire code (e.g. Steam or 1)"
  | .userId => "User id sent by the client"
  | .params => "Client query string, e.g. \"ticket=abc&nonce=1\""
  | .data => "Post data; valid JSON is sent as JSON, anything else as text"
  | .appId => "Override the configured application id"
  | .anonymous => "Allow anonymous access regardless of configuration"
  | .metrics => ""
  | .help => if long then "Print help (see a summary with '-h')"
    else "Print help (see more with '--help')"
  | .version => "Print version"

/-- The value of an option that is not given. -/
def Opt.default? : Opt → Option String
  | .userId => some defaultUserId
  | .metrics => some MetricsFormat.text.word
  | _ => none

/-- An option with the name of its value: `--config <FILE>`. -/
def Opt.usage (o : Opt) : String :=
  "--" ++ o.long ++ ((o.valueName?.map fun v => s!" <{v}>").getD "")

/-- The letter of an option, if it has one, and the option. -/
def Opt.heading (o : Opt) : String :=
  ((o.short?.map fun c => s!"  -{c}, ").getD "      ") ++ o.usage

/-- What both forms begin with. -/
def helpOpening : String :=
  "Run one authentication request through the configured providers\n\n" ++
    s!"Usage: {programName} [OPTIONS] {Opt.authType.usage}\n\nOptions:\n"

/-! ## 2. The short form -/

/-- A text with blanks behind it up to a width. -/
def padTo (width : Nat) (s : String) : String :=
  s ++ String.ofList (List.replicate (width - s.length) ' ')

/-- The width of the column of options. -/
def headingWidth : Nat := ((Opt.all.map (·.heading.length)).max?).getD 0

/-- The parts of an option's line behind its heading. -/
def Opt.summary (o : Opt) : List String :=
  [o.about false].filter (· ≠ "") ++
    (o.default?.map fun v => s!"[default: {v}]").toList ++
    (if o = .metrics then
      let words := Text.joinStrings ", " (MetricsFormat.all.map (·.word))
      [s!"[possible values: {words}]"]
    else [])

/-- The short help. -/
def shortHelp : String :=
  helpOpening ++ String.join (Opt.all.map fun o =>
    padTo headingWidth o.heading ++ "  " ++ Text.joinStrings " " o.summary ++ "\n")

/-! ## 3. The long form -/

/-- The lines about the formats of metrics. -/
def formatLines : List String :=
  let width := ((MetricsFormat.all.map (·.word.length)).max?).getD 0 + 1
  "Possible values:" :: MetricsFormat.all.map fun m =>
    "- " ++ padTo width (m.word ++ ":") ++ " " ++ m.about

/-- The lines about an option; a blank line stands before its default. -/
def Opt.details (o : Opt) : List String :=
  (if o = .metrics then formatLines else [o.about true]) ++
    ((o.default?.map fun v => ["", s!"[default: {v}]"]).getD [])

/-- The paragraph of an option. -/
def Opt.paragraph (o : Opt) : String :=
  o.heading ++ "\n" ++ String.join (o.details.map fun l => padTo 10 "" ++ l ++ "\n")

/-- The long help. -/
def longHelp : String :=
  helpOpening ++ Text.joinStrings "\n" (Opt.all.map Opt.paragraph)

/-! ## 4. Errors -/

/-- The wording of what keeps the program from running. -/
def Stop.message : Stop → String
  | help _ | version => ""
  | missingValue o => s!"a value is required for '{o.usage}' but none was supplied"
  | badValue o value => s!"invalid value '{value}' for '{o.usage}'"
  | malformedValue o value =>
    s!"invalid value '{value}' for '{o.usage}': " ++ AuthType.UnknownType.message ⟨value⟩
  | repeatedOption o => s!"the argument '{o.usage}' cannot be used multiple times"
  | unknownWord word => s!"unexpected argument '{word}' found"
  | unneededValue o value =>
    s!"unexpected value '{value}' for '{o.usage}' found; no more were expected"
  | missingOption o => s!"the following required arguments were not provided:\n  {o.usage}"

end LoginGate.CommandLine
