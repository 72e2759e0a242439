/-
# Reading the command line

Words are read from left to right.  A value stands behind its option as a word of its own, or is
attached to it: behind an equals sign, or right behind the letter.  A word that begins with a hyphen
is an option wherever it stands, a hyphen alone apart.

An option that waits for its value is settled only when the next option comes or the words end.
That decides which of two errors counts: a word that is no option at all, and a value for a switch,
come before whatever is wrong with the option that waits.
-/
import LoginGate.CommandLine.Options
import LoginGate.Request
import LoginGate.Text.Split

namespace LoginGate.CommandLine

/-! ## 1. Arguments -/

/-- What the command line asks for. -/
structure Arguments where
  config : Option String := none
  authType : AuthType
  userId : String := defaultUserId
  params : Option String := none
  data : Option String := none
  /-- The application id in place of the configured one. -/
  appId : Option String := none
  anonymous : Bool := false
  metrics : MetricsFormat := .text
  deriving DecidableEq, Repr

/-- The request that arguments describe. -/
def Arguments.request (a : Arguments) : Request :=
  { userId := a.userId, authType := a.authType, params := a.params
    data := a.data.map Payload.ofArgument }

/-- Why nothing is run. -/
inductive Stop where
  /-- Help is asked for, in its long or its short form. -/
  | help (long : Bool)
  | version
  | missingValue (o : Opt)
  /-- The value is none of those that the option can have. -/
  | badValue (o : Opt) (value : String)
  /-- The value is not of the form that the option asks for. -/
  | malformedValue (o : Opt) (value : String)
  | repeatedOption (o : Opt)
  | unknownWord (word : String)
  /-- A switch has a value. -/
  | unneededValue (o : Opt) (value : String)
  | missingOption (o : Opt)
  deriving DecidableEq, Repr

/-! ## 2. Settled options -/

/-- The options that are settled so far. -/
structure Draft where
  settled : List Opt := []
  config : Option String := none
  authType : Option AuthType := none
  userId : Option String := none
  params : Option String := none
  data : Option String := none
  appId : Option String := none
  metrics : Option MetricsFormat := none
  deriving DecidableEq, Repr

namespace Draft

/-- Whether an option was given. -/
def has (d : Draft) (o : Opt) : Bool := o ∈ d.settled

/-- Takes the value of an option. -/
def set (d : Draft) (o : Opt) (value : String) : Except Stop Draft :=
  match o with
  | .config =>
    if value = "" then .error (.badValue o value) else .ok { d with config := some value }
  | .authType =>
    match AuthType.parse value with
    | .ok t => .ok { d with authType := some t }
    | .error _ => .error (.malformedValue o value)
  | .userId => .ok { d with userId := some value }
  | .params => .ok { d with params := some value }
  | .data => .ok { d with data := some value }
  | .appId => .ok { d with appId := some value }
  | .metrics =>
    match MetricsFormat.ofWord? value with
    | some m => .ok { d with metrics := some m }
    | none => .error (.badValue o value)
  | .anonymous | .help | .version => .ok d

/-- Settles an option with its value; no option is given twice. -/
def settle (d : Draft) (o : Opt) (value : String) : Except Stop Draft :=
  if d.has o then .error (.repeatedOption o)
  else ({ d with settled := o :: d.settled }).set o value

/-- Settles a switch. -/
def turnOn (d : Draft) (ofLong : Bool) (o : Opt) : Except Stop Draft :=
  match o with
  | .help => .error (.help ofLong)
  | .version => .error .version
  | o => d.settle o ""

/-- The arguments, once all words are read. -/
def arguments (d : Draft) : Except Stop Arguments :=
  match d.authType with
  | none => .error (.missingOption .authType)
  | some authType =>
    .ok
      { config := d.config, authType, userId := d.userId.getD defaultUserId
        params := d.params, data := d.data, appId := d.appId
        anonymous := d.has .anonymous, metrics := d.metrics.getD .text }

end Draft

/-! ## 3. Words -/

/-- Where the reading stands: what is settled, and the option that waits to be, with its value once
there is one. -/
structure Reading where
  draft : Draft := {}
  pending : Option (Opt × Option String) := none
  deriving DecidableEq, Repr

namespace Reading

/-- Settles the option that waits. -/
def settle (r : Reading) : Except Stop Draft :=
  match r.pending with
  | none => .ok r.draft
  | some (o, none) => .error (.missingValue o)
  | some (o, some value) => r.draft.settle o value

/-- An option that takes a value, with the value that is attached to it if there is one. -/
def option (r : Reading) (o : Opt) (attached : Option String) : Except Stop Reading := do
  let draft ← r.settle
  match attached with
  | none => .ok { draft, pending := some (o, none) }
  | some value => return { draft := ← draft.settle o value }

/-- A switch. -/
def switch (r : Reading) (ofLong : Bool) (o : Opt) : Except Stop Reading := do
  let draft ← r.settle
  return { draft := ← draft.turnOn ofLong o }

/-- A word behind two hyphens. -/
def longWord (r : Reading) (cs : List Char) : Except Stop Reading :=
  let (name, attached) := match Text.cutFirst '=' cs with
    | some (name, value) => (String.ofList name, some (String.ofList value))
    | none => (String.ofList cs, none)
  match Opt.ofLong? name with
  | none => .error (.unknownWord ("--" ++ String.ofList cs))
  | some o =>
    if o.takesValue then r.option o attached
    else
      match attached with
      | some value => .error (.unneededValue o value)
      | none => r.switch true o

/-- The value that is attached to a letter; an equals sign in front does not belong to it. -/
def attachedValue? : List Char → Option String
  | [] => none
  | '=' :: value => some (String.ofList value)
  | value => some (String.ofList value)

/-- Letters behind one hyphen. -/
def letters (r : Reading) : List Char → Except Stop Reading
  | [] => .ok r
  | c :: rest =>
    match Opt.ofShort? c with
    | none => .error (.unknownWord (String.ofList ['-', c]))
    | some o =>
      if o.takesValue then r.option o (attachedValue? rest)
      else do letters (← r.switch false o) rest

/-- A word that is no option: the value that is waited for. -/
def plainWord (r : Reading) (word : String) : Except Stop Reading :=
  match r.pending with
  | some (o, none) => .ok { r with pending := some (o, some word) }
  | _ => .error (.unknownWord word)

/-- A word. -/
def word (r : Reading) (w : String) : Except Stop Reading :=
  match w.toList with
  | '-' :: '-' :: cs => r.longWord cs
  | '-' :: c :: cs => r.letters (c :: cs)
  | _ => r.plainWord w

/-- Words up to their end.  Two hyphens alone end the options, and nothing may stand behind them. -/
def words (r : Reading) : List String → Except Stop Draft
  | [] => r.settle
  | w :: ws =>
    if w = "--" then
      match ws with
      | [] => r.settle
      | extra :: _ => .error (.unknownWord extra)
    else do words (← r.word w) ws

end Reading

/-- Reads the words of a command line. -/
def Arguments.parse (words : List String) : Except Stop Arguments := do
  let draft ← Reading.words {} words
  draft.arguments

end LoginGate.CommandLine
