/-
# Settings from environment variables

A variable sets a place in the setting tree when its name begins with `XAUTH__` in any case.  The
rest of the name is the path, with two underscores for a point, and the value is the first of these
that it can be read as: a truth value, a 64-bit integer, a number, text.  Other variables set
nothing (`layer_of_foreign`).
-/
import LoginGate.Settings.Tree
import LoginGate.Word

namespace LoginGate

/-! ## 1. Reading values -/

/-- A whole number with an optional sign. -/
def wholeNumber? (cs : List Char) : Option Int :=
  let (negative, ds) := Binary64.takeSign cs
  match Binary64.takeDigits ds with
  | (d :: ds, []) =>
    let n : Int := Binary64.digitsValue (d :: ds)
    some (if negative then -n else n)
  | _ => none

/-- A truth value in any case. -/
def truthValue? (s : String) : Option Bool :=
  let word := Text.lowerCase s
  if word = "true" then some true else if word = "false" then some false else none

/-- The setting that the value of a variable stands for. -/
def Setting.ofVariable (s : String) : Setting :=
  match truthValue? s, (wholeNumber? s.toList).filter Word.isInt64, Binary64.parse? s with
  | some b, _, _ => .bool b
  | none, some n, _ => .int n
  | none, none, some x => .float x
  | none, none, none => .text s

/-! ## 2. Reading names -/

/-- What the names of variables for settings begin with. -/
def variableMark : List Char := "xauth__".toList

/-- A point for every two underscores. -/
def pointed : List Char → List Char
  | '_' :: '_' :: cs => '.' :: pointed cs
  | c :: cs => c :: pointed cs
  | [] => []

/-- The written path that a variable sets, if it sets any. -/
def variablePath? (name : String) : Option String :=
  let cs := (Text.lowerCase name).toList
  if variableMark.isPrefixOf cs then some (String.ofList (pointed (cs.drop variableMark.length)))
  else none

/-! ## 3. Layers -/

/-- Written paths with the settings that go there, in order. -/
abbrev SettingLayer := List (String × Setting)

/-- Lays settings over a tree. -/
def Setting.overlay (s : Setting) (layer : SettingLayer) : Setting :=
  layer.foldl (fun s (path, value) => put (.parse path) value s) s

/-- The layer of a TOML table. -/
def SettingLayer.ofToml (t : Toml.Table) : SettingLayer :=
  t.map fun (k, v) => (k, .ofToml v)

/-- The layer of variables; of two that set one path the later one counts.  The maps that variables
go through have no order of their own: a list stands for any walk through them, so what is said of
variables is to hold for every order of the list. -/
def SettingLayer.ofVariables (environment : List (String × String)) : SettingLayer :=
  Entries.ofPairs (environment.filterMap fun (name, value) =>
    (variablePath? name).map fun path => (path, .ofVariable value))

/-- Variables that set nothing leave no trace in the layer. -/
theorem layer_of_foreign {environment : List (String × String)} {name value : String}
    (h : variablePath? name = none) :
    SettingLayer.ofVariables (environment ++ [(name, value)]) =
      SettingLayer.ofVariables environment := by
  simp [SettingLayer.ofVariables, List.filterMap_append, h]

end LoginGate
