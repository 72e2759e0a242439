/-
# Setting trees

Settings from several sources are laid over one another in a tree before any of them is given a
type.  A path leads to a place in the tree.  Keys on the way are in lower case, what is missing on
the way is made, and what is in the way is replaced (`Setting.put`).  A table that is put under a
key is merged into the table that is there, key by key; every other value takes the place of the old
one.
-/
import LoginGate.Entries
import LoginGate.Text.Blank
import LoginGate.Text.LowerCase
import LoginGate.Toml.Value
import LoginGate.Word

namespace LoginGate

/-! ## 1. Trees -/

/-- A setting, or many of them. -/
inductive Setting where
  /-- A place that was made and never filled. -/
  | nil
  | bool (b : Bool)
  | int (n : Int)
  | float (x : Binary64)
  | text (s : String)
  | list (items : List Setting)
  | table (entries : List (String × Setting))
  deriving Repr, Inhabited, BEq

namespace Setting

mutual

/-- The setting that a TOML value stands for; dates and times are text. -/
def ofToml : Toml.Value → Setting
  | .text s => .text s
  | .integer n => .int n
  | .float x => .float x
  | .bool b => .bool b
  | .dateTime d => .text d.text
  | .array items => .list (ofTomlItems items)
  | .table es => .table (ofTomlEntries es)
termination_by structural v => v

/-- The settings of the items of an array. -/
def ofTomlItems : List Toml.Value → List Setting
  | [] => []
  | v :: vs => ofToml v :: ofTomlItems vs
termination_by structural vs => vs

/-- The settings under the keys of a table. -/
def ofTomlEntries : List (String × Toml.Value) → List (String × Setting)
  | [] => []
  | (k, v) :: es => (k, ofToml v) :: ofTomlEntries es
termination_by structural es => es

end

/-! ## 2. Places -/

/-- The entries of a table; everything else has none. -/
def entries : Setting → List (String × Setting)
  | table es => es
  | _ => []

/-- The items of a list; everything else has none. -/
def items : Setting → List Setting
  | list is => is
  | _ => []

/-- Changes what stands under a key, in a table that takes the place of anything else. -/
def changeEntry (key : String) (f : Setting → Setting) (s : Setting) : Setting :=
  table (Entries.insert key (f ((Entries.get? key s.entries).getD nil)) s.entries)

/-- The place of an index in a list of a length; negative indices count from its end. -/
def resolveIndex (index : Int) (length : Nat) : Nat :=
  if 0 ≤ index then index.toNat else length - index.natAbs

/-- Changes an item, in a list that takes the place of anything else and is filled up to the item.
-/
def changeItem (index : Int) (f : Setting → Setting) (s : Setting) : Setting :=
  let place := resolveIndex index s.items.length
  list ((s.items ++ List.replicate (place + 1 - s.items.length) nil).modify place f)

/-! ## 3. Merging -/

mutual

/-- Puts a value under a key. -/
def merge (key : String) (value : Setting) (s : Setting) : Setting :=
  let key := Text.lowerCase key
  match value with
  | .table es =>
    let target := (Entries.get? key s.entries).getD (table [])
    table (Entries.insert key (mergeAll es target) s.entries)
  | value => table (Entries.insert key value s.entries)
termination_by structural value

/-- Puts values under their keys, one after another. -/
def mergeAll (es : List (String × Setting)) (s : Setting) : Setting :=
  match es with
  | [] => s
  | (k, v) :: es => mergeAll es (merge k v s)
termination_by structural es

end

/-! ## 4. Paths -/

/-- A step on the way to a place. -/
inductive Step where
  | key (k : String)
  | index (i : Int)
  deriving DecidableEq, Repr

/-- A way through a tree: its first step and the steps behind it. -/
structure Path where
  first : Step
  others : List Step := []
  deriving DecidableEq, Repr

/-- Puts a value at the end of a way. -/
def putAt (value : Setting) : Step → List Step → Setting → Setting
  | .key k, [], s => merge k value s
  | .index i, [], s => changeItem i (fun _ => value) s
  | .key k, step :: steps, s => changeEntry (Text.lowerCase k) (putAt value step steps) s
  | .index i, step :: steps, s => changeItem i (putAt value step steps) s

/-- Puts a value at the end of a path. -/
def put (path : Path) (value : Setting) (s : Setting) : Setting :=
  putAt value path.first path.others s

/-! ## 5. Written paths -/

/-- Whether a character may stand in a key of a written path. -/
def isKeyChar (c : Char) : Bool :=
  c.isAlphanum || c == ' ' || c == '_' || c == '-'

/-- A key of a written path. -/
def takeKey? (cs : List Char) : Option (String × List Char) :=
  let k := cs.takeWhile isKeyChar
  if k.isEmpty then none else some (String.ofList k, cs.dropWhile isKeyChar)

/-- An index with its closing bracket; blanks may stand around it. -/
def takeIndex? (cs : List Char) : Option (Int × List Char) :=
  let cs := Text.skipSpaces cs
  let (negative, cs) := match cs with
    | '-' :: rest => (true, rest)
    | cs => (false, cs)
  let (ds, rest) := Binary64.takeDigits cs
  let n : Int := Binary64.digitsValue ds
  let n := if negative then -n else n
  match ds, Text.skipSpaces rest with
  | _ :: _, ']' :: rest => if Word.isInt64 n then some (n, rest) else none
  | _, _ => none

/-- The steps behind the first key of a written path; the first argument bounds their number. -/
def steps? : Nat → List Char → Option (List Step)
  | 0, _ => none
  | _ + 1, [] => some []
  | fuel + 1, c :: rest =>
    if c = '.' then do
      let (k, rest) ← takeKey? rest
      let steps ← steps? fuel rest
      some (.key k :: steps)
    else if c = '[' then do
      let (i, rest) ← takeIndex? rest
      let steps ← steps? fuel rest
      some (.index i :: steps)
    else none

/-- Reads a path: a key, and then keys behind points and indices in brackets.  A text of any other
form is a key as a whole. -/
def Path.parse (s : String) : Path :=
  let read := do
    let (k, rest) ← takeKey? s.toList
    let steps ← steps? (rest.length + 1) rest
    some { first := Step.key k, others := steps : Path }
  read.getD { first := .key s }

end Setting

end LoginGate
