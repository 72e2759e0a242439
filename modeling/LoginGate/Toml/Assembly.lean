/-
# Assembling TOML tables

Tables grow pair by pair.  A table is opened by a header, or on the way to a deeper one, or by a
dotted key, and the way in which it came about decides what may still be added to it: a header may
open a table that stands on the way to a deeper one, dotted keys may only add to tables that dotted
keys opened, and no key is given twice.
-/
import LoginGate.Entries
import LoginGate.Toml.Value

namespace LoginGate.Toml

/-! ## 1. Growing tables -/

/-- How a table came about. -/
inductive Origin where
  /-- A header of its own. -/
  | header
  /-- It stands on the way of a header. -/
  | way
  /-- It stands on the way of a dotted key. -/
  | dotted
  deriving DecidableEq, Repr

/-- What stands under a key while tables grow. -/
inductive Growth where
  | value (v : Value)
  | table (origin : Origin) (entries : List (String × Growth))
  /-- The tables of an array that headers opened, the latest one last. -/
  | tables (earlier : List (List (String × Growth))) (latest : List (String × Growth))
  deriving Inhabited

/-- A table that still grows. -/
abbrev GrowingTable := List (String × Growth)

/-- The keys that lead to a place, the outermost one first. -/
abbrev KeyPath := List String

namespace GrowingTable

/-! ## 2. Pairs -/

/-- Adds a value under a dotted key.  The flag tells whether the table may take a key of its own:
the table of the header may, and below it only tables that dotted keys opened. -/
def insert? (v : Value) : KeyPath → Bool → GrowingTable → Option GrowingTable
  | [], _, _ => none
  | [k], takes, t => if takes && !Entries.contains k t then some (t ++ [(k, .value v)]) else none
  | k :: k' :: path, _, t => do
    let below ← match Entries.get? k t with
      | none => (insert? v (k' :: path) true []).map (Growth.table .dotted)
      | some (.table .header _) => none
      | some (.table origin es) =>
        (insert? v (k' :: path) (origin == .dotted) es).map (Growth.table origin)
      | some (.tables earlier latest) =>
        (insert? v (k' :: path) false latest).map (Growth.tables earlier)
      | some (.value _) => none
    some (Entries.insert k below t)

/-! ## 3. Headers -/

/-- Changes the table that holds the last key of a path, by a function that is told this key; tables
on the way are opened where they are missing, and of an array of tables the latest one is meant. -/
def alter? (f : String → GrowingTable → Option GrowingTable) :
    KeyPath → GrowingTable → Option GrowingTable
  | [], _ => none
  | [k], t => f k t
  | k :: k' :: path, t => do
    let below ← match Entries.get? k t with
      | none => (alter? f (k' :: path) []).map (Growth.table .way)
      | some (.table origin es) => (alter? f (k' :: path) es).map (Growth.table origin)
      | some (.tables earlier latest) => (alter? f (k' :: path) latest).map (Growth.tables earlier)
      | some (.value _) => none
    some (Entries.insert k below t)

/-- Opens the table of a header, behind all that stands around it.  A table that is only on the way
to a deeper one keeps what it holds and moves there too. -/
def openTable (k : String) (t : GrowingTable) : Option GrowingTable :=
  let atEnd (es : GrowingTable) := t.filter (·.1 ≠ k) ++ [(k, Growth.table .header es)]
  match Entries.get? k t with
  | none => some (atEnd [])
  | some (.table .way es) => some (atEnd es)
  | _ => none

/-- Opens one more table of an array of tables. -/
def openItem (k : String) (t : GrowingTable) : Option GrowingTable :=
  match Entries.get? k t with
  | none => some (Entries.insert k (.tables [] []) t)
  | some (.tables earlier latest) => some (Entries.insert k (.tables (earlier ++ [latest]) []) t)
  | _ => none

/-- Adds a pair to the table of a header. -/
def addPair (path : KeyPath) (v : Value) (k : String) (t : GrowingTable) : Option GrowingTable := do
  let grown ← match Entries.get? k t with
    | some (.table origin es) => (insert? v path true es).map (Growth.table origin)
    | some (.tables earlier latest) => (insert? v path true latest).map (Growth.tables earlier)
    | _ => none
  some (Entries.insert k grown t)

end GrowingTable

/-! ## 4. Finished tables -/

mutual

/-- The value of what stands under a key. -/
def Growth.finish : Growth → Value
  | .value v => v
  | .table _ es => .table (finishEntries es)
  | .tables earlier latest =>
    .array (finishItems earlier ++ [.table (finishEntries latest)])
termination_by structural g => g

/-- The finished entries of a table. -/
def finishEntries : List (String × Growth) → List (String × Value)
  | [] => []
  | (k, g) :: rest => (k, g.finish) :: finishEntries rest
termination_by structural es => es

/-- The finished tables of an array. -/
def finishItems : List (List (String × Growth)) → List Value
  | [] => []
  | es :: rest => .table (finishEntries es) :: finishItems rest
termination_by structural ts => ts

end

end LoginGate.Toml
