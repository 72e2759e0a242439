/-
# TOML documents

A document is the table that its statements make: pairs go into the table of the latest header, or
into the document itself before the first one.  `parse?` reads a whole text, and fails when the text
is no row of statements, when the statements do not go together, or when a marked table is no date.
-/
import LoginGate.Toml.Marked
import LoginGate.Toml.Statement

namespace LoginGate.Toml

/-- A document that still grows, with the path of its latest header. -/
structure Draft where
  root : GrowingTable := []
  path : KeyPath := []

namespace Draft

/-- Adds a statement. -/
def add? (d : Draft) : Statement → Option Draft
  | .table path => (d.root.alter? GrowingTable.openTable path).map fun root => { root, path }
  | .item path => (d.root.alter? GrowingTable.openItem path).map fun root => { root, path }
  | .pair path v =>
    let root :=
      if d.path.isEmpty then d.root.insert? v path true
      else d.root.alter? (GrowingTable.addPair path v) d.path
    root.map fun root => { d with root }

end Draft

/-- The table that statements make. -/
def assemble? (statements : List Statement) : Option Table :=
  (statements.foldlM Draft.add? {}).map fun d => finishEntries d.root

/-- Drops the mark that may open a text file. -/
def dropMark : List Char → List Char
  | '\uFEFF' :: rest => rest
  | cs => cs

/-- The table of a whole text.  A document that is marked as a date as a whole is no table. -/
def parse? (s : String) : Option Table := do
  let cs := dropMark s.toList
  let statements ← statements? (cs.length + 1) cs
  let table ← assemble? statements
  match ← Value.resolved? (.table table) with
  | .table es => some es
  | _ => none

end LoginGate.Toml
