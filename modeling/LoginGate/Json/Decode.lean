/-
# Decoding records from JSON

A decoder reads one part of a tree that may nest to a depth.  Records are objects, or arrays of
their fields in order; a field that is repeated is refused and a name that is no field is ignored,
with whatever stands under it.  An enumeration is the name of a variant, or an object of the name
with what the variant holds.
-/
import LoginGate.Json.Reader
import LoginGate.Word

namespace LoginGate.Json

/-- Reads a part of a tree that may nest to a depth. -/
abbrev Decoder (α : Type) := Nat → Tree → Option α

namespace Decoder

variable {α : Type}

/-! ## 1. Values without parts -/

/-- A string. -/
def text : Decoder String := fun _ t =>
  match t with
  | .string raw => text? raw
  | _ => none

/-- A truth value. -/
def bool : Decoder Bool := fun _ t =>
  match t with
  | .bool b => some b
  | _ => none

/-- An integer within bounds, written without point and exponent. -/
def int (low high : Int) : Decoder Int := fun _ t =>
  match t with
  | .number n =>
    match n.number? with
    | some (.integer i) => if low ≤ i && i ≤ high then some i else none
    | _ => none
  | _ => none

/-- A natural number up to a bound. -/
def nat (high : Nat) : Decoder Nat := fun d t => (int 0 high d t).map Int.toNat

/-- A signed 64-bit integer. -/
def int64 : Decoder Int := int Word.minInt64 Word.maxInt64

/-- An unsigned 64-bit integer. -/
def nat64 : Decoder Nat := nat Word.maxNat64

/-- An unsigned 32-bit integer. -/
def nat32 : Decoder Nat := nat Word.maxNat32

/-- Any value. -/
def value : Decoder Value := fun d t => Value.ofTree? d t

/-- Null, or what another decoder reads. -/
def optional (item : Decoder α) : Decoder (Option α) := fun d t =>
  match t with
  | .null => some none
  | t => (item d t).map some

/-! ## 2. Arrays and maps -/

/-- An array of items. -/
def list (item : Decoder α) : Decoder (List α) := fun d t =>
  match t with
  | .array items => if d = 0 then none else items.mapM (item (d - 1))
  | _ => none

/-- The members of an object, each decoded; repeated names are kept. -/
def members (item : Decoder α) : Decoder (List (String × α)) := fun d t =>
  match t with
  | .object ms =>
    if d = 0 then none
    else ms.mapM fun (raw, t) => do
      let k ← text? raw
      let v ← item (d - 1) t
      some (k, v)
  | _ => none

/-! ## 3. Records -/

/-- A field of a record. -/
structure Field where
  name : String
  /-- Whether an array may end before the field. -/
  mayEnd : Bool := false

/-- The parts of the named fields among the members of an object. -/
def pickFields (fields : List Field) :
    List (List UInt8 × Tree) → List (String × Tree) → Option (List (String × Tree))
  | [], found => some found
  | (raw, t) :: rest, found => do
    let k ← text? raw
    if fields.any (·.name = k) then
      if Entries.contains k found then none else pickFields fields rest (found ++ [(k, t)])
    else pickFields fields rest found

/-- The parts of the fields in their order, each with the items of an array; the array ends with a
field that may end it, and holds nothing behind the last field. -/
def assignItems : List Field → List Tree → Option (List (Option Tree))
  | [], [] => some []
  | [], _ :: _ => none
  | f :: fs, [] => if f.mayEnd then (assignItems fs []).map (none :: ·) else none
  | _ :: fs, t :: ts => (assignItems fs ts).map (some t :: ·)

/-- The parts of a record's fields in their order, with the depth that is left for them. -/
def record (fields : List Field) : Decoder (Nat × List (Option Tree)) := fun d t =>
  if d = 0 then none
  else match t with
    | .object ms => do
      let found ← pickFields fields ms []
      some (d - 1, fields.map fun f => Entries.get? f.name found)
    | .array items => (assignItems fields items).map fun parts => (d - 1, parts)
    | _ => none

/-- A field that must be there. -/
def required (item : Decoder α) (d : Nat) (part : Option Tree) : Option α :=
  part.bind (item d)

/-- A field that takes a default when it is missing. -/
def defaulted (default : α) (item : Decoder α) (d : Nat) (part : Option Tree) : Option α :=
  match part with
  | none => some default
  | some t => item d t

/-- A field that may be missing or null. -/
def nullable (item : Decoder α) (d : Nat) (part : Option Tree) : Option (Option α) :=
  defaulted none (optional item) d part

/-! ## 4. Enumerations -/

/-- A variant's name and what stands under it, if it is written as an object of one member. -/
def variant : Decoder (String × Option (Nat × Tree)) := fun d t =>
  match t with
  | .string raw => (text? raw).map fun k => (k, none)
  | .object [(raw, t)] => if d = 0 then none else (text? raw).map fun k => (k, some (d - 1, t))
  | _ => none

/-- What a variant without content may hold: nothing, or null; in a part that was read as a whole
before, an empty object too. -/
def holdsNothing (whole : Bool) : Option (Nat × Tree) → Bool
  | none => true
  | some (_, .null) => true
  | some (_, .object []) => whole
  | _ => false

/-- A variant without content, found by its name. -/
def unitVariant (whole : Bool) (find? : String → Option α) : Decoder α := fun d t => do
  let (k, content) ← variant d t
  if holdsNothing whole content then find? k else none

end Decoder

/-- Decodes a whole text given as bytes. -/
def decodeBytes? {α : Type} (item : Decoder α) (bs : List UInt8) : Option α :=
  (Tree.ofBytes? bs).bind (item maxDepth)

/-- Decodes a whole text. -/
def decode? {α : Type} (item : Decoder α) (s : String) : Option α :=
  decodeBytes? item (Text.Utf8.bytes s)

end LoginGate.Json
