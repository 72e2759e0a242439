/-
# Values that may be passed over

Some parts of a text are looked at without being needed: one that cannot be understood is passed
over, provided that reading has come to its end, for what follows is read from where reading
stopped.

Reading stops short of the end inside a string that escapes half of a surrogate pair and goes on
behind it, inside an exponent that leaves its bounds before its last digits, and at everything that
stands behind the first part of an array or an object that is out of order.  The last item of an
array and the value of the last member of an object may be out of order themselves
(`Tree.isPassable`).
-/
import LoginGate.Json.Reader

namespace LoginGate.Json

/-- Whether a numeral is read to its end, be it in range or not.  An exponent is given up at the
first digit that takes it out of its bounds, unless it is negative or all digits in front of it are
zeros. -/
def Numeral.isPassable (n : Numeral) : Bool :=
  match n.exponent with
  | none => true
  | some (down, ds) =>
    down || (n.whole ++ n.fraction).all (· == 0) ||
      Binary64.digitsValue ds / 10 ≤ maxExponentDigits

/-- Whether the inside of a string is read to its end, be it well-formed or not.  The character
behind the first half of a surrogate pair is read in any case, and it may be the closing quote. -/
def isPassableText : List UInt8 → Bool
  | [] => true
  | 0x5C :: 0x75 :: a :: b :: c :: d :: rest =>
    let unit := hexUnit a b c d
    if 0xD800 ≤ unit && unit ≤ 0xDBFF then
      match rest with
      | [] => true
      | 0x5C :: 0x75 :: e :: f :: g :: h :: rest =>
        let low := hexUnit e f g h
        0xDC00 ≤ low && low ≤ 0xDFFF && isPassableText rest
      | _ => false
    else if 0xDC00 ≤ unit && unit ≤ 0xDFFF then false
    else isPassableText rest
  | 0x5C :: _ :: rest => isPassableText rest
  | _ :: rest => isPassableText rest

mutual

/-- Whether a value that may nest to a depth is read to its end. -/
def Tree.isPassable (depth : Nat) : Tree → Bool
  | .null | .bool _ => true
  | .number n => n.isPassable
  | .string raw => isPassableText raw
  | .array items => 0 < depth && itemsPassable (depth - 1) items
  | .object members => 0 < depth && membersPassable (depth - 1) members
termination_by structural t => t

/-- Whether the items of an array are read to the end of the last one. -/
def itemsPassable (depth : Nat) : List Tree → Bool
  | [] => true
  | t :: ts =>
    if ts.isEmpty then t.isPassable depth
    else (Value.ofTree? depth t).isSome && itemsPassable depth ts
termination_by structural ts => ts

/-- Whether the members of an object are read to the end of the last one. -/
def membersPassable (depth : Nat) : List (List UInt8 × Tree) → Bool
  | [] => true
  | (raw, t) :: ms =>
    (text? raw).isSome &&
      if ms.isEmpty then t.isPassable depth
      else (Value.ofTree? depth t).isSome && membersPassable depth ms
termination_by structural ms => ms

end

end LoginGate.Json
