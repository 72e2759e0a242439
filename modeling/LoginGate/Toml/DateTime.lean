/-
# Dates and times in TOML

A date, a time of day, or a date with a time and perhaps an offset.  Settings use these as text
only, so what counts is which texts are dates and times and how such a value is written back: with
`T` between the parts, a fraction of at most nine digits without zeros at its end, and an offset of
zero as `Z` or `+00:00` as it was given.
-/
import LoginGate.Binary64.Decimal

namespace LoginGate.Toml

/-! ## 1. Values -/

/-- A calendar date. -/
structure Date where
  year : Nat
  month : Nat
  day : Nat
  deriving DecidableEq, Repr

/-- A time of day; a second may be a leap second. -/
structure Time where
  hour : Nat
  minute : Nat
  second : Nat
  nanosecond : Nat
  deriving DecidableEq, Repr

/-- How far a clock is ahead of universal time. -/
inductive Offset where
  | universal
  | minutes (n : Int)
  deriving DecidableEq, Repr

/-- A date, a time, or both. -/
inductive DateTime where
  | date (d : Date)
  | time (t : Time)
  | both (d : Date) (t : Time) (offset : Option Offset)
  deriving DecidableEq, Repr

/-! ## 2. Writing -/

/-- A natural number with zeros in front up to a width. -/
def padded (width n : Nat) : List Char :=
  let ds := Nat.toDigits 10 n
  List.replicate (width - ds.length) '0' ++ ds

/-- The text of a date. -/
def Date.chars (d : Date) : List Char :=
  padded 4 d.year ++ '-' :: padded 2 d.month ++ '-' :: padded 2 d.day

/-- The text of a time. -/
def Time.chars (t : Time) : List Char :=
  let fraction :=
    if t.nanosecond = 0 then []
    else '.' :: ((padded 9 t.nanosecond).reverse.dropWhile (· == '0')).reverse
  padded 2 t.hour ++ ':' :: padded 2 t.minute ++ ':' :: padded 2 t.second ++ fraction

/-- The text of an offset. -/
def Offset.chars : Offset → List Char
  | .universal => ['Z']
  | .minutes n =>
    (if n < 0 then '-' else '+') :: padded 2 (n.natAbs / 60) ++ ':' :: padded 2 (n.natAbs % 60)

/-- The text of a date, a time or both. -/
def DateTime.text : DateTime → String
  | date d => String.ofList d.chars
  | time t => String.ofList t.chars
  | both d t offset =>
    String.ofList (d.chars ++ 'T' :: t.chars ++ (offset.map Offset.chars).getD [])

/-! ## 3. The calendar -/

/-- Whether a year has a leap day. -/
def isLeapYear (year : Nat) : Bool :=
  year % 4 == 0 && (year % 100 != 0 || year % 400 == 0)

/-- How many days a month has. -/
def daysInMonth (year month : Nat) : Nat :=
  if month = 2 then (if isLeapYear year then 29 else 28)
  else if month = 4 || month = 6 || month = 9 || month = 11 then 30
  else 31

/-! ## 4. Reading -/

/-- A number of exactly so many digits. -/
def fixedDigits? (width : Nat) (cs : List Char) : Option (Nat × List Char) :=
  let ds := (cs.take width).filterMap Binary64.digit?
  if ds.length = width then some (Binary64.digitsValue ds, cs.drop width) else none

/-- The rest behind an expected character. -/
def sign? (c : Char) : List Char → Option (List Char)
  | d :: cs => if d = c then some cs else none
  | [] => none

/-- A number of two digits up to a bound. -/
def twoDigits? (most : Nat) (cs : List Char) : Option (Nat × List Char) :=
  (fixedDigits? 2 cs).filter (·.1 ≤ most)

/-- A date. -/
def Date.read? (cs : List Char) : Option (Date × List Char) := do
  let (year, cs) ← fixedDigits? 4 cs
  let cs ← sign? '-' cs
  let (month, cs) ← twoDigits? 12 cs
  let cs ← sign? '-' cs
  let (day, cs) ← twoDigits? 31 cs
  if 1 ≤ month && 1 ≤ day && day ≤ daysInMonth year month then some (⟨year, month, day⟩, cs)
  else none

/-- The digits behind the point of a second as nanoseconds; digits behind the ninth do not count. -/
def nanoseconds (ds : List Nat) : Nat :=
  let ds := ds.take 9
  Binary64.digitsValue ds * Nat.pow 10 (9 - ds.length)

/-- A time of day. -/
def Time.read? (cs : List Char) : Option (Time × List Char) := do
  let (hour, cs) ← twoDigits? 23 cs
  let cs ← sign? ':' cs
  let (minute, cs) ← twoDigits? 59 cs
  let cs ← sign? ':' cs
  let (second, cs) ← twoDigits? 60 cs
  match cs with
  | '.' :: rest =>
    let (ds, rest) := Binary64.takeDigits rest
    if ds.isEmpty then none else some (⟨hour, minute, second, nanoseconds ds⟩, rest)
  | _ => some (⟨hour, minute, second, 0⟩, cs)

/-- An offset, if one follows. -/
def Offset.read? (cs : List Char) : Option (Option Offset × List Char) :=
  match cs with
  | [] => some (none, [])
  | c :: rest =>
    if c = 'Z' || c = 'z' then some (some .universal, rest)
    else if c = '+' || c = '-' then do
      let (hour, rest) ← twoDigits? 23 rest
      let rest ← sign? ':' rest
      let (minute, rest) ← twoDigits? 59 rest
      let n : Int := (hour * 60 + minute : Nat)
      some (some (.minutes (if c = '-' then -n else n)), rest)
    else some (none, cs)

/-- Whether a character may stand between a date and a time. -/
def isDelimiter (c : Char) : Bool := c == 'T' || c == 't' || c == ' '

/-- A date, a time or both.  A blank behind a date belongs to it only when a time follows. -/
def DateTime.read? (cs : List Char) : Option (DateTime × List Char) :=
  match Date.read? cs with
  | none => (Time.read? cs).map fun (t, rest) => (time t, rest)
  | some (d, rest) =>
    match rest with
    | [] => some (date d, [])
    | c :: behind =>
      if isDelimiter c then
        match Time.read? behind with
        | none => some (date d, rest)
        | some (t, behind) => do
          let (offset, behind) ← Offset.read? behind
          some (both d t offset, behind)
      else some (date d, rest)

end LoginGate.Toml
