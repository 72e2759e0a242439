/-
# Authentication types

The identity providers that a client's credentials can be meant for, each with a name and a numeric
code.  Both are accepted where a type is configured (`AuthType.parse`).
-/
import LoginGate.Text.Blank

namespace LoginGate

/-- The identity provider that a credential targets. -/
inductive AuthType where
  /-- A login service of the game's own studio, reached over HTTP. -/
  | custom
  | steam
  | facebook
  | oculus
  | playStation
  | xbox
  | viveport
  /-- An identity token that is checked against published keys. -/
  | nintendo
  /-- A sealed token that is bound to an application. -/
  | playerIo
  /-- A sealed token for any application. -/
  | jwt
  deriving DecidableEq, Repr, Inhabited

namespace AuthType

/-- All types, in the order in which they are listed everywhere. -/
def all : List AuthType :=
  [custom, steam, facebook, oculus, playStation, xbox, viveport, nintendo, playerIo, jwt]

/-- The numeric code of a type. -/
def code : AuthType → Nat
  | custom => 0
  | steam => 1
  | facebook => 2
  | oculus => 3
  | playStation => 4
  | xbox => 5
  | viveport => 10
  | nintendo => 11
  | playerIo => 12
  | jwt => 13

/-- The name of a type. -/
def name : AuthType → String
  | custom => "Custom"
  | steam => "Steam"
  | facebook => "Facebook"
  | oculus => "Oculus"
  | playStation => "PlayStation"
  | xbox => "Xbox"
  | viveport => "Viveport"
  | nintendo => "Nintendo"
  | playerIo => "PlayerIo"
  | jwt => "Jwt"

/-- The place of a type in the list. -/
def rank (t : AuthType) : Nat := all.idxOf t

/-- The type of a code. -/
def ofCode? (code : Nat) : Option AuthType := all.find? (·.code = code)

/-- The type of a name, written exactly. -/
def ofName? (name : String) : Option AuthType := all.find? (·.name = name)

/-- The text names no authentication type. -/
structure UnknownType where
  text : String
  deriving DecidableEq, Repr

/-- The wording of the error. -/
def UnknownType.message (e : UnknownType) : String := "Unknown authentication type: " ++ e.text

/-- A number below 256 in decimal, with an optional plus sign and any number of leading zeros. -/
def byteCode? (cs : List Char) : Option Nat :=
  let digits := match cs with
    | '+' :: rest => rest
    | rest => rest
  if digits.isEmpty || !digits.all (fun c => '0' ≤ c && c ≤ '9') then none
  else
    let n := digits.foldl (fun n c => 10 * n + (c.toNat - '0'.toNat)) 0
    if n < 256 then some n else none

/-- Equality up to ASCII case. -/
def sameWord (a b : List Char) : Bool := a.map Char.toLower == b.map Char.toLower

/-- Reads a type from its name in any ASCII case or from its code, with blanks around either.  A
text that is a number is never looked up as a name. -/
def parse (s : String) : Except UnknownType AuthType :=
  let word := Text.trimChars s.toList
  let found := match byteCode? word with
    | some code => ofCode? code
    | none => all.find? fun t => sameWord t.name.toList word
  match found with
  | some t => .ok t
  | none => .error ⟨s⟩

theorem mem_all (t : AuthType) : t ∈ all := by cases t <;> decide

theorem ofCode?_code (t : AuthType) : ofCode? t.code = some t := by cases t <;> decide

theorem ofName?_name (t : AuthType) : ofName? t.name = some t := by cases t <;> decide

theorem name_injective {t u : AuthType} (h : t.name = u.name) : t = u := by
  have hname := ofName?_name t
  rw [h, ofName?_name u] at hname
  exact (Option.some.inj hname).symm

end AuthType

end LoginGate
