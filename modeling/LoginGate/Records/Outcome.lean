/-
# Records of players and outcomes

The JSON forms of accepted players and of outcomes.  The record of an outcome names its variant
under `result`, among the fields of the variant; the whole object is read before the variant is
known, so every part of it has to be in bounds.
-/
import LoginGate.Records.Names

namespace LoginGate

open Json

/-! ## 1. Players -/

namespace Player

/-- The members of the record of a player. -/
def members (p : Player) : Members :=
  [("user_id", .string p.userId),
    ("nickname", Value.optString p.nickname),
    ("auth_cookie", p.authCookie.getD .null),
    ("expire_at", Value.optInt p.expireAt)]

/-- The record of a player. -/
def toJson (p : Player) : Value := .object p.members

/-- The fields of the record. -/
def recordFields : List Decoder.Field :=
  [⟨"user_id", false⟩, ⟨"nickname", false⟩, ⟨"auth_cookie", false⟩, ⟨"expire_at", false⟩]

/-- Reads a player from the parts of the record's fields. -/
def ofParts (d : Nat) : List (Option Tree) → Option Player
  | [userId, nickname, authCookie, expireAt] => do
    let userId ← Decoder.required Decoder.text d userId
    let nickname ← Decoder.nullable Decoder.text d nickname
    let authCookie ← Decoder.nullable Decoder.value d authCookie
    let expireAt ← Decoder.nullable Decoder.int64 d expireAt
    some { userId, nickname, authCookie, expireAt }
  | _ => none

/-- Reads the record of a player. -/
def decoder : Decoder Player := fun d t => do
  let (d, parts) ← Decoder.record recordFields d t
  ofParts d parts

end Player

/-! ## 2. Outcomes -/

namespace Outcome

/-- The record of an outcome. -/
def toJson : Outcome → Value
  | accepted p => .object (("result", .string "Ok") :: p.members)
  | incomplete data => .object [("result", .string "OkWithData"), ("data", data)]
  | failed kind message =>
    .object [("result", .string "Failed"), ("kind", kind.toJson), ("message", .string message)]
  | parameterInvalid message =>
    .object [("result", .string "ParameterInvalid"), ("message", .string message)]

/-- The name of the variant and the other parts of the record, as members or as items. -/
def splitVariant (d : Nat) : Tree → Option (String × Tree)
  | .object ms => do
    let named ← ms.mapM fun (raw, t) => (text? raw).map fun k => (k, raw, t)
    match named.filter (·.1 = "result") with
    | [(_, _, tag)] =>
      let tag ← Decoder.text d tag
      some (tag, .object ((named.filter (·.1 ≠ "result")).map (·.2)))
    | _ => none
  | .array (tag :: items) => do
    let tag ← Decoder.text d tag
    some (tag, .array items)
  | _ => none

/-- Reads the record of an outcome. -/
def decoder : Decoder Outcome := fun d t =>
  if d = 0 then none
  else do
    let (tag, content) ← splitVariant (d - 1) t
    let _ ← Value.ofTree? d content
    match tag with
    | "Ok" =>
      let (d, parts) ← Decoder.record Player.recordFields d content
      (Player.ofParts d parts).map accepted
    | "OkWithData" =>
      match ← Decoder.record [⟨"data", false⟩] d content with
      | (d, [data]) => (Decoder.required Decoder.value d data).map incomplete
      | _ => none
    | "Failed" =>
      match ← Decoder.record [⟨"kind", false⟩, ⟨"message", false⟩] d content with
      | (d, [kind, message]) =>
        let kind ← Decoder.required (FailureKind.decoder true) d kind
        let message ← Decoder.required Decoder.text d message
        some (failed kind message)
      | _ => none
    | "ParameterInvalid" =>
      match ← Decoder.record [⟨"message", false⟩] d content with
      | (d, [message]) => (Decoder.required Decoder.text d message).map parameterInvalid
      | _ => none
    | _ => none

end Outcome

end LoginGate
