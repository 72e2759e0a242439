/-
# The body of a map payload

A map payload is sent as the text of a JSON object.  What is read from that text is an object with
the payload's names in the payload's order, whatever the provider and the client's query string are:
under a name that the dashboard sets it holds the dashboard's value, and under any other the
payload's own (`map_body_read_back`).  Names of the dashboard that the payload does not have stay out
of it.
-/
import LoginGate.Proofs.Json.Nesting
import LoginGate.Proofs.RequiredParameters

namespace LoginGate.MergedRequest

open Json

variable {dashboard : QueryParams} {members : Members}

/-! ## 1. Members with the dashboard's values -/

/-- The dashboard adds no name and moves none. -/
theorem keys_overrideMembers (dashboard : QueryParams) (members : Members) :
    Entries.keys (overrideMembers dashboard members) = Entries.keys members := by
  rw [overrideMembers_eq_map, Entries.keys, List.map_map]
  rfl

/-- The dashboard's values are texts, so with them a payload nests no deeper. -/
theorem isExact_overrideMembers (dashboard : QueryParams) {depth : Nat}
    (h : (Value.object members).isExact depth = true) :
    (Value.object (overrideMembers dashboard members)).isExact depth = true := by
  rw [Value.isExact, Bool.and_eq_true, membersExact_iff] at h ⊢
  rw [keys_overrideMembers]
  refine ⟨h.1, fun m hm => ?_⟩
  rw [overrideMembers_eq_map] at hm
  obtain ⟨⟨name, own⟩, hown, rfl⟩ := List.mem_map.mp hm
  dsimp only
  cases dashboard.get? name with
  | some s => rfl
  | none => exact h.2 _ hown

/-! ## 2. The text of a body -/

/-- A call with a body is a post of it. -/
theorem toCall_of_body {m : MergedRequest} {body : List UInt8} (h : m.body = some body)
    (baseUri : String) :
    m.toCall baseUri =
      { method := .post, url := appendQuery baseUri m.queryString, body := some body
        contentType := m.contentType } := by
  rw [toCall, h]

/-- **What is read of the body of a map payload.**  The payload has no numbers but integers of 64
bits, repeats no name within an object and nests no deeper than can be read.  Then it is merged, the
call is a post of JSON, and its body is read back with the payload's names in their order, each with
the dashboard's value or else with the payload's own. -/
theorem map_body_read_back (provider : Provider) (client : Option String) {members : Members}
    (h : (Value.object members).isExact maxDepth = true) (baseUri : String) :
    ∃ m body sent, ofParts provider client (some (.map members)) = .ok m ∧
      (m.toCall baseUri).method = .post ∧
      (m.toCall baseUri).contentType = some "application/json" ∧
      (m.toCall baseUri).body = some body ∧
      Value.ofBytes? body = some (.object sent) ∧
      Entries.keys sent = Entries.keys members ∧
      ∀ name own, Entries.get? name members = some own →
        Entries.get? name sent =
          some (match provider.dashboard.get? name with
            | some value => .string value
            | none => own) := by
  obtain ⟨m, hm⟩ : ∃ m, ofParts provider client (some (.map members)) = .ok m := ⟨_, rfl⟩
  obtain ⟨hbody, htype⟩ := body_of_jsonMembers hm rfl
  have hcall := toCall_of_body hbody baseUri
  have hexact := isExact_overrideMembers provider.dashboard h
  have hread : Value.ofBytes? (Text.Utf8.encode
      (Value.object (overrideMembers provider.dashboard members)).write) =
        some (.object (overrideMembers provider.dashboard members)) := by
    rw [Value.ofBytes?, ofBytes?_write hexact, Option.bind_some, ofTree?_tree hexact]
  refine ⟨m, _, _, hm, by rw [hcall], by rw [hcall]; exact htype, by rw [hcall], hread,
    keys_overrideMembers _ _, fun name own hown => ?_⟩
  rw [get?_overrideMembers, hown]
  cases provider.dashboard.get? name <;> rfl

namespace Example

/-- A dashboard with a secret, and with a text that has to be escaped. -/
def guarded : Provider :=
  { authType := .custom
    baseUri := "https://id.example/check?v=2"
    dashboard := { entries := [("secret", "s"), ("say \"hi\"", "a\nb")] }
    forwardAsJson := true }

/-- Members in an order of their own, one of them with a name of the dashboard. -/
def nested : Json.Members :=
  [("z", .array [.int Word.maxNat64, .int Word.minInt64, .object [("z", .null)]]),
    ("say \"hi\"", .int 1), ("a", .bool true)]

end Example

theorem map_body_read_back_nested :
    (Value.object Example.nested).isExact maxDepth = true ∧
    ∃ m body sent,
      ofParts Example.guarded (some "a=2&b=3") (some (.map Example.nested)) = .ok m ∧
      (m.toCall Example.guarded.baseUri).method = .post ∧
      (m.toCall Example.guarded.baseUri).body = some body ∧
      Value.ofBytes? body = some (.object sent) ∧
      Entries.keys sent = ["z", "say \"hi\"", "a"] ∧
      Entries.get? "z" sent =
        some (.array [.int Word.maxNat64, .int Word.minInt64, .object [("z", .null)]]) ∧
      Entries.get? "say \"hi\"" sent = some (.string "a\nb") ∧
      Entries.get? "a" sent = some (.bool true) := by
  have hexact : (Value.object Example.nested).isExact maxDepth = true := by decide
  obtain ⟨m, body, sent, hm, hmethod, -, hbody, hread, hkeys, hvalues⟩ :=
    map_body_read_back Example.guarded (some "a=2&b=3") hexact Example.guarded.baseUri
  exact ⟨hexact, m, body, sent, hm, hmethod, hbody, hread, hkeys, hvalues "z" _ rfl,
    hvalues "say \"hi\"" _ rfl, hvalues "a" _ rfl⟩

end LoginGate.MergedRequest
