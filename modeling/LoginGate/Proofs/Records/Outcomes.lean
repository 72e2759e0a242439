/-
# Outcomes are read back

The record of an outcome names its variant among the fields of the variant, so reading it takes the
two apart again (`Outcome.splitVariant_tree`), and what is left has to be in bounds as a whole before
the variant is read.  An outcome can hold a JSON value, the cookie of a player or the data for a
client, which stands one level deep in the record; where the value leaves room for that, the outcome
is read back (`Outcome.decode?_toJson`).

A cookie that is null is written like none and would be read as none.  A proper outcome has an object
as its cookie, if it has one (`Outcome.IsProper`).
-/
import LoginGate.Proofs.Json.Nesting
import LoginGate.Records.Outcome

namespace LoginGate

open Json

/-! ## 1. Failure kinds -/

namespace FailureKind

theorem isExact_toJson (k : FailureKind) : k.toJson.isExact 1 = true := by
  cases k <;> rfl

theorem decoder_string (whole : Bool) (depth : Nat) {name : String} (h : name ≠ "Transport") :
    decoder whole depth (Value.tree (.string name)) = Entries.get? name plainNames := by
  rw [Value.tree, decoder, Decoder.variant, text?_escaped]
  simp [h, Decoder.holdsNothing]

/-- A kind is read back, the one that holds a queue result included. -/
theorem decoder_tree (whole : Bool) {depth : Nat} (hd : depth ≠ 0) (k : FailureKind) :
    decoder whole depth k.toJson.tree = some k := by
  cases k with
  | transport r =>
    have hresult : QueueResult.decoder whole (depth - 1) r.toJson.tree = some r := by
      rw [QueueResult.decoder, QueueResult.toJson, unitVariant_tree, QueueResult.ofName?_name]
    have hvariant : Decoder.variant depth (toJson (.transport r)).tree =
        some ("Transport", some (depth - 1, r.toJson.tree)) := by
      rw [toJson, name, Value.tree, memberTrees, memberTrees, Decoder.variant, if_neg hd,
        text?_escaped]
      rfl
    rw [decoder, hvariant]
    simp [hresult]
  | _ => exact decoder_string whole depth (by decide)

end FailureKind

/-! ## 2. Players -/

namespace Player

/-- Whether the cookie is an object, if there is one, and the time an integer of 64 bits. -/
structure IsProper (p : Player) : Prop where
  authCookie : ∀ v ∈ p.authCookie, v.isObject = true
  expireAt : ∀ n ∈ p.expireAt, Word.isInt64 n = true

variable {p : Player}

theorem parts_eq (p : Player) :
    (recordFields.map fun f => (Entries.get? f.name p.members).map Value.tree) =
      [some (Value.tree (.string p.userId)), some (Value.optString p.nickname).tree,
        some (p.authCookie.getD .null).tree, some (Value.optInt p.expireAt).tree] := rfl

theorem nodup_keys_members (p : Player) : (Entries.keys p.members).Nodup := by
  simp [members, Entries.keys]

theorem nullable_authCookie (h : p.IsProper) {depth : Nat}
    (hfits : ∀ v ∈ p.authCookie, v.isExact depth = true) :
    Decoder.nullable Decoder.value depth (some (p.authCookie.getD .null).tree) =
      some p.authCookie := by
  cases hcookie : p.authCookie with
  | none => rfl
  | some v =>
    have hobject : v.tree ≠ .null := by
      have := h.authCookie v hcookie
      cases v <;> simp_all [Value.isObject, Value.tree]
    rw [Option.getD_some, nullable_of_ne_null _ depth hobject, Decoder.value,
      ofTree?_tree (hfits v hcookie), Option.map_some]

/-- A player is read back from the parts of the record, if the cookie is in bounds. -/
theorem ofParts_tree (h : p.IsProper) {depth : Nat}
    (hfits : ∀ v ∈ p.authCookie, v.isExact depth = true) :
    ofParts depth (recordFields.map fun f => (Entries.get? f.name p.members).map Value.tree) =
      some p := by
  rw [parts_eq, ofParts]
  simp only [Option.bind_eq_bind, Option.bind_some, Decoder.required, text_tree,
    nullable_optString_tree, nullable_authCookie h hfits, nullable_optInt_tree depth h.expireAt]

end Player

/-! ## 3. Outcomes -/

namespace Outcome

/-- The name of the variant. -/
def variantName : Outcome → String
  | accepted _ => "Ok"
  | incomplete _ => "OkWithData"
  | failed .. => "Failed"
  | parameterInvalid _ => "ParameterInvalid"

/-- The members of the record behind the name of the variant. -/
def content : Outcome → Members
  | accepted p => p.members
  | incomplete data => [("data", data)]
  | failed kind message => [("kind", kind.toJson), ("message", .string message)]
  | parameterInvalid message => [("message", .string message)]

/-- The JSON values in an outcome. -/
def values : Outcome → List Value
  | accepted p => p.authCookie.toList
  | incomplete data => [data]
  | failed .. | parameterInvalid _ => []

/-- Whether the player is proper, if one was accepted. -/
def IsProper : Outcome → Prop
  | accepted p => p.IsProper
  | _ => True

variable {o : Outcome}

theorem toJson_eq (o : Outcome) :
    o.toJson = .object (("result", .string o.variantName) :: o.content) := by
  cases o <;> rfl

theorem nodup_keys_content (o : Outcome) : (Entries.keys o.content).Nodup := by
  cases o with
  | accepted p => exact p.nodup_keys_members
  | _ => simp [content, Entries.keys]

theorem result_not_mem_keys (o : Outcome) : "result" ∉ Entries.keys o.content := by
  cases o <;> simp [content, Player.members, Entries.keys]

/-- The content is in bounds where the JSON value in it is. -/
theorem isExact_content (h : o.IsProper) {depth : Nat} (hd : depth ≠ 0) :
    (Value.object o.content).isExact (depth + 1) = true ↔
      ∀ v ∈ o.values, v.isExact depth = true := by
  have hnd : decide (Entries.keys o.content).Nodup = true := decide_eq_true o.nodup_keys_content
  rw [Value.isExact, hnd, Nat.add_sub_cancel]
  simp only [Nat.zero_lt_succ, decide_true, Bool.and_true, Bool.true_and, membersExact_iff]
  cases o with
  | accepted p =>
    have hint : (Value.optInt p.expireAt).isExact depth = true := isExact_optInt h.expireAt depth
    have hcookie : (p.authCookie.getD .null).isExact depth = true ↔
        ∀ v ∈ p.authCookie.toList, v.isExact depth = true := by
      cases p.authCookie <;> simp [Value.isExact]
    simp [content, Player.members, values, Value.isExact, isExact_optString, hint, hcookie]
  | incomplete data => simp [content, values]
  | failed kind message =>
    have hkind : kind.toJson.isExact depth = true :=
      isExact_mono (Nat.one_le_iff_ne_zero.mpr hd) kind.isExact_toJson
    simp [content, values, hkind, Value.isExact]
  | parameterInvalid message => simp [content, values, Value.isExact]

theorem isPlain_content (h : o.IsProper) (hplain : ∀ v ∈ o.values, v.IsPlain) :
    (Value.object o.content).IsPlain := by
  obtain ⟨depth, hvalues⟩ := exists_depth hplain
  refine ⟨depth + 2, (isExact_content h (Nat.succ_ne_zero depth)).mpr fun v hv => ?_⟩
  exact isExact_mono (Nat.le_succ depth) (hvalues v hv)

theorem isPlain_toJson (h : o.IsProper) (hplain : ∀ v ∈ o.values, v.IsPlain) :
    o.toJson.IsPlain := by
  obtain ⟨hnd, hcontent⟩ := isPlain_object.mp (isPlain_content h hplain)
  rw [toJson_eq, isPlain_object, Entries.keys_cons, List.nodup_cons, List.forall_mem_cons]
  exact ⟨⟨o.result_not_mem_keys, hnd⟩, isPlain_string o.variantName, hcontent⟩

/-- The content can be read as a whole where the JSON value in it leaves room for it. -/
theorem ofTree?_content (h : o.IsProper) (hplain : ∀ v ∈ o.values, v.IsPlain) {depth : Nat}
    (hd : depth ≠ 0) :
    Value.ofTree? (depth + 1) (Value.tree (.object o.content)) =
      if ∀ v ∈ o.values, v.isExact depth = true then some (.object o.content) else none := by
  obtain ⟨own, hown⟩ := isPlain_content h hplain
  rw [ofTree?_tree_eq (depth + 1) hown]
  exact if_congr (isExact_content h hd) rfl rfl

/-- **The variant and its fields are told apart.** -/
theorem splitVariant_tree (depth : Nat) (name : String) {ms : Members}
    (h : "result" ∉ Entries.keys ms) :
    splitVariant depth (Value.tree (.object (("result", .string name) :: ms))) =
      some (name, Value.tree (.object ms)) := by
  have hne : ∀ m ∈ ms, m.1 ≠ "result" := by
    rintro m hm hresult
    exact h (hresult ▸ List.mem_map_of_mem hm)
  -- Stated for any such reader, since the names are read by a function of the definition's own.
  have hnamed : ∀ {read : List UInt8 × Tree → Option (String × List UInt8 × Tree)},
      (∀ raw t, read (raw, t) = (text? raw).map fun k => (k, raw, t)) →
        (memberTrees (("result", .string name) :: ms)).mapM read =
          some ((("result", .string name) :: ms : Members).map fun m =>
            (m.1, escaped m.1, m.2.tree)) := by
    intro read hread
    rw [memberTrees_eq_map]
    exact Text.mapM_map_eq_some fun m _ => by rw [hread, text?_escaped, Option.map_some]
  have hvariant : (ms.map fun m => (m.1, escaped m.1, m.2.tree)).filter (·.1 = "result") = [] := by
    rw [List.filter_eq_nil_iff, List.forall_mem_map]
    simpa using hne
  have hfields : ((ms.map fun m => (m.1, escaped m.1, m.2.tree)).filter
      fun m => !decide (m.1 = "result")).map (·.2) = memberTrees ms := by
    rw [List.filter_eq_self.mpr, List.map_map, memberTrees_eq_map]
    · rfl
    · rw [List.forall_mem_map]
      simpa using hne
  have htext : Decoder.text depth (.string (escaped name)) = some name := text_tree depth name
  rw [Value.tree, splitVariant, hnamed fun _ _ => rfl]
  simp [hvariant, hfields, htext, Value.tree]

/-- **An outcome is read back from the text of its record** where the JSON value in it leaves room
for the record around it; otherwise the text is not read at all. -/
theorem decode?_toJson (h : o.IsProper) (hplain : ∀ v ∈ o.values, v.IsPlain) :
    decode? decoder o.toJson.render =
      if ∀ v ∈ o.values, v.isExact (maxDepth - 1) = true then some o else none := by
  have hroom : maxDepth - 1 ≠ 0 := by decide
  have hcontent : Value.ofTree? maxDepth (Value.tree (.object o.content)) =
      if ∀ v ∈ o.values, v.isExact (maxDepth - 1) = true then some (.object o.content) else none :=
    ofTree?_content h hplain hroom
  have hsplit : splitVariant (maxDepth - 1) o.toJson.tree =
      some (o.variantName, Value.tree (.object o.content)) := by
    rw [toJson_eq]
    exact splitVariant_tree _ _ o.result_not_mem_keys
  have hrecord : ∀ fields, Decoder.record fields maxDepth (Value.tree (.object o.content)) =
      some (maxDepth - 1, fields.map fun f => (Entries.get? f.name o.content).map Value.tree) :=
    fun fields => record_tree fields (by decide) o.nodup_keys_content
  rw [decode?_render decoder (isPlain_toJson h hplain), decoder, if_neg (by decide), hsplit]
  simp only [Option.bind_eq_bind, Option.bind_some, hcontent]
  -- The content is read as a whole first, and by its variant only where that succeeds.
  by_cases hfits : ∀ v ∈ o.values, v.isExact (maxDepth - 1) = true
  · rw [if_pos hfits, if_pos hfits, Option.bind_some]
    cases o with
    | accepted p =>
      simp only [variantName, hrecord, Option.bind_some]
      rw [content, Player.ofParts_tree h fun v hv => hfits v (Option.mem_toList.mpr hv)]
      rfl
    | incomplete data =>
      have hparts : (([⟨"data", false⟩] : List Decoder.Field).map fun f =>
          (Entries.get? f.name (incomplete data).content).map Value.tree) = [some data.tree] := rfl
      simp only [variantName, hrecord, hparts, Option.bind_some, Decoder.required, Decoder.value]
      rw [ofTree?_tree (hfits data List.mem_cons_self), Option.map_some]
    | failed kind message =>
      have hparts : (([⟨"kind", false⟩, ⟨"message", false⟩] : List Decoder.Field).map fun f =>
          (Entries.get? f.name (failed kind message).content).map Value.tree) =
          [some kind.toJson.tree, some (Value.tree (.string message))] := rfl
      simp only [variantName, hrecord, hparts, Option.bind_some, Decoder.required, text_tree,
        FailureKind.decoder_tree true hroom]
    | parameterInvalid message =>
      have hparts : (([⟨"message", false⟩] : List Decoder.Field).map fun f =>
          (Entries.get? f.name (parameterInvalid message).content).map Value.tree) =
          [some (Value.tree (.string message))] := rfl
      simp only [variantName, hrecord, hparts, Option.bind_some, Decoder.required, text_tree,
        Option.map_some]
  · rw [if_neg hfits, if_neg hfits]
    rfl

end Outcome

end LoginGate
