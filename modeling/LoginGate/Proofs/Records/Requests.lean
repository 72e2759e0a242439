/-
# Requests and providers are read back

The record of a provider is read back as the provider (`Provider.decode?_toJson`).  A request can hold
a JSON value in its post data, which stands two levels deep in the record; the record is read back
where the value nests no deeper than that leaves room for, and otherwise it cannot be read
(`Request.decode?_toJson`).
-/
import LoginGate.Proofs.Json.Nesting
import LoginGate.Records.Request

namespace LoginGate

open Json

/-! ## 1. Types and parameters -/

theorem AuthType.decoder_tree (depth : Nat) (t : AuthType) :
    decoder depth t.toJson.tree = some t := by
  rw [decoder, toJson, unitVariant_tree, ofName?_name]

namespace QueryParams

theorem isPlain_toJson (p : QueryParams) : p.toJson.IsPlain := by
  refine isPlain_object.mpr ⟨?_, List.forall_mem_map.mpr fun e _ => isPlain_string e.2⟩
  rw [Entries.keys, List.map_map]
  exact p.nodup

/-- Parameters are read back in their order. -/
theorem decoder_tree {depth : Nat} (hd : depth ≠ 0) (p : QueryParams) :
    decoder depth p.toJson.tree = some p := by
  have hentries : Entries.ofPairs p.entries = p.entries := Entries.ofPairs_eq_self p.nodup
  have hmembers : Decoder.members Decoder.text depth p.toJson.tree = some p.entries :=
    members_tree hd (text_tree (depth - 1)) p.entries
  rw [decoder, hmembers, Option.map_some, ofPairs]
  simp only [hentries]

end QueryParams

/-! ## 2. Providers -/

namespace Provider

/-- The members of the record of a provider. -/
def members (p : Provider) : Members :=
  [("authentication_type", p.authType.toJson),
    ("base_uri", .string p.baseUri),
    ("static_query_parameters", p.dashboard.toJson),
    ("forward_as_json", .bool p.forwardAsJson),
    ("reject_if_unavailable", .bool p.rejectIfUnavailable)]

theorem toJson_eq (p : Provider) : p.toJson = .object p.members := rfl

theorem nodup_keys_members (p : Provider) : (Entries.keys p.members).Nodup := by
  simp [members, Entries.keys]

theorem isPlain_toJson (p : Provider) : p.toJson.IsPlain := by
  rw [toJson_eq]
  refine isPlain_object.mpr ⟨p.nodup_keys_members, ?_⟩
  simp only [members, List.forall_mem_cons, List.not_mem_nil, false_implies, implies_true, and_true]
  exact ⟨isPlain_string _, isPlain_string _, p.dashboard.isPlain_toJson, isPlain_bool _,
    isPlain_bool _⟩

/-- **A provider is read back from the text of its record.** -/
theorem decode?_toJson (p : Provider) : decode? decoder p.toJson.render = some p := by
  have hparts : (recordFields.map fun f => (Entries.get? f.name p.members).map Value.tree) =
      [some p.authType.toJson.tree, some (Value.tree (.string p.baseUri)),
        some p.dashboard.toJson.tree, some (Value.tree (.bool p.forwardAsJson)),
        some (Value.tree (.bool p.rejectIfUnavailable))] := rfl
  have hbool : ∀ b, Decoder.bool (maxDepth - 1) (Value.tree (.bool b)) = some b := fun _ => rfl
  have hdashboard : QueryParams.decoder (maxDepth - 1) p.dashboard.toJson.tree =
      some p.dashboard := QueryParams.decoder_tree (by decide) p.dashboard
  rw [decode?_render decoder p.isPlain_toJson, toJson_eq, decoder,
    record_tree recordFields (by decide) p.nodup_keys_members, hparts]
  simp only [Option.bind_eq_bind, Option.bind_some, Decoder.required, AuthType.decoder_tree,
    text_tree, hdashboard, hbool]

end Provider

/-! ## 3. Post data -/

namespace Payload

/-- The JSON values in post data. -/
def values : Payload → List Value
  | map members => [.object members]
  | other v => [v]
  | text _ | bytes _ => []

variable {p : Payload}

theorem isPlain_toJson (h : ∀ v ∈ p.values, v.IsPlain) : p.toJson.IsPlain := by
  have hrecord : ∀ (kind : String) (content : Value), content.IsPlain →
      (Value.object [("type", .string kind), ("value", content)]).IsPlain := by
    intro kind content hcontent
    refine isPlain_object.mpr ⟨by simp [Entries.keys], ?_⟩
    simp only [List.forall_mem_cons, List.not_mem_nil, false_implies, implies_true, and_true]
    exact ⟨isPlain_string kind, hcontent⟩
  cases p with
  | text s => exact hrecord _ _ (isPlain_string s)
  | bytes bs =>
    refine hrecord _ _ (isPlain_array.mpr (List.forall_mem_map.mpr fun b _ => isPlain_int ?_))
    rw [isWord_iff, Word.minInt64, Word.maxNat64]
    have := b.toNat_lt
    omega
  | map ms => exact hrecord _ _ (h _ List.mem_cons_self)
  | other v => exact hrecord _ _ (h _ List.mem_cons_self)

/-- Under its kind stands what post data holds. -/
theorem decoder_object {depth : Nat} (hd : depth ≠ 0) (kind : String) (content : Value) :
    decoder depth (Value.tree (.object [("type", .string kind), ("value", content)])) =
      contentDecoder kind (depth - 1) content.tree := by
  have hparts : (([⟨"type", false⟩, ⟨"value", false⟩] : List Decoder.Field).map fun f =>
      (Entries.get? f.name [("type", .string kind), ("value", content)]).map Value.tree) =
      [some (Value.tree (.string kind)), some content.tree] := by
    simp [Entries.get?]
  rw [decoder, record_tree _ hd (by simp [Entries.keys]), hparts]
  simp only [Option.bind_eq_bind, Option.bind_some, unitVariant_tree]

theorem contentDecoder_bytes {depth : Nat} (hd : depth ≠ 0) (bs : List UInt8) :
    contentDecoder "Bytes" depth (Value.tree (.array (bs.map fun b => Value.int b.toNat))) =
      some (bytes bs) := by
  have hwritten : (bs.map fun b => Value.int b.toNat) =
      (bs.map UInt8.toNat).map fun n : Nat => Value.int n := by
    rw [List.map_map]
    rfl
  have hread : (bs.map UInt8.toNat).map UInt8.ofNat = bs := by
    rw [List.map_map]
    exact List.map_id'' (fun b => UInt8.ofNat_toNat) bs
  have hitems : ∀ n ∈ bs.map UInt8.toNat,
      Decoder.nat 255 (depth - 1) (Value.int n).tree = some n := by
    refine List.forall_mem_map.mpr fun b _ => nat_tree _ ?_ (by decide)
    have := b.toNat_lt
    omega
  rw [contentDecoder, hwritten, list_tree hd hitems, Option.map_some, hread]

/-- Post data is read back where the value in it nests no deeper than is left for it. -/
theorem decoder_tree (h : ∀ v ∈ p.values, v.IsPlain) {depth : Nat} (hd : 2 ≤ depth) :
    decoder depth p.toJson.tree =
      if ∀ v ∈ p.values, v.isExact (depth - 1) = true then some p else none := by
  have hd0 : depth ≠ 0 := by omega
  cases p with
  | text s =>
    rw [toJson, decoder_object hd0, contentDecoder, text_tree, if_pos (by simp [values])]
    rfl
  | bytes bs =>
    rw [toJson, decoder_object hd0, contentDecoder_bytes (by omega), if_pos (by simp [values])]
  | map ms =>
    rw [toJson, decoder_object hd0, contentDecoder, value_tree (h _ List.mem_cons_self)]
    by_cases hv : (Value.object ms).isExact (depth - 1) = true <;> simp [values, hv]
  | other v =>
    rw [toJson, decoder_object hd0, contentDecoder, value_tree (h _ List.mem_cons_self)]
    by_cases hv : v.isExact (depth - 1) = true <;> simp [values, hv]

end Payload

/-! ## 4. Requests -/

namespace Request

/-- The JSON values in a request. -/
def values (r : Request) : List Value := r.data.toList.flatMap Payload.values

/-- The record of the post data, or null. -/
def dataToJson (r : Request) : Value := (r.data.map Payload.toJson).getD .null

/-- The members of the record of a request. -/
def members (r : Request) : Members :=
  [("user_id", .string r.userId),
    ("application_id", .string r.applicationId),
    ("application_version", .string r.applicationVersion),
    ("region", .string r.region),
    ("client_authentication_type", r.authType.toJson),
    ("client_authentication_params", Value.optString r.params),
    ("client_authentication_data", r.dataToJson)]

theorem toJson_eq (r : Request) : r.toJson = .object r.members := by
  rw [toJson, members, dataToJson]
  cases r.data <;> rfl

theorem nodup_keys_members (r : Request) : (Entries.keys r.members).Nodup := by
  simp [members, Entries.keys]

variable {r : Request}

theorem isPlain_dataToJson (h : ∀ v ∈ r.values, v.IsPlain) : r.dataToJson.IsPlain := by
  rw [values] at h
  rw [dataToJson]
  cases hdata : r.data with
  | none => exact isPlain_null
  | some p =>
    rw [hdata] at h
    exact Payload.isPlain_toJson (by simpa using h)

theorem isPlain_toJson (h : ∀ v ∈ r.values, v.IsPlain) : r.toJson.IsPlain := by
  rw [toJson_eq]
  refine isPlain_object.mpr ⟨r.nodup_keys_members, ?_⟩
  simp only [members, List.forall_mem_cons, List.not_mem_nil, false_implies, implies_true, and_true]
  exact ⟨isPlain_string _, isPlain_string _, isPlain_string _, isPlain_string _, isPlain_string _,
    isPlain_optString _, isPlain_dataToJson h⟩

theorem nullable_dataToJson (h : ∀ v ∈ r.values, v.IsPlain) {depth : Nat} (hd : 2 ≤ depth) :
    Decoder.nullable Payload.decoder depth (some r.dataToJson.tree) =
      if ∀ v ∈ r.values, v.isExact (depth - 1) = true then some r.data else none := by
  rw [values] at h ⊢
  rw [dataToJson]
  cases hdata : r.data with
  | none => rfl
  | some p =>
    rw [hdata] at h
    have hobject : p.toJson.tree ≠ .null := by cases p <;> simp [Payload.toJson, Value.tree]
    simp only [Option.map_some, Option.getD_some, Option.toList_some, List.flatMap_singleton] at h ⊢
    rw [nullable_of_ne_null _ depth hobject, Payload.decoder_tree h hd]
    split <;> rfl

/-- **A request is read back from the text of its record** where the JSON value in its post data
leaves room for the record around it; otherwise the text is not read at all. -/
theorem decode?_toJson (h : ∀ v ∈ r.values, v.IsPlain) :
    decode? decoder r.toJson.render =
      if ∀ v ∈ r.values, v.isExact (maxDepth - 2) = true then some r else none := by
  have hparts : (recordFields.map fun f => (Entries.get? f.name r.members).map Value.tree) =
      [some (Value.tree (.string r.userId)), some (Value.tree (.string r.applicationId)),
        some (Value.tree (.string r.applicationVersion)), some (Value.tree (.string r.region)),
        some r.authType.toJson.tree, some (Value.optString r.params).tree,
        some r.dataToJson.tree] := rfl
  have hdata : Decoder.nullable Payload.decoder (maxDepth - 1) (some r.dataToJson.tree) =
      if ∀ v ∈ r.values, v.isExact (maxDepth - 2) = true then some r.data else none :=
    nullable_dataToJson h (by decide)
  rw [decode?_render decoder (isPlain_toJson h), toJson_eq, decoder,
    record_tree recordFields (by decide) r.nodup_keys_members, hparts]
  simp only [Option.bind_eq_bind, Option.bind_some, Decoder.required, text_tree,
    AuthType.decoder_tree, nullable_optString_tree, hdata]
  split <;> rfl

end Request

end LoginGate
