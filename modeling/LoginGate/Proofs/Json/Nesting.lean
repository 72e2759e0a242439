/-
# How deep a value may nest

A value with no numbers but integers of 64 bits, and with no name repeated within an object, is exact
to some depth (`Value.IsPlain`).  Read to any depth, its tree is the value or nothing at all, and it
is the value exactly where the value is exact to that depth (`ofTree?_tree_eq`).  So a record that
holds such values is read back where they stand no deeper in it than the reader goes.
-/
import LoginGate.Proofs.Json.Records

namespace LoginGate.Json

/-! ## 1. Greater depths -/

mutual

/-- A value that is exact to a depth is exact to every greater one. -/
theorem isExact_mono : ∀ {v : Value} {depth deeper : Nat}, depth ≤ deeper →
    v.isExact depth = true → v.isExact deeper = true
  | .null, _, _, _, _ => rfl
  | .bool _, _, _, _, _ => rfl
  | .number _, _, _, _, h => h
  | .string _, _, _, _, _ => rfl
  | .array items, depth, deeper, hle, h => by
    rw [Value.isExact, Bool.and_eq_true, decide_eq_true_eq] at h ⊢
    exact ⟨by omega, itemsExact_mono (by omega) h.2⟩
  | .object members, depth, deeper, hle, h => by
    rw [Value.isExact, Bool.and_eq_true, Bool.and_eq_true, decide_eq_true_eq] at h ⊢
    exact ⟨⟨by omega, h.1.2⟩, membersExact_mono (by omega) h.2⟩

theorem itemsExact_mono : ∀ {vs : List Value} {depth deeper : Nat}, depth ≤ deeper →
    itemsExact depth vs = true → itemsExact deeper vs = true
  | [], _, _, _, _ => rfl
  | v :: vs, _, _, hle, h => by
    obtain ⟨hv, hvs⟩ := Bool.and_eq_true_iff.mp h
    exact Bool.and_eq_true_iff.mpr ⟨isExact_mono hle hv, itemsExact_mono hle hvs⟩

theorem membersExact_mono : ∀ {ms : Members} {depth deeper : Nat}, depth ≤ deeper →
    membersExact depth ms = true → membersExact deeper ms = true
  | [], _, _, _, _ => rfl
  | (_, v) :: ms, _, _, hle, h => by
    obtain ⟨hv, hms⟩ := Bool.and_eq_true_iff.mp h
    exact Bool.and_eq_true_iff.mpr ⟨isExact_mono hle hv, membersExact_mono hle hms⟩

end

/-! ## 2. Plain values -/

/-- Whether a value has no numbers but integers of 64 bits and repeats no name within an object,
however deep it nests. -/
def Value.IsPlain (v : Value) : Prop := ∃ depth, v.isExact depth = true

theorem itemsExact_iff {depth : Nat} {vs : List Value} :
    itemsExact depth vs = true ↔ ∀ v ∈ vs, v.isExact depth = true := by
  induction vs with
  | nil => simp [itemsExact]
  | cons v vs ih => rw [itemsExact, Bool.and_eq_true, ih, List.forall_mem_cons]

theorem membersExact_iff {depth : Nat} {ms : Members} :
    membersExact depth ms = true ↔ ∀ m ∈ ms, m.2.isExact depth = true := by
  induction ms with
  | nil => simp [membersExact]
  | cons m ms ih => rw [membersExact, Bool.and_eq_true, ih, List.forall_mem_cons]

/-- One depth does for finitely many plain values. -/
theorem exists_depth {vs : List Value} (h : ∀ v ∈ vs, v.IsPlain) :
    ∃ depth, ∀ v ∈ vs, v.isExact depth = true := by
  induction vs with
  | nil => exact ⟨0, fun v hv => absurd hv List.not_mem_nil⟩
  | cons v vs ih =>
    obtain ⟨⟨own, hv⟩, hvs⟩ := List.forall_mem_cons.mp h
    obtain ⟨depth, hvs⟩ := ih hvs
    refine ⟨max own depth, List.forall_mem_cons.mpr ⟨?_, fun w hw => ?_⟩⟩
    · exact isExact_mono (Nat.le_max_left own depth) hv
    · exact isExact_mono (Nat.le_max_right own depth) (hvs w hw)

theorem isPlain_array {items : List Value} :
    (Value.array items).IsPlain ↔ ∀ v ∈ items, v.IsPlain := by
  constructor
  · rintro ⟨depth, h⟩ v hv
    rw [Value.isExact, Bool.and_eq_true] at h
    exact ⟨depth - 1, itemsExact_iff.mp h.2 v hv⟩
  · intro h
    obtain ⟨depth, hitems⟩ := exists_depth h
    refine ⟨depth + 1, ?_⟩
    rw [Value.isExact, Bool.and_eq_true, decide_eq_true_eq]
    exact ⟨Nat.succ_pos depth, itemsExact_iff.mpr hitems⟩

theorem isPlain_object {ms : Members} :
    (Value.object ms).IsPlain ↔ (Entries.keys ms).Nodup ∧ ∀ m ∈ ms, m.2.IsPlain := by
  constructor
  · rintro ⟨depth, h⟩
    rw [Value.isExact, Bool.and_eq_true, Bool.and_eq_true, decide_eq_true_eq,
      decide_eq_true_eq] at h
    exact ⟨h.1.2, fun m hm => ⟨depth - 1, membersExact_iff.mp h.2 m hm⟩⟩
  · rintro ⟨hnd, h⟩
    have hplain : ∀ v ∈ ms.map Prod.snd, v.IsPlain := List.forall_mem_map.mpr h
    obtain ⟨depth, hvalues⟩ := exists_depth hplain
    refine ⟨depth + 1, ?_⟩
    rw [Value.isExact, Bool.and_eq_true, Bool.and_eq_true, decide_eq_true_eq, decide_eq_true_eq]
    exact ⟨⟨Nat.succ_pos depth, hnd⟩, membersExact_iff.mpr (List.forall_mem_map.mp hvalues)⟩

theorem isPlain_null : Value.null.IsPlain := ⟨0, rfl⟩

theorem isPlain_bool (b : Bool) : (Value.bool b).IsPlain := ⟨0, rfl⟩

theorem isPlain_string (s : String) : (Value.string s).IsPlain := ⟨0, rfl⟩

theorem isPlain_int {n : Int} (h : (Number.integer n).isWord = true) : (Value.int n).IsPlain :=
  ⟨0, h⟩

theorem isPlain_optString (o : Option String) : (Value.optString o).IsPlain :=
  ⟨0, isExact_optString 0 o⟩

/-! ## 3. Reading to a depth -/

mutual

/-- **To any depth a plain value is read as itself or not at all.** -/
theorem ofTree?_tree_eq : ∀ {v : Value} {own : Nat} (depth : Nat), v.isExact own = true →
    Value.ofTree? depth v.tree = if v.isExact depth then some v else none
  | .null, _, _, _ => rfl
  | .bool _, _, _, _ => rfl
  | .number n, _, depth, h => by
    have hdepth : (Value.number n).isExact depth = true := h
    rw [ofTree?_tree hdepth, if_pos hdepth]
  | .string _, _, depth, _ => ofTree?_tree rfl
  | .array items, own, depth, h => by
    rw [Value.isExact, Bool.and_eq_true] at h
    rw [Value.tree, Value.ofTree?, itemsOfTrees?_trees_eq (depth - 1) h.2, Value.isExact]
    cases depth with
    | zero => rfl
    | succ depth => cases itemsExact (depth + 1 - 1) items <;> simp
  | .object members, own, depth, h => by
    rw [Value.isExact, Bool.and_eq_true, Bool.and_eq_true, decide_eq_true_eq,
      decide_eq_true_eq] at h
    rw [Value.tree, Value.ofTree?, membersOfTrees?_trees_eq (depth - 1) h.2, Value.isExact,
      decide_eq_true h.1.2]
    cases depth with
    | zero => rfl
    | succ depth =>
      cases membersExact (depth + 1 - 1) members <;>
        simp [Value.ofMembers, Entries.ofPairs_eq_self h.1.2]

theorem itemsOfTrees?_trees_eq : ∀ {vs : List Value} {own : Nat} (depth : Nat),
    itemsExact own vs = true →
      itemsOfTrees? depth (itemTrees vs) = if itemsExact depth vs then some vs else none
  | [], _, _, _ => rfl
  | v :: vs, _, depth, h => by
    obtain ⟨hv, hvs⟩ := Bool.and_eq_true_iff.mp h
    rw [itemTrees, itemsOfTrees?, ofTree?_tree_eq depth hv, itemsOfTrees?_trees_eq depth hvs,
      itemsExact]
    cases v.isExact depth <;> cases itemsExact depth vs <;> rfl

theorem membersOfTrees?_trees_eq : ∀ {ms : Members} {own : Nat} (depth : Nat),
    membersExact own ms = true →
      membersOfTrees? depth (memberTrees ms) = if membersExact depth ms then some ms else none
  | [], _, _, _ => rfl
  | (k, v) :: ms, _, depth, h => by
    obtain ⟨hv, hms⟩ := Bool.and_eq_true_iff.mp h
    rw [memberTrees, membersOfTrees?, text?_escaped, ofTree?_tree_eq depth hv,
      membersOfTrees?_trees_eq depth hms, membersExact]
    cases v.isExact depth <;> cases membersExact depth ms <;> rfl

end

theorem value_tree {v : Value} (h : v.IsPlain) (depth : Nat) :
    Decoder.value depth v.tree = if v.isExact depth then some v else none := by
  obtain ⟨own, h⟩ := h
  exact ofTree?_tree_eq depth h

/-- What a decoder reads from a plain value's text is what it makes of the value's tree. -/
theorem decode?_render {α : Type} (item : Decoder α) {v : Value} (h : v.IsPlain) :
    decode? item v.render = item maxDepth v.tree := by
  obtain ⟨own, h⟩ := h
  rw [decode?, Text.Utf8.bytes_eq_encode, Value.render, String.toList_ofList,
    decodeBytes?_write item h]

end LoginGate.Json
