/-
# Records are read back

An object with distinct names, read as a record, has under each field the tree of the value that
stands under the field's name (`record_tree`).  The decoders of texts, integers, lists, maps and names
of variants undo what a record is written with, as does a field that may be missing or null.
-/
import LoginGate.Proofs.Json.Decode
import LoginGate.Proofs.Json.RoundTrip
import LoginGate.Proofs.Text.Split

namespace LoginGate.Json

variable {α : Type}

/-! ## 1. Members -/

theorem membersExact_append (depth : Nat) (front back : Members) :
    membersExact depth (front ++ back) = (membersExact depth front && membersExact depth back) := by
  induction front with
  | nil => rfl
  | cons m front ih =>
    rw [List.cons_append, membersExact, ih, membersExact, Bool.and_assoc]

theorem itemTrees_eq_map (vs : List Value) : itemTrees vs = vs.map Value.tree := by
  induction vs with
  | nil => rfl
  | cons v vs ih => rw [itemTrees, ih, List.map_cons]

theorem memberTrees_eq_map (ms : Members) :
    memberTrees ms = ms.map fun m => (escaped m.1, m.2.tree) := by
  induction ms with
  | nil => rfl
  | cons m ms ih => rw [memberTrees, ih, List.map_cons]

theorem named_memberTrees (ms : Members) :
    Decoder.named (memberTrees ms) = some (ms.map fun m => (m.1, m.2.tree)) := by
  rw [Decoder.named, memberTrees_eq_map]
  exact Text.mapM_map_eq_some fun m _ => by simp [text?_escaped]

/-- **An object is read as a record** of what stands under the names of the fields. -/
theorem record_tree (fields : List Decoder.Field) {depth : Nat} {ms : Members} (hd : depth ≠ 0)
    (hnd : (Entries.keys ms).Nodup) :
    Decoder.record fields depth (Value.tree (.object ms)) =
      some (depth - 1, fields.map fun f => (Entries.get? f.name ms).map Value.tree) := by
  refine (Decoder.record_object_eq_some hd).mpr ⟨_, named_memberTrees ms, ?_, ?_⟩
  · refine List.Nodup.sublist ((List.filter_sublist).map Prod.fst) ?_
    rw [List.map_map]
    exact hnd
  · refine congrArg (Prod.mk (depth - 1)) (List.map_congr_left ?_)
    intro f _
    rw [Entries.get?_mapValues Value.tree]

/-! ## 2. Parts -/

theorem text_tree (depth : Nat) (s : String) :
    Decoder.text depth (Value.tree (.string s)) = some s := text?_escaped s

theorem isExact_int {n : Int} (h : Word.isInt64 n = true) (depth : Nat) :
    (Value.int n).isExact depth = true := by
  have hbounds := Word.isInt64_iff.mp h
  rw [Value.int, Value.isExact, isWord_iff, Word.maxNat64]
  rw [Word.maxInt64] at hbounds
  omega

theorem isExact_optString (depth : Nat) (o : Option String) :
    (Value.optString o).isExact depth = true := by
  cases o <;> rfl

theorem isExact_optInt {o : Option Int} (h : ∀ n ∈ o, Word.isInt64 n = true) (depth : Nat) :
    (Value.optInt o).isExact depth = true := by
  cases o with
  | none => rfl
  | some n => exact isExact_int (h n rfl) depth

theorem int64_tree (depth : Nat) {n : Int} (h : Word.isInt64 n = true) :
    Decoder.int64 depth (Value.int n).tree = some n := by
  have hbounds := Word.isInt64_iff.mp h
  have hword : (Number.integer n).isWord = true := by
    rw [isWord_iff, Word.maxNat64]
    rw [Word.maxInt64] at hbounds
    omega
  rw [Value.int, Value.tree, Decoder.int64, Decoder.int]
  simp [number?_ofInt hword, hbounds]

/-- A field that may be missing is read as it was written. -/
theorem nullable_tree {item : Decoder α} {write : α → Value} {depth : Nat} {o : Option α}
    (h : ∀ a ∈ o, (write a).tree ≠ .null ∧ item depth (write a).tree = some a) :
    Decoder.nullable item depth ((o.map write).map Value.tree) = some o := by
  cases o with
  | none => rfl
  | some a =>
    obtain ⟨hnull, hitem⟩ := h a rfl
    rw [Option.map_some, Option.map_some, Decoder.nullable, Decoder.defaulted, Decoder.optional]
    · rw [hitem]
      rfl
    · exact hnull

theorem nullable_text_tree (depth : Nat) (o : Option String) :
    Decoder.nullable Decoder.text depth ((o.map Value.string).map Value.tree) = some o :=
  nullable_tree fun s _ => ⟨by simp [Value.tree], text_tree depth s⟩

theorem nullable_int64_tree (depth : Nat) {o : Option Int} (h : ∀ n ∈ o, Word.isInt64 n = true) :
    Decoder.nullable Decoder.int64 depth ((o.map Value.int).map Value.tree) = some o :=
  nullable_tree fun n hn => ⟨by simp [Value.int, Value.tree], int64_tree depth (h n hn)⟩

theorem nullable_of_ne_null (item : Decoder α) (depth : Nat) {t : Tree} (h : t ≠ .null) :
    Decoder.nullable item depth (some t) = (item depth t).map some := by
  rw [Decoder.nullable, Decoder.defaulted, Decoder.optional]
  exact h

/-- A text that is null when there is none. -/
theorem nullable_optString_tree (depth : Nat) (o : Option String) :
    Decoder.nullable Decoder.text depth (some (Value.optString o).tree) = some o := by
  cases o with
  | none => rfl
  | some s =>
    rw [Value.optString, nullable_of_ne_null _ depth (by simp [Value.tree]), text_tree]
    rfl

/-- An integer that is null when there is none. -/
theorem nullable_optInt_tree (depth : Nat) {o : Option Int} (h : ∀ n ∈ o, Word.isInt64 n = true) :
    Decoder.nullable Decoder.int64 depth (some (Value.optInt o).tree) = some o := by
  cases o with
  | none => rfl
  | some n =>
    rw [Value.optInt, nullable_of_ne_null _ depth (by simp [Value.int, Value.tree]),
      int64_tree depth (h n rfl)]
    rfl

/-! ## 3. Lists, maps and names of variants -/

/-- A natural number up to a bound, which is one of 64 bits. -/
theorem nat_tree (depth : Nat) {n high : Nat} (hn : n ≤ high) (hhigh : high ≤ Word.maxNat64) :
    Decoder.nat high depth (Value.int n).tree = some n := by
  have hword : (Number.integer n).isWord = true := by
    rw [isWord_iff, Word.minInt64]
    omega
  rw [Value.int, Value.tree, Decoder.nat, Decoder.int]
  simp [number?_ofInt hword, hn]

theorem list_tree {item : Decoder α} {write : α → Value} {depth : Nat} (hd : depth ≠ 0)
    {items : List α} (h : ∀ a ∈ items, item (depth - 1) (write a).tree = some a) :
    Decoder.list item depth (Value.tree (.array (items.map write))) = some items := by
  rw [Value.tree, Decoder.list, if_neg hd, itemTrees_eq_map, List.map_map]
  exact (Text.mapM_map_eq_some h).trans (congrArg some (List.map_id items))

theorem members_tree {item : Decoder α} {write : α → Value} {depth : Nat} (hd : depth ≠ 0)
    (h : ∀ a, item (depth - 1) (write a).tree = some a) (es : List (String × α)) :
    Decoder.members item depth (Value.tree (.object (es.map fun e => (e.1, write e.2)))) =
      some es := by
  rw [Value.tree, Decoder.members, if_neg hd, memberTrees_eq_map, List.map_map]
  refine (Text.mapM_map_eq_some fun e _ => ?_).trans (congrArg some (List.map_id es))
  simp [text?_escaped, h]

/-- The name of a variant that holds nothing. -/
theorem unitVariant_tree (whole : Bool) (find? : String → Option α) (depth : Nat) (name : String) :
    Decoder.unitVariant whole find? depth (Value.tree (.string name)) = find? name := by
  rw [Value.tree, Decoder.unitVariant, Decoder.variant, text?_escaped]
  rfl

end LoginGate.Json
