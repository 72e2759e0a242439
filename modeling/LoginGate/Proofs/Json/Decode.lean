/-
# What the decoder of records picks

An object read as a record must name all its members in well-formed text and repeat no field; its
parts are then those that the members hold under the names of the fields (`record_object_eq_some`).
An array gives its items to the fields in their order, and stands for the object that holds them under
the fields' names (`record_array_eq_object`).
-/
import LoginGate.Json.Decode
import LoginGate.Proofs.Entries

namespace LoginGate.Json.Decoder

/-! ## 1. Names -/

/-- The members of an object under their names; nothing when a name is no well-formed text. -/
def named (ms : List (List UInt8 × Tree)) : Option (List (String × Tree)) :=
  ms.mapM fun (raw, t) => (text? raw).map fun k => (k, t)

theorem named_cons (raw : List UInt8) (t : Tree) (ms : List (List UInt8 × Tree)) :
    named ((raw, t) :: ms) =
      (text? raw).bind fun k => (named ms).map fun ps => (k, t) :: ps := by
  rw [named, List.mapM_cons]
  cases hk : text? raw with
  | none => simp [hk]
  | some k =>
    rw [named]
    cases ms.mapM fun (raw, t) => (text? raw).map fun k => (k, t) <;> simp [hk]

theorem named_cons_eq_some {raw : List UInt8} {t : Tree} {ms : List (List UInt8 × Tree)}
    {ps : List (String × Tree)} (h : named ((raw, t) :: ms) = some ps) :
    ∃ k rest, text? raw = some k ∧ named ms = some rest ∧ ps = (k, t) :: rest := by
  rw [named_cons] at h
  obtain ⟨k, hk, h⟩ := Option.bind_eq_some_iff.mp h
  obtain ⟨rest, hrest, rfl⟩ := Option.map_eq_some_iff.mp h
  exact ⟨k, rest, hk, hrest, rfl⟩

theorem mem_named {ms : List (List UInt8 × Tree)} {ps : List (String × Tree)} {raw : List UInt8}
    {t : Tree} {k : String} (h : named ms = some ps) (hmem : (raw, t) ∈ ms)
    (hk : text? raw = some k) : (k, t) ∈ ps := by
  induction ms generalizing ps with
  | nil => simp at hmem
  | cons m ms ih =>
    obtain ⟨raw', t'⟩ := m
    obtain ⟨k', rest, hk', hrest, rfl⟩ := named_cons_eq_some h
    rcases List.mem_cons.mp hmem with heq | hmem
    · cases heq
      rw [hk] at hk'
      cases hk'
      exact List.mem_cons_self
    · exact List.mem_cons_of_mem _ (ih hrest hmem)

theorem exists_of_mem_named {ms : List (List UInt8 × Tree)} {ps : List (String × Tree)}
    {k : String} {t : Tree} (h : named ms = some ps) (hmem : (k, t) ∈ ps) :
    ∃ raw, (raw, t) ∈ ms ∧ text? raw = some k := by
  induction ms generalizing ps with
  | nil =>
    cases h
    simp at hmem
  | cons m ms ih =>
    obtain ⟨raw', t'⟩ := m
    obtain ⟨k', rest, hk', hrest, rfl⟩ := named_cons_eq_some h
    rcases List.mem_cons.mp hmem with heq | hmem
    · cases heq
      exact ⟨raw', List.mem_cons_self, hk'⟩
    · obtain ⟨raw, hraw, hk⟩ := ih hrest hmem
      exact ⟨raw, List.mem_cons_of_mem _ hraw, hk⟩

/-! ## 2. Fields -/

/-- Whether a name is that of a field. -/
def isField (fields : List Field) (name : String) : Bool := fields.any (·.name = name)

/-- **What is picked**: the members with the name of a field, none of which is repeated. -/
theorem pickFields_eq_some (fields : List Field) {ms : List (List UInt8 × Tree)}
    {found parts : List (String × Tree)} (hnd : (Entries.keys found).Nodup) :
    pickFields fields ms found = some parts ↔
      ∃ ps, named ms = some ps ∧ parts = found ++ ps.filter (isField fields ·.1) ∧
        (Entries.keys parts).Nodup := by
  induction ms generalizing found with
  | nil =>
    rw [pickFields]
    constructor
    · intro h
      cases h
      exact ⟨[], rfl, by simp, hnd⟩
    · rintro ⟨ps, hps, rfl, -⟩
      cases hps
      simp
  | cons m ms ih =>
    obtain ⟨raw, t⟩ := m
    rw [pickFields, named_cons]
    cases text? raw with
    | none => simp
    | some k =>
      simp only [Option.bind_eq_bind, Option.bind_some, Option.map_eq_some_iff]
      by_cases hf : isField fields k = true
      · rw [if_pos (by simpa [isField] using hf)]
        by_cases hc : k ∈ Entries.keys found
        · -- A repeated field is refused, and it would stand twice among the parts.
          rw [if_pos (Entries.contains_iff.mpr hc)]
          refine ⟨fun h => by simp at h, ?_⟩
          rintro ⟨-, ⟨ps, -, rfl⟩, rfl, hparts⟩
          simp only [List.filter_cons, hf, if_true, Entries.keys, List.map_append, List.map_cons,
            List.nodup_append] at hparts
          exact absurd rfl (hparts.2.2 k hc k List.mem_cons_self)
        · have hgrown : (Entries.keys (found ++ [(k, t)])).Nodup := by
            rw [Entries.keys, List.map_append, List.nodup_append]
            refine ⟨hnd, by simp, ?_⟩
            rintro a ha b hb rfl
            cases List.mem_singleton.mp hb
            exact hc ha
          rw [if_neg (fun h => hc (Entries.contains_iff.mp h)), ih hgrown]
          simp [hf]
      · rw [if_neg (by simpa [isField] using hf), ih hnd]
        simp [hf]

/-- **An object as a record**: the parts of the fields are what the members hold under their names. -/
theorem record_object_eq_some {fields : List Field} {depth : Nat} (hd : depth ≠ 0)
    {ms : List (List UInt8 × Tree)} {out : Nat × List (Option Tree)} :
    record fields depth (.object ms) = some out ↔
      ∃ ps, named ms = some ps ∧ (Entries.keys (ps.filter (isField fields ·.1))).Nodup ∧
        out = (depth - 1, fields.map fun f => Entries.get? f.name ps) := by
  have hparts : ∀ ps : List (String × Tree),
      (fields.map fun f => Entries.get? f.name (ps.filter (isField fields ·.1))) =
        fields.map fun f => Entries.get? f.name ps := by
    intro ps
    refine List.map_congr_left ?_
    intro f hf
    have hfield : isField fields f.name = true :=
      List.any_eq_true.mpr ⟨f, hf, decide_eq_true rfl⟩
    exact Entries.get?_filter hfield ps
  rw [record, if_neg hd]
  constructor
  · intro h
    obtain ⟨parts, hpicked, h⟩ := Option.bind_eq_some_iff.mp h
    cases h
    obtain ⟨ps, hps, rfl, hnd⟩ := (pickFields_eq_some fields (by simp [Entries.keys])).mp hpicked
    rw [List.nil_append] at hnd ⊢
    exact ⟨ps, hps, hnd, by rw [hparts]⟩
  · rintro ⟨ps, hps, hnd, rfl⟩
    refine Option.bind_eq_some_iff.mpr ⟨ps.filter (isField fields ·.1), ?_, by rw [hparts]⟩
    exact (pickFields_eq_some fields (by simp [Entries.keys])).mpr ⟨ps, hps, rfl, hnd⟩

/-- An array cannot end while a field that may not end it is still to come. -/
theorem assignItems_nil {fields : List Field} (h : ∃ f ∈ fields, f.mayEnd = false) :
    assignItems fields [] = none := by
  induction fields with
  | nil => simp at h
  | cons f fs ih =>
    rw [assignItems]
    split
    · rename_i hend
      obtain ⟨g, hg, hmay⟩ := h
      rcases List.mem_cons.mp hg with rfl | hg
      · rw [hmay] at hend
        cases hend
      · rw [ih ⟨g, hg, hmay⟩, Option.map_none]
    · rfl

/-- Where the array may not end with the last field, it has an item for each of them. -/
theorem assignItems_eq_some_iff {fields : List Field}
    (hlast : ∀ f, fields.getLast? = some f → f.mayEnd = false) {items : List Tree}
    {parts : List (Option Tree)} :
    assignItems fields items = some parts ↔
      items.length = fields.length ∧ parts = items.map some := by
  induction fields generalizing items parts with
  | nil =>
    cases items with
    | nil => simp [assignItems, eq_comm]
    | cons t ts => simp [assignItems]
  | cons f fs ih =>
    cases items with
    | nil =>
      obtain ⟨g, hg⟩ : ∃ g, (f :: fs).getLast? = some g :=
        ⟨_, List.getLast?_eq_some_getLast (List.cons_ne_nil f fs)⟩
      rw [assignItems_nil ⟨g, List.mem_of_getLast? hg, hlast g hg⟩]
      simp
    | cons t ts =>
      have hrest : ∀ g, fs.getLast? = some g → g.mayEnd = false := by
        intro g hg
        exact hlast g (by rw [List.getLast?_cons, hg, Option.getD_some])
      rw [assignItems, Option.map_eq_some_iff, List.length_cons, List.length_cons, List.map_cons]
      constructor
      · rintro ⟨rest, hparts, rfl⟩
        obtain ⟨hlength, rfl⟩ := (ih hrest).mp hparts
        exact ⟨congrArg Nat.succ hlength, rfl⟩
      · rintro ⟨hlength, rfl⟩
        exact ⟨_, (ih hrest).mpr ⟨Nat.succ.inj hlength, rfl⟩, rfl⟩

/-- **An array stands for an object**: that of its items under the names of the fields. -/
theorem record_array_eq_object {fields : List Field}
    (hlast : ∀ f, fields.getLast? = some f → f.mayEnd = false)
    (hnames : (fields.map (·.name)).Nodup) {depth : Nat} (hd : depth ≠ 0) {items : List Tree}
    (hlength : items.length = fields.length) {ms : List (List UInt8 × Tree)}
    (hms : named ms = some ((fields.map (·.name)).zip items)) :
    record fields depth (.array items) = record fields depth (.object ms) := by
  have hkeys : Entries.keys ((fields.map (·.name)).zip items) = fields.map (·.name) := by
    rw [Entries.keys]
    exact List.map_fst_zip (Nat.le_of_eq (by rw [List.length_map, hlength]))
  have hpicked : (Entries.keys (((fields.map (·.name)).zip items).filter
      (isField fields ·.1))).Nodup := by
    refine List.Nodup.sublist (List.filter_sublist.map _) ?_
    rw [← Entries.keys, hkeys]
    exact hnames
  rw [(record_object_eq_some hd).mpr ⟨_, hms, hpicked, rfl⟩, record, if_neg hd]
  rw [(assignItems_eq_some_iff hlast).mpr ⟨hlength, rfl⟩, Option.map_some]
  have hparts := Entries.map_get?_zip hnames (hlength.trans (List.length_map _).symm)
  rw [List.map_map] at hparts
  rw [← hparts]
  rfl

/-! ## 3. Parts that may be missing -/

variable {α : Type}

theorem isSome_defaulted {default : α} {item : Decoder α} {depth : Nat} {part : Option Tree} :
    (defaulted default item depth part).isSome ↔ ∀ t, part = some t → (item depth t).isSome := by
  cases part <;> simp [defaulted]

theorem exists_of_nullable {item : Decoder α} {depth : Nat} {part : Option Tree} {a : α}
    (h : nullable item depth part = some (some a)) : ∃ t, item depth t = some a := by
  cases part with
  | none => cases h
  | some t =>
    rw [nullable, defaulted, optional.eq_def] at h
    split at h
    · cases h
    · obtain ⟨b, hb, hab⟩ := Option.map_eq_some_iff.mp h
      cases hab
      exact ⟨_, hb⟩

/-! ## 4. Integers -/

theorem isInt64_of_int64 {depth : Nat} {t : Tree} {n : Int} (h : int64 depth t = some n) :
    Word.isInt64 n = true := by
  rw [int64, int.eq_def] at h
  split at h
  · split at h
    · split at h
      · rename_i hbounds
        cases h
        exact hbounds
      · cases h
    · cases h
  · cases h

end LoginGate.Json.Decoder
