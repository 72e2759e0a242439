/-
# Overriding one field of one part

A variable whose way leads to a field of a part of the tree overrides that field.  Laid among other
variables, none of which leads to the field, to the whole part or to an item of the part, it makes a
tree that differs from the one without it in this field alone, or the tree without it has settings
below the field (`overridden_or_nested`).  The induction is on the layer behind the variable: each
step keeps the difference as it is, unless it puts something below the field, and then what is there
stays.
-/
import LoginGate.Proofs.Settings.Places

namespace LoginGate.Setting

variable {part field path : String} {value v s s' : Setting}

/-! ## 1. What differs -/

/-- The part of a tree under a key, empty if there is none. -/
def within (part : String) (s : Setting) : Setting := (s.under part).getD nil

theorem within_of_under (h : s.under part = some v) : s.within part = v := by
  rw [within, h, Option.getD_some]

/-- **One tree is another with one field of a part overridden.**  The part is a table. -/
structure Overridden (part field : String) (value s s' : Setting) : Prop where
  beside : ∀ key, key ≠ part → s'.under key = s.under key
  table : ∃ es, s'.under part = some (.table es)
  value : (s'.within part).under field = some value
  others : ∀ key, key ≠ field → (s'.within part).under key = (s.within part).under key

/-- A setting that holds other settings. -/
def IsComposite (s : Setting) : Prop := (∃ es, s = .table es) ∨ ∃ is, s = .list is

/-- There are settings below the field of a part. -/
structure Nested (part field : String) (s : Setting) : Prop where
  table : ∃ es, s.under part = some (.table es)
  below : ∃ old, (s.within part).under field = some old ∧ old.IsComposite

/-- A way that does not lead to the field, to the whole part or to an item of it. -/
structure Spares (part field : String) (way : List Step) : Prop where
  whole : way ≠ [.key part]
  itself : way ≠ [.key part, .key field]
  item : ∀ i rest, way ≠ .key part :: .index i :: rest

/-- A way to an item of the part. -/
def leadsToItem (part : String) : List Step → Bool
  | .key key :: .index _ :: _ => key = part
  | _ => false

theorem spares_iff {way : List Step} :
    Spares part field way ↔
      way ≠ [.key part] ∧ way ≠ [.key part, .key field] ∧ leadsToItem part way = false := by
  constructor
  · rintro ⟨hwhole, hitself, hitem⟩
    refine ⟨hwhole, hitself, ?_⟩
    match way with
    | .key key :: .index i :: rest => exact decide_eq_false fun hkey => hitem i rest (by rw [hkey])
    | [] | .index _ :: _ | [.key _] | .key _ :: .key _ :: _ => rfl
  · rintro ⟨hwhole, hitself, hitem⟩
    refine ⟨hwhole, hitself, ?_⟩
    rintro i rest rfl
    simp [leadsToItem] at hitem

instance (way : List Step) : Decidable (Spares part field way) := decidable_of_iff _ spares_iff.symm

/-! ## 2. One step -/

theorem isTable_merge (key : String) (value s : Setting) : (merge key value s).IsTable := by
  cases value with
  | table es => exact ⟨_, rfl⟩
  | _ => exact ⟨_, rfl⟩

/-- Behind a way there is a setting that holds others. -/
theorem isComposite_putAt (value : Setting) (step : Step) (steps : List Step) (s : Setting) :
    (putAt value step steps s).IsComposite := by
  cases step with
  | key k =>
    cases steps with
    | nil => exact Or.inl (isTable_merge k value s)
    | cons step steps => exact Or.inl ⟨_, by rw [putAt, changeEntry]⟩
  | index i =>
    cases steps with
    | nil => exact Or.inr ⟨_, by rw [putAt, changeItem]⟩
    | cons step steps => exact Or.inr ⟨_, by rw [putAt, changeItem]⟩

/-- A step below a field leaves a setting there that holds others. -/
theorem under_putAt_below (hv : v.IsSingle) {key : String} {steps : List Step}
    (hkey : Text.lowerCase key = field) (hsteps : steps ≠ []) (s : Setting) :
    ∃ old, (putAt v (.key key) steps s).under field = some old ∧ old.IsComposite := by
  obtain ⟨step, rest, rfl⟩ := List.exists_cons_of_ne_nil hsteps
  rw [under_putAt hv, if_pos hkey]
  exact ⟨_, rfl, isComposite_putAt v step rest _⟩

/-- What comes to stand under a key depends on nothing but what stood there. -/
theorem under_put_congr (hv : v.IsSingle) {key : String} (h : s'.under key = s.under key) :
    (put (.parse path) v s').under key = (put (.parse path) v s).under key := by
  obtain ⟨first, hfirst⟩ := exists_first_key path
  rw [put, put, hfirst, under_putAt hv, under_putAt hv, h]

/-- **A step that spares the field** leads past the part, or to another field of it, or below the
field. -/
theorem put_cases (hv : v.IsSingle) (h : Spares part field (wayOf path)) :
    (∀ s, (put (.parse path) v s).under part = s.under part) ∨
      ∃ key steps, (Text.lowerCase key ≠ field ∨ steps ≠ []) ∧
        ∀ s, (put (.parse path) v s).under part =
          some (putAt v (.key key) steps (s.within part)) := by
  obtain ⟨first, hfirst⟩ := exists_first_key path
  obtain ⟨whole, itself, item⟩ := h
  simp only [wayOf, hfirst, List.map_cons, Step.lower] at whole itself item
  simp only [put, hfirst]
  by_cases hpart : Text.lowerCase first = part
  · refine Or.inr ?_
    generalize (Path.parse path).others = others at whole itself item ⊢
    rw [hpart] at whole itself item
    match others with
    | [] => exact absurd rfl whole
    | .index i :: steps => exact absurd rfl (item i _)
    | .key key :: steps =>
      refine ⟨key, steps, ?_, fun s => ?_⟩
      · refine or_iff_not_imp_left.mpr fun hfield hnil => itself ?_
        rw [not_not] at hfield
        simp [hnil, Step.lower, hfield]
      · rw [under_putAt hv, if_pos hpart]
        rfl
  · exact Or.inl fun s => by rw [under_putAt hv, if_neg hpart]

/-- What is below the field stays there. -/
theorem Nested.put (h : Nested part field s) (hv : v.IsSingle)
    (hspares : Spares part field (wayOf path)) : Nested part field (put (.parse path) v s) := by
  obtain ⟨old, hold, hcomposite⟩ := h.below
  rcases put_cases hv hspares with hpast | ⟨key, steps, hway, hput⟩
  · exact ⟨by rw [hpast]; exact h.table, old, by rw [within, hpast]; exact hold, hcomposite⟩
  · obtain ⟨es, hes⟩ := isTable_putAt hv key steps (s.within part)
    refine ⟨⟨es, by rw [hput, hes]⟩, ?_⟩
    rw [within_of_under (hput s)]
    by_cases hkey : Text.lowerCase key = field
    · exact under_putAt_below hv hkey (hway.resolve_left (not_not_intro hkey)) _
    · rw [under_putAt hv, if_neg hkey]
      exact ⟨old, hold, hcomposite⟩

/-- **A step keeps the difference**, or it puts something below the field. -/
theorem Overridden.put (h : Overridden part field value s s') (hv : v.IsSingle)
    (hspares : Spares part field (wayOf path)) :
    Overridden part field value (put (.parse path) v s) (put (.parse path) v s') ∨
      Nested part field (Setting.put (.parse path) v s) := by
  have hbeside (key : String) (hkey : key ≠ part) : (Setting.put (.parse path) v s').under key =
      (Setting.put (.parse path) v s).under key := under_put_congr hv (h.beside key hkey)
  rcases put_cases hv hspares with hpast | ⟨key, steps, hway, hput⟩
  · have hwithin (s : Setting) : (Setting.put (.parse path) v s).within part = s.within part := by
      rw [within, hpast, within]
    exact Or.inl
      { beside := hbeside
        table := by rw [hpast]; exact h.table
        value := by rw [hwithin]; exact h.value
        others := by rw [hwithin, hwithin]; exact h.others }
  · have hwithin (s : Setting) : (Setting.put (.parse path) v s).within part =
        putAt v (.key key) steps (s.within part) := within_of_under (hput s)
    have htable (s : Setting) :
        ∃ es, (Setting.put (.parse path) v s).under part = some (.table es) := by
      obtain ⟨es, hes⟩ := isTable_putAt hv key steps (s.within part)
      exact ⟨es, by rw [hput, hes]⟩
    by_cases hkey : Text.lowerCase key = field
    · refine Or.inr ⟨htable s, ?_⟩
      rw [hwithin]
      exact under_putAt_below hv hkey (hway.resolve_left (not_not_intro hkey)) _
    · refine Or.inl ⟨hbeside, htable s', ?_, fun other hother => ?_⟩
      · rw [hwithin, under_putAt hv, if_neg hkey, h.value]
      · rw [hwithin, hwithin, under_putAt hv, under_putAt hv, h.others other hother]

/-- The step of the overriding variable itself. -/
theorem overridden_put (hvalue : value.IsSingle) (hway : wayOf path = [.key part, .key field])
    (s : Setting) : Overridden part field value s (put (.parse path) value s) := by
  obtain ⟨first, hfirst⟩ := exists_first_key path
  rw [Setting.put, hfirst]
  simp only [wayOf, hfirst, List.map_cons, Step.lower, List.cons.injEq, Step.key.injEq] at hway
  obtain ⟨hpart, hothers⟩ := hway
  obtain ⟨key, hkey, hfield⟩ : ∃ key, (Path.parse path).others = [.key key] ∧
      Text.lowerCase key = field := by
    obtain ⟨step, hstep, hlower⟩ := List.map_eq_singleton_iff.mp hothers
    cases step with
    | index i => cases hlower
    | key key => exact ⟨key, hstep, Step.key.inj hlower⟩
  have hunder : (putAt value (.key first) (Path.parse path).others s).under part =
      some (putAt value (.key key) [] (s.within part)) := by
    rw [hkey, under_putAt hvalue, if_pos hpart]
    rfl
  have hwithin := within_of_under hunder
  obtain ⟨es, hes⟩ := isTable_putAt hvalue key [] (s.within part)
  refine ⟨fun other hother => ?_, ⟨es, by rw [hunder, hes]⟩, ?_, fun other hother => ?_⟩
  · rw [under_putAt hvalue, if_neg (hpart ▸ Ne.symm hother)]
  · rw [hwithin, under_putAt hvalue, if_pos hfield]
    rfl
  · rw [hwithin, under_putAt hvalue, if_neg (hfield ▸ Ne.symm hother)]

/-! ## 3. Layers -/

/-- The steps of a layer lead to single settings and spare the field. -/
def LayerSpares (part field : String) (layer : SettingLayer) : Prop :=
  ∀ e ∈ layer, e.2.IsSingle ∧ Spares part field (wayOf e.1)

theorem overlay_cons (s : Setting) (e : String × Setting) (layer : SettingLayer) :
    s.overlay (e :: layer) = (put (.parse e.1) e.2 s).overlay layer := rfl

theorem overlay_append (s : Setting) (front back : SettingLayer) :
    s.overlay (front ++ back) = (s.overlay front).overlay back := List.foldl_append

theorem isTable_put (path : String) (value s : Setting) : (put (.parse path) value s).IsTable := by
  obtain ⟨first, hfirst⟩ := exists_first_key path
  rw [put, hfirst]
  cases (Path.parse path).others with
  | nil => exact isTable_merge first value s
  | cons step steps => exact ⟨_, by rw [putAt, changeEntry]⟩

theorem isTable_overlay (layer : SettingLayer) (h : s.IsTable) : (s.overlay layer).IsTable := by
  induction layer generalizing s with
  | nil => exact h
  | cons e layer ih => exact ih (isTable_put e.1 e.2 s)

theorem Nested.overlay {layer : SettingLayer} (hlayer : LayerSpares part field layer)
    (h : Nested part field s) : Nested part field (s.overlay layer) := by
  induction layer generalizing s with
  | nil => exact h
  | cons e layer ih =>
    obtain ⟨⟨hsingle, hspares⟩, hlayer⟩ := List.forall_mem_cons.mp hlayer
    rw [overlay_cons]
    exact ih hlayer (h.put hsingle hspares)

theorem Overridden.overlay {layer : SettingLayer} (hlayer : LayerSpares part field layer)
    (h : Overridden part field value s s') :
    Overridden part field value (s.overlay layer) (s'.overlay layer) ∨
      Nested part field (s.overlay layer) := by
  induction layer generalizing s s' with
  | nil => exact Or.inl h
  | cons e layer ih =>
    obtain ⟨⟨hsingle, hspares⟩, hlayer⟩ := List.forall_mem_cons.mp hlayer
    rw [overlay_cons, overlay_cons]
    rcases h.put hsingle hspares with hstep | hnested
    · exact ih hlayer hstep
    · exact Or.inr (hnested.overlay hlayer)

/-! ## 4. Variables -/

/-- The way of a variable through the tree, if it sets anything. -/
def variableWay? (name : String) : Option (List Step) := (variablePath? name).map wayOf

/-- The steps that a variable stands for. -/
def stepsOf (environment : List (String × String)) : SettingLayer :=
  environment.filterMap fun v => (variablePath? v.1).map fun path => (path, .ofVariable v.2)

theorem ofVariables_eq (environment : List (String × String)) :
    SettingLayer.ofVariables environment = Entries.ofPairs (stepsOf environment) := rfl

/-- No variable of an environment leads to the field, to the whole part or to an item of it. -/
def Leaves (part field : String) (environment : List (String × String)) : Prop :=
  ∀ v ∈ environment, ∀ way ∈ variableWay? v.1, Spares part field way

instance (environment : List (String × String)) : Decidable (Leaves part field environment) :=
  inferInstanceAs (Decidable (∀ v ∈ environment, ∀ way ∈ variableWay? v.1, Spares part field way))

theorem layerSpares_stepsOf {environment : List (String × String)}
    (h : Leaves part field environment) : LayerSpares part field (stepsOf environment) := by
  intro e he
  obtain ⟨v, hmem, hstep⟩ := List.mem_filterMap.mp he
  obtain ⟨path, hpath, rfl⟩ := Option.map_eq_some_iff.mp hstep
  refine ⟨isSingle_ofVariable v.2, h v hmem _ ?_⟩
  rw [Option.mem_def, variableWay?, hpath, Option.map_some]

/-- **A variable for a field overrides that field alone**, wherever it stands among variables that
leave the field to it, or there are settings below the field without it. -/
theorem overridden_or_nested {name : String} (given : String)
    (hway : variableWay? name = some [.key part, .key field])
    {before after : List (String × String)} (hleaves : Leaves part field (before ++ after))
    (base : Setting) :
    let without := base.overlay (.ofVariables (before ++ after))
    Overridden part field (ofVariable given) without
        (base.overlay (.ofVariables (before ++ (name, given) :: after))) ∨
      Nested part field without := by
  intro without
  obtain ⟨path, hpath, hway⟩ := Option.map_eq_some_iff.mp hway
  have hsteps : stepsOf (before ++ after) = stepsOf before ++ stepsOf after :=
    List.filterMap_append
  have hstepsWith : stepsOf (before ++ (name, given) :: after) =
      stepsOf before ++ (path, ofVariable given) :: stepsOf after := by
    simp [stepsOf, List.filterMap_append, hpath]
  have hlayer := layerSpares_stepsOf hleaves
  -- No other step has the path of the variable, since this one is not spared.
  have hnew : path ∉ Entries.keys (stepsOf (before ++ after)) := by
    intro hmem
    obtain ⟨e, he, hpath⟩ := List.mem_map.mp hmem
    exact (hlayer e he).2.itself (hpath ▸ hway)
  rw [hsteps, Entries.keys, List.map_append, List.mem_append, not_or] at hnew
  obtain ⟨front, back, hwithout, hwith⟩ :=
    Entries.exists_ofPairs_insert (p := (path, ofVariable given)) hnew.1 hnew.2
  have hmade : LayerSpares part field (front ++ back) := by
    intro e he
    rw [← hwithout, ← hsteps] at he
    exact hlayer e (Entries.mem_of_mem_ofPairs he)
  have hback : LayerSpares part field back := fun e he => hmade e (List.mem_append_right _ he)
  have hstart := overridden_put (isSingle_ofVariable given) hway (base.overlay front)
  have hend := hstart.overlay hback
  have heq : without = (base.overlay front).overlay back := by
    rw [← overlay_append, ← hwithout, ← hsteps]
    rfl
  have heqWith : base.overlay (.ofVariables (before ++ (name, given) :: after)) =
      (put (.parse path) (ofVariable given) (base.overlay front)).overlay back := by
    rw [ofVariables_eq, hstepsWith, hwith, overlay_append, overlay_cons]
  rw [heq, heqWith]
  exact hend

end LoginGate.Setting
