/-
# The environments of a URL

A key URL and an issuer are looked up in the same table in two ways.  A key URL has to be a base URL
or to continue one with a slash (`Below`), and any environment will do (`Publishes`).  An issuer has
to be a base URL up to slashes at its end, and the first such environment in the order of the keys is
meant (`IsNamed`).  The table of a configuration is in that order (`inKeyOrder_of_decoder`).
-/
import LoginGate.Nintendo.Settings
import LoginGate.Proofs.Entries
import LoginGate.Records.Configuration

namespace LoginGate.Nintendo

/-! ## 1. Key URLs -/

namespace Settings

variable {s : Settings} {base base' url issuer key : String}

/-- **A URL lies below a base URL**: it is the base URL, less the slashes at its end, or continues it
with a slash. -/
def Below (base url : String) : Prop :=
  url = bareUrl base ∨ ∃ rest, url = bareUrl base ++ "/" ++ rest

/-- A URL lies below the base URL of some environment. -/
def Publishes (s : Settings) (url : String) : Prop :=
  ∃ e ∈ s.environments, Below e.2 url

theorem isBelow_iff {base url : List Char} :
    isBelow base url = true ↔ url = base ∨ ∃ rest, url = base ++ '/' :: rest := by
  rw [isBelow, Bool.and_eq_true, List.isPrefixOf_iff_prefix]
  constructor
  · rintro ⟨⟨rest, rfl⟩, hnext⟩
    rw [List.drop_left] at hnext
    cases rest with
    | nil => exact Or.inl (List.append_nil base)
    | cons c rest =>
      have hc : c = '/' := by simpa using hnext
      exact Or.inr ⟨rest, by rw [hc]⟩
  · rintro (rfl | ⟨rest, rfl⟩)
    · simp
    · simp

theorem below_iff : isBelow (bareUrl base).toList url.toList = true ↔ Below base url := by
  rw [isBelow_iff, Below, String.toList_inj]
  refine or_congr_right ⟨?_, ?_⟩
  · rintro ⟨rest, hrest⟩
    refine ⟨String.ofList rest, ?_⟩
    rw [← String.toList_inj, hrest]
    simp
  · rintro ⟨rest, rfl⟩
    exact ⟨rest.toList, by simp⟩

instance (base url : String) : Decidable (Below base url) := decidable_of_iff _ below_iff

instance (s : Settings) (url : String) : Decidable (s.Publishes url) :=
  inferInstanceAs (Decidable (∃ e ∈ s.environments, Below e.2 url))

/-- **Keys may be fetched** from below any base URL. -/
theorem isNone_environmentOfKeyUrl? :
    (s.environmentOfKeyUrl? url).isNone = true ↔ ¬ s.Publishes url := by
  rw [environmentOfKeyUrl?, Option.isNone_map, Option.isNone_iff_eq_none, List.find?_eq_none,
    Publishes]
  simp [below_iff]

/-! ## 2. Issuers -/

/-- An issuer is a base URL, up to slashes at the end of both. -/
def Knows (s : Settings) (issuer : String) : Prop :=
  ∃ e ∈ s.environments, bareUrl e.2 = bareUrl issuer

/-- The environments are in the order of their keys, and no two have one key. -/
def InKeyOrder (s : Settings) : Prop := s.environments.Pairwise fun a b => a.1 < b.1

instance (s : Settings) : Decidable s.InKeyOrder :=
  inferInstanceAs (Decidable (s.environments.Pairwise fun a b => a.1 < b.1))

theorem InKeyOrder.nodup_keys (horder : s.InKeyOrder) :
    (Entries.keys s.environments).Nodup := by
  refine List.pairwise_map.mpr (horder.imp ?_)
  intro a b hlt heq
  rw [heq] at hlt
  exact Std.lt_irrefl hlt

/-- An environment has one base URL. -/
theorem InKeyOrder.base_unique (horder : s.InKeyOrder) (h : (key, base) ∈ s.environments)
    (h' : (key, base') ∈ s.environments) : base = base' := by
  have hbase := (Entries.get?_eq_some_iff horder.nodup_keys).mpr h
  rw [(Entries.get?_eq_some_iff horder.nodup_keys).mpr h'] at hbase
  exact (Option.some.inj hbase).symm

/-- **An issuer names an environment**: the first one in the order of the keys whose base URL it
is. -/
structure IsNamed (s : Settings) (issuer key : String) : Prop where
  environment : ∃ base, (key, base) ∈ s.environments ∧ bareUrl base = bareUrl issuer
  first : ∀ e ∈ s.environments, bareUrl e.2 = bareUrl issuer → key ≤ e.1

theorem isNamed_iff :
    s.IsNamed issuer key ↔
      (∃ e ∈ s.environments, e.1 = key ∧ bareUrl e.2 = bareUrl issuer) ∧
        ∀ e ∈ s.environments, bareUrl e.2 = bareUrl issuer → key ≤ e.1 := by
  constructor
  · rintro ⟨⟨base, hmem, hbase⟩, hfirst⟩
    exact ⟨⟨_, hmem, rfl, hbase⟩, hfirst⟩
  · rintro ⟨⟨⟨_, base⟩, hmem, rfl, hbase⟩, hfirst⟩
    exact ⟨⟨base, hmem, hbase⟩, hfirst⟩

instance (s : Settings) (issuer key : String) : Decidable (s.IsNamed issuer key) :=
  decidable_of_iff _ isNamed_iff.symm

theorem IsNamed.knows (h : s.IsNamed issuer key) : s.Knows issuer := by
  obtain ⟨base, hmem, hbase⟩ := h.environment
  exact ⟨_, hmem, hbase⟩

theorem environmentOfIssuer?_eq_none_iff :
    s.environmentOfIssuer? issuer = none ↔ ¬ s.Knows issuer := by
  rw [environmentOfIssuer?, Option.map_eq_none_iff, List.find?_eq_none, Knows]
  simp

theorem isNamed_of_environmentOfIssuer? (horder : s.InKeyOrder)
    (h : s.environmentOfIssuer? issuer = some key) : s.IsNamed issuer key := by
  obtain ⟨⟨k, base⟩, hfind, rfl⟩ := Option.map_eq_some_iff.mp h
  obtain ⟨hbase, passed, rest, hsplit, hpassed⟩ := List.find?_eq_some_iff_append.mp hfind
  rw [decide_eq_true_eq] at hbase
  rw [InKeyOrder, hsplit, List.pairwise_append, List.pairwise_cons] at horder
  refine ⟨⟨base, by simp [hsplit], hbase⟩, ?_⟩
  rintro e hmem he
  rw [hsplit, List.mem_append, List.mem_cons] at hmem
  rcases hmem with hmem | rfl | hmem
  · have hforeign := hpassed e hmem
    simp [he] at hforeign
  · exact String.le_refl _
  · exact Std.le_of_lt (horder.2.1.1 e hmem)

/-- **The environment of an issuer**, if there is one, is the one that it names. -/
theorem environmentOfIssuer?_eq_some_iff (horder : s.InKeyOrder) :
    s.environmentOfIssuer? issuer = some key ↔ s.IsNamed issuer key := by
  constructor
  · exact isNamed_of_environmentOfIssuer? horder
  · intro hnamed
    cases hfound : s.environmentOfIssuer? issuer with
    | none => exact absurd hnamed.knows (environmentOfIssuer?_eq_none_iff.mp hfound)
    | some found =>
      have hfirst := isNamed_of_environmentOfIssuer? horder hfound
      obtain ⟨base, hmem, hbase⟩ := hnamed.environment
      obtain ⟨base', hmem', hbase'⟩ := hfirst.environment
      rw [String.le_antisymm (hfirst.first _ hmem hbase) (hnamed.first _ hmem' hbase')]

end Settings

/-! ## 3. Tables -/

/-- **A table with distinct keys is put in their order.** -/
theorem inKeyOrder_sortEnvironments {environments : List (String × String)}
    (h : (Entries.keys environments).Nodup) (s : Settings) :
    { s with environments := sortEnvironments environments }.InKeyOrder := by
  have hsorted : (sortEnvironments environments).Pairwise fun a b => a.1 ≤ b.1 := by
    refine (List.pairwise_mergeSort ?_ ?_ environments).imp of_decide_eq_true
    · intro a b c hab hbc
      exact decide_eq_true (String.le_trans (of_decide_eq_true hab) (of_decide_eq_true hbc))
    · intro a b
      rw [Bool.or_eq_true, decide_eq_true_eq, decide_eq_true_eq]
      exact String.le_total a.1 b.1
  have hdistinct : (sortEnvironments environments).Pairwise fun a b => a.1 ≠ b.1 := by
    have hperm := (List.mergeSort_perm environments fun a b => a.1 ≤ b.1).map Prod.fst
    exact List.pairwise_map.mp (hperm.nodup_iff.mpr h)
  exact (hsorted.and hdistinct).imp fun hab => Std.lt_of_le_of_ne hab.1 hab.2

/-- The environments that are read from a configuration are in the order of their keys. -/
theorem inKeyOrder_of_decoder {depth : Nat} {t : Json.Tree} {environments : List (String × String)}
    (h : Configuration.environmentsDecoder depth t = some environments) (s : Settings) :
    { s with environments }.InKeyOrder := by
  obtain ⟨members, -, rfl⟩ := Option.map_eq_some_iff.mp h
  exact inKeyOrder_sortEnvironments (Entries.ofPairs_nodup members) s

end LoginGate.Nintendo
