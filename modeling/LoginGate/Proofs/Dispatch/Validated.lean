/-
# What may still be wrong with a validated configuration

A configuration is validated before a registry is built for its providers.  Validation looks at the
types and the base URLs of the entries, and building looks at the base URLs again, and at everything
that is still missing.  So three things are left over which an empty dispatcher cannot be rebuilt: a
type that occurs twice, a setting that is missing, and a secret that makes no keys
(`rebuild_validated`).  The first entry with any of these decides, and it is never over its base URL.

* Making a provider for an entry that passed fails exactly over what the entry lacks
  (`makeKind_eq_error_iff`).
* Building stops at a provider exactly if its entry offends behind the entries before it
  (`stopsAt_iff_offends`), and the first one at which it stops decides
  (`Registry.snd_build_eq_some_iff`).
-/
import LoginGate.Configuration.Basic
import LoginGate.Proofs.Dispatch.Histories
import LoginGate.Proofs.Token.Rotation

namespace LoginGate

/-! ## 1. What entries lack -/

namespace Configuration

namespace ProviderEntry

/-- The entry is for providers of the type. -/
def IsFor (e : ProviderEntry) (t : AuthType) : Prop := AuthType.parse e.authType = .ok t

/-- The value of a dashboard parameter of the entry. -/
def param? (e : ProviderEntry) (key : String) : Option String :=
  (QueryParams.parse e.staticParams).get? key

/-- **An entry has all that its type needs**: the secrets of sealed tokens, or the application of
Nintendo tokens. -/
structure Complete (e : ProviderEntry) (t : AuthType) : Prop where
  secret : t = .jwt ∨ t = .playerIo →
    ∃ secret keys, e.param? "secret" = some secret ∧ secret ≠ "" ∧ KeySet.ofSecret secret = .ok keys
  fallback : t = .jwt ∨ t = .playerIo →
    ∀ fallback, e.param? "fallbackSecret" = some fallback →
      Text.allBlank fallback = true ∨ ∃ keys, KeySet.ofSecret fallback = .ok keys
  appId : t = .nintendo → ∃ appId, e.param? "appid" = some appId ∧ appId ≠ ""

/-- **What an entry lacks**, with the error that says so. -/
inductive Lacks (e : ProviderEntry) (t : AuthType) : RegistryError → Prop
  | secret (sealed : t = .jwt ∨ t = .playerIo)
      (missing : ∀ secret, e.param? "secret" = some secret → secret = "") :
      Lacks e t (.missingSetting t "secret")
  | secretKeys {secret : String} {error : KeyError} (sealed : t = .jwt ∨ t = .playerIo)
      (present : e.param? "secret" = some secret) (nonempty : secret ≠ "")
      (refused : KeySet.ofSecret secret = .error error) :
      Lacks e t (.invalidProvider t (.key error))
  | fallbackKeys {secret fallback : String} {keys : KeySet} {error : KeyError}
      (sealed : t = .jwt ∨ t = .playerIo) (present : e.param? "secret" = some secret)
      (accepted : KeySet.ofSecret secret = .ok keys)
      (second : e.param? "fallbackSecret" = some fallback)
      (nonblank : Text.allBlank fallback = false)
      (refused : KeySet.ofSecret fallback = .error error) :
      Lacks e t (.invalidProvider t (.key error))
  | appId (console : t = .nintendo)
      (missing : ∀ appId, e.param? "appid" = some appId → appId = "") :
      Lacks e t (.missingSetting t "appid")

end ProviderEntry

/-- **Entries that a registry can be built for**: each is the only one of its type, and has all that
its type needs. -/
structure Buildable (entries : List ProviderEntry) : Prop where
  distinct : entries.Pairwise fun e e' => ∀ t, e.IsFor t → ¬ e'.IsFor t
  complete : ∀ e ∈ entries, ∀ t, e.IsFor t → e.Complete t

/-- **The error of an entry** behind others: its type is there already, or it is not and the entry
lacks something. -/
inductive Offends (earlier : List ProviderEntry) (e : ProviderEntry) : RegistryError → Prop
  | duplicate {t : AuthType} (type : e.IsFor t) (again : ∃ e' ∈ earlier, e'.IsFor t) :
      Offends earlier e (.duplicateProvider t)
  | lacks {t : AuthType} {error : RegistryError} (type : e.IsFor t)
      (first : ∀ e' ∈ earlier, ¬ e'.IsFor t) (lacks : e.Lacks t error) : Offends earlier e error

end Configuration

/-! ## 2. Making a provider -/

theorem Text.ne_empty_of_nonblank {s : String} (h : Text.allBlank s = false) : s ≠ "" := by
  rintro rfl
  cases h

/-- A ring fails over its first secret, or over its second one unless that is blank. -/
theorem KeyRing.ofSecrets_eq_error_iff {secret : String} {fallback : Option String}
    {error : KeyError} : KeyRing.ofSecrets secret fallback = .error error ↔
      KeySet.ofSecret secret = .error error ∨ ∃ keys second, KeySet.ofSecret secret = .ok keys ∧
        fallback = some second ∧ Text.allBlank second = false ∧
        KeySet.ofSecret second = .error error := by
  rw [ofSecrets]
  cases hsecret : KeySet.ofSecret secret with
  | error refused => simp [bind, Except.bind]
  | ok keys =>
    cases hkept : fallback.filter (!Text.allBlank ·) with
    | none =>
      refine iff_of_false (fun h => by cases h) ?_
      rintro (h | ⟨-, second, -, rfl, hblank, -⟩)
      · cases h
      · simp [hblank] at hkept
    | some second =>
      obtain ⟨rfl, hblank⟩ := Option.filter_eq_some_iff.mp hkept
      rw [Bool.not_eq_true'] at hblank
      cases hsecond : KeySet.ofSecret second <;>
        simp [bind, Except.bind, pure, Except.pure, hsecond, hblank]

namespace Provider

variable {p : Provider} {key value : String} {error : RegistryError} {queue : Nat}

theorem requiredParam_eq_ok_iff :
    p.requiredParam key = .ok value ↔ p.param? key = some value ∧ value ≠ "" := by
  rw [requiredParam]
  cases hkept : (p.param? key).filter (· ≠ "") with
  | none =>
    refine iff_of_false (fun h => by cases h) ?_
    rintro ⟨hvalue, hne⟩
    simp [hvalue, hne] at hkept
  | some kept =>
    obtain ⟨hkept, hne⟩ := Option.filter_eq_some_iff.mp hkept
    rw [hkept]
    constructor
    · rintro ⟨⟩
      exact ⟨rfl, of_decide_eq_true hne⟩
    · rintro ⟨⟨⟩, -⟩
      rfl

theorem requiredParam_eq_error_iff : p.requiredParam key = .error error ↔
    error = .missingSetting p.authType key ∧ ∀ value, p.param? key = some value → value = "" := by
  cases hparam : p.requiredParam key with
  | ok value =>
    obtain ⟨hvalue, hne⟩ := requiredParam_eq_ok_iff.mp hparam
    exact iff_of_false (fun h => by cases h) fun h => hne (h.2 value hvalue)
  | error e =>
    have hmissing : ∀ value, p.param? key = some value → value = "" := by
      intro value hvalue
      by_contra hne
      cases hparam.symm.trans (requiredParam_eq_ok_iff.mpr ⟨hvalue, hne⟩)
    have he : e = .missingSetting p.authType key := by
      rw [requiredParam] at hparam
      split at hparam
      · cases hparam
      · cases hparam
        rfl
    rw [he]
    constructor
    · rintro ⟨⟩
      exact ⟨rfl, hmissing⟩
    · rintro ⟨rfl, -⟩
      rfl

/-- A provider of sealed tokens fails over its secret, or over the keys of its secrets. -/
theorem makeKind_eq_error_of_sealed (sealed : p.authType = .jwt ∨ p.authType = .playerIo) :
    p.makeKind queue = .error error ↔
      p.requiredParam "secret" = .error error ∨ ∃ secret refused,
        p.requiredParam "secret" = .ok secret ∧
        KeyRing.ofSecrets secret ((p.param? "fallbackSecret").filter (· ≠ "")) = .error refused ∧
        error = .invalidProvider p.authType (.key refused) := by
  rw [makeKind]
  generalize (p.param? "fallbackSecret").filter (· ≠ "") = fallback
  split
  case h_3 h => rcases sealed with h' | h' <;> cases h.symm.trans h'
  case h_4 hjwt hplayerIo _ => exact absurd sealed (not_or.mpr ⟨hjwt, hplayerIo⟩)
  all_goals
    cases p.requiredParam "secret" with
    | error e => simp [bind, Except.bind]
    | ok secret =>
      cases hring : KeyRing.ofSecrets secret fallback with
      | ok ring => simp [bind, Except.bind, pure, Except.pure, hring]
      | error refused =>
        simp [bind, Except.bind, hring, eq_comm, throw, throwThe, MonadExceptOf.throw]

theorem makeKind_eq_error_of_console (console : p.authType = .nintendo) :
    p.makeKind queue = .error error ↔ p.requiredParam "appid" = .error error := by
  rw [makeKind]
  simp only [console]
  cases p.requiredParam "appid" <;> simp [bind, Except.bind, pure, Except.pure]

end Provider

namespace Configuration

variable {e : ProviderEntry} {p : Provider} {error : RegistryError}

/-- Both layers take the same types for those that are reached over HTTP. -/
theorem isHttp_eq (t : AuthType) : isHttp t = t.isHttp := by cases t <;> rfl

/-- **The provider of an entry** is of its type, has its parameters, and has a base URL if it is
reached over HTTP. -/
theorem of_provider_eq_ok (h : e.provider = .ok p) :
    e.IsFor p.authType ∧ (∀ key, p.param? key = e.param? key) ∧
      (p.authType.isHttp = true → Text.allBlank p.baseUri = false) := by
  rw [ProviderEntry.provider] at h
  split at h
  · cases h
  · rename_i t ht
    split at h
    · cases h
    · rename_i hbase
      cases h
      refine ⟨ht, fun key => rfl, fun hhttp => ?_⟩
      rw [Text.allBlank_trim]
      rw [isHttp_eq, hhttp, Bool.true_and, Bool.not_eq_true] at hbase
      exact hbase

/-- Only entries for sealed tokens and for Nintendo tokens lack anything. -/
theorem ProviderEntry.Lacks.isLocal {t : AuthType} (h : e.Lacks t error) :
    (t = .jwt ∨ t = .playerIo) ∨ t = .nintendo := by
  cases h with
  | secret sealed _ | secretKeys sealed _ _ _ | fallbackKeys sealed _ _ _ _ _ => exact .inl sealed
  | appId console _ => exact .inr console

theorem makeKind_eq_error_iff_of_sealed (h : e.provider = .ok p) (queue : Nat)
    (sealed : p.authType = .jwt ∨ p.authType = .playerIo) :
    p.makeKind queue = .error error ↔ e.Lacks p.authType error := by
  obtain ⟨-, hparam, -⟩ := of_provider_eq_ok h
  rw [Provider.makeKind_eq_error_of_sealed sealed, Provider.requiredParam_eq_error_iff]
  simp only [Provider.requiredParam_eq_ok_iff, KeyRing.ofSecrets_eq_error_iff, hparam,
    Option.filter_eq_some_iff]
  constructor
  · rintro (⟨rfl, missing⟩ | ⟨secret, refused, ⟨present, nonempty⟩, hkeys, rfl⟩)
    · exact .secret sealed missing
    · rcases hkeys with hkeys | ⟨keys, second, accepted, ⟨hsecond, -⟩, nonblank, hkeys⟩
      · exact .secretKeys sealed present nonempty hkeys
      · exact .fallbackKeys sealed present accepted hsecond nonblank hkeys
  · intro lacks
    cases lacks with
    | secret _ missing => exact .inl ⟨rfl, missing⟩
    | secretKeys _ present nonempty refused =>
      exact .inr ⟨_, _, ⟨present, nonempty⟩, .inl refused, rfl⟩
    | fallbackKeys _ present accepted second nonblank refused =>
      refine .inr ⟨_, _, ⟨present, ?_⟩, .inr ⟨_, _, accepted, ⟨second, ?_⟩, nonblank, refused⟩, rfl⟩
      · exact Text.ne_empty_of_nonblank (KeySet.allBlank_eq_false_of_ofSecret accepted)
      · exact decide_eq_true (Text.ne_empty_of_nonblank nonblank)
    | appId console _ => rcases sealed with h | h <;> cases console.symm.trans h

theorem makeKind_eq_error_iff_of_console (h : e.provider = .ok p) (queue : Nat)
    (console : p.authType = .nintendo) :
    p.makeKind queue = .error error ↔ e.Lacks p.authType error := by
  obtain ⟨-, hparam, -⟩ := of_provider_eq_ok h
  rw [Provider.makeKind_eq_error_of_console console, Provider.requiredParam_eq_error_iff]
  simp only [hparam]
  constructor
  · rintro ⟨rfl, missing⟩
    exact .appId console missing
  · intro lacks
    cases lacks with
    | secret sealed _ | secretKeys sealed _ _ _ | fallbackKeys sealed _ _ _ _ _ =>
      rcases sealed with h | h <;> cases console.symm.trans h
    | appId _ missing => exact ⟨rfl, missing⟩

/-- **A provider cannot be made exactly for what its entry lacks.** -/
theorem makeKind_eq_error_iff (h : e.provider = .ok p) (queue : Nat) :
    p.makeKind queue = .error error ↔ e.Lacks p.authType error := by
  by_cases sealed : p.authType = .jwt ∨ p.authType = .playerIo
  · exact makeKind_eq_error_iff_of_sealed h queue sealed
  by_cases console : p.authType = .nintendo
  · exact makeKind_eq_error_iff_of_console h queue console
  · have hhttp : p.authType.isHttp = true :=
      AuthType.isHttp_iff.mpr ⟨fun h => sealed (.inl h), fun h => sealed (.inr h), console⟩
    rw [Provider.makeKind_of_isHttp hhttp, (of_provider_eq_ok h).2.2 hhttp]
    exact iff_of_false (fun h => by cases h) fun lacks => lacks.isLocal.elim sealed console

/-- An entry has all that its type needs if it lacks nothing. -/
theorem ProviderEntry.complete_iff {t : AuthType} : e.Complete t ↔ ∀ error, ¬ e.Lacks t error := by
  constructor
  · rintro ⟨hsecret, hfallback, happId⟩ error
    rintro (⟨sealed, missing⟩ | ⟨sealed, present, nonempty, refused⟩ |
      ⟨sealed, -, -, second, nonblank, refused⟩ | ⟨console, missing⟩)
    · obtain ⟨secret, -, present, nonempty, -⟩ := hsecret sealed
      exact nonempty (missing secret present)
    · obtain ⟨secret, keys, present', -, accepted⟩ := hsecret sealed
      cases present.symm.trans present'
      cases refused.symm.trans accepted
    · rcases hfallback sealed _ second with hblank | ⟨keys, accepted⟩
      · cases nonblank.symm.trans hblank
      · cases refused.symm.trans accepted
    · obtain ⟨appId, present, nonempty⟩ := happId console
      exact nonempty (missing appId present)
  · intro hnothing
    have hsecret : t = .jwt ∨ t = .playerIo → ∃ secret keys, e.param? "secret" = some secret ∧
        secret ≠ "" ∧ KeySet.ofSecret secret = .ok keys := by
      intro sealed
      by_contra hnone
      refine hnothing _ (.secret sealed fun secret present => ?_)
      by_contra nonempty
      cases hkeys : KeySet.ofSecret secret with
      | ok keys => exact hnone ⟨secret, keys, present, nonempty, hkeys⟩
      | error refused => exact hnothing _ (.secretKeys sealed present nonempty hkeys)
    refine ⟨hsecret, fun sealed fallback second => ?_, fun console => ?_⟩
    · obtain ⟨secret, keys, present, -, accepted⟩ := hsecret sealed
      cases hblank : Text.allBlank fallback with
      | true => exact .inl rfl
      | false =>
        cases hkeys : KeySet.ofSecret fallback with
        | ok keys => exact .inr ⟨keys, rfl⟩
        | error refused =>
          exact absurd (.fallbackKeys sealed present accepted second hblank hkeys) (hnothing _)
    · by_contra hnone
      refine hnothing _ (.appId console fun appId present => ?_)
      by_contra nonempty
      exact hnone ⟨appId, present, nonempty⟩

/-- A provider can be made exactly if its entry is complete. -/
theorem isValid_iff (h : e.provider = .ok p) : p.isValid = true ↔ e.Complete p.authType := by
  rw [ProviderEntry.complete_iff, Provider.isValid]
  cases hkind : p.makeKind 0 with
  | ok kind =>
    refine iff_of_true rfl fun error hlacks => ?_
    cases hkind.symm.trans ((makeKind_eq_error_iff h 0).mpr hlacks)
  | error error =>
    exact iff_of_false Bool.false_ne_true
      fun hnothing => hnothing error ((makeKind_eq_error_iff h 0).mp hkind)

end Configuration

/-! ## 3. Entries and their providers -/

namespace Configuration

variable {entries : List ProviderEntry} {ps : List Provider} {e : ProviderEntry} {p : Provider}
  {t : AuthType}

/-- The providers that entries describe, one by one. -/
def Describe (entries : List ProviderEntry) (ps : List Provider) : Prop :=
  List.Forall₂ (fun e p => e.provider = .ok p) entries ps

theorem describe_of_mapM (h : entries.mapM ProviderEntry.provider = .ok ps) :
    Describe entries ps := by
  induction entries generalizing ps with
  | nil =>
    cases h
    exact .nil
  | cons e entries ih =>
    rw [List.mapM_cons] at h
    cases hp : e.provider with
    | error fault =>
      rw [hp] at h
      cases h
    | ok p =>
      cases hrest : entries.mapM ProviderEntry.provider with
      | error fault =>
        rw [hp, hrest] at h
        cases h
      | ok rest =>
        rw [hp, hrest] at h
        cases h
        exact .cons hp (ih hrest)

/-- A validated configuration describes its providers. -/
theorem describe_of_validate {c : Configuration} (valid : c.validate = .ok ()) :
    ∃ ps, c.providerList = .ok ps ∧ Describe c.providers ps := by
  obtain ⟨-, htimeout⟩ := exists_of_bind_eq_ok valid
  obtain ⟨-, hinterval⟩ := exists_of_bind_eq_ok htimeout
  obtain ⟨-, hproviders⟩ := exists_of_bind_eq_ok hinterval
  cases hps : c.providerList with
  | ok ps => exact ⟨ps, rfl, describe_of_mapM hps⟩
  | error fault =>
    rw [hps] at hproviders
    cases hproviders

theorem isFor_iff (h : e.provider = .ok p) : e.IsFor t ↔ p.authType = t := by
  rw [ProviderEntry.IsFor, (of_provider_eq_ok h).1]
  exact ⟨fun h => Except.ok.inj h, congrArg _⟩

theorem mem_types_iff (h : Describe entries ps) :
    t ∈ ps.map (·.authType) ↔ ∃ e ∈ entries, e.IsFor t := by
  induction h with
  | nil => simp
  | cons hp _ ih => simp [ih, isFor_iff hp, eq_comm]

theorem distinct_iff (h : Describe entries ps) : (ps.map (·.authType)).Nodup ↔
    entries.Pairwise fun e e' => ∀ t, e.IsFor t → ¬ e'.IsFor t := by
  induction h with
  | nil => simp
  | cons hp hrest ih => simp [ih, isFor_iff hp, mem_types_iff hrest]

theorem complete_iff (h : Describe entries ps) : (∀ p ∈ ps, p.isValid = true) ↔
    ∀ e ∈ entries, ∀ t, e.IsFor t → e.Complete t := by
  induction h with
  | nil => simp
  | cons hp _ ih => simp [ih, isFor_iff hp, isValid_iff hp]

/-- Nothing can be kept of an empty registry. -/
theorem keeps_empty (p : Provider) : ({} : Registry).keeps p = false := rfl

/-- **An empty registry is built for buildable entries** and for no others. -/
theorem snd_build_eq_none_iff_buildable (h : Describe entries ps) (firstQueue : Nat) :
    (({} : Registry).build firstQueue ps).2 = none ↔ Buildable entries := by
  simp only [Registry.snd_build_eq_none_iff, keeps_empty, Bool.false_eq_true, false_or,
    distinct_iff h, complete_iff h]
  exact ⟨fun h => ⟨h.1, h.2⟩, fun h => ⟨h.distinct, h.complete⟩⟩

/-- Building stops at a provider exactly for the error of its entry. -/
theorem stopsAt_iff_offends {error : RegistryError} (h : Describe entries ps)
    (hp : e.provider = .ok p) :
    ({} : Registry).StopsAt ps p error ↔ Offends entries e error := by
  rw [Registry.StopsAt, mem_types_iff h, makeKind_eq_error_iff hp]
  constructor
  · rintro (⟨again, rfl⟩ | ⟨first, -, lacks⟩)
    · exact .duplicate ((isFor_iff hp).mpr rfl) again
    · exact .lacks ((isFor_iff hp).mpr rfl) (fun e' he' hfor => first ⟨e', he', hfor⟩) lacks
  · rintro (⟨type, again⟩ | ⟨type, first, lacks⟩)
    · cases (isFor_iff hp).mp type
      exact .inl ⟨again, rfl⟩
    · cases (isFor_iff hp).mp type
      refine .inr ⟨?_, rfl, lacks⟩
      rintro ⟨e', he', hfor⟩
      exact first e' he' hfor

/-- The providers of entries, split where the entries are. -/
theorem describe_append_cons {earlier later : List ProviderEntry}
    (h : Describe (earlier ++ e :: later) ps) : ∃ front p back, ps = front ++ p :: back ∧
      Describe earlier front ∧ e.provider = .ok p := by
  induction earlier generalizing ps with
  | nil =>
    obtain ⟨p, back, hp, -, rfl⟩ := List.forall₂_cons_left_iff.mp h
    exact ⟨[], p, back, rfl, .nil, hp⟩
  | cons e' earlier ih =>
    obtain ⟨p', rest, hp', hrest, rfl⟩ := List.forall₂_cons_left_iff.mp h
    obtain ⟨front, p, back, rfl, hfront, hp⟩ := ih hrest
    exact ⟨p' :: front, p, back, rfl, .cons hp' hfront, hp⟩

/-- The entries of providers, split where the providers are. -/
theorem exists_append_cons {front back : List Provider}
    (h : Describe entries (front ++ p :: back)) : ∃ earlier e later,
      entries = earlier ++ e :: later ∧ Describe earlier front ∧ e.provider = .ok p := by
  induction front generalizing entries with
  | nil =>
    obtain ⟨e, later, hp, -, rfl⟩ := List.forall₂_cons_right_iff.mp h
    exact ⟨[], e, later, rfl, .nil, hp⟩
  | cons p' front ih =>
    obtain ⟨e', rest, hp', hrest, rfl⟩ := List.forall₂_cons_right_iff.mp h
    obtain ⟨earlier, e, later, rfl, hearlier, hp⟩ := ih hrest
    exact ⟨e' :: earlier, e, later, rfl, .cons hp' hearlier, hp⟩

/-- **The first entry that offends decides.** -/
theorem snd_build_eq_some_iff_offends (h : Describe entries ps) (firstQueue : Nat)
    (error : RegistryError) :
    (({} : Registry).build firstQueue ps).2 = some error ↔
      ∃ earlier e later, entries = earlier ++ e :: later ∧ Buildable earlier ∧
        Offends earlier e error := by
  rw [Registry.snd_build_eq_some_iff]
  constructor
  · rintro ⟨front, p, back, rfl, hnone, hstops⟩
    obtain ⟨earlier, e, later, rfl, hfront, hp⟩ := exists_append_cons h
    exact ⟨earlier, e, later, rfl, (snd_build_eq_none_iff_buildable hfront firstQueue).mp hnone,
      (stopsAt_iff_offends hfront hp).mp hstops⟩
  · rintro ⟨earlier, e, later, rfl, hbuildable, hoffends⟩
    obtain ⟨front, p, back, rfl, hfront, hp⟩ := describe_append_cons h
    exact ⟨front, p, back, rfl,
      (snd_build_eq_none_iff_buildable hfront firstQueue).mpr hbuildable,
      (stopsAt_iff_offends hfront hp).mpr hoffends⟩

end Configuration

/-! ## 4. Rebuilding -/

/-- **What may still be wrong with a validated configuration.**  A configuration that is accepted has
providers, and a dispatcher without providers can be rebuilt for them exactly if no type occurs twice
and every entry has all that its type needs.  Otherwise the error is that of the first entry that
offends behind the entries before it, and it never is that a base URL is empty. -/
theorem Session.rebuild_validated {c : Configuration} (valid : c.validate = .ok ()) {s : Session}
    (empty : s.registry = {}) : ∃ ps, c.providerList = .ok ps ∧
      ((s.rebuild ps).2.1 = none ↔ Configuration.Buildable c.providers) ∧
      (∀ error, (s.rebuild ps).2.1 = some error ↔
        ∃ earlier e later, c.providers = earlier ++ e :: later ∧
          Configuration.Buildable earlier ∧ Configuration.Offends earlier e error) ∧
      ∀ t, (s.rebuild ps).2.1 ≠ some (.invalidProvider t .emptyBaseUri) := by
  obtain ⟨ps, hlist, hdescribe⟩ := Configuration.describe_of_validate valid
  have hrebuild : (s.rebuild ps).2.1 =
      (({} : Registry).build s.timeline.stations.length ps).2 := by
    rw [rebuild_eq, draft, empty]
  have hfirst := fun error =>
    Configuration.snd_build_eq_some_iff_offends hdescribe s.timeline.stations.length error
  refine ⟨ps, hlist, ?_, fun error => hrebuild ▸ hfirst error, fun t herror => ?_⟩
  · exact hrebuild ▸ Configuration.snd_build_eq_none_iff_buildable hdescribe _
  · obtain ⟨_, _, _, -, -, hoffends⟩ := (hfirst _).mp (hrebuild ▸ herror)
    cases hoffends with
    | lacks _ _ hlacks => cases hlacks

namespace Configuration.Example

def studio : ProviderEntry := { authType := "Custom", baseUri := " https://id.example/check " }

/-- Sealed tokens with an empty secret; the type is named by its code. -/
def secretless : ProviderEntry :=
  { authType := "13", staticParams := "?secret=&fallbackSecret=a%3Bb" }

/-- The third entry is of the type of the first one. -/
def twoFaults : Configuration :=
  { application := { applicationId := "game" }
    providers := [studio, secretless, { studio with authType := "custom" }] }

def fresh : Session := { cache := { interval := .ofNat 60000 } }

end Configuration.Example

/-- The second of three entries offends first. -/
theorem Session.rebuild_validated_two_faults :
    Configuration.Example.twoFaults.validate = .ok () ∧
      Configuration.Example.fresh.registry = {} ∧
      ∃ ps, Configuration.Example.twoFaults.providerList = .ok ps ∧
        (Configuration.Example.fresh.rebuild ps).2.1 = some (.missingSetting .jwt "secret") ∧
        ¬ Configuration.Buildable Configuration.Example.twoFaults.providers := by
  have valid : Configuration.Example.twoFaults.validate = .ok () := by decide
  have empty : Configuration.Example.fresh.registry = {} := rfl
  obtain ⟨ps, hlist, hnone, hsome, -⟩ := rebuild_validated valid empty
  have hstudio : AuthType.parse "Custom" = .ok .custom := by decide
  have hsecretless : AuthType.parse "13" = .ok .jwt := by decide
  have hsecret : Configuration.Example.secretless.param? "secret" = some "" := by cbv
  have herror : (Configuration.Example.fresh.rebuild ps).2.1 =
      some (.missingSetting .jwt "secret") := by
    refine (hsome _).mpr ⟨[Configuration.Example.studio], Configuration.Example.secretless,
      [_], rfl, ⟨List.pairwise_singleton _ _, fun e he t ht => ?_⟩,
      .lacks hsecretless (fun e he hfor => ?_)
        (.secret (.inl rfl) fun secret h => Option.some.inj (h.symm.trans hsecret))⟩
    · rw [List.mem_singleton.mp he] at ht
      cases hstudio.symm.trans ht
      refine ⟨?_, ?_, ?_⟩
      · rintro (h | h) <;> cases h
      · rintro (h | h) <;> cases h
      · rintro ⟨⟩
    · rw [List.mem_singleton.mp he] at hfor
      cases hstudio.symm.trans hfor
  refine ⟨valid, empty, ps, hlist, herror, fun hbuildable => ?_⟩
  cases herror.symm.trans (hnone.mpr hbuildable)

end LoginGate
