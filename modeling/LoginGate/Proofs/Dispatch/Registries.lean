/-
# What a registry is built of

A registry that is built for configurations holds one provider for each of them
(`drafted_of_build`): the one that was registered before, where its configuration is equal, and a new
one everywhere else.  Two configurations are equal if they differ in nothing but the order of their
dashboard parameters (`Provider.same_iff`).  New queues are made for new HTTP providers alone, one for
each, and they have numbers that no queue had before.

Building fails only over a type that is configured twice and over a new provider that cannot be made
(`snd_build_eq_none_iff`), and the first configuration at which it stops decides about the error
(`snd_build_eq_some_iff`).
-/
import LoginGate.Proofs.Dispatch.Kinds
import Mathlib.Data.List.Nodup
import Mathlib.Data.List.Perm.Subperm

namespace LoginGate

/-! ## 1. Equal configurations -/

namespace QueryParams

theorem get?_isSome_iff {p : QueryParams} {k : String} : (p.get? k).isSome ↔ k ∈ p.keys :=
  Entries.get?_isSome_iff

theorem mem_entries_iff {p : QueryParams} {k v : String} :
    (k, v) ∈ p.entries ↔ p.get? k = some v := (Entries.get?_eq_some_iff p.nodup).symm

/-- Parameters with the same value for every name have the same names, in whatever order. -/
theorem keys_perm {p q : QueryParams} (h : ∀ k, p.get? k = q.get? k) : p.keys.Perm q.keys := by
  refine (List.perm_ext_iff_of_nodup p.nodup q.nodup).mpr fun k => ?_
  exact get?_isSome_iff.symm.trans ((h k) ▸ get?_isSome_iff)

/-- Parameters with the same value for every name are the same if their names are in the same
order. -/
theorem entries_eq_iff {p q : QueryParams} (h : ∀ k, p.get? k = q.get? k) :
    p.entries = q.entries ↔ p.keys = q.keys := by
  refine ⟨congrArg Entries.keys, fun hkeys => ?_⟩
  rw [Entries.eq_map_keys p.nodup, Entries.eq_map_keys q.nodup]
  change p.keys.map _ = q.keys.map _
  rw [hkeys]
  exact List.map_congr_left fun k _ => by rw [show Entries.get? k p.entries = _ from h k]; rfl

/-- **Parameters are the same map** if every name has the same value in both. -/
theorem sameMap_iff {p q : QueryParams} : p.sameMap q = true ↔ ∀ k, p.get? k = q.get? k := by
  rw [sameMap, Bool.and_eq_true, beq_iff_eq, List.all_eq_true]
  refine ⟨fun ⟨hsize, hall⟩ k => ?_, fun h => ⟨?_, fun e he => ?_⟩⟩
  · have hfound : ∀ {k v}, p.get? k = some v → q.get? k = some v :=
      fun hk => by simpa using hall _ (mem_entries_iff.mpr hk)
    have hsub : p.keys ⊆ q.keys := by
      intro k hk
      obtain ⟨v, hv⟩ := Option.isSome_iff_exists.mp (get?_isSome_iff.mpr hk)
      exact get?_isSome_iff.mp (Option.isSome_iff_exists.mpr ⟨v, hfound hv⟩)
    have hlength : q.keys.length ≤ p.keys.length := by
      rw [keys, keys, Entries.keys, Entries.keys, List.length_map, List.length_map]
      exact Nat.le_of_eq hsize.symm
    have hperm := (List.subperm_of_subset p.nodup hsub).perm_of_length_le hlength
    cases hp : p.get? k with
    | some v => exact (hfound hp).symm
    | none =>
      -- A name that one of them lacks is none of the other's names either.
      refine (Option.not_isSome_iff_eq_none.mp fun hq => ?_).symm
      have hk := get?_isSome_iff.mpr (hperm.mem_iff.mpr (get?_isSome_iff.mp hq))
      rw [hp] at hk
      cases hk
  · have hlength := (keys_perm h).length_eq
    rwa [keys, keys, Entries.keys, Entries.keys, List.length_map, List.length_map] at hlength
  · simpa using (h e.1).symm.trans (mem_entries_iff.mp he)

end QueryParams

namespace Provider

/-- **Equal configurations** have the same type, base URL and switches, and the same value for every
dashboard parameter. -/
theorem same_iff {p q : Provider} :
    p.same q = true ↔ p.authType = q.authType ∧ p.baseUri = q.baseUri ∧
      (∀ key, p.param? key = q.param? key) ∧ p.forwardAsJson = q.forwardAsJson ∧
      p.rejectIfUnavailable = q.rejectIfUnavailable := by
  simp only [same, Bool.and_eq_true, beq_iff_eq, QueryParams.sameMap_iff, and_assoc, param?]

theorem same_refl (p : Provider) : p.same p = true :=
  same_iff.mpr ⟨rfl, rfl, fun _ => rfl, rfl, rfl⟩

theorem same_symm {p q : Provider} (h : p.same q = true) : q.same p = true := by
  obtain ⟨htype, hbase, hparams, hjson, hreject⟩ := same_iff.mp h
  exact same_iff.mpr ⟨htype.symm, hbase.symm, fun k => (hparams k).symm, hjson.symm, hreject.symm⟩

end Provider

/-! ## 2. Queues of providers -/

/-- Providers of the type are reached over HTTP. -/
def AuthType.isHttp (t : AuthType) : Bool := t ≠ .jwt && t ≠ .playerIo && t ≠ .nintendo

/-- The queue behind which a provider is. -/
def ProviderKind.queue? : ProviderKind → Option Nat
  | http queue => some queue
  | _ => none

theorem ProviderKind.queue?_eq_some_iff {kind : ProviderKind} {queue : Nat} :
    kind.queue? = some queue ↔ kind = .http queue := by
  cases kind <;> simp [queue?]

theorem AuthType.isHttp_iff {t : AuthType} :
    t.isHttp = true ↔ t ≠ .jwt ∧ t ≠ .playerIo ∧ t ≠ .nintendo := by
  simp [isHttp, and_assoc]

namespace Provider

variable {p q : Provider} {kind : ProviderKind}

/-- An HTTP provider needs a base URL. -/
theorem makeKind_of_isHttp (h : p.authType.isHttp = true) (queue : Nat) :
    p.makeKind queue =
      if Text.allBlank p.baseUri then .error (.invalidProvider p.authType .emptyBaseUri)
      else .ok (.http queue) := by
  obtain ⟨hjwt, hplayerIo, hnintendo⟩ := AuthType.isHttp_iff.mp h
  rw [makeKind]
  split
  · contradiction
  · contradiction
  · contradiction
  · rfl

/-- What is made for any other configuration has no queue. -/
theorem makeKind_of_not_isHttp (h : p.authType.isHttp = false) (queue queue' : Nat) :
    p.makeKind queue = p.makeKind queue' := by
  rw [makeKind, makeKind]
  split
  · rfl
  · rfl
  · rfl
  · rename_i hjwt hplayerIo hnintendo
    rw [AuthType.isHttp_iff.mpr ⟨hjwt, hplayerIo, hnintendo⟩] at h
    cases h

/-- What is made for a configuration has the queue that it was given if it is an HTTP provider, and
none otherwise. -/
theorem queue?_of_makeKind {queue : Nat} (h : p.makeKind queue = .ok kind) :
    kind.queue? = if p.authType.isHttp then some queue else none := by
  cases hhttp : p.authType.isHttp with
  | true =>
    rw [makeKind_of_isHttp hhttp] at h
    split at h
    · cases h
    · cases h
      rfl
  | false =>
    have hfits := fits_of_makeKind h
    cases kind with
    | http used =>
      rw [AuthType.isHttp_iff.mpr hfits] at hhttp
      cases hhttp
    | _ => rfl

/-- Whether a provider can be made does not depend on the number of its queue. -/
theorem isOk_makeKind (p : Provider) (queue queue' : Nat) :
    (p.makeKind queue).isOk = (p.makeKind queue').isOk := by
  cases hhttp : p.authType.isHttp with
  | true =>
    rw [makeKind_of_isHttp hhttp, makeKind_of_isHttp hhttp]
    split <;> rfl
  | false => rw [makeKind_of_not_isHttp hhttp queue queue']

/-- Why a provider cannot be made does not depend on the number of its queue. -/
theorem makeKind_eq_error_congr {error : RegistryError} (queue queue' : Nat) :
    p.makeKind queue = .error error ↔ p.makeKind queue' = .error error := by
  cases hhttp : p.authType.isHttp with
  | true =>
    rw [makeKind_of_isHttp hhttp, makeKind_of_isHttp hhttp]
    split
    · rfl
    · simp
  | false => rw [makeKind_of_not_isHttp hhttp queue queue']

/-- Equal configurations make the same. -/
theorem makeKind_congr (h : p.same q = true) (queue : Nat) :
    p.makeKind queue = q.makeKind queue := by
  obtain ⟨htype, hbase, hparam, -, -⟩ := same_iff.mp h
  simp only [makeKind, requiredParam, htype, hbase, hparam]

end Provider

/-! ## 3. One configuration -/

/-- The configuration that was registered for the type of another one is equal to it. -/
def Registry.keeps (previous : Registry) (p : Provider) : Bool :=
  (previous.get? p.authType).any (·.provider.same p)

theorem Registry.keeps_iff {previous : Registry} {p : Provider} :
    previous.keeps p = true ↔
      ∃ kept, previous.get? p.authType = some kept ∧ kept.provider.same p = true :=
  Option.any_eq_true _ _

/-- A new provider with a queue is made for the configuration. -/
def Registry.makesQueue (previous : Registry) (p : Provider) : Bool :=
  !previous.keeps p && p.authType.isHttp

/-- A provider can be made for the configuration. -/
def Provider.isValid (p : Provider) : Bool := (p.makeKind 0).isOk

/-- **Building stops at a provider**, behind others, because its type is there already, or because it
is new and cannot be made. -/
def Registry.StopsAt (previous : Registry) (earlier : List Provider) (p : Provider)
    (error : RegistryError) : Prop :=
  p.authType ∈ earlier.map (·.authType) ∧ error = .duplicateProvider p.authType ∨
    p.authType ∉ earlier.map (·.authType) ∧ previous.keeps p = false ∧ p.makeKind 0 = .error error

namespace RegistryDraft

variable {previous : Registry} {firstQueue : Nat} {d d' : RegistryDraft} {p : Provider}

/-- **A configuration is added in one of two ways**: the registered provider is kept, or a new one is
made. -/
theorem add_cases (h : d.add previous firstQueue p = .ok d') :
    d.registry.get? p.authType = none ∧
      ((∃ kept, previous.get? p.authType = some kept ∧ kept.provider.same p = true ∧
          d' = { d.register kept with reused := d.reused + 1 }) ∨
        previous.keeps p = false ∧
          ∃ kind, p.makeKind (firstQueue + d.created.length) = .ok kind ∧
            d' = { d.register ⟨p, kind⟩ with
              created := d.created ++ if p.authType.isHttp then [p.authType] else [] }) := by
  rw [add] at h
  split at h
  · cases h
  · rename_i hnew
    refine ⟨Option.not_isSome_iff_eq_none.mp hnew, ?_⟩
    split at h
    · rename_i kept hkept
      obtain ⟨hget, hsame⟩ := Option.filter_eq_some_iff.mp hkept
      cases h
      exact .inl ⟨kept, hget, hsame, rfl⟩
    · rename_i hchanged
      refine .inr ⟨?_, ?_⟩
      · rw [Registry.keeps, ← Option.isSome_filter, hchanged]
        rfl
      · split at h
        · cases h
        · rename_i kind hkind
          refine ⟨kind, hkind, ?_⟩
          have hqueue := Provider.queue?_of_makeKind hkind
          dsimp only at h
          split at h
          · rename_i queue
            have hhttp : p.authType.isHttp = true := by
              by_contra hlocal
              rw [if_neg hlocal] at hqueue
              cases hqueue
            cases h
            rw [if_pos hhttp]
            rfl
          · rename_i hlocal
            cases h
            rw [if_neg, List.append_nil]
            · rfl
            · intro hhttp
              rw [if_pos hhttp] at hqueue
              exact hlocal _ (ProviderKind.queue?_eq_some_iff.mp hqueue)

/-- A configuration can be added if it is the first one of its type, and the registered provider can
be kept or a new one can be made. -/
theorem isOk_add (previous : Registry) (firstQueue : Nat) (d : RegistryDraft) (p : Provider) :
    (d.add previous firstQueue p).isOk =
      ((d.registry.get? p.authType).isNone && (previous.keeps p || p.isValid)) := by
  rw [add, Registry.keeps, Provider.isValid, ← Option.isSome_filter,
    p.isOk_makeKind 0 (firstQueue + d.created.length)]
  cases d.registry.get? p.authType with
  | some e => rfl
  | none =>
    cases (previous.get? p.authType).filter (·.provider.same p) with
    | some kept => rfl
    | none =>
      dsimp only [Option.isSome_none, Option.isNone_none]
      cases p.makeKind (firstQueue + d.created.length) with
      | error e => rfl
      | ok kind => cases kind <;> rfl

theorem get?_register (r : RegisteredProvider) (t : AuthType) :
    (d.register r).registry.get? t =
      (d.registry.get? t).or (if r.provider.authType = t then some r else none) := by
  rw [register, Registry.get?, Registry.get?, Entries.get?_append]
  rfl

theorem keys_register (r : RegisteredProvider) :
    Entries.keys (d.register r).registry.entries =
      Entries.keys d.registry.entries ++ [r.provider.authType] := by
  simp [register, Entries.keys]

/-! ## 4. All configurations -/

/-- **What a draft holds after configurations were added to it**: the registered provider for each of
them that is equal to what was registered, and for each other one a new provider.  The queue of a new
one has the number that belongs to the place at which its type was created. -/
structure Drafted (previous : Registry) (firstQueue : Nat) (ps : List Provider)
    (d : RegistryDraft) : Prop where
  keys : Entries.keys d.registry.entries = ps.map (·.authType)
  distinct : (ps.map (·.authType)).Nodup
  kept : ∀ p ∈ ps, previous.keeps p = true →
    d.registry.get? p.authType = previous.get? p.authType
  made : ∀ p ∈ ps, previous.keeps p = false → ∃ i kind,
    d.registry.get? p.authType = some ⟨p, kind⟩ ∧ p.makeKind (firstQueue + i) = .ok kind ∧
      (p.authType.isHttp = true → d.created[i]? = some p.authType)
  created : d.created = (ps.filter previous.makesQueue).map (·.authType)
  reused : d.reused = ps.countP previous.keeps

namespace Drafted

variable {ps done : List Provider}

theorem empty (previous : Registry) (firstQueue : Nat) :
    Drafted previous firstQueue [] {} where
  keys := rfl
  distinct := List.nodup_nil
  kept := fun _ hp => absurd hp List.not_mem_nil
  made := fun _ hp => absurd hp List.not_mem_nil
  created := rfl
  reused := rfl

/-- A draft has a provider of a type if a configuration of the type was added. -/
theorem get?_eq_none_iff (h : Drafted previous firstQueue ps d) {t : AuthType} :
    d.registry.get? t = none ↔ t ∉ ps.map (·.authType) := by
  rw [← h.keys]
  exact Entries.get?_eq_none_iff

/-- Every provider of a draft was registered before, or it was made for a configuration. -/
theorem of_get? (h : Drafted previous firstQueue ps d) {t : AuthType} {r : RegisteredProvider}
    (hr : d.registry.get? t = some r) : ∃ p ∈ ps, p.authType = t ∧
      (previous.get? t = some r ∨
        r.provider = p ∧ ∃ i, p.makeKind (firstQueue + i) = .ok r.kind ∧
          (t.isHttp = true → d.created[i]? = some t)) := by
  obtain ⟨p, hp, rfl⟩ : ∃ p ∈ ps, p.authType = t := by
    refine List.mem_map.mp (by_contra fun hnot => ?_)
    rw [h.get?_eq_none_iff.mpr hnot] at hr
    cases hr
  refine ⟨p, hp, rfl, ?_⟩
  cases hkeeps : previous.keeps p with
  | true => exact .inl ((h.kept p hp hkeeps).symm.trans hr)
  | false =>
    obtain ⟨i, kind, hget, hkind, hcreated⟩ := h.made p hp hkeeps
    obtain rfl := Option.some.inj (hr.symm.trans hget)
    exact .inr ⟨rfl, i, hkind, hcreated⟩

section Step

variable (h : Drafted previous firstQueue ps d) (hnew : d.registry.get? p.authType = none)
include h hnew

theorem ne_of_new : ∀ p' ∈ ps, p.authType ≠ p'.authType := fun p' hp' heq =>
  h.get?_eq_none_iff.mp hnew (List.mem_map.mpr ⟨p', hp', heq.symm⟩)

theorem distinct_concat : ((ps ++ [p]).map (·.authType)).Nodup := by
  rw [List.map_append, List.map_singleton, List.nodup_middle, List.append_nil, List.nodup_cons]
  exact ⟨h.get?_eq_none_iff.mp hnew, h.distinct⟩

/-- What is registered for the other configurations stays. -/
theorem get?_register_of_mem {r : RegisteredProvider} (hr : r.provider.authType = p.authType)
    {p' : Provider} (hp' : p' ∈ ps) :
    (d.register r).registry.get? p'.authType = d.registry.get? p'.authType := by
  rw [get?_register, if_neg (hr ▸ h.ne_of_new hnew p' hp'), Option.or_none]

omit h in
theorem get?_register_self {r : RegisteredProvider} (hr : r.provider.authType = p.authType) :
    (d.register r).registry.get? p.authType = some r := by
  rw [get?_register, hnew, if_pos hr, Option.none_or]

/-- A registered provider is kept. -/
theorem keep {kept : RegisteredProvider} (hget : previous.get? p.authType = some kept)
    (hsame : kept.provider.same p = true) :
    Drafted previous firstQueue (ps ++ [p]) { d.register kept with reused := d.reused + 1 } := by
  have hkeeps : previous.keeps p = true := Registry.keeps_iff.mpr ⟨kept, hget, hsame⟩
  have htype : kept.provider.authType = p.authType := (Provider.same_iff.mp hsame).1
  refine ⟨?_, h.distinct_concat hnew, ?_, ?_, ?_, ?_⟩
  · rw [List.map_append, ← h.keys, List.map_singleton, ← htype]
    exact keys_register kept
  · intro p' hp' hk
    rcases List.mem_append.mp hp' with hp' | hp'
    · exact (h.get?_register_of_mem hnew htype hp').trans (h.kept p' hp' hk)
    · obtain rfl := List.mem_singleton.mp hp'
      exact (get?_register_self hnew htype).trans hget.symm
  · intro p' hp' hk
    rcases List.mem_append.mp hp' with hp' | hp'
    · obtain ⟨i, kind, hr, hmade⟩ := h.made p' hp' hk
      exact ⟨i, kind, (h.get?_register_of_mem hnew htype hp').trans hr, hmade⟩
    · obtain rfl := List.mem_singleton.mp hp'
      rw [hk] at hkeeps
      cases hkeeps
  · rw [List.filter_append, List.filter_singleton, Registry.makesQueue, hkeeps]
    exact h.created.trans (by rw [Bool.not_true, Bool.false_and, cond_false, List.append_nil])
  · rw [List.countP_append, List.countP_singleton, if_pos hkeeps, ← h.reused]

/-- A new provider is made; if it needs a queue, that is the next new one. -/
theorem make (hchanged : previous.keeps p = false) {kind : ProviderKind}
    (hkind : p.makeKind (firstQueue + d.created.length) = .ok kind) :
    Drafted previous firstQueue (ps ++ [p]) { d.register ⟨p, kind⟩ with
      created := d.created ++ if p.authType.isHttp then [p.authType] else [] } := by
  refine ⟨?_, h.distinct_concat hnew, ?_, ?_, ?_, ?_⟩
  · rw [List.map_append, ← h.keys]
    exact keys_register _
  · intro p' hp' hk
    rcases List.mem_append.mp hp' with hp' | hp'
    · exact (h.get?_register_of_mem hnew (r := ⟨p, kind⟩) rfl hp').trans (h.kept p' hp' hk)
    · rw [List.mem_singleton.mp hp', hchanged] at hk
      cases hk
  · intro p' hp' hk
    rcases List.mem_append.mp hp' with hp' | hp'
    · obtain ⟨i, kind', hr, hmade, hcreated⟩ := h.made p' hp' hk
      have hold := h.get?_register_of_mem hnew (r := ⟨p, kind⟩) rfl hp'
      refine ⟨i, kind', hold.trans hr, hmade, fun hhttp => ?_⟩
      have hi := hcreated hhttp
      exact (List.getElem?_append_left (List.getElem?_eq_some_iff.mp hi).1).trans hi
    · obtain rfl := List.mem_singleton.mp hp'
      refine ⟨d.created.length, kind, get?_register_self hnew (r := ⟨p', kind⟩) rfl, hkind,
        fun hhttp => ?_⟩
      rw [if_pos hhttp, List.getElem?_concat_length]
  · rw [List.filter_append, List.filter_singleton, Registry.makesQueue, hchanged,
      List.map_append, ← h.created]
    cases p.authType.isHttp <;> rfl
  · rw [List.countP_append, List.countP_singleton, hchanged]
    exact h.reused

end Step

/-- **Adding a configuration** registers a provider for it and touches no other one. -/
theorem add (h : Drafted previous firstQueue ps d)
    (hadd : d.add previous firstQueue p = .ok d') :
    Drafted previous firstQueue (ps ++ [p]) d' := by
  obtain ⟨hnew, ⟨kept, hget, hsame, rfl⟩ | ⟨hchanged, kind, hkind, rfl⟩⟩ := add_cases hadd
  · exact h.keep hnew hget hsame
  · exact h.make hnew hchanged hkind

/-- What was added up to the first error is in the draft. -/
theorem addAll (h : Drafted previous firstQueue done d) (ps : List Provider) :
    ∃ front back, ps = front ++ back ∧
      Drafted previous firstQueue (done ++ front) (d.addAll previous firstQueue ps).1 ∧
      ((d.addAll previous firstQueue ps).2 = none → back = []) := by
  induction ps generalizing d done with
  | nil => exact ⟨[], [], rfl, by rwa [List.append_nil], fun _ => rfl⟩
  | cons p ps ih =>
    rw [RegistryDraft.addAll]
    cases hadd : d.add previous firstQueue p with
    | ok d' =>
      obtain ⟨front, back, rfl, hdrafted, hnone⟩ := ih (h.add hadd)
      exact ⟨p :: front, back, rfl, by simpa using hdrafted, hnone⟩
    | error e => exact ⟨[], p :: ps, rfl, by rwa [List.append_nil], fun hnone => by cases hnone⟩

/-- All configurations are added if their types are new and each of them can be kept or made. -/
theorem snd_addAll_eq_none_iff (h : Drafted previous firstQueue done d) (ps : List Provider) :
    (d.addAll previous firstQueue ps).2 = none ↔
      ((done ++ ps).map (·.authType)).Nodup ∧
        ∀ p ∈ ps, previous.keeps p = true ∨ p.isValid = true := by
  induction ps generalizing d done with
  | nil => simpa [RegistryDraft.addAll] using h.distinct
  | cons p ps ih =>
    rw [RegistryDraft.addAll]
    have hok := isOk_add previous firstQueue d p
    rw [List.forall_mem_cons]
    cases hadd : d.add previous firstQueue p with
    | ok d' =>
      have hcan : previous.keeps p = true ∨ p.isValid = true := by
        rw [hadd] at hok
        exact Bool.or_eq_true_iff.mp (Bool.and_eq_true_iff.mp hok.symm).2
      simpa [hcan] using ih (h.add hadd)
    | error e =>
      -- The type was there before, or the provider can be neither kept nor made.
      refine iff_of_false (fun hnone => by cases hnone) ?_
      rintro ⟨hdistinct, hcan, -⟩
      have hnew : d.registry.get? p.authType = none := by
        rw [h.get?_eq_none_iff]
        intro hmem
        rw [List.map_append, List.nodup_append] at hdistinct
        exact hdistinct.2.2 _ hmem _ List.mem_cons_self rfl
      rw [hadd, hnew, Bool.or_eq_true_iff.mpr hcan] at hok
      cases hok

/-- A configuration cannot be added exactly if building stops at it. -/
theorem add_eq_error_iff {error : RegistryError} (h : Drafted previous firstQueue done d)
    (p : Provider) :
    d.add previous firstQueue p = .error error ↔ previous.StopsAt done p error := by
  rw [RegistryDraft.add, Registry.StopsAt, Registry.keeps, ← Option.isSome_filter]
  cases hget : d.registry.get? p.authType with
  | some r =>
    have hmem : p.authType ∈ done.map (·.authType) := by
      by_contra hnot
      cases hget.symm.trans (h.get?_eq_none_iff.mpr hnot)
    constructor
    · rintro ⟨⟩
      exact .inl ⟨hmem, rfl⟩
    · rintro (⟨-, rfl⟩ | ⟨hnot, -⟩)
      · rfl
      · exact absurd hmem hnot
  | none =>
    have hnew := h.get?_eq_none_iff.mp hget
    cases hkept : (previous.get? p.authType).filter (·.provider.same p) with
    | some kept => simp [hnew]
    | none =>
      rw [Provider.makeKind_eq_error_congr 0 (firstQueue + d.created.length)]
      cases p.makeKind (firstQueue + d.created.length) with
      | error e => simp [hnew]
      | ok kind => cases kind <;> simp [hnew]

/-- **The first provider at which building stops decides.** -/
theorem snd_addAll_eq_some_iff {error : RegistryError} (h : Drafted previous firstQueue done d)
    (ps : List Provider) :
    (d.addAll previous firstQueue ps).2 = some error ↔
      ∃ earlier p later, ps = earlier ++ p :: later ∧
        (d.addAll previous firstQueue earlier).2 = none ∧
        previous.StopsAt (done ++ earlier) p error := by
  induction ps generalizing d done with
  | nil =>
    refine iff_of_false (fun h => by cases h) ?_
    rintro ⟨earlier, p, later, hps, -⟩
    cases earlier <;> cases hps
  | cons q ps ih =>
    rw [RegistryDraft.addAll]
    cases hadd : d.add previous firstQueue q with
    | error e =>
      constructor
      · rintro ⟨⟩
        exact ⟨[], q, ps, rfl, rfl, by rw [List.append_nil, ← h.add_eq_error_iff, hadd]⟩
      · rintro ⟨earlier, p, later, hps, hnone, hstops⟩
        cases earlier with
        | nil =>
          cases hps
          rw [List.append_nil, ← h.add_eq_error_iff, hadd] at hstops
          cases hstops
          rfl
        | cons q' earlier =>
          cases hps
          rw [RegistryDraft.addAll, hadd] at hnone
          cases hnone
    | ok d' =>
      refine (ih (h.add hadd)).trans ?_
      constructor
      · rintro ⟨earlier, p, later, rfl, hnone, hstops⟩
        refine ⟨q :: earlier, p, later, rfl, ?_, by simpa using hstops⟩
        rw [RegistryDraft.addAll, hadd]
        exact hnone
      · rintro ⟨earlier, p, later, hps, hnone, hstops⟩
        cases earlier with
        | nil =>
          cases hps
          rw [List.append_nil, ← h.add_eq_error_iff, hadd] at hstops
          cases hstops
        | cons q' earlier =>
          cases hps
          rw [RegistryDraft.addAll, hadd] at hnone
          exact ⟨earlier, p, later, rfl, hnone, by simpa using hstops⟩

end Drafted

end RegistryDraft

namespace Registry

variable (previous : Registry) (firstQueue : Nat) (ps : List Provider)

/-- **A registry that is built** holds what its configurations ask for. -/
theorem drafted_of_build (h : (previous.build firstQueue ps).2 = none) :
    RegistryDraft.Drafted previous firstQueue ps (previous.build firstQueue ps).1 := by
  obtain ⟨front, back, hps, hdrafted, hnone⟩ :=
    (RegistryDraft.Drafted.empty previous firstQueue).addAll ps
  rw [hnone h, List.append_nil] at hps
  rwa [List.nil_append, ← hps] at hdrafted

/-- **Building succeeds** if no type is configured twice, and each provider is as before or can be
made. -/
theorem snd_build_eq_none_iff : (previous.build firstQueue ps).2 = none ↔
    (ps.map (·.authType)).Nodup ∧ ∀ p ∈ ps, previous.keeps p = true ∨ p.isValid = true :=
  (RegistryDraft.Drafted.empty previous firstQueue).snd_addAll_eq_none_iff ps

/-- **Building fails** for the first configuration at which it stops. -/
theorem snd_build_eq_some_iff {error : RegistryError} :
    (previous.build firstQueue ps).2 = some error ↔
      ∃ earlier p later, ps = earlier ++ p :: later ∧ (previous.build firstQueue earlier).2 = none ∧
        previous.StopsAt earlier p error :=
  (RegistryDraft.Drafted.empty previous firstQueue).snd_addAll_eq_some_iff ps

/-- **Every registered provider is valid**: it was made for its configuration. -/
theorem Built.valid {registry : Registry} (h : registry.Built) {t : AuthType}
    {r : RegisteredProvider} (hr : registry.get? t = some r) : r.provider.isValid = true := by
  induction h with
  | empty => cases hr
  | @build previous draft firstQueue providers _ ok ih =>
    have hdrafted := previous.drafted_of_build firstQueue providers (by rw [ok])
    rw [ok] at hdrafted
    obtain ⟨p, -, -, hold | ⟨hprovider, i, hkind, -⟩⟩ := hdrafted.of_get? hr
    · exact ih hold
    · rw [hprovider, Provider.isValid, p.isOk_makeKind 0 (firstQueue + i), hkind]
      rfl

end Registry

end LoginGate
