/-
# Every registered provider checks what its type needs

A registry is only ever made by building it from a list of configurations, on top of one that was
built before or of the empty one (`Registry.Built`).  Whatever the configurations are, each provider
then stands under its own type, and its kind is the one that this type needs: keys of a ring for
sealed tokens, certificates for Nintendo tokens, a queue for all other types (`Built.fitting`).
-/
import LoginGate.Dispatch.Session
import LoginGate.Proofs.Entries

namespace LoginGate

/-! ## 1. Kinds -/

/-- The kind checks the credentials of the type. -/
def ProviderKind.Fits (t : AuthType) : ProviderKind → Prop
  | symmetricToken _ => t = .jwt ∨ t = .playerIo
  | console _ => t = .nintendo
  | http _ => t ≠ .jwt ∧ t ≠ .playerIo ∧ t ≠ .nintendo

/-- What a computation yields in the end, its second part has yielded. -/
theorem exists_of_bind_eq_ok {ε α β : Type} {x : Except ε α} {f : α → Except ε β} {b : β}
    (h : x >>= f = .ok b) : ∃ a, f a = .ok b := by
  cases x with
  | error e => cases h
  | ok a => exact ⟨a, h⟩

/-- **What is made for a configuration fits its type.** -/
theorem Provider.fits_of_makeKind {p : Provider} {queue : Nat} {kind : ProviderKind}
    (h : p.makeKind queue = .ok kind) : kind.Fits p.authType := by
  rw [makeKind] at h
  split at h
  · rename_i ht
    obtain ⟨secret, h⟩ := exists_of_bind_eq_ok h
    dsimp only at h
    split at h
    · cases h
      exact Or.inl ht
    · cases h
  · rename_i ht
    obtain ⟨secret, h⟩ := exists_of_bind_eq_ok h
    dsimp only at h
    split at h
    · cases h
      exact Or.inr ht
    · cases h
  · rename_i ht
    obtain ⟨appId, h⟩ := exists_of_bind_eq_ok h
    cases h
    exact ht
  · rename_i hjwt hplayerIo hnintendo
    split at h
    · cases h
    · cases h
      exact ⟨hjwt, hplayerIo, hnintendo⟩

/-! ## 2. Registries -/

namespace Registry

/-- The registries that successful builds lead to. -/
inductive Built : Registry → Prop
  | empty : Built {}
  | build {previous : Registry} {draft : RegistryDraft} {firstQueue : Nat}
      {providers : List Provider} (built : Built previous)
      (ok : previous.build firstQueue providers = (draft, none)) : Built draft.registry

/-- Each provider stands under its own type and has a kind that fits the type. -/
def Fitting (registry : Registry) : Prop :=
  ∀ e ∈ registry.entries, e.2.provider.authType = e.1 ∧ e.2.kind.Fits e.1

theorem Fitting.get? {registry : Registry} (h : registry.Fitting) {t : AuthType}
    {r : RegisteredProvider} (hr : registry.get? t = some r) :
    r.provider.authType = t ∧ r.kind.Fits t :=
  h _ (Entries.mem_of_get? hr)

end Registry

namespace RegistryDraft

variable {previous : Registry} {firstQueue : Nat} {d d' : RegistryDraft}

theorem fitting_register (h : d.registry.Fitting) {r : RegisteredProvider}
    (hr : r.kind.Fits r.provider.authType) : (d.register r).registry.Fitting := by
  intro e he
  rcases List.mem_append.mp he with he | he
  · exact h e he
  · rw [List.mem_singleton.mp he]
    exact ⟨rfl, hr⟩

/-- Adding a provider registers one whose kind fits, be it kept or new. -/
theorem fitting_add (hprevious : previous.Fitting) (h : d.registry.Fitting) {p : Provider}
    (hadd : d.add previous firstQueue p = .ok d') : d'.registry.Fitting := by
  rw [add] at hadd
  split at hadd
  · cases hadd
  · split at hadd
    · rename_i kept hkept
      obtain ⟨hget, -⟩ := Option.filter_eq_some_iff.mp hkept
      obtain ⟨htype, hfits⟩ := hprevious.get? hget
      cases hadd
      exact fitting_register h (htype ▸ hfits)
    · split at hadd
      · cases hadd
      · rename_i kind hkind
        have hregister := fitting_register (r := { provider := p, kind }) h
          (Provider.fits_of_makeKind hkind)
        split at hadd
        · cases hadd
          exact hregister
        · cases hadd
          exact hregister

theorem fitting_addAll (hprevious : previous.Fitting) (providers : List Provider)
    (h : d.registry.Fitting) (hall : d.addAll previous firstQueue providers = (d', none)) :
    d'.registry.Fitting := by
  induction providers generalizing d with
  | nil =>
    cases hall
    exact h
  | cons p ps ih =>
    rw [addAll] at hall
    split at hall
    · rename_i d'' hadd
      exact ih (fitting_add hprevious h hadd) hall
    · cases hall

end RegistryDraft

/-- **Every registry that is built is fitting.** -/
theorem Registry.Built.fitting {registry : Registry} (h : registry.Built) : registry.Fitting := by
  induction h with
  | empty => exact fun e he => absurd he List.not_mem_nil
  | build _ ok ih =>
    exact RegistryDraft.fitting_addAll ih _ (fun e he => absurd he List.not_mem_nil) ok

/-- Rebuilding a session leads from built registries to built ones. -/
theorem Session.built_rebuild {s : Session} (h : s.registry.Built) (providers : List Provider) :
    (s.rebuild providers).1.registry.Built := by
  rw [rebuild]
  cases hbuild : s.registry.build s.timeline.stations.length providers with
  | mk draft error =>
    cases error with
    | some e => exact h
    | none => exact h.build hbuild

end LoginGate
