/-
# The provider registry

The registry holds one provider of each configured type together with what checks its credentials: a
request queue, a key ring, or the certificates of one application.  It is built as a whole from a
list of configurations; a provider whose configuration equals the registered one stays as it is, and
every other one is made anew.
-/
import LoginGate.Entries
import LoginGate.Provider
import LoginGate.Text.Quoted
import LoginGate.Token.Keys

namespace LoginGate

/-! ## 1. Providers -/

/-- What checks the credentials of a type. -/
inductive ProviderKind where
  /-- An HTTP service behind a request queue of a number. -/
  | http (queue : Nat)
  /-- Sealed tokens under the keys of a ring. -/
  | symmetricToken (ring : KeyRing)
  /-- Nintendo tokens for an application. -/
  | console (appId : String)
  deriving DecidableEq

/-- A kind in listings; the application of a console is quoted. -/
def ProviderKind.text : ProviderKind → String
  | http _ => "Http"
  | symmetricToken _ => "SymmetricToken"
  | console appId => "Console(" ++ Text.quoted appId ++ ")"

/-- A provider with what checks its credentials. -/
structure RegisteredProvider where
  provider : Provider
  kind : ProviderKind
  deriving DecidableEq

/-- The registered providers by type. -/
structure Registry where
  entries : List (AuthType × RegisteredProvider) := []
  deriving DecidableEq

namespace Registry

/-- The provider of a type. -/
def get? (r : Registry) (t : AuthType) : Option RegisteredProvider := Entries.get? t r.entries

/-- The providers in the order of their types. -/
def providers (r : Registry) : List RegisteredProvider := AuthType.all.filterMap r.get?

/-- How many providers there are. -/
def size (r : Registry) : Nat := r.entries.length

end Registry

/-! ## 2. Errors -/

/-- What is wrong with a configuration. -/
inductive ProviderFault where
  | emptyBaseUri
  | key (error : KeyError)
  deriving DecidableEq, Repr

/-- The wording of a fault. -/
def ProviderFault.message : ProviderFault → String
  | emptyBaseUri => "base_uri is empty"
  | key error => error.message

/-- Why a registry cannot be built. -/
inductive RegistryError where
  | duplicateProvider (authType : AuthType)
  | missingSetting (authType : AuthType) (key : String)
  | invalidProvider (authType : AuthType) (fault : ProviderFault)
  deriving DecidableEq, Repr

/-- The wording of an error. -/
def RegistryError.message : RegistryError → String
  | duplicateProvider t => s!"Provider for {t.name} is configured more than once"
  | missingSetting t key => s!"Provider {t.name} requires the '{key}' setting"
  | invalidProvider t fault => s!"Provider {t.name} is misconfigured: {fault.message}"

/-! ## 3. Making one provider -/

namespace Provider

/-- A dashboard parameter that must be there and not be empty. -/
def requiredParam (p : Provider) (key : String) : Except RegistryError String :=
  match (p.param? key).filter (· ≠ "") with
  | some value => .ok value
  | none => .error (.missingSetting p.authType key)

/-- What checks the credentials of a provider; a queue that has to be made gets a number. -/
def makeKind (p : Provider) (queue : Nat) : Except RegistryError ProviderKind :=
  match p.authType with
  | .jwt | .playerIo => do
    let secret ← p.requiredParam "secret"
    let fallback := (p.param? "fallbackSecret").filter (· ≠ "")
    match KeyRing.ofSecrets secret fallback with
    | .ok ring => return .symmetricToken ring
    | .error e => throw (.invalidProvider p.authType (.key e))
  | .nintendo => return .console (← p.requiredParam "appid")
  | _ =>
    if Text.allBlank p.baseUri then throw (.invalidProvider p.authType .emptyBaseUri)
    else return .http queue

end Provider

/-! ## 4. Building -/

/-- A registry under construction. -/
structure RegistryDraft where
  registry : Registry := {}
  /-- The types for which queues were made, the first one first. -/
  created : List AuthType := []
  /-- How many providers were kept. -/
  reused : Nat := 0
  deriving DecidableEq

namespace RegistryDraft

/-- Adds a provider that is registered as given. -/
def register (d : RegistryDraft) (r : RegisteredProvider) : RegistryDraft :=
  { d with registry := { entries := d.registry.entries ++ [(r.provider.authType, r)] } }

/-- Adds the provider of a configuration: the one of the previous registry if its configuration is
equal, and else a new one.  New queues are numbered from the first free number on. -/
def add (previous : Registry) (firstQueue : Nat) (d : RegistryDraft) (p : Provider) :
    Except RegistryError RegistryDraft :=
  if (d.registry.get? p.authType).isSome then .error (.duplicateProvider p.authType)
  else
    match (previous.get? p.authType).filter (·.provider.same p) with
    | some kept => .ok { d.register kept with reused := d.reused + 1 }
    | none =>
      match p.makeKind (firstQueue + d.created.length) with
      | .error e => .error e
      | .ok kind =>
        let d := d.register { provider := p, kind }
        match kind with
        | .http _ => .ok { d with created := d.created ++ [p.authType] }
        | _ => .ok d

/-- Adds the providers of configurations up to the first error, which is given too. -/
def addAll (previous : Registry) (firstQueue : Nat) (d : RegistryDraft) :
    List Provider → RegistryDraft × Option RegistryError
  | [] => (d, none)
  | p :: ps =>
    match d.add previous firstQueue p with
    | .ok d => addAll previous firstQueue d ps
    | .error e => (d, some e)

end RegistryDraft

/-- Builds a registry for configurations on top of a previous one.  When there is an error, the
draft tells which queues were made before it. -/
def Registry.build (previous : Registry) (firstQueue : Nat) (providers : List Provider) :
    RegistryDraft × Option RegistryError :=
  RegistryDraft.addAll previous firstQueue {} providers

end LoginGate
