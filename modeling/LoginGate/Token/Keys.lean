/-
# Keys of sealed tokens

A secret makes a set of three keys, one for the tag, one for the encryption and one for the
signature; each is the digest of a component of the secret.  A ring is a primary set and, while a
secret is being replaced, a fallback set.
-/
import LoginGate.Cipher.Sha256
import LoginGate.Text.Blank
import LoginGate.Text.Split
import LoginGate.Text.Utf8

namespace LoginGate

/-- Why a secret makes no keys. -/
inductive KeyError where
  | componentCount (found : Nat)
  | emptyComponent
  deriving DecidableEq, Repr

namespace KeyError

/-- What is wrong with the secret. -/
def reason : KeyError → String
  | componentCount found => s!"expected 1 to 3 components, got {found}"
  | emptyComponent => "empty key component"

/-- The wording of the error. -/
def message (e : KeyError) : String := "Invalid key material: " ++ e.reason

end KeyError

/-- The keys of one secret. -/
structure KeySet where
  tagKey : List UInt8
  encryptionKey : List UInt8
  signatureKey : List UInt8
  deriving DecidableEq

namespace KeySet

/-- The key of a component. -/
def derive (component : String) : List UInt8 := Cipher.Sha256.digest (Text.Utf8.bytes component)

/-- The components for tag, encryption and signature: one component serves for all of them, and of
two the first serves for tag and signature. -/
def components? : List String → Option (String × String × String)
  | [all] => some (all, all, all)
  | [tag, encryption] => some (tag, encryption, tag)
  | [tag, encryption, signature] => some (tag, encryption, signature)
  | _ => none

/-- The keys of a secret, whose components stand between semicolons with blanks around them. -/
def ofSecret (secret : String) : Except KeyError KeySet :=
  let parts := (Text.splitString ';' secret).map Text.trim
  match components? parts with
  | none => .error (.componentCount parts.length)
  | some (tag, encryption, signature) =>
    if tag = "" || encryption = "" || signature = "" then .error .emptyComponent
    else .ok ⟨derive tag, derive encryption, derive signature⟩

/-- The text for logs, which shows no key. -/
def redacted : String := "KeySet([redacted])"

end KeySet

/-- The key sets that open tokens; the primary one also seals them. -/
structure KeyRing where
  primary : KeySet
  fallback : Option KeySet := none
  deriving DecidableEq

namespace KeyRing

/-- The ring of a secret and a fallback secret; a blank fallback is none. -/
def ofSecrets (secret : String) (fallback : Option String) : Except KeyError KeyRing := do
  let primary ← KeySet.ofSecret secret
  match fallback.filter (!Text.allBlank ·) with
  | some f => return { primary, fallback := some (← KeySet.ofSecret f) }
  | none => return { primary }

/-- The sets of a ring, the primary one first. -/
def sets (ring : KeyRing) : List KeySet := ring.primary :: ring.fallback.toList

/-- The text for logs, which shows no key. -/
def redacted (ring : KeyRing) : String :=
  let fallback := match ring.fallback with
    | some _ => s!"Some({KeySet.redacted})"
    | none => "None"
  s!"KeyRing \x7b primary: {KeySet.redacted}, fallback: {fallback} \x7d"

end KeyRing

end LoginGate
