/-
# Tokens that outlive a secret

While a secret is being replaced, the ring has the set of the new secret and, behind it, the set of
the old one.  A token that the old set has sealed is accepted by this ring exactly if the new set is
not taken for its sealer, or is as good as it (`verify_rotated`): only the first set whose tag fits
decrypts a token, while every set is tried for the signature.

So a new component for the tag or for the signature is safe, and so is a new one for the encryption
beside a new one for the tag.  A new component for the encryption alone is not: the tag of the new
set still fits the old token, and then only the new encryption is tried on it.
-/
import LoginGate.Proofs.Token.RoundTrip

namespace LoginGate

open Json
open Text (Utf8.encode)
open WebToken (Reads SignedText)

/-! ## 1. The ring of two secrets -/

/-- A blank secret makes no keys. -/
theorem KeySet.allBlank_eq_false_of_ofSecret {secret : String} {keys : KeySet}
    (h : KeySet.ofSecret secret = .ok keys) : Text.allBlank secret = false := by
  by_contra hblank
  rw [Bool.not_eq_false, Text.allBlank, List.all_eq_true] at hblank
  have hsep : ';' ∉ secret.toList := by
    intro hmem
    have := hblank _ hmem
    revert this
    decide
  have hsplit : Text.splitAt ';' secret.toList = [secret.toList] := by
    simpa using Text.splitAt_append [] hsep
  have htrim : Text.trimChars secret.toList = [] := by
    rw [Text.trimChars, List.dropWhile_eq_nil_iff.mpr hblank, Text.dropEndWhile_nil]
  rw [KeySet.ofSecret, Text.splitString, hsplit] at h
  simp [Text.trim, htrim, KeySet.components?] at h

/-- Two secrets that make keys make a ring, the first one in front. -/
theorem KeyRing.ofSecrets_eq {new old : String} {primary fallback : KeySet}
    (hnew : KeySet.ofSecret new = .ok primary) (hold : KeySet.ofSecret old = .ok fallback) :
    KeyRing.ofSecrets new (some old) = .ok { primary, fallback := some fallback } := by
  have hkept : (some old).filter (!Text.allBlank ·) = some old := by
    simp [KeySet.allBlank_eq_false_of_ofSecret hold]
  simp only [ofSecrets, hnew, hkept, hold, bind, Except.bind, pure, Except.pure]

namespace KeyRing

variable {ring : KeyRing} {keys old : KeySet} {e : Envelope} {payload : List UInt8}
  {claims : TokenClaims} {token : String} {now : Int}

/-! ## 2. Two sets that may have sealed a token -/

/-- **A set finds claims** in an envelope: it decrypts the web token of a payload that reads as these
claims, signed by a set of the ring. -/
def Finds (ring : KeyRing) (keys : KeySet) (e : Envelope) (claims : TokenClaims) : Prop :=
  ∃ text payload, keys.decrypt e = Utf8.encode text ∧
    (∃ signer ∈ ring.sets, SignedText signer.signatureKey text payload) ∧
    Reads TokenClaims.decoder payload claims

/-- What is accepted is what the first set whose tag fits finds. -/
theorem verify_eq_ok_iff_finds (hparse : Envelope.parse token = .ok e)
    (hfind : ring.sets.find? (·.fits e) = some keys) (hnow : now ≤ claims.expires) :
    ring.verify token none now = .ok claims ↔ ring.Finds keys e claims := by
  rw [verify_eq_ok_iff]
  constructor
  · rintro ⟨⟨⟨payload, hcarries, hreads⟩, -⟩, -⟩
    obtain ⟨e', keys', text, hparse', hfind', hdecrypts, hsigned⟩ := carries_iff.mp hcarries
    rw [hparse] at hparse'
    cases hparse'
    rw [hfind] at hfind'
    cases hfind'
    exact ⟨text, payload, hdecrypts, hsigned, hreads⟩
  · rintro ⟨text, payload, hdecrypts, hsigned, hreads⟩
    refine ⟨⟨⟨payload, carries_iff.mpr ⟨e, keys, text, hparse, hfind, hdecrypts, hsigned⟩, hreads⟩,
      ?_⟩, hnow⟩
    intro appId happ
    cases happ

/-- A set of the ring with the encryption key and the signature key of the sealer finds what was
sealed; the signature may be that of another set. -/
theorem finds_envelopeOf (hmem : old ∈ ring.sets) (hkey : keys.encryptionKey = old.encryptionKey)
    (hreads : Reads TokenClaims.decoder payload claims) (iv : List UInt8) :
    ring.Finds keys (envelopeOf old iv payload) claims := by
  refine ⟨signedText old.signatureKey payload, payload, ?_, ⟨old, hmem, signedText_spec _ _⟩, hreads⟩
  rw [← decrypt_envelopeOf old iv payload, KeySet.decrypt, KeySet.decrypt, hkey]

/-- The first set whose tag fits what the second one has sealed. -/
theorem find?_envelopeOf (keys old : KeySet) (iv payload : List UInt8) :
    [keys, old].find? (·.fits (envelopeOf old iv payload)) =
      some (if keys.fits (envelopeOf old iv payload) then keys else old) := by
  by_cases hfits : keys.fits (envelopeOf old iv payload) = true
  · simp [hfits]
  · simp [hfits, fits_envelopeOf]

/-! ## 3. Rotation -/

/-- The envelope in which a set hides claims. -/
def envelopeOfClaims (keys : KeySet) (iv : List UInt8) (claims : TokenClaims) : Envelope :=
  envelopeOf keys iv (Utf8.encode claims.toJson.write)

/-- **A token after the secret was replaced.**  Both secrets make a ring, and it accepts what the old
secret has sealed, with the claims that were sealed, exactly if the tag of the new set does not fit
the token or the new set finds the claims in it.  It does find them if the two secrets have the
encryption key in common. -/
theorem verify_rotated {old new : String} {sealer : KeyRing} {primary : KeySet}
    (hold : KeySet.ofSecret old = .ok sealer.primary) (hnew : KeySet.ofSecret new = .ok primary)
    {claims : TokenClaims} (htimes : claims.IsTimed) {iv : List UInt8} (hiv : iv.length = 16)
    {now : Int} (hnow : now ≤ claims.expires) :
    ∃ ring, KeyRing.ofSecrets new (some old) = .ok ring ∧
      (ring.verify (sealer.sealClaims iv claims) none now = .ok claims ↔
        (primary.fits (envelopeOfClaims sealer.primary iv claims) = true →
          ring.Finds primary (envelopeOfClaims sealer.primary iv claims) claims)) ∧
      (primary.encryptionKey = sealer.primary.encryptionKey →
        ring.verify (sealer.sealClaims iv claims) none now = .ok claims) := by
  obtain ⟨ring, hsets, hring⟩ : ∃ ring : KeyRing, ring.sets = [primary, sealer.primary] ∧
      KeyRing.ofSecrets new (some old) = .ok ring := ⟨_, rfl, ofSecrets_eq hnew hold⟩
  refine ⟨ring, hring, ?_⟩
  have hreads : Reads TokenClaims.decoder (Utf8.encode claims.toJson.write) claims :=
    ⟨TokenClaims.decodeBytes?_toJson htimes, TokenClaims.registered_toJson htimes⟩
  rw [sealClaims_eq, sealBytes_eq, envelopeOfClaims]
  generalize Utf8.encode claims.toJson.write = payload at hreads
  have hmem : sealer.primary ∈ ring.sets := by
    rw [hsets]
    exact List.mem_cons_of_mem _ List.mem_cons_self
  have hfind := find?_envelopeOf primary sealer.primary iv payload
  rw [← hsets] at hfind
  rw [verify_eq_ok_iff_finds (parse_envelopeOf sealer.primary hiv payload) hfind hnow]
  by_cases hfits : primary.fits (envelopeOf sealer.primary iv payload) = true
  · rw [if_pos hfits]
    exact ⟨⟨fun h _ => h, fun h => h hfits⟩, fun hkey => finds_envelopeOf hmem hkey hreads iv⟩
  · rw [if_neg hfits]
    have hfinds := finds_envelopeOf hmem rfl hreads iv
    exact ⟨⟨fun _ h => absurd h hfits, fun _ => hfinds⟩, fun _ => hfinds⟩

namespace Example

/-- The set of the secret `tag;cipher;signer`. -/
def retired : KeySet := ⟨KeySet.derive "tag", KeySet.derive "cipher", KeySet.derive "signer"⟩

/-- The set of the secret `tag;cipher;resigner`, whose tags fit what the retired set has sealed. -/
def renewed : KeySet := ⟨KeySet.derive "tag", KeySet.derive "cipher", KeySet.derive "resigner"⟩

theorem isTimed_newcomer : newcomer.IsTimed :=
  ⟨isTimed_scores.expires, isTimed_scores.issued, isTimed_scores.notBefore⟩

end Example

theorem verify_rotated_new_signer :
    let sealer : KeyRing := { primary := Example.retired }
    let iv : List UInt8 := List.replicate 16 255
    KeySet.ofSecret "tag;cipher;signer" = .ok sealer.primary ∧
      KeySet.ofSecret "tag; cipher ;resigner" = .ok Example.renewed ∧
      Example.newcomer.IsTimed ∧ iv.length = 16 ∧ 10 ≤ Example.newcomer.expires ∧
      Example.renewed.fits (envelopeOfClaims sealer.primary iv Example.newcomer) = true ∧
      ∃ ring, KeyRing.ofSecrets "tag; cipher ;resigner" (some "tag;cipher;signer") = .ok ring ∧
        ring.verify (sealer.sealClaims iv Example.newcomer) none 10 = .ok Example.newcomer := by
  intro sealer iv
  have hold : KeySet.ofSecret "tag;cipher;signer" = .ok sealer.primary := by rfl
  have hnew : KeySet.ofSecret "tag; cipher ;resigner" = .ok Example.renewed := by rfl
  have hiv : iv.length = 16 := by decide
  have hnow : 10 ≤ Example.newcomer.expires := by decide
  obtain ⟨ring, hring, -, haccepted⟩ :=
    verify_rotated hold hnew Example.isTimed_newcomer hiv hnow
  exact ⟨hold, hnew, Example.isTimed_newcomer, hiv, hnow, fits_iff.mpr rfl, ring, hring,
    haccepted rfl⟩

end KeyRing

end LoginGate
