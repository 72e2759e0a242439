/-
# What is sealed is opened again

Sealed claims are accepted by the ring that sealed them, unchanged, for as long as they last
(`verify_sealClaims`).  The way leads through every codec once: the record of the claims is read
back from its bytes, these are carried by what is sealed, and a token that vouches for claims is
accepted.

A cookie goes the same way as a text and is read a second time when it is asked for.  It is found
again if its text can be read back at all, which asks for integers of 64 bits and bounded nesting,
and if it is an object.
-/
import LoginGate.Proofs.Token.Acceptance

namespace LoginGate

open Json

/-- The cookie of claims is the value that was put in, if that is an object. -/
theorem TokenClaims.cookieValue_withAuthCookie (claims : TokenClaims) {cookie : Value}
    (h : cookie.isExact maxDepth = true) :
    (claims.withAuthCookie cookie).cookieValue = if cookie.isObject then some cookie else none := by
  rw [cookieValue, withAuthCookie, Option.bind_some, parse?_render h]
  by_cases ho : cookie.isObject = true
  · rw [if_pos ho]
    simp [ho]
  · rw [if_neg ho]
    simp [ho]

namespace KeyRing

/-- A token that was sealed from claims vouches for them. -/
theorem vouches_sealClaims (ring : KeyRing) {iv : List UInt8} (hiv : iv.length = 16)
    {claims : TokenClaims} (htimes : claims.IsTimed) {expected : Option String}
    (happ : ∀ appId ∈ expected, appId = claims.appId) :
    ring.Vouches (ring.sealClaims iv claims) expected claims := by
  refine ⟨⟨Text.Utf8.encode claims.toJson.write, ?_, ?_, ?_⟩, happ⟩
  · rw [sealClaims_eq]
    exact carries_sealBytes ring hiv _
  · exact TokenClaims.decodeBytes?_toJson htimes
  · exact TokenClaims.registered_toJson htimes

/-- **Sealing and opening.**  For every ring, claims with times of 64 bits, and initial counter of
16 bytes: as long as the claims last, and if no other application is expected, the ring accepts what
it has sealed, with exactly the claims that were sealed.  A cookie that was put into them as a value
is found in them again, if it is an object. -/
theorem verify_sealClaims (ring : KeyRing) (claims : TokenClaims) (htimes : claims.IsTimed)
    (iv : List UInt8) (hiv : iv.length = 16) (now : Int) (hnow : now ≤ claims.expires)
    (expected : Option String) (happ : ∀ appId ∈ expected, appId = claims.appId) :
    ring.verify (ring.sealClaims iv claims) expected now = .ok claims ∧
      ∀ (base : TokenClaims) (cookie : Value), claims = base.withAuthCookie cookie →
        cookie.isExact maxDepth = true →
        claims.cookieValue = if cookie.isObject then some cookie else none := by
  constructor
  · exact verify_eq_ok_iff.mpr ⟨vouches_sealClaims ring hiv htimes happ, hnow⟩
  · rintro base cookie rfl hcookie
    exact base.cookieValue_withAuthCookie hcookie

namespace Example

/-- A ring whose secret is being replaced. -/
def rotated : KeyRing :=
  { primary := keys.primary
    fallback := some ⟨KeySet.derive "old", KeySet.derive "old", KeySet.derive "old"⟩ }

/-- A cookie with names and texts that have to be escaped, and the least and greatest numbers. -/
def scores : Value :=
  .object
    [("high\n\"", .array [Value.int (-9223372036854775808), .string "\\é\x01", .null]),
      ("low", Value.int 18446744073709551615)]

/-- Claims without that cookie. -/
def newcomer : TokenClaims :=
  { appId := "a", userId := "ü\t", nickname := some "", expires := 10, issued := -5,
    notBefore := some (-9223372036854775808) }

theorem isTimed_scores : (newcomer.withAuthCookie scores).IsTimed := by
  refine ⟨by decide, by decide, ?_⟩
  intro n hn
  cases hn
  decide

end Example

theorem verify_sealClaims_last_second :
    let claims := Example.newcomer.withAuthCookie Example.scores
    let iv : List UInt8 := List.replicate 16 255
    claims.IsTimed ∧ iv.length = 16 ∧ 10 ≤ claims.expires ∧
      Example.scores.isExact maxDepth = true ∧
      Example.rotated.verify (Example.rotated.sealClaims iv claims) (some "a") 10 = .ok claims ∧
      claims.cookieValue = some Example.scores := by
  intro claims iv
  have hexact : Example.scores.isExact maxDepth = true := by decide
  have happ : ∀ appId ∈ some "a", appId = claims.appId := by
    simp [claims, TokenClaims.withAuthCookie, Example.newcomer]
  obtain ⟨hverdict, hcookie⟩ := verify_sealClaims Example.rotated claims Example.isTimed_scores iv
    (by decide) 10 (by decide) (some "a") happ
  exact ⟨Example.isTimed_scores, by decide, by decide, hexact, hverdict,
    hcookie Example.newcomer Example.scores rfl hexact⟩

end KeyRing

end LoginGate
