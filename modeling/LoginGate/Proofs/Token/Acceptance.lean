/-
# Which tokens are accepted

A ring accepts a token with claims exactly when the token vouches for them and they have not ended;
it calls a token expired exactly when the token vouches for claims that have ended; and everything
else is invalid (`verdict_exact`).  So a caller learns of an end only from a token that is
authentic, and for the application that was asked for.

It is not enough that the payload reads as the record of claims.  It is read a second time, as
registered claims, and a payload that fails there is refused however well it is signed
(`readable_payload_refused`).
-/
import LoginGate.Proofs.Token.Opening
import Mathlib.Tactic.ByContra

namespace LoginGate

open Json
open WebToken (Reads registeredDecoder)

namespace KeyRing

variable {ring : KeyRing} {token : String} {expected : Option String} {now : Int}
  {claims : TokenClaims}

/-! ## 1. Vouching -/

/-- **A token vouches for claims**: it carries a payload that reads as these claims and as
registered claims, and they are for the application that is expected, if one is. -/
structure Vouches (ring : KeyRing) (token : String) (expected : Option String)
    (claims : TokenClaims) : Prop where
  carried : ∃ payload, ring.Carries token payload ∧
    decodeBytes? TokenClaims.decoder payload = some claims ∧
    decodeBytes? registeredDecoder payload = some ()
  application : ∀ appId ∈ expected, appId = claims.appId

theorem vouches_iff :
    ring.Vouches token expected claims ↔
      ring.openToken token = .ok claims ∧ ∀ appId ∈ expected, appId = claims.appId := by
  rw [openToken_eq_ok_iff]
  constructor
  · rintro ⟨hcarried, happlication⟩
    exact ⟨hcarried, happlication⟩
  · rintro ⟨hcarried, happlication⟩
    exact ⟨hcarried, happlication⟩

theorem any_ne_iff {appId : String} :
    expected.any (· ≠ appId) = true ↔ ¬ ∀ a ∈ expected, a = appId := by
  cases expected <;> simp

/-! ## 2. Verdicts -/

/-- The verdict on a token that opens. -/
theorem verify_of_opens (h : ring.openToken token = .ok claims) :
    ring.verify token expected now =
      if expected.any (· ≠ claims.appId) then .error (.invalid .appId)
      else if claims.expires < now then .error .expired
      else .ok claims := by
  rw [verify, h]
  rfl

/-- The verdict on a token that vouches for claims. -/
theorem verify_of_vouches (h : ring.Vouches token expected claims) :
    ring.verify token expected now =
      if claims.expires < now then .error .expired else .ok claims := by
  obtain ⟨hopens, happlication⟩ := vouches_iff.mp h
  rw [verify_of_opens hopens, if_neg]
  rw [any_ne_iff]
  exact not_not_intro happlication

/-- A token that vouches for no claims is invalid. -/
theorem verify_of_not_vouches (h : ∀ claims, ¬ ring.Vouches token expected claims) :
    ∃ step, ring.verify token expected now = .error (.invalid step) := by
  cases hopens : ring.openToken token with
  | error r =>
    obtain ⟨step, rfl⟩ := openToken_error hopens
    refine ⟨step, ?_⟩
    rw [verify, hopens]
    rfl
  | ok claims =>
    have happlication : ¬ ∀ appId ∈ expected, appId = claims.appId :=
      fun ha => h claims (vouches_iff.mpr ⟨hopens, ha⟩)
    refine ⟨.appId, ?_⟩
    rw [verify_of_opens hopens, if_pos (any_ne_iff.mpr happlication)]

/-- A verdict other than that a token is invalid is about claims that it vouches for. -/
theorem exists_vouches (h : ∀ step, ring.verify token expected now ≠ .error (.invalid step)) :
    ∃ claims, ring.Vouches token expected claims := by
  by_contra hnone
  obtain ⟨step, hstep⟩ := verify_of_not_vouches fun claims hc => hnone ⟨claims, hc⟩
  exact h step hstep

theorem verify_eq_ok_iff :
    ring.verify token expected now = .ok claims ↔
      ring.Vouches token expected claims ∧ now ≤ claims.expires := by
  constructor
  · intro h
    have hvalid : ∀ step, ring.verify token expected now ≠ .error (.invalid step) := by simp [h]
    obtain ⟨found, hfound⟩ := exists_vouches hvalid
    rw [verify_of_vouches hfound] at h
    split at h
    · cases h
    · cases h
      exact ⟨hfound, by omega⟩
  · rintro ⟨hvouches, hnow⟩
    rw [verify_of_vouches hvouches, if_neg (by omega)]

theorem verify_eq_expired_iff :
    ring.verify token expected now = .error .expired ↔
      ∃ claims, ring.Vouches token expected claims ∧ claims.expires < now := by
  constructor
  · intro h
    have hvalid : ∀ step, ring.verify token expected now ≠ .error (.invalid step) := by simp [h]
    obtain ⟨found, hfound⟩ := exists_vouches hvalid
    rw [verify_of_vouches hfound] at h
    split at h
    · rename_i hended
      exact ⟨found, hfound, hended⟩
    · cases h
  · rintro ⟨found, hfound, hended⟩
    rw [verify_of_vouches hfound, if_pos hended]

theorem verify_eq_invalid_iff :
    (∃ step, ring.verify token expected now = .error (.invalid step)) ↔
      ∀ claims, ¬ ring.Vouches token expected claims := by
  constructor
  · rintro ⟨step, hstep⟩ claims hvouches
    rw [verify_of_vouches hvouches] at hstep
    split at hstep
    · cases hstep
    · cases hstep
  · exact verify_of_not_vouches

/-- **The verdict on a token.**  It is accepted exactly with the claims that it vouches for and that
have not ended, it is expired exactly if it vouches for claims that have ended, and otherwise it is
invalid: there is no fourth verdict. -/
theorem verdict_exact (ring : KeyRing) (token : String) (expected : Option String) (now : Int) :
    (∀ claims, ring.verify token expected now = .ok claims ↔
      ring.Vouches token expected claims ∧ now ≤ claims.expires) ∧
    (ring.verify token expected now = .error .expired ↔
      ∃ claims, ring.Vouches token expected claims ∧ claims.expires < now) ∧
    ((∃ step, ring.verify token expected now = .error (.invalid step)) ↔
      ∀ claims, ¬ ring.Vouches token expected claims) :=
  ⟨fun _ => verify_eq_ok_iff, verify_eq_expired_iff, verify_eq_invalid_iff⟩

/-! ## 3. Payloads that are read once only -/

/-- A payload that does not read as registered claims is refused with the signature. -/
theorem verify_of_unregistered {payload : List UInt8} (hcarries : ring.Carries token payload)
    (h : decodeBytes? registeredDecoder payload = none) :
    ring.verify token expected now = .error (.invalid .signature) := by
  have hunread : ∀ claims, ¬ Reads TokenClaims.decoder payload claims := by
    rintro claims ⟨-, hregistered⟩
    rw [h] at hregistered
    cases hregistered
  rw [verify, openToken_of_unreadable hcarries hunread]
  rfl

namespace Example

/-- The ring of one secret. -/
def keys : KeyRing :=
  { primary := ⟨KeySet.derive "hash", KeySet.derive "encryption", KeySet.derive "signature"⟩ }

/-- Claims that end in 2027. -/
def guest : TokenClaims := { appId := "a", userId := "u", expires := 1800000000, issued := 1 }

/-- Their record, with an object under the registered name of the subject. -/
def guestPayload : Value := .object (guest.members ++ [("sub", .object [])])

/-- The token of this payload. -/
def guestToken : String :=
  keys.sealBytes ((List.range 16).map UInt8.ofNat) (Text.Utf8.encode guestPayload.write)

theorem isExact_guestPayload : guestPayload.isExact 2 = true := by decide

theorem isTimed_guest : guest.IsTimed := ⟨by decide, by decide, by simp [guest]⟩

theorem decodeBytes?_guestPayload :
    decodeBytes? TokenClaims.decoder (Text.Utf8.encode guestPayload.write) = some guest := by
  rw [decodeBytes?_write _ isExact_guestPayload, guestPayload]
  refine TokenClaims.decoder_tree isTimed_guest (by decide) (by decide) ?_
  have hname : ∀ f ∈ TokenClaims.recordFields, "sub" ≠ f.name := by decide
  intro f hf
  rw [Entries.get?_append, Entries.get?, if_neg (hname f hf), Entries.get?_nil, Option.or_none]

theorem registered_guestPayload :
    decodeBytes? registeredDecoder (Text.Utf8.encode guestPayload.write) = none := by
  rw [decodeBytes?_write _ isExact_guestPayload, guestPayload, registeredDecoder,
    record_tree _ (by decide) (by decide)]
  rfl

end Example

/-- **A readable payload that is refused.**  The token carries a payload that reads as claims which
have not ended, and no application is expected; yet it is invalid. -/
theorem readable_payload_refused :
    Example.keys.Carries Example.guestToken (Text.Utf8.encode Example.guestPayload.write) ∧
      decodeBytes? TokenClaims.decoder (Text.Utf8.encode Example.guestPayload.write) =
        some Example.guest ∧
      1700000000 ≤ Example.guest.expires ∧
      Example.keys.verify Example.guestToken none 1700000000 = .error (.invalid .signature) := by
  have hcarries :
      Example.keys.Carries Example.guestToken (Text.Utf8.encode Example.guestPayload.write) :=
    carries_sealBytes Example.keys (by decide) _
  exact ⟨hcarries, Example.decodeBytes?_guestPayload, by decide,
    verify_of_unregistered hcarries Example.registered_guestPayload⟩

end KeyRing

end LoginGate
