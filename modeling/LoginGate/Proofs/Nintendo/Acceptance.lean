/-
# When a Nintendo token is accepted

The checks of a token are those of its header, its key and its claims.  At times whose window stays
in the range of words, and with the environments in the order of their keys, they decide the answer
as they stand, in integers (`verify_iff_checks`).

The claims have to be read twice, as in every web token.  A payload that states all that is asked for
is refused, like a wrong signature, if it is no set of registered claims (`stated_claims_refused`).
-/
import LoginGate.Proofs.Certificates.Deadline
import LoginGate.Proofs.Nintendo.Issuing

namespace LoginGate.Nintendo

open Json

variable {settings : Settings} {token appId : String} {now : Int} {cache : Certificates.Cache}
  {instant : Nat}

/-! ## 1. Time -/

/-- The answer to a token comes within the time that the settings allow for the keys. -/
theorem verify_answered_le :
    (verify settings appId cache instant token now).2.1 ≤ instant + settings.retrievalTimeout := by
  rw [verify]
  split
  · exact Nat.le_add_right _ _
  · exact cache.answered_le _ _ _

/-- Bounds in words are those in integers if both are in range; the skew is then in range too. -/
theorem Settings.window_eq (hlatest : Word.isInt64 (now + settings.clockSkew) = true)
    (hearliest : Word.isInt64 (now - settings.clockSkew) = true) :
    settings.window now = (now - settings.clockSkew, now + settings.clockSkew) := by
  have hskew : Word.isInt64 (settings.clockSkew : Int) = true := by
    rw [Word.isInt64_iff, Word.minInt64, Word.maxInt64] at hlatest hearliest ⊢
    omega
  rw [window, Word.wrap_of_isInt64 hskew, Word.wrap_of_isInt64 hlatest,
    Word.wrap_of_isInt64 hearliest]

/-! ## 2. Acceptance -/

/-- **Acceptance is exact.**  Under settings whose environments are in the order of their keys, at a
time from which the clocks may differ without leaving the range of words, a token is accepted for an
identity exactly if it proves it, and it is refused exactly for the first check that fails.  The keys
are those that the cache has for the token's own URL, and the answer comes within the time that is
allowed for them.  The user id is the subject, an underscore and the key of the environment. -/
theorem verify_iff_checks (horder : settings.InKeyOrder) (appId : String)
    (cache : Certificates.Cache) (instant : Nat) (token : String)
    (hlatest : Word.isInt64 (now + settings.clockSkew) = true)
    (hearliest : Word.isInt64 (now - settings.clockSkew) = true) :
    let answer := verdict settings appId cache instant token now
    let earliest := now - settings.clockSkew
    let latest := now + settings.clockSkew
    let keysOf := keysWithin settings cache instant
    (∀ identity, answer = .ok identity ↔
      Proves settings appId earliest latest keysOf token identity) ∧
    (∀ identity, answer = .ok identity →
      identity.userId = identity.subject ++ "_" ++ identity.environment) ∧
    (∀ e, answer = .error e ↔ FirstFault settings appId earliest latest keysOf token e) ∧
    (verify settings appId cache instant token now).2.1 ≤ instant + settings.retrievalTimeout := by
  have hok (identity : Identity) : verdict settings appId cache instant token now = .ok identity ↔
      Proves settings appId (settings.window now).1 (settings.window now).2
        (keysWithin settings cache instant) token identity := verdict_eq_ok_iff horder
  have herror (e : Rejection) : verdict settings appId cache instant token now = .error e ↔
      FirstFault settings appId (settings.window now).1 (settings.window now).2
        (keysWithin settings cache instant) token e := verdict_eq_error_iff horder
  rw [Settings.window_eq hlatest hearliest] at hok herror
  exact ⟨hok, fun _ _ => rfl, herror, verify_answered_le⟩

namespace Example

/-- Two environments; the base URL of the second one continues that of the first. -/
def hosts : Settings :=
  { environments := [("dd1", "https://e.example"), ("lp1", "https://e.example/lp/")] }

theorem inKeyOrder_hosts : hosts.InKeyOrder := by decide

/-- Claims at the bounds of their times, for an application that is written in another way. -/
def claims : Claims :=
  { issuer := "https://e.example/", subject := "77", issued := 1010, expires := 990
    applicationId := some " 0X00F " }

/-- The identity that these claims admit. -/
def identity : Identity := { subject := "77", environment := "dd1" }

theorem isTimed_claims : claims.IsTimed := ⟨by decide, by decide⟩

theorem isNamed_claims : hosts.IsNamed claims.issuer "dd1" := by decide

theorem admits_claims : Admits hosts "00f" (1000 - 10) (1000 + 10) claims identity :=
  ⟨isNamed_claims, by decide, by decide, ⟨_, rfl, by decide, by decide⟩, rfl⟩

/-- A key URL below the second base URL, and so below the first. -/
def keyUrl : String := "https://e.example/lp/keys"

theorem publishes_keyUrl : hosts.Publishes keyUrl := by decide

/-- The token of these claims. -/
def ticket : SignedToken := issue keyUrl "k1" (claims.payload [])

end Example

theorem verify_iff_checks_latest_times :
    let cache := Example.ticket.serving
    let keysOf := keysWithin Example.hosts cache 7
    Example.hosts.InKeyOrder ∧
      Word.isInt64 (1000 + Example.hosts.clockSkew) = true ∧
      Word.isInt64 (1000 - Example.hosts.clockSkew) = true ∧
      Proves Example.hosts "00f" (1000 - Example.hosts.clockSkew) (1000 + Example.hosts.clockSkew)
        keysOf Example.ticket.text Example.identity ∧
      verdict Example.hosts "00f" cache 7 Example.ticket.text 1000 = .ok Example.identity ∧
      Example.identity.userId = "77_dd1" := by
  intro cache keysOf
  have hlatest : Word.isInt64 (1000 + Example.hosts.clockSkew) = true := by decide
  have hearliest : Word.isInt64 (1000 - Example.hosts.clockSkew) = true := by decide
  have hproves := proves_issue (by decide) Example.publishes_keyUrl
    (Claims.reads_payload Example.isTimed_claims) Example.admits_claims "k1" 7
  obtain ⟨hok, huser, -, -⟩ := verify_iff_checks Example.inKeyOrder_hosts "00f" cache 7
    Example.ticket.text hlatest hearliest
  have haccepted := (hok _).mpr hproves
  exact ⟨Example.inKeyOrder_hosts, hlatest, hearliest, hproves, haccepted, huser _ haccepted⟩

/-! ## 3. Payloads that are read once only -/

namespace Example

/-- The claims with an array that is not empty under a registered name. -/
def loosePayload : List UInt8 := claims.payload [("nbf", .array [.null])]

theorem allows_notBefore : claims.Allows [("nbf", .array [.null])] := ⟨by decide, by decide⟩

theorem registered_loosePayload : decodeBytes? WebToken.registeredDecoder loosePayload = none := by
  rw [loosePayload, Claims.payload,
    decodeBytes?_write _ (Claims.isExact_record isTimed_claims allows_notBefore),
    WebToken.registeredDecoder, record_tree _ (by decide) allows_notBefore.names]
  rfl

/-- The token of this payload. -/
def looseToken : SignedToken := issue keyUrl "k1" loosePayload

end Example

/-- **A statement of all that is asked for that is refused.**  The token refers to a key at an
environment, this key has signed it, its payload reads as claims, and these admit an identity; yet
it is invalid. -/
theorem stated_claims_refused :
    let t := Example.looseToken
    let cache := t.serving
    Example.hosts.InKeyOrder ∧
      Word.isInt64 (1000 + Example.hosts.clockSkew) = true ∧
      Word.isInt64 (1000 - Example.hosts.clockSkew) = true ∧
      Refers t.text t ∧ Example.hosts.Publishes t.keyUrl ∧
      (∃ key, keysWithin Example.hosts cache 0 t.keyUrl = some [(t.keyId, key)] ∧
        WebToken.Signs key t.token) ∧
      t.token.claims = Text.Base64.encodeUrl Example.loosePayload ∧
      decodeBytes? Claims.decoder Example.loosePayload = some Example.claims ∧
      Admits Example.hosts "00f" (1000 - Example.hosts.clockSkew) (1000 + Example.hosts.clockSkew)
        Example.claims Example.identity ∧
      verdict Example.hosts "00f" cache 0 t.text 1000 = .error (.invalidToken .signature) := by
  intro t cache
  have hrefers : Refers t.text t := refers_issue _ _ _
  have hkeys : keysWithin Example.hosts cache 0 t.keyUrl = some t.keys :=
    keysWithin_serving (by decide) t 0
  have hfault :
      KeyFault (keysWithin Example.hosts cache 0 t.keyUrl) t (.invalidToken .signature) := by
    rw [hkeys]
    exact keyFault_issue Example.registered_loosePayload
  refine ⟨Example.inKeyOrder_hosts, by decide, by decide, hrefers, Example.publishes_keyUrl,
    ⟨WebToken.ownKey t.token, hkeys, signs_issue _ _ _⟩, WebToken.claims_published _ _,
    Claims.decodeBytes?_payload Example.isTimed_claims Example.allows_notBefore,
    Example.admits_claims, ?_⟩
  exact verdict_of_fault (.key hrefers Example.publishes_keyUrl hfault)

end LoginGate.Nintendo
