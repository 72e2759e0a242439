/-
# The checks of a Nintendo token

A token passes through three groups of checks: those of its header, which need nothing but the table
of environments, those of its key, which need the keys of its URL, and those of its claims.  For each
group there is a predicate for what passes and one for the first check that fails, both said without
regard to how tokens are read, and one of the two always holds (`header_cases`, `key_cases`,
`claims_cases`).  Since each of them settles the answer, a token is accepted exactly if it passes all
groups (`verdict_eq_ok_iff`), and refused exactly for the first check that fails
(`verdict_eq_error_iff`).
-/
import LoginGate.Nintendo.Identity
import LoginGate.Proofs.Nintendo.Environments
import LoginGate.Proofs.WebToken.Compact

namespace LoginGate.Nintendo

open WebToken (Compact Header Presents Signs States)

variable {settings : Settings} {token appId : String} {now earliest latest : Int} {t : SignedToken}
  {claims : Claims} {identity : Identity} {keys : Option Certificates.Keys} {e : Rejection}

/-! ## 1. The header -/

/-- **A token refers to a key**: its header is for RS256 and has the URL and the id of a key. -/
def Refers (token : String) (t : SignedToken) : Prop :=
  ∃ header, Presents (Text.trimChars token.toList) t.token header ∧ header.algorithm = .rs256 ∧
    header.keyUrl = some t.keyUrl ∧ header.keyId = some t.keyId

/-- The first check of the header that fails. -/
inductive HeaderFault (settings : Settings) (token : String) : Rejection → Prop where
  | header (unread : ∀ t header, ¬ Presents (Text.trimChars token.toList) t header) :
      HeaderFault settings token (.invalidToken .header)
  | algorithm {t : Compact} {header : Header}
      (presents : Presents (Text.trimChars token.toList) t header)
      (foreign : header.algorithm ≠ .rs256) : HeaderFault settings token (.invalidToken .algorithm)
  | reference {t : Compact} {header : Header}
      (presents : Presents (Text.trimChars token.toList) t header)
      (algorithm : header.algorithm = .rs256)
      (missing : header.keyUrl = none ∨ header.keyId = none) :
      HeaderFault settings token .invalidKeyReference
  | place {t : SignedToken} (refers : Refers token t) (foreign : ¬ settings.Publishes t.keyUrl) :
      HeaderFault settings token .invalidKeyReference

theorem header_cases (settings : Settings) (token : String) :
    (∃ t, Refers token t ∧ settings.Publishes t.keyUrl) ∨ ∃ e, HeaderFault settings token e := by
  by_cases hread : ∃ c header, Presents (Text.trimChars token.toList) c header
  · obtain ⟨c, header, hpresents⟩ := hread
    by_cases hrs : header.algorithm = .rs256
    · cases hurl : header.keyUrl with
      | none => exact Or.inr ⟨_, .reference hpresents hrs (Or.inl hurl)⟩
      | some keyUrl =>
        cases hid : header.keyId with
        | none => exact Or.inr ⟨_, .reference hpresents hrs (Or.inr hid)⟩
        | some keyId =>
          have hrefers : Refers token ⟨c, keyUrl, keyId⟩ := ⟨header, hpresents, hrs, hurl, hid⟩
          by_cases hplace : settings.Publishes keyUrl
          · exact Or.inl ⟨_, hrefers, hplace⟩
          · exact Or.inr ⟨_, .place hrefers hplace⟩
    · exact Or.inr ⟨_, .algorithm hpresents hrs⟩
  · exact Or.inr ⟨_, .header fun c header hp => hread ⟨c, header, hp⟩⟩

theorem parse_of_foreign {c : Compact} {header : Header}
    (h : Presents (Text.trimChars token.toList) c header) (hforeign : header.algorithm ≠ .rs256) :
    SignedToken.parse settings token = .error (.invalidToken .algorithm) := by
  obtain ⟨hchars, hheader⟩ := WebToken.presents_iff.mp h
  simp only [SignedToken.parse, hchars, Option.bind_some, hheader]
  rw [if_pos hforeign]

theorem parse_of_missing {c : Compact} {header : Header}
    (h : Presents (Text.trimChars token.toList) c header) (halgorithm : header.algorithm = .rs256)
    (hmissing : header.keyUrl = none ∨ header.keyId = none) :
    SignedToken.parse settings token = .error .invalidKeyReference := by
  obtain ⟨hchars, hheader⟩ := WebToken.presents_iff.mp h
  simp only [SignedToken.parse, hchars, Option.bind_some, hheader]
  rw [if_neg (not_not_intro halgorithm)]
  split
  · rename_i keyUrl keyId hurl hid
    simp [hurl, hid] at hmissing
  · rfl

theorem parse_of_refers (h : Refers token t) :
    SignedToken.parse settings token =
      if (settings.environmentOfKeyUrl? t.keyUrl).isNone then .error .invalidKeyReference
      else .ok t := by
  obtain ⟨header, hpresents, halgorithm, hurl, hid⟩ := h
  obtain ⟨hchars, hheader⟩ := WebToken.presents_iff.mp hpresents
  simp only [SignedToken.parse, hchars, Option.bind_some, hheader]
  rw [if_neg (not_not_intro halgorithm), hurl, hid]

theorem parse_of_publishes (hrefers : Refers token t) (hplace : settings.Publishes t.keyUrl) :
    SignedToken.parse settings token = .ok t := by
  rw [parse_of_refers hrefers,
    if_neg fun hnone => Settings.isNone_environmentOfKeyUrl?.mp hnone hplace]

theorem parse_of_fault (h : HeaderFault settings token e) :
    SignedToken.parse settings token = .error e := by
  cases h with
  | header hunread =>
    rw [SignedToken.parse]
    split
    · rename_i c header hchars hheader
      rw [hchars, Option.bind_some] at hheader
      exact absurd (WebToken.presents_iff.mpr ⟨hchars, hheader⟩) (hunread c header)
    · rfl
  | algorithm hpresents hforeign => exact parse_of_foreign hpresents hforeign
  | reference hpresents halgorithm hmissing => exact parse_of_missing hpresents halgorithm hmissing
  | place hrefers hforeign =>
    rw [parse_of_refers hrefers, if_pos (Settings.isNone_environmentOfKeyUrl?.mpr hforeign)]

/-! ## 2. The key -/

/-- **A token is attested**: among the keys of its URL there is one with its key id that has signed
it, and it states the claims. -/
structure Attests (keys : Option Certificates.Keys) (t : SignedToken) (claims : Claims) : Prop where
  signed : ∃ found key, keys = some found ∧ Entries.get? t.keyId found = some key ∧
    Signs key t.token
  states : States Claims.decoder t.token claims

/-- The first check of the key that fails. -/
inductive KeyFault (keys : Option Certificates.Keys) (t : SignedToken) : Rejection → Prop where
  | timeout (none : keys = none) : KeyFault keys t .retrievalTimeout
  | unknown {found : Certificates.Keys} (found_eq : keys = some found)
      (missing : Entries.get? t.keyId found = none) : KeyFault keys t .invalidKeyReference
  | signature {found : Certificates.Keys} {key : WebKey.Verifier} (found_eq : keys = some found)
      (key_eq : Entries.get? t.keyId found = some key)
      (unattested : ¬ Signs key t.token ∨ ∀ claims, ¬ States Claims.decoder t.token claims) :
      KeyFault keys t (.invalidToken .signature)

theorem key_cases (keys : Option Certificates.Keys) (t : SignedToken) :
    (∃ claims, Attests keys t claims) ∨ ∃ e, KeyFault keys t e := by
  cases hfound : keys with
  | none => exact Or.inr ⟨_, .timeout rfl⟩
  | some found =>
    cases hkey : Entries.get? t.keyId found with
    | none => exact Or.inr ⟨_, .unknown rfl hkey⟩
    | some key =>
      by_cases hsigns : Signs key t.token
      · by_cases hstates : ∃ claims, States Claims.decoder t.token claims
        · obtain ⟨claims, hclaims⟩ := hstates
          exact Or.inl ⟨claims, ⟨found, key, rfl, hkey, hsigns⟩, hclaims⟩
        · exact Or.inr ⟨_, .signature rfl hkey (Or.inr fun claims hc => hstates ⟨claims, hc⟩)⟩
      · exact Or.inr ⟨_, .signature rfl hkey (Or.inl hsigns)⟩

theorem Refers.header (h : Refers token t) :
    ∃ header, t.token.header? = some header ∧ header.algorithm = .rs256 := by
  obtain ⟨header, hpresents, halgorithm, -⟩ := h
  exact ⟨header, (WebToken.presents_iff.mp hpresents).2, halgorithm⟩

/-- An attested token comes down to the check of its claims. -/
theorem check_of_attests (hrefers : Refers token t) (h : Attests keys t claims) :
    t.check settings appId now keys = claims.check settings appId now := by
  obtain ⟨⟨found, key, rfl, hkey, hsigns⟩, hstates⟩ := h
  have hopen : t.token.openPublished? Claims.decoder key = some claims :=
    WebToken.Compact.openPublished?_eq_some_iff.mpr ⟨hrefers.header, hsigns, hstates⟩
  simp only [SignedToken.check, hkey, hopen]

theorem check_of_fault (h : KeyFault keys t e) : t.check settings appId now keys = .error e := by
  cases h with
  | timeout hnone => rw [hnone, SignedToken.check]
  | unknown hfound hmissing => simp only [SignedToken.check, hfound, hmissing]
  | @signature found key hfound hkey hunattested =>
    have hclosed : t.token.openPublished? Claims.decoder key = none := by
      refine Option.eq_none_iff_forall_ne_some.mpr ?_
      intro claims hopen
      obtain ⟨-, hsigns, hstates⟩ := WebToken.Compact.openPublished?_eq_some_iff.mp hopen
      exact hunattested.elim (fun h => h hsigns) fun h => h claims hstates
    simp only [SignedToken.check, hfound, hkey, hclosed]

/-! ## 3. The claims -/

/-- The claims are for an application: they name one, and but for blanks around it, its hexadecimal
mark and upper case letters it is the given one. -/
def Claims.IsFor (claims : Claims) (appId : String) : Prop :=
  ∃ id, claims.applicationId = some id ∧ id ≠ "" ∧ bareAppId id = bareAppId appId

/-- **Claims admit an identity**: the issuer names its environment, the times are in bounds, and the
claims are for the application. -/
structure Admits (settings : Settings) (appId : String) (earliest latest : Int) (claims : Claims)
    (identity : Identity) : Prop where
  named : settings.IsNamed claims.issuer identity.environment
  issued : claims.issued ≤ latest
  expires : earliest ≤ claims.expires
  application : claims.IsFor appId
  subject : identity.subject = claims.subject

/-- The first check of the claims that fails. -/
inductive ClaimsFault (settings : Settings) (appId : String) (earliest latest : Int)
    (claims : Claims) : Check → Prop where
  | issuer (unknown : ¬ settings.Knows claims.issuer) :
      ClaimsFault settings appId earliest latest claims .issuer
  | issued (knows : settings.Knows claims.issuer) (early : latest < claims.issued) :
      ClaimsFault settings appId earliest latest claims .issued
  | expires (knows : settings.Knows claims.issuer) (issued : claims.issued ≤ latest)
      (late : claims.expires < earliest) :
      ClaimsFault settings appId earliest latest claims .expires
  | application (knows : settings.Knows claims.issuer) (issued : claims.issued ≤ latest)
      (expires : earliest ≤ claims.expires) (foreign : ¬ claims.IsFor appId) :
      ClaimsFault settings appId earliest latest claims .appId

theorem claims_cases (horder : settings.InKeyOrder) (appId : String) (earliest latest : Int)
    (claims : Claims) :
    (∃ identity, Admits settings appId earliest latest claims identity) ∨
      ∃ check, ClaimsFault settings appId earliest latest claims check := by
  cases hissuer : settings.environmentOfIssuer? claims.issuer with
  | none => exact Or.inr ⟨_, .issuer (Settings.environmentOfIssuer?_eq_none_iff.mp hissuer)⟩
  | some environment =>
    have hnamed := (Settings.environmentOfIssuer?_eq_some_iff horder).mp hissuer
    rcases Int.lt_or_le latest claims.issued with hearly | hissued
    · exact Or.inr ⟨_, .issued hnamed.knows hearly⟩
    rcases Int.lt_or_le claims.expires earliest with hlate | hexpires
    · exact Or.inr ⟨_, .expires hnamed.knows hissued hlate⟩
    by_cases happ : claims.IsFor appId
    · exact Or.inl ⟨⟨claims.subject, environment⟩, hnamed, hissued, hexpires, happ, rfl⟩
    · exact Or.inr ⟨_, .application hnamed.knows hissued hexpires happ⟩

/-- The earliest time of expiry and the latest time of issue that pass at a time, as they are
computed in words. -/
def Settings.window (settings : Settings) (now : Int) : Int × Int :=
  (Word.wrap (now - Word.wrap settings.clockSkew), Word.wrap (now + Word.wrap settings.clockSkew))

theorem isFor_iff :
    claims.IsFor appId ↔ ¬ (claims.applicationId.getD "" = "" ||
      bareAppId (claims.applicationId.getD "") ≠ bareAppId appId) = true := by
  cases happ : claims.applicationId with
  | none => simp [Claims.IsFor, happ]
  | some id => simp [Claims.IsFor, happ]

instance (claims : Claims) (appId : String) : Decidable (claims.IsFor appId) :=
  decidable_of_iff _ isFor_iff.symm

/-- What is made of claims once their environment is known. -/
theorem claims_check_of_environment {environment : String}
    (h : settings.environmentOfIssuer? claims.issuer = some environment) :
    claims.check settings appId now =
      if (settings.window now).2 < claims.issued then .error (.invalidToken .issued)
      else if claims.expires < (settings.window now).1 then .error (.invalidToken .expires)
      else if ¬ claims.IsFor appId then .error (.invalidToken .appId)
      else .ok { subject := claims.subject, environment } := by
  simp only [Claims.check, h, Settings.window, isFor_iff, not_not]

theorem claims_check_of_admits (horder : settings.InKeyOrder)
    (h : Admits settings appId (settings.window now).1 (settings.window now).2 claims identity) :
    claims.check settings appId now = .ok identity := by
  obtain ⟨hnamed, hissued, hexpires, happ, hsubject⟩ := h
  rw [claims_check_of_environment ((Settings.environmentOfIssuer?_eq_some_iff horder).mpr hnamed),
    if_neg (Int.not_lt.mpr hissued), if_neg (Int.not_lt.mpr hexpires), if_neg (not_not_intro happ),
    ← hsubject]

theorem claims_check_of_fault {check : Check}
    (h : ClaimsFault settings appId (settings.window now).1 (settings.window now).2 claims check) :
    claims.check settings appId now = .error (.invalidToken check) := by
  have hissuer (hknows : settings.Knows claims.issuer) :
      ∃ environment, settings.environmentOfIssuer? claims.issuer = some environment := by
    refine Option.ne_none_iff_exists'.mp fun hnone => ?_
    exact Settings.environmentOfIssuer?_eq_none_iff.mp hnone hknows
  cases h with
  | issuer hunknown =>
    rw [Claims.check, Settings.environmentOfIssuer?_eq_none_iff.mpr hunknown]
  | issued hknows hearly =>
    obtain ⟨environment, hsome⟩ := hissuer hknows
    rw [claims_check_of_environment hsome, if_pos hearly]
  | expires hknows hissued hlate =>
    obtain ⟨environment, hsome⟩ := hissuer hknows
    rw [claims_check_of_environment hsome, if_neg (Int.not_lt.mpr hissued), if_pos hlate]
  | application hknows hissued hexpires hforeign =>
    obtain ⟨environment, hsome⟩ := hissuer hknows
    rw [claims_check_of_environment hsome, if_neg (Int.not_lt.mpr hissued),
      if_neg (Int.not_lt.mpr hexpires), if_pos hforeign]

/-! ## 4. All checks -/

/-- **A token proves an identity** with the keys that there are for each URL: it refers to a key at
one of the environments, the key attests it, and its claims admit the identity. -/
def Proves (settings : Settings) (appId : String) (earliest latest : Int)
    (keysOf : String → Option Certificates.Keys) (token : String) (identity : Identity) : Prop :=
  ∃ t claims, Refers token t ∧ settings.Publishes t.keyUrl ∧ Attests (keysOf t.keyUrl) t claims ∧
    Admits settings appId earliest latest claims identity

/-- The first check of all that fails. -/
inductive FirstFault (settings : Settings) (appId : String) (earliest latest : Int)
    (keysOf : String → Option Certificates.Keys) (token : String) : Rejection → Prop where
  | header {e : Rejection} (fault : HeaderFault settings token e) :
      FirstFault settings appId earliest latest keysOf token e
  | key {t : SignedToken} {e : Rejection} (refers : Refers token t)
      (place : settings.Publishes t.keyUrl) (fault : KeyFault (keysOf t.keyUrl) t e) :
      FirstFault settings appId earliest latest keysOf token e
  | claims {t : SignedToken} {claims : Claims} {check : Check} (refers : Refers token t)
      (place : settings.Publishes t.keyUrl) (attests : Attests (keysOf t.keyUrl) t claims)
      (fault : ClaimsFault settings appId earliest latest claims check) :
      FirstFault settings appId earliest latest keysOf token (.invalidToken check)

theorem proves_or_fault (horder : settings.InKeyOrder) (appId : String) (earliest latest : Int)
    (keysOf : String → Option Certificates.Keys) (token : String) :
    (∃ identity, Proves settings appId earliest latest keysOf token identity) ∨
      ∃ e, FirstFault settings appId earliest latest keysOf token e := by
  rcases header_cases settings token with ⟨t, hrefers, hplace⟩ | ⟨e, hfault⟩
  · rcases key_cases (keysOf t.keyUrl) t with ⟨claims, hattests⟩ | ⟨e, hfault⟩
    · rcases claims_cases horder appId earliest latest claims with ⟨identity, hadmits⟩ |
        ⟨check, hfault⟩
      · exact Or.inl ⟨identity, t, claims, hrefers, hplace, hattests, hadmits⟩
      · exact Or.inr ⟨_, .claims hrefers hplace hattests hfault⟩
    · exact Or.inr ⟨e, .key hrefers hplace hfault⟩
  · exact Or.inr ⟨e, .header hfault⟩

/-- The keys that a cache has for each URL when asked at an instant, in the time that the settings
allow. -/
def keysWithin (settings : Settings) (cache : Certificates.Cache) (instant : Nat) (url : String) :
    Option Certificates.Keys :=
  (cache.keysFor instant url settings.retrievalTimeout).2.2

variable {cache : Certificates.Cache} {instant : Nat}

/-- The answer to a token. -/
def verdict (settings : Settings) (appId : String) (cache : Certificates.Cache) (instant : Nat)
    (token : String) (now : Int) : Except Rejection Identity :=
  (verify settings appId cache instant token now).2.2

/-- Behind the header, the answer is that of the key and the claims. -/
theorem verdict_of_publishes (hrefers : Refers token t) (hplace : settings.Publishes t.keyUrl) :
    verdict settings appId cache instant token now =
      t.check settings appId now (keysWithin settings cache instant t.keyUrl) := by
  rw [verdict, verify, parse_of_publishes hrefers hplace]
  rfl

theorem verdict_of_proves (horder : settings.InKeyOrder)
    (h : Proves settings appId (settings.window now).1 (settings.window now).2
      (keysWithin settings cache instant) token identity) :
    verdict settings appId cache instant token now = .ok identity := by
  obtain ⟨t, claims, hrefers, hplace, hattests, hadmits⟩ := h
  rw [verdict_of_publishes hrefers hplace, check_of_attests hrefers hattests,
    claims_check_of_admits horder hadmits]

theorem verdict_of_fault
    (h : FirstFault settings appId (settings.window now).1 (settings.window now).2
      (keysWithin settings cache instant) token e) :
    verdict settings appId cache instant token now = .error e := by
  cases h with
  | header hfault => rw [verdict, verify, parse_of_fault hfault]
  | key hrefers hplace hfault =>
    rw [verdict_of_publishes hrefers hplace, check_of_fault hfault]
  | claims hrefers hplace hattests hfault =>
    rw [verdict_of_publishes hrefers hplace, check_of_attests hrefers hattests,
      claims_check_of_fault hfault]

/-- **What is accepted is proved**, with the times of expiry and of issue in the bounds that are
computed in words. -/
theorem verdict_eq_ok_iff (horder : settings.InKeyOrder) :
    verdict settings appId cache instant token now = .ok identity ↔
      Proves settings appId (settings.window now).1 (settings.window now).2
        (keysWithin settings cache instant) token identity := by
  refine ⟨fun h => ?_, verdict_of_proves horder⟩
  rcases proves_or_fault horder appId (settings.window now).1 (settings.window now).2
    (keysWithin settings cache instant) token with ⟨identity', hproves⟩ | ⟨e, hfault⟩
  · rw [verdict_of_proves horder hproves] at h
    cases h
    exact hproves
  · rw [verdict_of_fault hfault] at h
    cases h

/-- **What is refused is refused for the first check that fails.** -/
theorem verdict_eq_error_iff (horder : settings.InKeyOrder) :
    verdict settings appId cache instant token now = .error e ↔
      FirstFault settings appId (settings.window now).1 (settings.window now).2
        (keysWithin settings cache instant) token e := by
  refine ⟨fun h => ?_, verdict_of_fault⟩
  rcases proves_or_fault horder appId (settings.window now).1 (settings.window now).2
    (keysWithin settings cache instant) token with ⟨identity, hproves⟩ | ⟨e', hfault⟩
  · rw [verdict_of_proves horder hproves] at h
    cases h
  · rw [verdict_of_fault hfault] at h
    cases h
    exact hfault

end LoginGate.Nintendo
