/-
# The window that a clock leaves

The times of a Nintendo token pass when it was issued no later than a number of seconds ahead of the
clock and expires no earlier than as many seconds behind it.  The number comes from a configuration,
where it is any natural number of 64 bits, and both ends of the window are computed as integers of 64
bits.  As long as the later end is such an integer, so is the earlier one, and the times pass exactly
as they do in integers.  Beyond that nothing is left of the window: a token that was issued at the
very time of the clock is refused as issued too early (`clock_window_exact`), and validation does not
keep such a number out (`validate_withSkew`).
-/
import LoginGate.Configuration.Basic
import LoginGate.Proofs.Nintendo.Acceptance

namespace LoginGate

/-- An integer that is too great for a word by less than the number of words wraps once. -/
theorem Word.wrap_of_above {n : Int} (habove : maxInt64 < n)
    (hbelow : n ≤ maxInt64 + 18446744073709551616) : wrap n = n - 18446744073709551616 := by
  have hwrapped : isInt64 (n - 18446744073709551616) = true := by
    rw [isInt64_iff, minInt64, maxInt64] at *
    omega
  rw [← wrap_of_isInt64 hwrapped, wrap, wrap]
  exact (Int.sub_bmod_right n 18446744073709551616).symm

namespace Nintendo

variable {settings : Settings} {appId token : String} {cache : Certificates.Cache} {instant : Nat}
  {now : Int} {claims : Claims}

/-! ## 1. Tokens whose times are looked at -/

/-- A token is as good as its times: it refers to a key at one of the environments, the key attests
its claims, and the issuer of these is known. -/
def Offers (settings : Settings) (keysOf : String → Option Certificates.Keys) (token : String)
    (claims : Claims) : Prop :=
  ∃ t, Refers token t ∧ settings.Publishes t.keyUrl ∧ Attests (keysOf t.keyUrl) t claims ∧
    settings.Knows claims.issuer

/-- The times of a token pass: what is answered is about neither of them. -/
def TimesPass (answer : Except Rejection Identity) : Prop :=
  answer ≠ .error (.invalidToken .issued) ∧ answer ≠ .error (.invalidToken .expires)

/-- Once its times are looked at, a token comes down to the window and to its application. -/
theorem verdict_of_offers (appId : String) (now : Int)
    (h : Offers settings (keysWithin settings cache instant) token claims) :
    ∃ environment, verdict settings appId cache instant token now =
      if (settings.window now).2 < claims.issued then .error (.invalidToken .issued)
      else if claims.expires < (settings.window now).1 then .error (.invalidToken .expires)
      else if ¬ claims.IsFor appId then .error (.invalidToken .appId)
      else .ok { subject := claims.subject, environment } := by
  obtain ⟨t, hrefers, hplace, hattests, hknows⟩ := h
  obtain ⟨environment, hissuer⟩ :
      ∃ environment, settings.environmentOfIssuer? claims.issuer = some environment :=
    Option.ne_none_iff_exists'.mp fun hnone =>
      Settings.environmentOfIssuer?_eq_none_iff.mp hnone hknows
  refine ⟨environment, ?_⟩
  rw [verdict_of_publishes hrefers hplace, check_of_attests hrefers hattests,
    claims_check_of_environment hissuer]

theorem timesPass_iff (h : Offers settings (keysWithin settings cache instant) token claims) :
    TimesPass (verdict settings appId cache instant token now) ↔
      claims.issued ≤ (settings.window now).2 ∧ (settings.window now).1 ≤ claims.expires := by
  obtain ⟨environment, hverdict⟩ := verdict_of_offers appId now h
  rw [hverdict, TimesPass]
  by_cases hissued : (settings.window now).2 < claims.issued
  · simp [hissued]
  by_cases hexpires : claims.expires < (settings.window now).1
  · simp [hissued, hexpires]
  · by_cases happ : claims.IsFor appId <;> simp [hissued, hexpires, happ] <;> omega

/-! ## 2. The ends of the window -/

/-- From a time that is not negative the later end of the window is the one that leaves the words
first. -/
theorem isInt64_ends (settings : Settings) (hpast : 0 ≤ now)
    (hfits : now + settings.clockSkew ≤ Word.maxInt64) :
    Word.isInt64 (now + settings.clockSkew) = true ∧
      Word.isInt64 (now - settings.clockSkew) = true := by
  simp only [Word.isInt64_iff, Word.minInt64, Word.maxInt64] at hfits ⊢
  omega

/-- A later end beyond the words comes out before the time itself. -/
theorem window_overrun (settings : Settings) (hpast : 0 ≤ now) (hnow : Word.isInt64 now = true)
    (hskew : settings.clockSkew ≤ Word.maxNat64)
    (hover : Word.maxInt64 < now + settings.clockSkew) : (settings.window now).2 < now := by
  rw [Word.isInt64_iff] at hnow
  simp only [Word.minInt64, Word.maxInt64, Word.maxNat64] at hnow hskew hover
  change Word.wrap (now + Word.wrap settings.clockSkew) < now
  rcases le_or_gt (settings.clockSkew : Int) Word.maxInt64 with hword | hbeyond
  · -- The number is a word, and its sum with the time wraps.
    have hwrap : Word.wrap settings.clockSkew = settings.clockSkew :=
      Word.wrap_of_isInt64 (Word.isInt64_iff.mpr ⟨by rw [Word.minInt64]; omega, hword⟩)
    rw [Word.maxInt64] at hword
    rw [hwrap, Word.wrap_of_above (by rw [Word.maxInt64]; omega) (by rw [Word.maxInt64]; omega)]
    omega
  · -- The number wraps to a negative one.
    have hwrap : Word.wrap settings.clockSkew = settings.clockSkew - 18446744073709551616 :=
      Word.wrap_of_above hbeyond (by rw [Word.maxInt64]; omega)
    rw [Word.maxInt64] at hbeyond
    have hword : Word.isInt64 (now + (settings.clockSkew - 18446744073709551616)) = true :=
      Word.isInt64_iff.mpr ⟨by rw [Word.minInt64]; omega, by rw [Word.maxInt64]; omega⟩
    rw [hwrap, Word.wrap_of_isInt64 hword]
    omega

/-! ## 3. Windows of configurations -/

/-- A configuration with another number of seconds by which clocks may differ. -/
def withSkew (c : Configuration) (skew : Nat) : Configuration :=
  { c with nintendo := { c.nintendo with clockSkew := skew } }

/-- **No number of seconds is refused.** -/
theorem validate_withSkew (c : Configuration) (skew : Nat) :
    (withSkew c skew).validate = c.validate := rfl

/-- **The window of a clock.**  Give a configuration any number of seconds of 64 bits; validation
has nothing to say about it.  Under its settings, at a time that is not negative, let a token come to
the check of its times.  If the later end of the window is an integer of 64 bits, then so is the
earlier one, and the times pass exactly if they lie in the window of the integers.  If it is not,
then no token passes that was issued at the time or later, though the window of the integers has a
place for it. -/
theorem clock_window_exact (c : Configuration) {skew : Nat} (hskew : skew ≤ Word.maxNat64)
    (hpast : 0 ≤ now) (hnow : Word.isInt64 now = true) :
    let settings := (withSkew c skew).nintendoSettings
    (withSkew c skew).validate = c.validate ∧
    (now + skew ≤ Word.maxInt64 →
      Word.isInt64 (now + skew) = true ∧ Word.isInt64 (now - skew) = true ∧
      ∀ {appId cache instant token claims},
        Offers settings (keysWithin settings cache instant) token claims →
        (TimesPass (verdict settings appId cache instant token now) ↔
          claims.issued ≤ now + skew ∧ now - skew ≤ claims.expires)) ∧
    (Word.maxInt64 < now + skew →
      Word.isInt64 (now + skew) = false ∧
      ∀ {appId cache instant token claims},
        Offers settings (keysWithin settings cache instant) token claims → now ≤ claims.issued →
        verdict settings appId cache instant token now = .error (.invalidToken .issued)) := by
  intro settings
  refine ⟨validate_withSkew c skew, fun hfits => ?_, fun hover => ?_⟩
  · obtain ⟨hlatest, hearliest⟩ := isInt64_ends settings hpast hfits
    refine ⟨hlatest, hearliest, fun {appId cache instant token claims} hoffers => ?_⟩
    rw [timesPass_iff hoffers, Settings.window_eq hlatest hearliest]
    rfl
  · have hword : Word.isInt64 (now + skew) = false :=
      Bool.eq_false_iff.mpr fun h => absurd (Word.isInt64_iff.mp h).2 (by omega)
    refine ⟨hword, fun {appId cache instant token claims} hoffers hissued => ?_⟩
    have hlost := window_overrun settings hpast hnow hskew hover
    obtain ⟨environment, hverdict⟩ := verdict_of_offers appId now hoffers
    rw [hverdict, if_pos (by omega)]

namespace Example

/-- A configuration with two environments. -/
def operator : Configuration := { nintendo := { environments := hosts.environments } }

theorem offers_ticket (skew : Nat) :
    let settings := (withSkew operator skew).nintendoSettings
    Offers settings (keysWithin settings ticket.serving 0) ticket.text Example.claims := by
  intro settings
  refine ⟨ticket, refers_issue _ _ _, ?_, ?_, ?_⟩
  · exact (by decide : hosts.Publishes keyUrl)
  · have hkeys : keysWithin settings ticket.serving 0 ticket.keyUrl = some ticket.keys :=
      keysWithin_serving (show 5000 ≠ 0 by decide) ticket 0
    rw [hkeys]
    exact attests_issue (Claims.reads_payload isTimed_claims)
  · exact (isNamed_claims.knows : hosts.Knows Example.claims.issuer)

end Example

/-- The same token, ten seconds ahead of the clock and ten seconds behind it: its times pass with a
number of seconds that is just great enough, and no longer with the greatest number of 64 bits. -/
theorem clock_window_exact_greatest :
    let token := Example.ticket.text
    let cache := Example.ticket.serving
    let narrow := (withSkew Example.operator 10).nintendoSettings
    let wide := (withSkew Example.operator Word.maxNat64).nintendoSettings
    Example.operator.validate = .ok () ∧
    Offers wide (keysWithin wide cache 0) token Example.claims ∧
    (1000 : Int) ≤ Example.claims.issued ∧
    Example.claims.issued ≤ 1000 + (Word.maxNat64 : Int) ∧
    1000 - (Word.maxNat64 : Int) ≤ Example.claims.expires ∧
    (withSkew Example.operator Word.maxNat64).validate = .ok () ∧
    verdict wide "00f" cache 0 token 1000 = .error (.invalidToken .issued) ∧
    TimesPass (verdict narrow "00f" cache 0 token 1000) := by
  intro token cache narrow wide
  have hvalid : Example.operator.validate = .ok () := by decide
  have hnow : Word.isInt64 1000 = true := by decide
  obtain ⟨hsame, -, hlost⟩ :=
    clock_window_exact Example.operator (Nat.le_refl Word.maxNat64) (by decide) hnow
  obtain ⟨-, hkept, -⟩ :=
    clock_window_exact Example.operator (show 10 ≤ Word.maxNat64 by decide) (by decide) hnow
  have hrefused : verdict wide "00f" cache 0 token 1000 = .error (.invalidToken .issued) :=
    (hlost (by decide)).2 (Example.offers_ticket Word.maxNat64) (by decide)
  have hpasses : TimesPass (verdict narrow "00f" cache 0 token 1000) :=
    ((hkept (by decide)).2.2 (Example.offers_ticket 10)).mpr ⟨by decide, by decide⟩
  exact ⟨hvalid, Example.offers_ticket _, by decide, by decide, by decide, hsame.trans hvalid,
    hrefused, hpasses⟩

end Nintendo

end LoginGate
