/-
# A fallback behind the primary set

Opening a token searches the sets of a ring twice: for the first one whose tag fits, which decrypts,
and for the first one that has signed what was decrypted.  A search that finds something in a list
finds the same in a longer list that begins with it.  So sets that are put behind those of a ring
matter only to a token for which one of the two searches found nothing (`openToken_of_begins`).

With that, a fallback leaves every verdict on claims as it is, be it that they are accepted, that
they have ended or that they are for another application (`settled_with_fallback`); and it may change
no other verdicts than that no tag fits and that no signature does.  Whether the two sets have
components in common does not matter.
-/
import LoginGate.Proofs.Token.RoundTrip

namespace LoginGate.KeyRing

variable {ring more : KeyRing} {token : String} {expected : Option String} {now : Int}

/-! ## 1. More sets behind those of a ring -/

/-- What a set of the ring has signed is found before any set behind it is tried. -/
theorem signedClaims?_of_begins (h : ring.sets <+: more.sets) {text : List Char}
    {claims : TokenClaims} (hclaims : ring.signedClaims? text = some claims) :
    more.signedClaims? text = some claims := by
  rw [signedClaims?] at hclaims ⊢
  obtain ⟨compact, hcompact, hfound⟩ := Option.bind_eq_some_iff.mp hclaims
  exact Option.bind_eq_some_iff.mpr ⟨compact, hcompact, h.findSome?_eq_some hfound⟩

/-- **More sets matter only where the ring finds none**: none whose tag fits, or none that has signed
what the first such set decrypts. -/
theorem openToken_of_begins (h : ring.sets <+: more.sets) (token : String) :
    more.openToken token = ring.openToken token ∨
      ring.openToken token = .error (.invalid .tag) ∨
      ring.openToken token = .error (.invalid .signature) := by
  rw [openToken, openToken]
  cases hparse : Envelope.parse token with
  | error r => exact .inl rfl
  | ok e =>
    dsimp only [bind, Except.bind]
    cases hfind : ring.sets.find? (·.fits e) with
    | none => exact .inr (.inl rfl)
    | some keys =>
      rw [h.find?_eq_some hfind]
      dsimp only
      cases Text.Utf8.decode? (keys.decrypt e) with
      | none => exact .inl rfl
      | some text =>
        dsimp only
        cases hclaims : ring.signedClaims? text with
        | none => exact .inr (.inr rfl)
        | some claims =>
          rw [signedClaims?_of_begins h hclaims]
          exact .inl rfl

theorem verify_of_openToken_eq (h : more.openToken token = ring.openToken token) :
    more.verify token expected now = ring.verify token expected now := by
  rw [verify, verify, h]

theorem verify_of_openToken_error {r : TokenRejection} (h : ring.openToken token = .error r) :
    ring.verify token expected now = .error r := by
  rw [verify, h]
  rfl

theorem verify_of_begins (h : ring.sets <+: more.sets) (token : String) (expected : Option String)
    (now : Int) :
    more.verify token expected now = ring.verify token expected now ∨
      ring.verify token expected now = .error (.invalid .tag) ∨
      ring.verify token expected now = .error (.invalid .signature) := by
  rcases openToken_of_begins h token with hsame | htag | hsignature
  · exact .inl (verify_of_openToken_eq hsame)
  · exact .inr (.inl (verify_of_openToken_error htag))
  · exact .inr (.inr (verify_of_openToken_error hsignature))

/-! ## 2. A fallback -/

/-- **A settled verdict** is one on claims: they are accepted, they have ended, or they are for
another application than the one that is expected. -/
inductive IsSettled : Except TokenRejection TokenClaims → Prop
  | accepted (claims : TokenClaims) : IsSettled (.ok claims)
  | ended : IsSettled (.error .expired)
  | elsewhere : IsSettled (.error (.invalid .appId))

/-- **A fallback changes no settled verdict.**  What the primary set alone says of claims, it says
with any fallback behind it.  And where a fallback does make a difference, the primary set found
nothing: no tag fits, or no signature does. -/
theorem settled_with_fallback (primary fallback : KeySet) (token : String)
    (expected : Option String) (now : Int) :
    (∀ verdict, IsSettled verdict → verify { primary } token expected now = verdict →
      verify { primary, fallback := some fallback } token expected now = verdict) ∧
    (verify { primary, fallback := some fallback } token expected now ≠
        verify { primary } token expected now →
      verify { primary } token expected now = .error (.invalid .tag) ∨
        verify { primary } token expected now = .error (.invalid .signature)) := by
  have hbegins : sets { primary } <+: sets { primary, fallback := some fallback } :=
    ⟨[fallback], rfl⟩
  have hverdict := verify_of_begins hbegins token expected now
  constructor
  · rintro verdict hsettled rfl
    rcases hverdict with hsame | htag | hsignature
    · exact hsame
    · rw [htag] at hsettled
      cases hsettled
    · rw [hsignature] at hsettled
      cases hsettled
  · exact hverdict.resolve_left

namespace Example

/-- A set with the tag and the encryption of the ring of one secret, but another signature. -/
def cosigner : KeySet := { keys.primary with signatureKey := KeySet.derive "cosigner" }

/-- The claims of a guest, sealed with the primary set. -/
def sealedGuest : String := keys.sealClaims (List.replicate 16 255) guest

theorem opens_sealedGuest : keys.openToken sealedGuest = .ok guest := by
  have hvouches : keys.Vouches sealedGuest none guest :=
    vouches_sealClaims keys (by decide) isTimed_guest fun _ h => nomatch h
  exact (vouches_iff.mp hvouches).1

end Example

/-- One token, with all three verdicts on its claims. -/
theorem settled_with_fallback_cosigner :
    let both : KeyRing := { Example.keys with fallback := some Example.cosigner }
    IsSettled (.ok Example.guest) ∧
      Example.keys.verify Example.sealedGuest (some "a") 1800000000 = .ok Example.guest ∧
      both.verify Example.sealedGuest (some "a") 1800000000 = .ok Example.guest ∧
      both.verify Example.sealedGuest (some "a") 1800000001 = .error .expired ∧
      both.verify Example.sealedGuest (some "b") 1800000001 = .error (.invalid .appId) := by
  intro both
  have hverdict := settled_with_fallback Example.keys.primary Example.cosigner Example.sealedGuest
  have haccepted : Example.keys.verify Example.sealedGuest (some "a") 1800000000 =
      .ok Example.guest := verify_of_opens Example.opens_sealedGuest
  have hended : Example.keys.verify Example.sealedGuest (some "a") 1800000001 = .error .expired :=
    verify_of_opens Example.opens_sealedGuest
  have helsewhere : Example.keys.verify Example.sealedGuest (some "b") 1800000001 =
      .error (.invalid .appId) := verify_of_opens Example.opens_sealedGuest
  exact ⟨.accepted _, haccepted, (hverdict _ _).1 _ (.accepted _) haccepted,
    (hverdict _ _).1 _ .ended hended, (hverdict _ _).1 _ .elsewhere helsewhere⟩

end LoginGate.KeyRing
