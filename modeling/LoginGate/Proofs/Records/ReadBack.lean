/-
# Records are read back

Requests, providers and the outcomes that sessions come to survive their own records
(`records_read_back`).  What a session says of a player is proper, wherever it comes from: a sealed
token and a provider's body yield no cookies but objects, and of the times, the ones of tokens are
read as integers of 64 bits and the others are brought into their range.
-/
import LoginGate.Proofs.Dispatch.Batches
import LoginGate.Proofs.Dispatch.Calls
import LoginGate.Proofs.Dispatch.FailClosed
import LoginGate.Proofs.Json.Numeral
import LoginGate.Proofs.Records.Outcomes
import LoginGate.Proofs.Records.Requests
import LoginGate.Proofs.Token.Acceptance

namespace LoginGate

open Json

/-! ## 1. What accepts a player -/

theorem Player.isProper_bare (userId : String) : Player.IsProper { userId } :=
  ⟨fun _ h => (nomatch h), fun _ h => (nomatch h)⟩

theorem Outcome.isProper_of_accepted {o : Outcome} (h : ∀ p, o = .accepted p → p.IsProper) :
    o.IsProper := by
  cases o with
  | accepted p => exact h p rfl
  | _ => trivial

theorem TokenClaims.isObject_of_cookieValue {claims : TokenClaims} :
    ∀ v ∈ claims.cookieValue, v.isObject = true := fun _ h =>
  (Option.filter_eq_some_iff.mp h).2

namespace ProviderResult

/-- A number that was read makes a time in range. -/
theorem isInt64_toSeconds {n : Numeral} {x : Json.Number} (h : n.number? = some x) :
    Word.isInt64 (toSeconds x) = true := by
  have htruncated : ∀ y : Binary64,
      Word.isInt64 (y.truncateTo Word.minInt64 Word.maxInt64) = true := fun y =>
    Word.isInt64_iff.mpr (Binary64.truncateTo_bounds (by decide) (by decide) y)
  cases x with
  | integer i =>
    rw [toSeconds]
    split
    · rename_i hle
      exact Word.isInt64_iff.mpr ⟨minInt64_le_of_number? h, hle⟩
    · exact htruncated _
  | float y => exact htruncated y

theorem isInt64_expireAt {depth : Nat} {t : Tree} {r : ProviderResult}
    (h : decoder depth t = some r) : ∀ x ∈ r.expireAt, Word.isInt64 (toSeconds x) = true := by
  rw [decoder] at h
  obtain ⟨⟨d, parts⟩, -, h⟩ := Option.bind_eq_some_iff.mp h
  dsimp only at h
  split at h
  · simp only [Option.bind_eq_bind, Option.bind_eq_some_iff, Option.some.injEq] at h
    obtain ⟨code, -, userId, -, nickname, -, cookie, -, data, -, message, -, expireAt, hexpireAt,
      rfl⟩ := h
    rintro x rfl
    obtain ⟨t, ht⟩ := Decoder.exists_of_nullable hexpireAt
    rw [numberDecoder.eq_def] at ht
    split at ht
    · exact isInt64_toSeconds ht
    · cases ht
  · cases h

theorem isProper_interpret {r : ProviderResult}
    (h : ∀ x ∈ r.expireAt, Word.isInt64 (toSeconds x) = true) (code : Binary64) (userId : String) :
    (r.interpret code userId).IsProper := by
  rw [interpret]
  split
  · refine ⟨fun v hv => (Option.filter_eq_some_iff.mp hv).2, fun n hn => ?_⟩
    obtain ⟨x, hx, rfl⟩ := Option.map_eq_some_iff.mp hn
    exact h x hx
  · split
    · trivial
    · split <;> trivial

end ProviderResult

theorem Outcome.isProper_ofBody (body : List UInt8) (forwardAsJson : Bool) (userId : String) :
    (ofBody body forwardAsJson userId).IsProper := by
  rw [ofBody]
  split
  · exact Player.isProper_bare userId
  · dsimp only
    split
    · rename_i r code hr _
      obtain ⟨t, -, ht⟩ := Option.bind_eq_some_iff.mp hr
      exact ProviderResult.isProper_interpret (ProviderResult.isInt64_expireAt ht) code userId
    · split
      · trivial
      · exact Player.isProper_bare userId

/-! ## 2. What a session comes to -/

namespace Verdict

theorem isProper_ofSealedToken (ring : KeyRing) (token : String) (expected : Option String)
    (now : Int) : (ofSealedToken (ring.verify token expected now)).outcome.IsProper := by
  refine Outcome.isProper_of_accepted fun p hp => ?_
  obtain ⟨claims, hverify, rfl⟩ := of_sealedToken_accepted hp
  obtain ⟨payload, -, hread, -⟩ := (KeyRing.verify_eq_ok_iff.mp hverify).1.carried
  obtain ⟨t, -, ht⟩ := Option.bind_eq_some_iff.mp hread
  refine ⟨TokenClaims.isObject_of_cookieValue, fun n hn => ?_⟩
  cases hn
  exact TokenClaims.isInt64_expires ht

theorem isProper_ofIdentity (result : Except Nintendo.Rejection Nintendo.Identity) :
    (ofIdentity result).outcome.IsProper := by
  refine Outcome.isProper_of_accepted fun p hp => ?_
  obtain ⟨identity, -, rfl⟩ := of_identity_accepted hp
  exact Player.isProper_bare identity.userId

theorem isProper_ofAnswer (provider : Provider) (userId : String) (a : Answer) :
    (ofAnswer provider userId a).outcome.IsProper := by
  refine Outcome.isProper_of_accepted fun p hp => ?_
  obtain ⟨-, hbody⟩ | ⟨-, -, rfl⟩ := of_answer_accepted hp
  · have hproper := Outcome.isProper_ofBody a.body provider.forwardAsJson userId
    rw [hbody] at hproper
    exact hproper
  · exact Player.isProper_bare userId

end Verdict

namespace Plan

variable {backend : Backend} {settings : AuthSettings} {unix : Int} {before : Session}
  {after : Timeline} {r : Request}

theorem isProper_console (appId : String) :
    ((console appId r).verdict backend unix before after r).outcome.IsProper := by
  obtain ⟨token, -, hplan⟩ | ⟨kind, message, hplan⟩ := console_cases appId r
  · rw [hplan]
    exact Verdict.isProper_ofIdentity _
  · rw [hplan]
    trivial

theorem isProper_sealedToken (ring : KeyRing) :
    ((sealedToken ring settings unix r).verdict backend unix before after
      r).outcome.IsProper := by
  obtain ⟨token, -, hplan⟩ | ⟨verdict, hdenied, hplan⟩ := sealedToken_cases ring settings unix r
  · rw [hplan]
    exact Verdict.isProper_ofSealedToken ring token _ unix
  · rw [hplan]
    refine Outcome.isProper_of_accepted fun p hp => ?_
    rw [show verdict.outcome = .accepted p from hp] at hdenied
    cases hdenied

theorem isProper_http (provider : Provider) (queue : Nat) :
    ((http provider queue r).verdict backend unix before after r).outcome.IsProper := by
  obtain ⟨merged, query, -, hplan⟩ | ⟨kind, message, hplan⟩ := http_cases provider queue r
  · rw [hplan, verdict]
    split
    · exact Verdict.isProper_ofAnswer provider r.userId _
    · trivial
  · rw [hplan]
    trivial

theorem isProper_ofRequest (registry : Registry) :
    ((ofRequest registry settings unix r).verdict backend unix before after
      r).outcome.IsProper := by
  cases hget : registry.get? r.authType with
  | none =>
    rw [ofRequest, hget]
    dsimp only
    split
    · exact Player.isProper_bare r.userId
    · trivial
  | some e =>
    by_cases hbypassed : r.IsBypassed settings
    · rw [ofRequest_of_bypassed hget hbypassed]
      exact Player.isProper_bare r.userId
    · rw [ofRequest_of_not_bypassed hget hbypassed, checked]
      split
      · exact isProper_console _
      · exact isProper_sealedToken _
      · exact isProper_http _ _

end Plan

/-- **Sessions come to proper outcomes only.** -/
theorem Session.isProper_of_mem_outcomes {s : Session} {backend : Backend}
    {settings : AuthSettings} {unix : Int} {requests : List Request} {o : Outcome}
    (h : o ∈ (s.authenticate backend settings unix requests).2.outcomes) : o.IsProper := by
  obtain ⟨r, -, before, after, rfl⟩ := of_mem_outcomes h
  exact Plan.isProper_ofRequest s.registry

/-! ## 3. Records -/

/-- **Records are read back.**  From the text of its record a provider is read back, and so are a
request and a proper outcome, whose JSON values have no numbers but integers of 64 bits, as long as
these values leave the reader room for the record around them: two levels in a request, one level in
an outcome.  Where they nest deeper nothing is read, so no record is taken for another.  And all
outcomes that a session comes to are proper. -/
theorem records_read_back :
    (∀ p : Provider, decode? Provider.decoder p.toJson.render = some p) ∧
    (∀ r : Request, (∀ v ∈ r.values, v.IsPlain) →
      decode? Request.decoder r.toJson.render =
        if ∀ v ∈ r.values, v.isExact (maxDepth - 2) = true then some r else none) ∧
    (∀ o : Outcome, o.IsProper → (∀ v ∈ o.values, v.IsPlain) →
      decode? Outcome.decoder o.toJson.render =
        if ∀ v ∈ o.values, v.isExact (maxDepth - 1) = true then some o else none) ∧
    (∀ (s : Session) (backend : Backend) (settings : AuthSettings) (unix : Int)
      (requests : List Request),
      ∀ o ∈ (s.authenticate backend settings unix requests).2.outcomes, o.IsProper) :=
  ⟨Provider.decode?_toJson, fun _ => Request.decode?_toJson, fun _ => Outcome.decode?_toJson,
    fun _ _ _ _ _ _ => Session.isProper_of_mem_outcomes⟩

namespace Example

/-- A value that nests to a depth, with extreme integers and signs that are escaped. -/
def tower : Nat → Value
  | 0 => Value.int Word.minInt64
  | n + 1 => .object [("\"\x00", tower n), ("\u00e9", Value.int Word.maxNat64)]

theorem isExact_tower (depth n : Nat) : (tower n).isExact depth = decide (n ≤ depth) := by
  induction n generalizing depth with
  | zero => rfl
  | succ n ih =>
    have hint : (Value.int Word.maxNat64).isExact (depth - 1) = true := rfl
    have hnd : (Entries.keys [("\"\x00", tower n), ("\u00e9", Value.int Word.maxNat64)]).Nodup := by
      simp [Entries.keys]
    rw [tower, Value.isExact, membersExact, membersExact, membersExact, ih, hint,
      decide_eq_true hnd]
    cases depth <;> simp

theorem isPlain_tower (n : Nat) : (tower n).IsPlain :=
  ⟨n, (isExact_tower n n).trans (decide_eq_true (Nat.le_refl n))⟩

/-- A request with such a value. -/
def nestedRequest (n : Nat) : Request :=
  { userId := "Zo\u00eb", authType := .custom, params := some "?a=%26"
    data := some (.other (tower n)) }

/-- A player with such a value as the cookie. -/
def nestedOutcome (n : Nat) : Outcome :=
  .accepted
    { userId := "\\", nickname := some "\x08", authCookie := some (tower n)
      expireAt := some Word.maxInt64 }

theorem isProper_nestedOutcome (n : Nat) : (nestedOutcome (n + 1)).IsProper := by
  refine ⟨fun v hv => ?_, fun t ht => ?_⟩
  · cases hv
    rfl
  · cases ht
    rfl

end Example

/-- What comes of one client's request, and a request and a player with the deepest values that are
read back, and with values that nest one level deeper. -/
theorem records_read_back_nested :
    Outcome.accept "eve" ∈ (Session.Example.session.authenticate Session.Example.backend
        Session.Example.settings 0 [Session.Example.eve]).2.outcomes ∧
      decode? Outcome.decoder (Outcome.accept "eve").toJson.render = some (.accept "eve") ∧
      decode? Request.decoder (Example.nestedRequest 125).toJson.render =
        some (Example.nestedRequest 125) ∧
      decode? Request.decoder (Example.nestedRequest 126).toJson.render = none ∧
      decode? Outcome.decoder (Example.nestedOutcome 126).toJson.render =
        some (Example.nestedOutcome 126) ∧
      decode? Outcome.decoder (Example.nestedOutcome 127).toJson.render = none := by
  obtain ⟨-, hrequest, houtcome, hsession⟩ := records_read_back
  have heve : Outcome.accept "eve" ∈ (Session.Example.session.authenticate Session.Example.backend
      Session.Example.settings 0 [Session.Example.eve]).2.outcomes := List.mem_singleton.mpr rfl
  have hnone : ∀ v ∈ (Outcome.accept "eve").values, v.IsPlain := fun v hv => nomatch hv
  have hplain : ∀ n, ∀ v ∈ [Example.tower n], v.IsPlain := fun n =>
    List.forall_mem_singleton.mpr (Example.isPlain_tower n)
  have hfits : ∀ depth n, (∀ v ∈ [Example.tower n], v.isExact depth = true) ↔ n ≤ depth := by
    intro depth n
    rw [List.forall_mem_singleton, Example.isExact_tower, decide_eq_true_eq]
  refine ⟨heve, ?_, ?_, ?_, ?_, ?_⟩
  · exact (houtcome _ (hsession _ _ _ _ _ _ heve) hnone).trans (if_pos fun v hv => nomatch hv)
  · exact (hrequest (Example.nestedRequest 125) (hplain 125)).trans
      (if_pos ((hfits _ _).mpr (by decide)))
  · exact (hrequest (Example.nestedRequest 126) (hplain 126)).trans
      (if_neg (mt (hfits _ _).mp (by decide)))
  · exact (houtcome _ (Example.isProper_nestedOutcome 125) (hplain 126)).trans
      (if_pos ((hfits _ _).mpr (by decide)))
  · exact (houtcome _ (Example.isProper_nestedOutcome 126) (hplain 127)).trans
      (if_neg (mt (hfits _ _).mp (by decide)))

end LoginGate
