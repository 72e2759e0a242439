/-
# The record of claims is read back

Claims whose times are integers of 64 bits are read back from the bytes of their record
(`decodeBytes?_toJson`), which reads as registered claims too (`registered_toJson`).
-/
import LoginGate.Proofs.Json.Records
import LoginGate.Token.Claims
import LoginGate.WebToken.Compact

namespace LoginGate

open Json
open Text (Utf8.encode)

namespace TokenClaims

variable {claims : TokenClaims}

/-- The times are integers of 64 bits. -/
structure IsTimed (claims : TokenClaims) : Prop where
  expires : Word.isInt64 claims.expires = true
  issued : Word.isInt64 claims.issued = true
  notBefore : ∀ n ∈ claims.notBefore, Word.isInt64 n = true

/-! ## 1. The members -/

/-- The members of the record. -/
def members (claims : TokenClaims) : Members :=
  [("appid", .string claims.appId), ("userid", .string claims.userId)] ++
    optionalMember "nickname" (claims.nickname.map .string) ++
    optionalMember "authcookie" (claims.authCookie.map .string) ++
    [("exp", Value.int claims.expires), ("iat", Value.int claims.issued)] ++
    optionalMember "nbf" (claims.notBefore.map Value.int)

theorem toJson_eq (claims : TokenClaims) : claims.toJson = .object claims.members := rfl

theorem nodup_keys_members (claims : TokenClaims) : (Entries.keys claims.members).Nodup := by
  obtain ⟨appId, userId, nickname, authCookie, expires, issued, notBefore⟩ := claims
  cases nickname <;> cases authCookie <;> cases notBefore <;>
    simp [members, optionalMember, Entries.keys]

theorem membersExact_optionalMember {name : String} {depth : Nat} {value : Option Value}
    (h : ∀ v ∈ value, v.isExact depth = true) :
    membersExact depth (optionalMember name value) = true := by
  cases value with
  | none => rfl
  | some v =>
    have hv := h v rfl
    simp [optionalMember, membersExact, hv]

/-- The record is an exact value, so it is read back from its text. -/
theorem isExact_toJson (h : claims.IsTimed) : claims.toJson.isExact 1 = true := by
  have htexts : ∀ o : Option String, ∀ v ∈ o.map Value.string, v.isExact 0 = true := by
    intro o v hv
    obtain ⟨s, -, rfl⟩ := Option.map_eq_some_iff.mp hv
    rfl
  have hstart : ∀ v ∈ claims.notBefore.map Value.int, v.isExact 0 = true := by
    intro v hv
    obtain ⟨n, hn, rfl⟩ := Option.map_eq_some_iff.mp hv
    exact isExact_int (h.notBefore n hn) 0
  rw [toJson_eq, Value.isExact, Bool.and_eq_true, Bool.and_eq_true]
  refine ⟨⟨rfl, decide_eq_true (nodup_keys_members claims)⟩, ?_⟩
  simp [members, membersExact_append, membersExact, membersExact_optionalMember (htexts _),
    membersExact_optionalMember hstart, isExact_int h.expires, isExact_int h.issued, Value.isExact]

/-! ## 2. The claims -/

/-- The parts of the record under the names of its fields. -/
theorem parts_eq (claims : TokenClaims) :
    (recordFields.map fun f => (Entries.get? f.name claims.members).map Value.tree) =
      [some (Value.tree (.string claims.appId)), some (Value.tree (.string claims.userId)),
        (claims.nickname.map Value.string).map Value.tree,
        (claims.authCookie.map Value.string).map Value.tree,
        some (Value.int claims.expires).tree, some (Value.int claims.issued).tree,
        (claims.notBefore.map Value.int).map Value.tree] := by
  obtain ⟨appId, userId, nickname, authCookie, expires, issued, notBefore⟩ := claims
  cases nickname <;> cases authCookie <;> cases notBefore <;>
    simp [recordFields, members, optionalMember, Entries.get?]

/-- What an object holds besides the record does not matter to the claims that are read from it. -/
theorem decoder_tree (h : claims.IsTimed) {depth : Nat} (hd : depth ≠ 0) {ms : Members}
    (hnd : (Entries.keys ms).Nodup)
    (hms : ∀ f ∈ recordFields, Entries.get? f.name ms = Entries.get? f.name claims.members) :
    decoder depth (Value.tree (.object ms)) = some claims := by
  have hparts : (recordFields.map fun f => (Entries.get? f.name ms).map Value.tree) =
      recordFields.map fun f => (Entries.get? f.name claims.members).map Value.tree := by
    refine List.map_congr_left ?_
    intro f hf
    rw [hms f hf]
  rw [decoder, record_tree recordFields hd hnd, hparts, parts_eq]
  simp only [Option.bind_eq_bind, Option.bind_some, Decoder.required, text_tree,
    nullable_text_tree, int64_tree _ h.expires, int64_tree _ h.issued,
    nullable_int64_tree _ h.notBefore]

/-- **Claims are read back from the bytes of their record.** -/
theorem decodeBytes?_toJson (h : claims.IsTimed) :
    decodeBytes? decoder (Utf8.encode claims.toJson.write) = some claims := by
  rw [decodeBytes?_write decoder (isExact_toJson h), toJson_eq]
  exact decoder_tree h (by decide) (nodup_keys_members claims) fun _ _ => rfl

/-- Claims that were read end at an integer of 64 bits. -/
theorem isInt64_expires {depth : Nat} {t : Tree} (h : decoder depth t = some claims) :
    Word.isInt64 claims.expires = true := by
  rw [decoder] at h
  obtain ⟨⟨d, parts⟩, -, h⟩ := Option.bind_eq_some_iff.mp h
  dsimp only at h
  split at h
  · simp only [Option.bind_eq_bind, Option.bind_eq_some_iff, Option.some.injEq] at h
    obtain ⟨appId, -, userId, -, nickname, -, cookie, -, expires, hexpires, issued, -, notBefore, -,
      rfl⟩ := h
    obtain ⟨t, -, ht⟩ := Option.bind_eq_some_iff.mp hexpires
    exact Decoder.isInt64_of_int64 ht
  · cases h

/-- The record reads as registered claims: its times are numbers, and it has no other of them. -/
theorem registered_toJson (h : claims.IsTimed) :
    decodeBytes? WebToken.registeredDecoder (Utf8.encode claims.toJson.write) = some () := by
  have hparts : (["exp", "nbf", "sub", "iss", "aud"].map fun name =>
      (Entries.get? name claims.members).map Value.tree) =
      [some (Value.int claims.expires).tree, (claims.notBefore.map Value.int).map Value.tree, none,
        none, none] := by
    obtain ⟨appId, userId, nickname, authCookie, expires, issued, notBefore⟩ := claims
    cases nickname <;> cases authCookie <;> cases notBefore <;>
      simp [members, optionalMember, Entries.get?]
  have hloose : ∀ n : Int, WebToken.isLooseTime (Value.int n).tree = true := fun _ => rfl
  rw [decodeBytes?_write _ (isExact_toJson h), WebToken.registeredDecoder,
    toJson_eq, record_tree _ (by decide) (nodup_keys_members claims)]
  simp only [List.map_cons, List.map_nil, List.cons.injEq] at hparts
  obtain ⟨hexp, hnbf, hsub, hiss, haud, -⟩ := hparts
  simp only [List.map_cons, List.map_nil, hexp, hnbf, hsub, hiss, haud]
  cases claims.notBefore <;> simp [hloose]

end TokenClaims

end LoginGate
