/-
# Tokens that an environment issues

Claims are written as a record and read back from it, whatever other members stand beside them
(`Claims.decodeBytes?_payload`).  A token with such a payload, signed with a key that is published
where the token says, passes all checks but those of its claims; so it proves the identity that the
claims admit (`proves_issue`).
-/
import LoginGate.Proofs.Certificates.Course
import LoginGate.Proofs.Nintendo.Checks
import LoginGate.Proofs.WebToken.Header

namespace LoginGate.Nintendo

open Json
open Text (Utf8.encode)
open WebToken (Presents Reads published ownKey)

/-! ## 1. The record of claims -/

namespace Claims

variable {claims : Claims} {others : Members}

/-- The times are integers of 64 bits. -/
structure IsTimed (claims : Claims) : Prop where
  issued : Word.isInt64 claims.issued = true
  expires : Word.isInt64 claims.expires = true

/-- The claim about the application. -/
def applicationValue : Option String → Value
  | none => .null
  | some id => .object [("ai", .string id)]

/-- The members of the record. -/
def members (claims : Claims) : Members :=
  [("iss", .string claims.issuer), ("sub", .string claims.subject),
    ("iat", Value.int claims.issued), ("exp", Value.int claims.expires),
    ("nintendo", applicationValue claims.applicationId)]

/-- The bytes of the record, with other members behind the claims. -/
def payload (claims : Claims) (others : Members) : List UInt8 :=
  Utf8.encode (Value.object (claims.members ++ others)).write

/-- Other members can stand in a record: they have names of their own, and exact values. -/
structure Allows (claims : Claims) (others : Members) : Prop where
  names : (Entries.keys (claims.members ++ others)).Nodup
  values : membersExact 1 others = true

theorem allows_nil (claims : Claims) : claims.Allows [] := by
  refine ⟨?_, rfl⟩
  rw [List.append_nil, show Entries.keys claims.members = ["iss", "sub", "iat", "exp", "nintendo"]
    from rfl]
  decide

theorem isExact_record (htimed : claims.IsTimed) (hothers : claims.Allows others) :
    (Value.object (claims.members ++ others)).isExact 2 = true := by
  have happ : (applicationValue claims.applicationId).isExact 1 = true := by
    cases claims.applicationId with
    | none => rfl
    | some id => rfl
  have hmembers : membersExact 1 claims.members = true := by
    simp [members, membersExact, Value.isExact, isExact_int htimed.issued,
      isExact_int htimed.expires, happ]
  rw [Value.isExact, membersExact_append, show 2 - 1 = 1 from rfl, hmembers, hothers.values]
  simp [hothers.names]

theorem applicationDecoder_tree {depth : Nat} (hd : depth ≠ 0) (id : String) :
    applicationDecoder depth (Value.tree (.object [("ai", .string id)])) = some (some id) := by
  have hnd : (Entries.keys [("ai", Value.string id)]).Nodup := by simp [Entries.keys]
  rw [applicationDecoder, record_tree _ hd hnd]
  exact nullable_text_tree (depth - 1) (some id)

theorem nullable_application {depth : Nat} (hd : depth ≠ 0) (application : Option String) :
    (Decoder.nullable applicationDecoder depth (some (applicationValue application).tree)).map
      Option.join = some application := by
  cases application with
  | none => rfl
  | some id =>
    have h := applicationDecoder_tree hd id
    rw [Value.tree] at h
    simp [applicationValue, Value.tree, Decoder.nullable, Decoder.defaulted, Decoder.optional, h]

/-- **Claims are read back** from their record. -/
theorem decodeBytes?_payload (htimed : claims.IsTimed) (hothers : claims.Allows others) :
    decodeBytes? decoder (claims.payload others) = some claims := by
  have hparts : (recordFields.map fun f =>
      (Entries.get? f.name (claims.members ++ others)).map Value.tree) =
      [some (Value.tree (.string claims.issuer)), some (Value.tree (.string claims.subject)),
        some (Value.int claims.issued).tree, some (Value.int claims.expires).tree,
        some (applicationValue claims.applicationId).tree] := by
    simp [recordFields, members, Entries.get?]
  have happ := nullable_application (show maxDepth - 1 ≠ 0 by decide) claims.applicationId
  obtain ⟨application, hread, hjoin⟩ := Option.map_eq_some_iff.mp happ
  rw [payload, decodeBytes?_write decoder (isExact_record htimed hothers), decoder,
    record_tree recordFields (by decide) hothers.names, hparts]
  simp only [Option.bind_eq_bind, Option.bind_some, Decoder.required, text_tree,
    int64_tree _ htimed.issued, int64_tree _ htimed.expires, hread, hjoin]

/-- The record of claims alone reads as registered claims: its texts and times can be passed over. -/
theorem registered_payload (htimed : claims.IsTimed) :
    decodeBytes? WebToken.registeredDecoder (claims.payload []) = some () := by
  have hothers := claims.allows_nil
  have htext (s : String) : WebToken.isLooseText (Value.string s).tree = true :=
    isPassableText_escaped s
  have hissuer (s : String) (depth : Nat) : (Value.string s).tree.isPassable depth = true :=
    isPassableText_escaped s
  have htime (n : Int) : WebToken.isLooseTime (Value.int n).tree = true := rfl
  rw [payload, decodeBytes?_write _ (isExact_record htimed hothers), WebToken.registeredDecoder,
    record_tree _ (by decide) hothers.names]
  simp [members, Entries.get?, htext, hissuer, htime]

theorem reads_payload (htimed : claims.IsTimed) : Reads decoder (claims.payload []) claims :=
  ⟨decodeBytes?_payload htimed claims.allows_nil, registered_payload htimed⟩

end Claims

/-! ## 2. Signed tokens -/

/-- A token with a payload, signed for a key with an id that is published under a URL. -/
def issue (keyUrl keyId : String) (payload : List UInt8) : SignedToken :=
  { token := published (Utf8.encode (WebToken.Header.publishedKey keyUrl keyId).write) payload
    keyUrl, keyId }

/-- The text of a token. -/
def SignedToken.text (t : SignedToken) : String := String.ofList t.token.write

/-- The keys with which a token verifies. -/
def SignedToken.keys (t : SignedToken) : Certificates.Keys := [(t.keyId, ownKey t.token)]

variable {settings : Settings} {appId keyUrl keyId : String} {payload : List UInt8}
  {claims : Claims} {identity : Identity} {earliest latest : Int}

theorem refers_issue (keyUrl keyId : String) (payload : List UInt8) :
    Refers (issue keyUrl keyId payload).text (issue keyUrl keyId payload) := by
  refine ⟨{ algorithm := .rs256, keyUrl := some keyUrl, keyId := some keyId }, ?_, rfl, rfl, rfl⟩
  rw [SignedToken.text, String.toList_ofList]
  exact WebToken.presents_published (WebToken.Header.decodeBytes?_publishedKey keyUrl keyId) payload

theorem signs_issue (keyUrl keyId : String) (payload : List UInt8) :
    WebToken.Signs (ownKey (issue keyUrl keyId payload).token) (issue keyUrl keyId payload).token :=
  WebToken.signs_published _ payload

theorem get?_keys (t : SignedToken) : Entries.get? t.keyId t.keys = some (ownKey t.token) := by
  rw [SignedToken.keys, Entries.get?, if_pos rfl]

theorem attests_issue (hreads : Reads Claims.decoder payload claims) :
    Attests (some (issue keyUrl keyId payload).keys) (issue keyUrl keyId payload) claims :=
  ⟨⟨_, _, rfl, get?_keys _, signs_issue keyUrl keyId payload⟩,
    (WebToken.states_published_iff _).mpr hreads⟩

/-- A payload that is no set of registered claims fails like a wrong signature. -/
theorem keyFault_issue (h : decodeBytes? WebToken.registeredDecoder payload = none) :
    KeyFault (some (issue keyUrl keyId payload).keys) (issue keyUrl keyId payload)
      (.invalidToken .signature) := by
  refine .signature rfl (get?_keys _) (Or.inr fun claims hstates => ?_)
  have hregistered := ((WebToken.states_published_iff _).mp hstates).2
  rw [h] at hregistered
  cases hregistered

/-! ## 3. A key server -/

/-- A cache that was never asked, with one server, which answers at once with the keys of a token. -/
def SignedToken.serving (t : SignedToken) : Certificates.Cache :=
  { interval := Certificates.Interval.ofNat 300000
    endpoints := [(t.keyUrl, { script := [{ keys := some t.keys }] })] }

/-- The first fetch brings the keys, if there is any time to wait for it. -/
theorem keysWithin_serving (htimeout : settings.retrievalTimeout ≠ 0) (t : SignedToken)
    (instant : Nat) : keysWithin settings t.serving instant t.keyUrl = some t.keys := by
  have hendpoint : t.serving.endpoint t.keyUrl = { script := [{ keys := some t.keys }] } := by
    simp [SignedToken.serving, Certificates.Cache.endpoint, Entries.get?]
  rw [keysWithin, Certificates.Cache.keysFor, hendpoint, Certificates.Cache.answerOf]
  simp only [Option.getD_none, Certificates.Refresh.start, if_neg htimeout]
  -- The fetch starts at once, its end is at the same instant, and the next tick is a later one.
  rw [Certificates.Refresh.await]
  simp only [Certificates.Refresh.next, max_self, le_add_iff_nonneg_right, zero_le, ↓reduceDIte,
    Certificates.Refresh.step, Certificates.nextFetch, add_zero]
  rw [Certificates.Refresh.await]
  simp only [Certificates.Refresh.next, le_add_iff_nonneg_right, zero_le, ↓reduceDIte,
    Certificates.Refresh.step, Option.some_or]
  have hlater := Certificates.Refresh.lt_followingTick t.serving.interval (Nat.le_refl instant)
  rw [Certificates.Refresh.advance_of_lt_next _ _ (lt_max_of_lt_left hlater)]
  rfl

/-- **An issued token proves** what its claims admit, with the keys of a server that publishes its
key below an environment's base URL. -/
theorem proves_issue (htimeout : settings.retrievalTimeout ≠ 0)
    (hplace : settings.Publishes keyUrl) (hreads : Reads Claims.decoder payload claims)
    (hadmits : Admits settings appId earliest latest claims identity) (keyId : String)
    (instant : Nat) :
    let t := issue keyUrl keyId payload
    Proves settings appId earliest latest (keysWithin settings t.serving instant) t.text
      identity := by
  intro t
  refine ⟨t, claims, refers_issue keyUrl keyId payload, hplace, ?_, hadmits⟩
  rw [keysWithin_serving htimeout]
  exact attests_issue hreads

/-! ## 4. Tokens for any subject -/

/-- Claims that are always in time, for an application. -/
def timeless (issuer subject appId : String) : Claims :=
  { issuer, subject, issued := Word.minInt64, expires := Word.maxInt64
    applicationId := some (" " ++ appId) }

theorem isTimed_timeless (issuer subject appId : String) :
    (timeless issuer subject appId).IsTimed := ⟨rfl, rfl⟩

theorem admits_timeless {issuer environment : String} (hnamed : settings.IsNamed issuer environment)
    (subject appId : String) (now : Int) :
    Admits settings appId (settings.window now).1 (settings.window now).2
      (timeless issuer subject appId) ⟨subject, environment⟩ := by
  have hearliest := Word.isInt64_iff.mp (Word.isInt64_wrap (now - Word.wrap settings.clockSkew))
  have hlatest := Word.isInt64_iff.mp (Word.isInt64_wrap (now + Word.wrap settings.clockSkew))
  refine ⟨hnamed, hlatest.1, hearliest.2, ⟨_, rfl, ?_, ?_⟩, rfl⟩
  · intro hempty
    have hchars := congrArg String.toList hempty
    simp at hchars
  · -- The blank in front is trimmed, and makes the id of an empty application one that is stated.
    rw [bareAppId, bareAppId, String.toList_append]
    rfl

/-- A token for a subject, which ends never. -/
def passport (keyUrl issuer subject appId : String) : SignedToken :=
  issue keyUrl "k1" ((timeless issuer subject appId).payload [])

/-- **Any key, any issuer, any subject**: with a key that is published below any base URL, a token
can be signed for any subject at any issuer that names an environment, and it is accepted. -/
theorem verdict_passport (horder : settings.InKeyOrder) (htimeout : settings.retrievalTimeout ≠ 0)
    {issuer environment : String} (hplace : settings.Publishes keyUrl)
    (hnamed : settings.IsNamed issuer environment) (subject appId : String) (instant : Nat)
    (now : Int) :
    let t := passport keyUrl issuer subject appId
    verdict settings appId t.serving instant t.text now = .ok ⟨subject, environment⟩ :=
  verdict_of_proves horder <|
    proves_issue htimeout hplace (Claims.reads_payload (isTimed_timeless issuer subject appId))
      (admits_timeless hnamed subject appId now) "k1" instant

end LoginGate.Nintendo
