/-
# The table of results

A result object that keeps to the types of its fields means what a table says of its integers and
texts (`Statement.outcome`), where structured results are expected and elsewhere (`ofBody_of_stated`).
The table knows nothing of rounding: codes are compared as binary64 numbers, and an expiry above the
signed range goes through one, but neither shows in the outcome (`isInteger_of_rounded`,
`toSeconds_integer`).

Text and values have limits of their own.  An object with half of a surrogate pair in a name or a
text, or with a number beyond binary64 in a value, is no result at all, whatever its code says
(`beyond_limits_no_result`).
-/
import LoginGate.Proofs.Decimal
import LoginGate.Proofs.ExplicitDenial
import LoginGate.Proofs.Json.RoundTrip

namespace LoginGate.ProviderResult

open Json
open Binary64 (IntegerText Rounded)

/-! ## 1. The table -/

/-- What a result object states. -/
structure Statement where
  code : Int
  userId : Option String := none
  nickname : Option String := none
  authCookie : Option Value := none
  data : Option Value := none
  message : Option String := none
  /-- Unix seconds. -/
  expireAt : Option Int := none

/-- What a statement means for a client that calls itself by a user id. -/
def Statement.outcome (s : Statement) (userId : String) : Outcome :=
  match s.code with
  | 1 =>
    .accepted
      { userId := if s.userId.getD "" = "" then userId else s.userId.getD ""
        nickname := s.nickname
        authCookie := s.authCookie.filter Value.isObject
        expireAt := s.expireAt.map (min · Word.maxInt64) }
  | 0 => .incomplete (s.data.getD .null)
  | 3 => .parameterInvalid (s.message.getD "Invalid authentication parameters")
  | _ => .failed .customAuthenticationFailed (s.message.getD "Custom authentication failed")

/-! ## 2. Objects that make a statement -/

/-- A text. -/
inductive IsText : Tree → String → Prop
  | string {raw : List UInt8} {s : String} (h : text? raw = some s) : IsText (.string raw) s

/-- An integer of 64 bits, with a sign or without. -/
inductive IsWord : Tree → Int → Prop
  | number {n : Numeral} (hn : n.isInteger = true) (h : (Number.integer n.toInt).isWord = true) :
    IsWord (.number n) n.toInt

/-- A code: an integer of 64 bits, or a text that holds an integer between blanks. -/
inductive IsCode : Tree → Int → Prop
  | number {t : Tree} {i : Int} (h : IsWord t i) : IsCode t i
  | string {raw : List UInt8} {s : String} {i : Int} (hs : text? raw = some s)
    (hi : IntegerText (Text.trim s).toList i) : IsCode (.string raw) i

/-- A value within the limit of nesting. -/
def IsValue (t : Tree) (v : Value) : Prop := Value.ofTree? (maxDepth - 1) t = some v

/-- A member that is missing or null states nothing, and any other what it is. -/
inductive States {α : Type} (Is : Tree → α → Prop) : Option Tree → Option α → Prop
  | missing : States Is none none
  | null : States Is (some .null) none
  | value {t : Tree} {a : α} (hne : t ≠ .null) (h : Is t a) : States Is (some t) (some a)

/-- A statement is made by the members of an object under their names; members with other names may
hold anything. -/
structure Statement.MadeBy (s : Statement) (ps : List (String × Tree)) : Prop where
  code : ∃ t, Entries.get? "ResultCode" ps = some t ∧ IsCode t s.code
  userId : States IsText (Entries.get? "UserId" ps) s.userId
  nickname : States IsText (Entries.get? "Nickname" ps) s.nickname
  authCookie : States IsValue (Entries.get? "AuthCookie" ps) s.authCookie
  data : States IsValue (Entries.get? "Data" ps) s.data
  message : States IsText (Entries.get? "Message" ps) s.message
  expireAt : States IsWord (Entries.get? "ExpireAt" ps) s.expireAt

/-! ## 3. Numbers -/

theorem rounded_of_isWord {n : Numeral} (hn : n.isInteger = true)
    (h : (Number.integer n.toInt).isWord = true) :
    ∃ x, n.number? = some x ∧ Rounded n.toInt (toBinary64 x) := by
  refine ⟨_, number?_of_isWord hn h, ?_⟩
  split
  · rename_i hzero
    rw [hzero.2]
    exact .negativeZero
  · exact .nearest n.toInt

/-- **No rounding confuses the codes of the table** with each other or with any other integer. -/
theorem isInteger_of_rounded {i : Int} {x : Binary64} (h : Rounded i x) {k : Int}
    (hk : k = 0 ∨ k = 1 ∨ k = 3) : x.isInteger k = decide (i = k) := by
  cases h with
  | negativeZero => exact Binary64.isInteger_zero true k
  | nearest i =>
    by_cases hlisted : i = 0 ∨ i = 1 ∨ i = 3
    · rcases hlisted with rfl | hlisted
      · exact Binary64.isInteger_zero false k
      · rcases hlisted with rfl | rfl <;> rcases hk with rfl | rfl | rfl <;> decide
    · simp only [not_or] at hlisted
      obtain ⟨h0, h1, h3⟩ := denies_ofInt hlisted.1 hlisted.2.1 hlisted.2.2
      rcases hk with rfl | rfl | rfl
      · rw [h0, decide_eq_false hlisted.1]
      · rw [h1, decide_eq_false hlisted.2.1]
      · rw [h3, decide_eq_false hlisted.2.2]

/-- **Seconds are capped** at the greatest integer of the signed range. -/
theorem toSeconds_integer (n : Int) : toSeconds (.integer n) = min n Word.maxInt64 := by
  rw [toSeconds]
  split
  · rename_i hle
    exact (min_eq_left hle).symm
  · rename_i hgt
    have hreaches : (Binary64.ofInt n).Reaches (63 : Nat) := by
      refine Binary64.ofRatio_reaches _ Nat.one_pos (by decide) ?_
      rw [Nat.cast_one, div_one]
      have habs : 2 ^ 63 ≤ n.natAbs := by
        rw [Word.maxInt64] at hgt
        omega
      exact_mod_cast habs
    have hpositive : (Binary64.ofInt n).isNegative = false := by
      rw [Binary64.ofInt, Binary64.isNegative_ofRatio, decide_eq_false_iff_not]
      rw [Word.maxInt64] at hgt
      omega
    rw [Binary64.truncateTo_of_reaches hpositive hreaches (by decide) (by norm_num [Word.maxInt64]),
      min_eq_right (Int.le_of_not_le hgt)]

theorem toSeconds_zero (negative : Bool) : toSeconds (.float (Binary64.zero negative)) = 0 :=
  Binary64.truncateTo_zero (by decide) (by decide) negative

/-! ## 4. Fields -/

theorem codeDecoder_of_isCode {depth : Nat} {t : Tree} {i : Int} (h : IsCode t i) :
    ∃ x, codeDecoder depth t = some (some x) ∧ Rounded i x := by
  cases h with
  | number h =>
    obtain ⟨hn, hw⟩ := h
    obtain ⟨x, hx, hround⟩ := rounded_of_isWord hn hw
    exact ⟨toBinary64 x, by rw [codeDecoder, hx, Option.map_some], hround⟩
  | string hs hi =>
    obtain ⟨x, hx, hround⟩ := Binary64.parse?_of_integerText hi
    exact ⟨x, by rw [codeDecoder, hs, Option.map_some, hx], hround⟩

/-- A member that states what the decoder reads in it. -/
theorem nullable_of_states {α : Type} {Is : Tree → α → Prop} {item : Decoder α} {depth : Nat}
    (hitem : ∀ t a, Is t a → item depth t = some a) {part : Option Tree} {a : Option α}
    (h : States Is part a) : Decoder.nullable item depth part = some a := by
  cases h with
  | missing => rfl
  | null => rfl
  | value hne h =>
    rw [Decoder.nullable, Decoder.defaulted, Decoder.optional.eq_2 _ _ _ hne, hitem _ _ h,
      Option.map_some]

theorem text_of_isText {depth : Nat} {t : Tree} {s : String} (h : IsText t s) :
    Decoder.text depth t = some s := by
  obtain ⟨h⟩ := h
  exact h

theorem seconds_of_states {depth : Nat} {part : Option Tree} {a : Option Int}
    (h : States IsWord part a) :
    ∃ x, Decoder.nullable numberDecoder depth part = some x ∧
      x.map toSeconds = a.map (min · Word.maxInt64) := by
  cases h with
  | missing => exact ⟨none, rfl, rfl⟩
  | null => exact ⟨none, rfl, rfl⟩
  | value hne h =>
    obtain ⟨hn, hw⟩ := h
    have hread := number?_of_isWord hn hw
    refine ⟨_, by rw [Decoder.nullable, Decoder.defaulted, Decoder.optional.eq_2 _ _ _ hne,
      numberDecoder, hread, Option.map_some], ?_⟩
    rw [Option.map_some, Option.map_some]
    split
    · rename_i hzero
      rw [toSeconds_zero, hzero.2]
      rfl
    · rw [toSeconds_integer]

/-! ## 5. Bodies -/

/-- A decoded result with a code means what the table says of the same fields. -/
theorem interpret_eq_outcome {r : ProviderResult} {s : Statement} {code : Binary64}
    (hcode : Rounded s.code code) (huser : r.userId = s.userId) (hnick : r.nickname = s.nickname)
    (hcookie : r.authCookie = s.authCookie) (hdata : r.data = s.data)
    (hmessage : r.message = s.message)
    (hexpire : r.expireAt.map toSeconds = s.expireAt.map (min · Word.maxInt64)) (userId : String) :
    r.interpret code userId = s.outcome userId := by
  have hone := isInteger_of_rounded hcode (.inr (.inl rfl))
  have hzero := isInteger_of_rounded hcode (.inl rfl)
  have hthree := isInteger_of_rounded hcode (.inr (.inr rfl))
  have huserId : (s.userId.filter (· ≠ "")).getD userId =
      if s.userId.getD "" = "" then userId else s.userId.getD "" := by
    cases s.userId with
    | none => rfl
    | some id =>
      by_cases hid : id = ""
      · subst hid
        rfl
      · simp [hid, Option.filter]
  rw [interpret, hone, hzero, hthree, huser, hnick, hcookie, hdata, hmessage, hexpire, huserId,
    Statement.outcome]
  by_cases h1 : s.code = 1
  · simp [h1]
  by_cases h0 : s.code = 0
  · simp [h0]
  by_cases h3 : s.code = 3
  · simp [h3]
  · simp [h1, h0, h3]

/-- **The table holds in both modes.**  A body is an object whose names are well-formed text and
distinct, and its members make a statement.  Then it means what the table says of that statement, in
either mode and whatever else the object holds. -/
theorem ofBody_of_stated {body : List UInt8} {ms : List (List UInt8 × Tree)}
    {ps : List (String × Tree)} {s : Statement} (hbody : Tree.ofBytes? body = some (.object ms))
    (hnames : Decoder.named ms = some ps) (hdistinct : (Entries.keys ps).Nodup) (hs : s.MadeBy ps)
    (forwardAsJson : Bool) (userId : String) :
    Outcome.ofBody body forwardAsJson userId = s.outcome userId := by
  obtain ⟨t, ht, hcode⟩ := hs.code
  obtain ⟨code, hread, hrounded⟩ := @codeDecoder_of_isCode (maxDepth - 1) _ _ hcode
  obtain ⟨expireAt, hexpire, hseconds⟩ := seconds_of_states hs.expireAt
  have hfields : (Entries.keys (ps.filter (Decoder.isField fields ·.1))).Nodup :=
    hdistinct.sublist (List.filter_sublist.map _)
  have hdecoded : decoder maxDepth (.object ms) =
      some ⟨some code, s.userId, s.nickname, s.authCookie, s.data, s.message, expireAt⟩ := by
    have htext := fun t s => @text_of_isText (maxDepth - 1) t s
    refine decoder_object_eq_some.mpr ⟨ps, hnames, hfields, ?_, nullable_of_states htext hs.userId,
      nullable_of_states htext hs.nickname, nullable_of_states (fun _ _ h => h) hs.authCookie,
      nullable_of_states (fun _ _ h => h) hs.data, nullable_of_states htext hs.message, hexpire⟩
    rw [ht]
    exact hread
  rw [Outcome.ofBody, not_blank_of_brace (Tree.ofBytes?_object hbody).1, if_neg Bool.false_ne_true,
    decodeBytes?, hbody, Option.bind_some, hdecoded]
  exact interpret_eq_outcome hrounded rfl rfl rfl rfl rfl hseconds userId

namespace Example

/-- A number beyond binary64. -/
def huge : Numeral := ⟨false, [1], [], some (false, [9, 9, 9])⟩

theorem number?_huge : huge.number? = none := by
  have hscale := @scale?_beyond 1 999 (by decide) (by decide)
  simp [huge, Numeral.number?, takeSignificant, Binary64.digitsValue, maxExponentDigits, hscale,
    Word.maxNat64]

/-- A result whose code is a text with a sign and a zero in front, with an expiry beyond the signed
range, and with a member of another name that holds a number beyond all bounds. -/
def verbose : List UInt8 := Text.Utf8.bytes
  ("\x7b\"Trace\":[1e999],\"ExpireAt\":18446744073709551615,\"UserId\":\"\",\"AuthCookie\":\x7b\x7d," ++
    "\"Message\":null,\"ResultCode\":\" +01 \"\x7d")

/-- Its members. -/
def verboseMembers : List (String × Tree) :=
  [("Trace", .array [.number huge]), ("ExpireAt", .number (Numeral.ofInt Word.maxNat64)),
    ("UserId", .string []), ("AuthCookie", .object []), ("Message", .null),
    ("ResultCode", .string (Text.Utf8.bytes " +01 "))]

/-- What they state. -/
def statement : Statement :=
  { code := 1, userId := some "", authCookie := some (.object []), expireAt := some Word.maxNat64 }

/-- A code that accepts beside data with such a number. -/
def overflowing : List UInt8 := Text.Utf8.bytes "\x7b\"ResultCode\":1,\"Data\":1e999\x7d"

/-- Its members. -/
def overflowingMembers : List (String × Tree) :=
  [("ResultCode", .number (numeral 1)), ("Data", .number huge)]

/-- A code that accepts beside a text that is half of a surrogate pair. -/
def halfPair : List UInt8 :=
  Text.Utf8.bytes "\x7b\"ResultCode\":1,\"UserId\":\"\\ud800\"\x7d"

/-- A code that accepts beside such a name. -/
def halfPairName : List UInt8 := Text.Utf8.bytes "\x7b\"ResultCode\":1,\"\\ud800\":0\x7d"

end Example

theorem ofBody_of_stated_verbose :
    (∃ ms, Tree.ofBytes? Example.verbose = some (.object ms) ∧
      Decoder.named ms = some Example.verboseMembers) ∧
    (Entries.keys Example.verboseMembers).Nodup ∧
    Example.statement.MadeBy Example.verboseMembers ∧
    ∀ forwardAsJson, Outcome.ofBody Example.verbose forwardAsJson "client" =
      .accepted
        { userId := "client", authCookie := some (.object []), expireAt := some Word.maxInt64 } := by
  have hbody : Tree.ofBytes? Example.verbose =
      some (.object (Example.spelled Example.verboseMembers)) := by cbv
  have hnames : Decoder.named (Example.spelled Example.verboseMembers) =
      some Example.verboseMembers := by cbv
  have hdistinct : (Entries.keys Example.verboseMembers).Nodup := by decide
  have hcode : IntegerText (Text.trim " +01 ").toList 1 := by
    have htrim : (Text.trim " +01 ").toList = '+' :: [0, 1].map Nat.digitChar := by cbv
    rw [htrim]
    exact .plus (by decide) (by decide)
  have hexpire : IsWord (.number (Numeral.ofInt Word.maxNat64)) Word.maxNat64 := by
    have hword := @IsWord.number (Numeral.ofInt Word.maxNat64) rfl (by rw [toInt_ofInt]; decide)
    rwa [toInt_ofInt] at hword
  have hmade : Example.statement.MadeBy Example.verboseMembers :=
    { code := ⟨_, rfl, .string (s := " +01 ") (by cbv) hcode⟩
      userId := .value (fun h => Tree.noConfusion h) (.string (by cbv))
      nickname := .missing
      authCookie := .value (fun h => Tree.noConfusion h) (by cbv)
      data := .missing
      message := .null
      expireAt := .value (fun h => Tree.noConfusion h) hexpire }
  exact ⟨⟨_, hbody, hnames⟩, hdistinct, hmade,
    fun forwardAsJson => ofBody_of_stated hbody hnames hdistinct hmade forwardAsJson "client"⟩

/-- An object that cannot be read denies the client where structured results are expected, and accepts
it elsewhere. -/
theorem ofBody_of_unreadable {body : List UInt8} {ms : List (List UInt8 × Tree)}
    (hbody : Tree.ofBytes? body = some (.object ms)) (hms : isReadable ms = false)
    (forwardAsJson : Bool) (userId : String) :
    Outcome.ofBody body forwardAsJson userId =
      if forwardAsJson then
        .failed .customAuthenticationFailed "Invalid response from authentication provider"
      else .accept userId := by
  have hdecoded : decoder maxDepth (.object ms) = none := by
    rw [← Option.not_isSome_iff_eq_none, isSome_decoder, hms]
    decide
  rw [Outcome.ofBody, not_blank_of_brace (Tree.ofBytes?_object hbody).1, if_neg Bool.false_ne_true,
    decodeBytes?, hbody, Option.bind_some, hdecoded]

/-- **What is beyond the limits of text and values is no result**: such an object is denied where
structured results are expected and accepts the client elsewhere, though its code is in the table. -/
theorem beyond_limits_no_result :
    (∃ ms, Tree.ofBytes? Example.overflowing = some (.object ms) ∧
      Decoder.named ms = some Example.overflowingMembers) ∧
    (∃ t, Entries.get? "ResultCode" Example.overflowingMembers = some t ∧ IsCode t 1) ∧
    ∀ body ∈ [Example.overflowing, Example.halfPair, Example.halfPairName], ∀ forwardAsJson,
      Outcome.ofBody body forwardAsJson "client" =
        if forwardAsJson then
          .failed .customAuthenticationFailed "Invalid response from authentication provider"
        else .accept "client" := by
  have hbody : Tree.ofBytes? Example.overflowing =
      some (.object (Example.spelled Example.overflowingMembers)) := by cbv
  have hnames : Decoder.named (Example.spelled Example.overflowingMembers) =
      some Example.overflowingMembers := by cbv
  have hunreadable : isReadable (Example.spelled Example.overflowingMembers) = false := by
    rw [isReadable, hnames]
    simp [Example.overflowingMembers, fits, Value.ofTree?, Example.number?_huge]
  have hpair : Tree.ofBytes? Example.halfPair = some (.object
      [(Text.Utf8.bytes "ResultCode", .number (Example.numeral 1)),
        (Text.Utf8.bytes "UserId", .string (Text.Utf8.bytes "\\ud800"))]) := by cbv
  have hname : Tree.ofBytes? Example.halfPairName = some (.object
      [(Text.Utf8.bytes "ResultCode", .number (Example.numeral 1)),
        (Text.Utf8.bytes "\\ud800", .number (Example.numeral 0))]) := by cbv
  have hunnamed : Decoder.named
      [(Text.Utf8.bytes "ResultCode", .number (Example.numeral 1)),
        (Text.Utf8.bytes "\\ud800", .number (Example.numeral 0))] = none := by cbv
  refine ⟨⟨_, hbody, hnames⟩, ⟨_, rfl, .number (.number rfl (by decide))⟩, ?_⟩
  simp only [List.mem_cons, List.not_mem_nil, or_false]
  rintro body (rfl | rfl | rfl) forwardAsJson
  · exact ofBody_of_unreadable hbody hunreadable forwardAsJson "client"
  · exact ofBody_of_unreadable hpair (by cbv) forwardAsJson "client"
  · exact ofBody_of_unreadable hname (by rw [isReadable, hunnamed]) forwardAsJson "client"

end LoginGate.ProviderResult
