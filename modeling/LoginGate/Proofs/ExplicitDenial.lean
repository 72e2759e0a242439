/-
# When an explicit denial counts

A provider denies a client by a result code other than 0, 1 and 3.  The code is one member of an
object that is decoded as a whole: one other member that cannot be decoded takes the code with it, and
in plain mode a body without a code accepts the client.

This file says which objects are decoded (`isReadable`, `isSome_decoder`), that no rounding turns
another integer into 0, 1 or 3 (`denies_of_integer`), and from both when a denial written into a body
is one (`denial_iff_readable`).
-/
import LoginGate.ProviderResult
import LoginGate.Proofs.Json.Decode
import LoginGate.Proofs.Json.Numeral
import Mathlib

namespace LoginGate.ProviderResult

open Json

/-! ## 1. Readable objects -/

/-- Null, or a string that is well-formed text. -/
def isTextOrNull : Tree → Bool
  | .null => true
  | .string raw => (text? raw).isSome
  | _ => false

/-- Null, or a number in range. -/
def isNumberOrNull : Tree → Bool
  | .null => true
  | .number n => n.number?.isSome
  | _ => false

/-- Whether a member with a name may stand in a result; names that are no field's may hold
anything. -/
def fits (name : String) (t : Tree) : Bool :=
  if name = "ResultCode" then isTextOrNull t || isNumberOrNull t
  else if name ∈ ["UserId", "Nickname", "Message"] then isTextOrNull t
  else if name ∈ ["AuthCookie", "Data"] then (Value.ofTree? (maxDepth - 1) t).isSome
  else if name = "ExpireAt" then isNumberOrNull t
  else true

/-- Whether an object can be read as a result: its names are well-formed text, no field is repeated,
and every member fits. -/
def isReadable (ms : List (List UInt8 × Tree)) : Bool :=
  match Decoder.named ms with
  | none => false
  | some ps =>
    decide (Entries.keys (ps.filter (Decoder.isField fields ·.1))).Nodup &&
      ps.all fun p => fits p.1 p.2

theorem isReadable_iff {ms : List (List UInt8 × Tree)} :
    isReadable ms = true ↔
      ∃ ps, Decoder.named ms = some ps ∧
        (Entries.keys (ps.filter (Decoder.isField fields ·.1))).Nodup ∧
        ∀ p ∈ ps, fits p.1 p.2 = true := by
  rw [isReadable]
  cases Decoder.named ms <;> simp

/-! ## 2. What the decoder accepts -/

theorem isSome_code {t : Tree} :
    (codeDecoder (maxDepth - 1) t).isSome ↔ fits "ResultCode" t = true := by
  cases t <;> simp [codeDecoder, fits, isTextOrNull, isNumberOrNull]

theorem isSome_text {name : String} (hname : name ∈ ["UserId", "Nickname", "Message"]) {t : Tree} :
    (Decoder.optional Decoder.text (maxDepth - 1) t).isSome ↔ fits name t = true := by
  have hfits : fits name t = isTextOrNull t := by
    simp only [List.mem_cons, List.not_mem_nil, or_false] at hname
    rcases hname with rfl | rfl | rfl <;> rfl
  rw [hfits]
  cases t <;> simp [Decoder.optional, Decoder.text, isTextOrNull]

theorem isSome_value {name : String} (hname : name ∈ ["AuthCookie", "Data"]) {t : Tree} :
    (Decoder.optional Decoder.value (maxDepth - 1) t).isSome ↔ fits name t = true := by
  have hfits : fits name t = (Value.ofTree? (maxDepth - 1) t).isSome := by
    simp only [List.mem_cons, List.not_mem_nil, or_false] at hname
    rcases hname with rfl | rfl <;> rfl
  rw [hfits]
  cases t <;> simp [Decoder.optional, Decoder.value, Value.ofTree?]

theorem isSome_number {t : Tree} :
    (Decoder.optional numberDecoder (maxDepth - 1) t).isSome ↔ fits "ExpireAt" t = true := by
  have hfits : fits "ExpireAt" t = isNumberOrNull t := rfl
  rw [hfits]
  cases t <;> simp [Decoder.optional, numberDecoder, isNumberOrNull]

/-- A field's part is what stands under its name. -/
theorem get?_field {ps : List (String × Tree)} {name : String}
    (hf : Decoder.isField fields name = true)
    (hnd : (Entries.keys (ps.filter (Decoder.isField fields ·.1))).Nodup) {t : Tree} :
    Entries.get? name ps = some t ↔ (name, t) ∈ ps := by
  rw [← Entries.get?_filter hf, Entries.get?_eq_some_iff hnd, List.mem_filter]
  exact and_iff_left hf

theorem isField_iff {name : String} :
    Decoder.isField fields name = true ↔
      name = "ResultCode" ∨ name = "UserId" ∨ name = "Nickname" ∨ name = "AuthCookie" ∨
        name = "Data" ∨ name = "Message" ∨ name = "ExpireAt" := by
  simp [Decoder.isField, fields, @eq_comm String _ name]

/-- All members fit when those of the fields do. -/
theorem all_fit_iff {ps : List (String × Tree)} :
    (∀ p ∈ ps, fits p.1 p.2 = true) ↔
      ∀ name, Decoder.isField fields name = true → ∀ t, (name, t) ∈ ps → fits name t = true := by
  constructor
  · intro h name _ t ht
    exact h (name, t) ht
  · rintro h ⟨name, t⟩ ht
    by_cases hf : Decoder.isField fields name = true
    · exact h name hf t ht
    · simp only [isField_iff, not_or] at hf
      simp [fits, hf]

/-- The fields of an object, decoded one by one. -/
theorem decoder_object_eq_some {ms : List (List UInt8 × Tree)} {r : ProviderResult} :
    decoder maxDepth (.object ms) = some r ↔
      ∃ ps, Decoder.named ms = some ps ∧
        (Entries.keys (ps.filter (Decoder.isField fields ·.1))).Nodup ∧
        Decoder.defaulted none codeDecoder (maxDepth - 1) (Entries.get? "ResultCode" ps) =
          some r.resultCode ∧
        Decoder.nullable Decoder.text (maxDepth - 1) (Entries.get? "UserId" ps) = some r.userId ∧
        Decoder.nullable Decoder.text (maxDepth - 1) (Entries.get? "Nickname" ps) =
          some r.nickname ∧
        Decoder.nullable Decoder.value (maxDepth - 1) (Entries.get? "AuthCookie" ps) =
          some r.authCookie ∧
        Decoder.nullable Decoder.value (maxDepth - 1) (Entries.get? "Data" ps) = some r.data ∧
        Decoder.nullable Decoder.text (maxDepth - 1) (Entries.get? "Message" ps) =
          some r.message ∧
        Decoder.nullable numberDecoder (maxDepth - 1) (Entries.get? "ExpireAt" ps) =
          some r.expireAt := by
  rw [decoder]
  constructor
  · intro h
    obtain ⟨out, hout, h⟩ := Option.bind_eq_some_iff.mp h
    obtain ⟨ps, hps, hnd, rfl⟩ := (Decoder.record_object_eq_some (by decide)).mp hout
    simp only [fields, List.map_cons, List.map_nil, Option.bind_eq_bind, Option.bind_eq_some_iff,
      Option.some.injEq] at h
    obtain ⟨code, hcode, userId, huser, nickname, hnick, cookie, hcookie, data, hdata, message,
      hmessage, expire, hexpire, rfl⟩ := h
    exact ⟨ps, hps, hnd, hcode, huser, hnick, hcookie, hdata, hmessage, hexpire⟩
  · rintro ⟨ps, hps, hnd, hcode, huser, hnick, hcookie, hdata, hmessage, hexpire⟩
    refine Option.bind_eq_some_iff.mpr
      ⟨_, (Decoder.record_object_eq_some (by decide)).mpr ⟨ps, hps, hnd, rfl⟩, ?_⟩
    simp only [fields, List.map_cons, List.map_nil, hcode, huser, hnick, hcookie, hdata, hmessage,
      hexpire, Option.bind_eq_bind, Option.bind_some]

/-- One field is decoded when the member under its name fits. -/
theorem isSome_part {α : Type} {item : Decoder (Option α)} {ps : List (String × Tree)}
    {name : String} (hf : Decoder.isField fields name = true)
    (hnd : (Entries.keys (ps.filter (Decoder.isField fields ·.1))).Nodup)
    (hitem : ∀ t, (item (maxDepth - 1) t).isSome ↔ fits name t = true) :
    (Decoder.defaulted none item (maxDepth - 1) (Entries.get? name ps)).isSome ↔
      ∀ t, (name, t) ∈ ps → fits name t = true := by
  rw [Decoder.isSome_defaulted]
  constructor
  · intro h t ht
    exact (hitem t).mp (h t ((get?_field hf hnd).mpr ht))
  · intro h t ht
    exact (hitem t).mpr (h t ((get?_field hf hnd).mp ht))

/-- **Which objects are read as a result.** -/
theorem isSome_decoder {ms : List (List UInt8 × Tree)} :
    (decoder maxDepth (.object ms)).isSome ↔ isReadable ms = true := by
  rw [isReadable_iff]
  constructor
  · intro h
    obtain ⟨r, hr⟩ := Option.isSome_iff_exists.mp h
    obtain ⟨ps, hps, hnd, hcode, huser, hnick, hcookie, hdata, hmessage, hexpire⟩ :=
      decoder_object_eq_some.mp hr
    refine ⟨ps, hps, hnd, all_fit_iff.mpr ?_⟩
    intro name hf
    rcases isField_iff.mp hf with rfl | rfl | rfl | rfl | rfl | rfl | rfl
    · exact (isSome_part hf hnd fun _ => isSome_code).mp (Option.isSome_of_eq_some hcode)
    · exact (isSome_part hf hnd fun _ => isSome_text (by decide)).mp
        (Option.isSome_of_eq_some huser)
    · exact (isSome_part hf hnd fun _ => isSome_text (by decide)).mp
        (Option.isSome_of_eq_some hnick)
    · exact (isSome_part hf hnd fun _ => isSome_value (by decide)).mp
        (Option.isSome_of_eq_some hcookie)
    · exact (isSome_part hf hnd fun _ => isSome_value (by decide)).mp
        (Option.isSome_of_eq_some hdata)
    · exact (isSome_part hf hnd fun _ => isSome_text (by decide)).mp
        (Option.isSome_of_eq_some hmessage)
    · exact (isSome_part hf hnd fun _ => isSome_number).mp (Option.isSome_of_eq_some hexpire)
  · rintro ⟨ps, hps, hnd, hfit⟩
    have hfield := all_fit_iff.mp hfit
    have part {name : String} (hf : Decoder.isField fields name = true) {α : Type}
        {item : Decoder (Option α)}
        (hitem : ∀ t, (item (maxDepth - 1) t).isSome ↔ fits name t = true) :
        ∃ a, Decoder.defaulted none item (maxDepth - 1) (Entries.get? name ps) = some a :=
      Option.isSome_iff_exists.mp ((isSome_part hf hnd hitem).mpr (hfield name hf))
    obtain ⟨resultCode, hcode⟩ := part (by decide) fun _ => isSome_code
    obtain ⟨userId, huser⟩ := @part "UserId" (by decide) _ _ fun _ => isSome_text (by decide)
    obtain ⟨nickname, hnick⟩ := @part "Nickname" (by decide) _ _ fun _ => isSome_text (by decide)
    obtain ⟨authCookie, hcookie⟩ :=
      @part "AuthCookie" (by decide) _ _ fun _ => isSome_value (by decide)
    obtain ⟨data, hdata⟩ := @part "Data" (by decide) _ _ fun _ => isSome_value (by decide)
    obtain ⟨message, hmessage⟩ := @part "Message" (by decide) _ _ fun _ => isSome_text (by decide)
    obtain ⟨expireAt, hexpire⟩ := part (by decide) fun _ => isSome_number
    exact Option.isSome_iff_exists.mpr
      ⟨⟨resultCode, userId, nickname, authCookie, data, message, expireAt⟩,
        decoder_object_eq_some.mpr
          ⟨ps, hps, hnd, hcode, huser, hnick, hcookie, hdata, hmessage, hexpire⟩⟩

/-! ## 3. Integers that deny -/

/-- A code that is none of 0, 1 and 3. -/
def Denies (code : Binary64) : Prop :=
  code.isInteger 0 = false ∧ code.isInteger 1 = false ∧ code.isInteger 3 = false

instance (code : Binary64) : Decidable (Denies code) :=
  inferInstanceAs (Decidable (_ = _ ∧ _ = _ ∧ _ = _))

theorem denies_of_reaches {code : Binary64} {k : ℤ} (hk : 2 ≤ k) (h : code.Reaches k) :
    Denies code := by
  have hfour : (4 : ℚ) ≤ 2 ^ k := by
    calc (4 : ℚ) = 2 ^ (2 : ℤ) := by norm_num
      _ ≤ 2 ^ k := zpow_le_zpow_right₀ one_le_two hk
  refine ⟨?_, ?_, ?_⟩ <;>
  · refine Binary64.isInteger_of_reaches h (lt_of_lt_of_le ?_ hfour)
    norm_num

/-- **No other integer is rounded to 0, 1 or 3.** -/
theorem denies_ofInt {n : ℤ} (h0 : n ≠ 0) (h1 : n ≠ 1) (h3 : n ≠ 3) : Denies (Binary64.ofInt n) := by
  by_cases hn : 4 ≤ n.natAbs
  · refine denies_of_reaches (Int.le_refl 2) ?_
    refine Binary64.ofRatio_reaches _ Nat.one_pos (by decide) ?_
    rw [Nat.cast_one, div_one]
    have hq : (4 : ℚ) ≤ n.natAbs := by exact_mod_cast hn
    exact le_trans (by norm_num) hq
  · have hsmall : n = -3 ∨ n = -2 ∨ n = -1 ∨ n = 2 := by omega
    rcases hsmall with rfl | rfl | rfl | rfl <;> decide

theorem denies_neg_ofNat {n : ℕ} (h0 : n ≠ 0) : Denies (Binary64.ofNat n).neg := by
  by_cases hn : 4 ≤ n
  · exact denies_of_reaches (Int.le_refl 2) (Binary64.neg_reaches (reaches_ofNat hn))
  · have hsmall : n = 1 ∨ n = 2 ∨ n = 3 := by omega
    rcases hsmall with rfl | rfl | rfl <;> decide

/-- An integer other than 0, 1 and 3 denies as it is read, however many digits it has. -/
theorem denies_of_integer {n : Numeral} {x : Number} (hn : n.isInteger = true) (hd : n.IsDecimal)
    (h0 : n.toInt ≠ 0) (h1 : n.toInt ≠ 1) (h3 : n.toInt ≠ 3) (hx : n.number? = some x) :
    Denies (toBinary64 x) := by
  rcases number?_integer hn hd hx with rfl | ⟨hneg, rfl⟩ | ⟨y, rfl, hy⟩
  · exact denies_ofInt h0 h1 h3
  · refine denies_neg_ofNat ?_
    intro hzero
    rw [Numeral.toInt, if_pos hneg, hzero] at h0
    exact h0 rfl
  · exact denies_of_reaches (by decide) hy

/-! ## 4. Bodies -/

theorem interpret_of_denies {r : ProviderResult} {code : Binary64} (h : Denies code)
    (userId : String) :
    r.interpret code userId =
      .failed .customAuthenticationFailed (r.message.getD "Custom authentication failed") := by
  obtain ⟨h0, h1, h3⟩ := h
  simp [interpret, h0, h1, h3]

/-- The code of a decoded object is the number under its name. -/
theorem resultCode_of_decoder {ms : List (List UInt8 × Tree)} {r : ProviderResult}
    {raw : List UInt8} {n : Numeral} (h : decoder maxDepth (.object ms) = some r)
    (hmem : (raw, .number n) ∈ ms) (hraw : text? raw = some "ResultCode") :
    ∃ x, n.number? = some x ∧ r.resultCode = some (toBinary64 x) := by
  obtain ⟨ps, hps, hnd, hcode, -⟩ := decoder_object_eq_some.mp h
  rw [(get?_field (by decide) hnd).mpr (Decoder.mem_named hps hmem hraw)] at hcode
  obtain ⟨x, hx, hr⟩ := Option.map_eq_some_iff.mp hcode
  exact ⟨x, hx, hr.symm⟩

/-- A text with a brace is not blank. -/
theorem not_blank_of_brace {body : List UInt8} (h : 0x7B ∈ body) :
    body.all Text.isAsciiBlank = false := by
  rw [List.all_eq_false]
  exact ⟨0x7B, h, by decide⟩

/-- A body with a code that denies, if it can be read at all: where structured results are expected it
denies in any case, in plain mode when the object that holds it is readable. -/
theorem ofBody_of_denies {body : List UInt8} {ms : List (List UInt8 × Tree)} {raw : List UInt8}
    {n : Numeral} (hbody : Tree.ofBytes? body = some (.object ms)) (hmem : (raw, .number n) ∈ ms)
    (hraw : text? raw = some "ResultCode") (hn : ∀ x, n.number? = some x → Denies (toBinary64 x))
    (forwardAsJson : Bool) (userId : String) :
    (forwardAsJson = true ∨ isReadable ms = true → ∃ message,
      Outcome.ofBody body forwardAsJson userId = .failed .customAuthenticationFailed message) ∧
    (forwardAsJson = false → isReadable ms = false →
      Outcome.ofBody body forwardAsJson userId = .accept userId) := by
  have hblank := not_blank_of_brace (Tree.ofBytes?_object hbody).1
  have hdecode : decodeBytes? decoder body = decoder maxDepth (.object ms) := by
    rw [decodeBytes?, hbody, Option.bind_some]
  rw [Outcome.ofBody, hblank, if_neg Bool.false_ne_true, hdecode]
  cases hr : decoder maxDepth (.object ms) with
  | some r =>
    obtain ⟨x, hx, hcode⟩ := resultCode_of_decoder hr hmem hraw
    have hreadable : isReadable ms = true := isSome_decoder.mp (Option.isSome_of_eq_some hr)
    simp only [Option.bind_some, hcode, interpret_of_denies (hn x hx)]
    refine ⟨fun _ => ⟨_, rfl⟩, fun _ hno => ?_⟩
    rw [hreadable] at hno
    exact absurd hno (by decide)
  | none =>
    have hunreadable : isReadable ms = false := by
      rw [← Bool.not_eq_true, ← isSome_decoder, hr]
      decide
    cases forwardAsJson with
    | true => exact ⟨fun _ => ⟨_, rfl⟩, fun hno => absurd hno (by decide)⟩
    | false =>
      refine ⟨fun h => ?_, fun _ _ => rfl⟩
      rw [hunreadable] at h
      exact absurd h (by decide)

/-- **When an explicit denial counts.**  A body is an object with an integer other than 0, 1 and 3 as
its result code, whatever else it holds.  Where structured results are expected it denies the client
in any case; in plain mode it does so exactly when the whole object is readable, and otherwise it
accepts the client. -/
theorem denial_iff_readable {body : List UInt8} {ms : List (List UInt8 × Tree)} {raw : List UInt8}
    {n : Numeral} (hbody : Tree.ofBytes? body = some (.object ms)) (hmem : (raw, .number n) ∈ ms)
    (hraw : text? raw = some "ResultCode") (hn : n.isInteger = true) (h0 : n.toInt ≠ 0)
    (h1 : n.toInt ≠ 1) (h3 : n.toInt ≠ 3) (forwardAsJson : Bool) (userId : String) :
    ((∃ message, Outcome.ofBody body forwardAsJson userId =
        .failed .customAuthenticationFailed message) ↔
      forwardAsJson = true ∨ isReadable ms = true) ∧
    (forwardAsJson = false → isReadable ms = false →
      Outcome.ofBody body forwardAsJson userId = .accept userId) := by
  have hdecimal := (Tree.ofBytes?_object hbody).2 raw n hmem
  obtain ⟨hdenied, haccepted⟩ := ofBody_of_denies hbody hmem hraw
    (fun x hx => denies_of_integer hn hdecimal h0 h1 h3 hx) forwardAsJson userId
  refine ⟨⟨?_, hdenied⟩, haccepted⟩
  rintro ⟨message, h⟩
  by_contra hno
  rw [not_or, Bool.not_eq_true, Bool.not_eq_true] at hno
  rw [haccepted hno.1 hno.2] at h
  simp [Outcome.accept] at h

namespace Example

/-- A denial alone. -/
def denial : List UInt8 := Text.Utf8.bytes "\x7b\"ResultCode\":2\x7d"

/-- A denial beside a user id that is no text. -/
def spoiledDenial : List UInt8 := Text.Utf8.bytes "\x7b\"ResultCode\":2,\"UserId\":5\x7d"

/-- A small number as it stands in a body. -/
def numeral (digit : Nat) : Numeral := ⟨false, [digit], [], none⟩

/-- Members as they stand in a body, with plain names. -/
def spelled (members : List (String × Tree)) : List (List UInt8 × Tree) :=
  members.map fun m => (Text.Utf8.bytes m.1, m.2)

end Example

theorem denial_iff_readable_spoiled :
    (∃ message, Outcome.ofBody Example.denial false "client" =
      .failed .customAuthenticationFailed message) ∧
    (∃ message, Outcome.ofBody Example.spoiledDenial true "client" =
      .failed .customAuthenticationFailed message) ∧
    Outcome.ofBody Example.spoiledDenial false "client" = .accept "client" := by
  have halone : Tree.ofBytes? Example.denial =
      some (.object [(Text.Utf8.bytes "ResultCode", .number (Example.numeral 2))]) := by cbv
  have hspoiled : Tree.ofBytes? Example.spoiledDenial =
      some (.object [(Text.Utf8.bytes "ResultCode", .number (Example.numeral 2)),
        (Text.Utf8.bytes "UserId", .number (Example.numeral 5))]) := by cbv
  have hname : text? (Text.Utf8.bytes "ResultCode") = some "ResultCode" := by cbv
  refine ⟨?_, ?_, ?_⟩
  · exact (denial_iff_readable halone List.mem_cons_self hname rfl (by decide) (by decide)
      (by decide) false "client").1.mpr (.inr (by cbv))
  · exact (denial_iff_readable hspoiled List.mem_cons_self hname rfl (by decide) (by decide)
      (by decide) true "client").1.mpr (.inl rfl)
  · exact (denial_iff_readable hspoiled List.mem_cons_self hname rfl (by decide) (by decide)
      (by decide) false "client").2 rfl (by cbv)

end LoginGate.ProviderResult
